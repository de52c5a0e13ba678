import IMessageBridge.Tokens

/-!
# `login_email_pass`

The GSA login: an SRP init exchange, the proof exchange, then the decrypted SPD
installed in the account. The call is cut where it writes the account:

* `username` is written first, before any step that can fail (line 598);
* `initExchange`: the anisette data, the request headers, the init reply with its
  `check_error`, and the salt, server ephemeral, iterations and cookie (lines 600–647);
* `hashed_password` is written next (line 649);
* `proveExchange`: the SRP verifier, the complete reply with its `check_error`, the
  server's proof and the decrypted SPD with the final `Status` (lines 652–714);
* `adoptSpd`: the token map of the SPD's `t` dictionary when it is one, then the
  account name and the SPD (lines 716–742).

`loginEmailPass_run` states this once. From it: an `Err` leaves the SPD and the token
map as they were but has written the username, and the hashed password once the init
exchange passed (`loginEmailPass_error`); an `Ok` has installed the SPD, and the token
map is the SPD's when its `t` is a dictionary and the old one otherwise
(`loginEmailPass_eq_ok`).
-/

namespace IMessageBridge

/-- What one `login_email_pass` call receives from outside the account: the SRP secret
it draws, the anisette data, the round trips of its init and complete requests, and the
clock `SystemTime::now()` reads. -/
structure LoginExchange where
  ephemeral : Bytes
  anisette : Except Error AnisetteData
  initReply : Except Error HttpResponse
  completeReply : Except Error HttpResponse
  now : SystemTime

/-- The fields of the init answer the proof needs. -/
structure InitAnswer where
  salt : Bytes
  serverPublic : Bytes
  iterations : Int
  cookie : String
  protocol : String

/-- What the account keeps of the complete answer: the decrypted SPD and the `Status`. -/
structure CompleteAnswer where
  spd : Dictionary
  status : Dictionary

/-- From the anisette fetch to the init answer's fields. -/
def initExchange (plist : PlistCodec) (exchange : LoginExchange) :
    Except (Fault Error) InitAnswer := do
  let validAnisette ← Fault.ofResult exchange.anisette
  let _ ← Fault.ofPanic
    (headerPairs (clientRs 608) (clientRs 608) validAnisette.gsServiceHeaders)
  let response ← parseResponse plist exchange.initReply
  checkError response
  let salt ← Fault.ofPanic
    (expectAt (clientRs 644) unwrapNone ((response.get "s").bind Value.asData))
  let serverPublic ← Fault.ofPanic
    (expectAt (clientRs 645) unwrapNone ((response.get "B").bind Value.asData))
  let iterations ← Fault.ofPanic
    (expectAt (clientRs 646) unwrapNone ((response.get "i").bind Value.asSignedInteger))
  let cookie ← Fault.ofPanic
    (expectAt (clientRs 647) unwrapNone ((response.get "c").bind Value.asString))
  pure ⟨salt, serverPublic, iterations, cookie,
    ((response.get "sp").bind Value.asString).getD "s2k"⟩

/-- The password SRP derives its key from: the SHA-256 of the password (`s2k`), or its
lowercase hex (`s2k_fo`). -/
def passwordForSrp (protocol : String) (hashedPassword : Bytes) : Bytes :=
  if protocol = "s2k_fo" then asBytes (encodeHex hashedPassword) else hashedPassword

/-- `AppleAccount::create_session_key`. -/
def createSessionKey (crypto : Primitives) (verifier : crypto.Verifier) (name : String) :
    Bytes :=
  crypto.hmacSha256 (crypto.key verifier) (asBytes name)

/-- `AppleAccount::decrypt_cbc`: AES-256-CBC under the session's extra-data key and the
first sixteen bytes of its extra-data IV. -/
def decryptCbc (crypto : Primitives) (verifier : crypto.Verifier) (data : Bytes) :
    Except Panic Bytes := do
  let key := createSessionKey crypto verifier "extra data key:"
  let iv := createSessionKey crypto verifier "extra data iv:"
  let iv ← if 16 ≤ iv.length then pure (iv.take 16)
    else throw ⟨clientRs 757,
      "range end index 16 out of range for slice of length " ++ toString iv.length⟩
  let _ ← expectAt (clientRs 760) unwrapErr
    (if key.length = 32 ∧ iv.length = 16 then some () else none)
  expectAt (clientRs 762) unwrapErr (crypto.aes256CbcDecrypt key iv data)

/-- The slicing and the cipher's construction never panic: an HMAC-SHA256 tag is 32
bytes, so the key is 32 bytes and the IV 16. -/
theorem decryptCbc_eq (crypto : Primitives) (verifier : crypto.Verifier) (data : Bytes) :
    decryptCbc crypto verifier data =
      expectAt (clientRs 762) unwrapErr (crypto.aes256CbcDecrypt
        (createSessionKey crypto verifier "extra data key:")
        ((createSessionKey crypto verifier "extra data iv:").take 16) data) := by
  have keyLength := crypto.hmacSha256_length (crypto.key verifier) (asBytes "extra data key:")
  have ivLength := crypto.hmacSha256_length (crypto.key verifier) (asBytes "extra data iv:")
  simp [decryptCbc, createSessionKey, keyLength, ivLength, expectAt, bind, Except.bind, pure,
    Except.pure]

/-- From the SRP verifier to the decrypted SPD and the final `Status`. -/
def proveExchange (crypto : Primitives) (plist : PlistCodec) (username : String)
    (hashedPassword : Bytes) (exchange : LoginExchange) (answer : InitAnswer) :
    Except (Fault Error) CompleteAnswer := do
  let password := crypto.pbkdf2HmacSha256 (passwordForSrp answer.protocol hashedPassword)
    answer.salt (answer.iterations % 2 ^ 32).toNat
  let verifier ← Fault.ofPanic (expectAt (clientRs 673) unwrapErr
    (crypto.processReply exchange.ephemeral (asBytes username) password answer.salt
      answer.serverPublic))
  let response ← parseResponse plist exchange.completeReply
  checkError response
  let serverProof ← Fault.ofPanic
    (expectAt (clientRs 707) unwrapNone ((response.get "M2").bind Value.asData))
  let _ ← Fault.ofPanic (expectAt (clientRs 708) unwrapErr
    (if crypto.verifyServer verifier serverProof then some () else none))
  let spd ← Fault.ofPanic
    (expectAt (clientRs 710) unwrapNone ((response.get "spd").bind Value.asData))
  let decrypted ← Fault.ofPanic (decryptCbc crypto verifier spd)
  let decoded ← Fault.ofPanic
    (expectAt (clientRs 712) unwrapErr (plist.fromBytes decrypted).toOption)
  let status ← Fault.ofPanic
    (expectAt (clientRs 714) unwrapNone ((response.get "Status").bind Value.asDictionary))
  pure ⟨decoded, status⟩

/-- The account name the SPD carries. -/
def accountName (spd : Dictionary) : Except Panic String := do
  let name ← expectAt (clientRs 731) "No account name?" (spd.get "acname")
  expectAt (clientRs 731) unwrapNone name.asString

/-- The state the final `Status`'s `au` asks the caller for. -/
def authState (status : Dictionary) : LoginState :=
  match status.get "au" with
  | some (.string "trustedDeviceSecondaryAuth") => .needsDevice2FA
  | some (.string "secondaryAuth") => .needsSMS2FA
  | some (.string other) => .needsExtraStep other
  | _ => .loggedIn

/-- The SPD's token map, the `t` dictionary's, when it is one, and otherwise the
account's. -/
def installedTokens (now : SystemTime) (spd : Dictionary) (current : TokenMap) :
    Except Panic TokenMap :=
  match spd.get "t" with
  | some (.dictionary dictionary) => spdTokens now dictionary
  | _ => .ok current

/-- The end of the call: the token map of the SPD's `t` dictionary when it is one, then
the account name and the SPD. -/
def adoptSpd (now : SystemTime) (answer : CompleteAnswer) :
    EStateM (Fault Error) AppleAccount LoginState := do
  match answer.spd.get "t" with
  | some (.dictionary dictionary) =>
      let tokens ← Fault.lift (Fault.ofPanic (spdTokens now dictionary))
      modify fun account => { account with tokens := tokens }
  | _ => pure ()
  let name ← Fault.lift (Fault.ofPanic (accountName answer.spd))
  modify fun account => { account with username := some name, spd := some answer.spd }
  pure (authState answer.status)

/-- `AppleAccount::login_email_pass`. -/
def loginEmailPass (crypto : Primitives) (plist : PlistCodec) (username : String)
    (hashedPassword : Bytes) (exchange : LoginExchange) :
    EStateM (Fault Error) AppleAccount LoginState := do
  modify fun account => { account with username := some username }
  let answer ← Fault.lift (initExchange plist exchange)
  modify fun account => { account with hashedPassword := some hashedPassword }
  let session ← Fault.lift (proveExchange crypto plist username hashedPassword exchange answer)
  adoptSpd exchange.now session

theorem adoptSpd_run (now : SystemTime) (answer : CompleteAnswer) (account : AppleAccount) :
    (adoptSpd now answer).run account =
      match installedTokens now answer.spd account.tokens with
      | .error raised => .error (.panic raised) account
      | .ok tokens =>
          match accountName answer.spd with
          | .error raised => .error (.panic raised) { account with tokens := tokens }
          | .ok name =>
              .ok (authState answer.status)
                { account with
                  tokens := tokens, username := some name, spd := some answer.spd } := by
  unfold adoptSpd installedTokens
  cases answer.spd.get "t" with
  | none => cases accountName answer.spd <;> rfl
  | some value =>
      cases value
      case dictionary dictionary =>
        dsimp only
        cases spdTokens now dictionary <;> cases accountName answer.spd <;> rfl
      all_goals cases accountName answer.spd <;> rfl

/-- The call as one equation: the username is written, then the hashed password once the
init exchange passed, then the SPD's part. -/
theorem loginEmailPass_run (crypto : Primitives) (plist : PlistCodec) (username : String)
    (hashedPassword : Bytes) (exchange : LoginExchange) (account : AppleAccount) :
    (loginEmailPass crypto plist username hashedPassword exchange).run account =
      match initExchange plist exchange with
      | .error fault => .error fault { account with username := some username }
      | .ok answer =>
          match proveExchange crypto plist username hashedPassword exchange answer with
          | .error fault =>
              .error fault
                { account with
                  username := some username, hashedPassword := some hashedPassword }
          | .ok session =>
              (adoptSpd exchange.now session).run
                { account with
                  username := some username, hashedPassword := some hashedPassword } := by
  simp only [loginEmailPass, EStateM.run, bind, EStateM.bind, modify, modifyGet,
    MonadStateOf.modifyGet, EStateM.modifyGet]
  cases initExchange plist exchange with
  | error fault => rfl
  | ok answer =>
      dsimp only [Fault.lift]
      cases proveExchange crypto plist username hashedPassword exchange answer <;> rfl

theorem adoptSpd_ne_error (now : SystemTime) (answer : CompleteAnswer) (account : AppleAccount)
    (error : Error) (after : AppleAccount) :
    (adoptSpd now answer).run account ≠ .error (.error error) after := by
  rw [adoptSpd_run]
  cases installedTokens now answer.spd account.tokens with
  | error => simp
  | ok tokens => cases accountName answer.spd <;> simp

/-- An `Err` return leaves the SPD and the token map as they were. It has written the
username, and the hashed password exactly when the init exchange passed. -/
theorem loginEmailPass_error {crypto : Primitives} {plist : PlistCodec} {username : String}
    {hashedPassword : Bytes} {exchange : LoginExchange} {account after : AppleAccount}
    {error : Error}
    (failed : (loginEmailPass crypto plist username hashedPassword exchange).run account =
      .error (.error error) after) :
    after = { account with
      username := some username,
      hashedPassword :=
        if (initExchange plist exchange).isOk then some hashedPassword
        else account.hashedPassword } := by
  rw [loginEmailPass_run] at failed
  cases initIs : initExchange plist exchange with
  | error fault =>
      rw [initIs] at failed
      cases failed
      rfl
  | ok answer =>
      cases proveIs : proveExchange crypto plist username hashedPassword exchange answer with
      | error fault =>
          simp only [initIs, proveIs] at failed
          cases failed
          rfl
      | ok session =>
          simp only [initIs, proveIs] at failed
          exact absurd failed (adoptSpd_ne_error _ _ _ _ _)

/-- What an `Ok` return has done: both exchanges passed, the SPD and the account name are
installed with the hashed password, the token map is the SPD's when its `t` is a
dictionary and the old one otherwise, and the state is the one `Status` names. -/
theorem loginEmailPass_eq_ok {crypto : Primitives} {plist : PlistCodec} {username : String}
    {hashedPassword : Bytes} {exchange : LoginExchange} {account after : AppleAccount}
    {state : LoginState}
    (returned : (loginEmailPass crypto plist username hashedPassword exchange).run account =
      .ok state after) :
    ∃ answer session name, initExchange plist exchange = .ok answer ∧
      proveExchange crypto plist username hashedPassword exchange answer = .ok session ∧
      installedTokens exchange.now session.spd account.tokens = .ok after.tokens ∧
      accountName session.spd = .ok name ∧
      after = { account with
        tokens := after.tokens, username := some name, spd := some session.spd,
        hashedPassword := some hashedPassword } ∧
      state = authState session.status := by
  rw [loginEmailPass_run] at returned
  cases initIs : initExchange plist exchange with
  | error => simp [initIs] at returned
  | ok answer =>
  cases proveIs : proveExchange crypto plist username hashedPassword exchange answer with
  | error => simp [initIs, proveIs] at returned
  | ok session =>
  simp only [initIs, proveIs, adoptSpd_run] at returned
  cases tokensIs : installedTokens exchange.now session.spd account.tokens with
  | error => simp [tokensIs] at returned
  | ok tokens =>
  cases nameIs : accountName session.spd with
  | error => simp [tokensIs, nameIs] at returned
  | ok name =>
      simp only [tokensIs, nameIs, EStateM.Result.ok.injEq] at returned
      obtain ⟨rfl, rfl⟩ := returned
      exact ⟨answer, session, name, rfl, proveIs, tokensIs, nameIs, rfl, rfl⟩

/-- The token map `after` holds once a login has installed `spd`: at each id the last
well-formed entry of its `t` dictionary when it is one, and the map `before` otherwise. -/
def HoldsSpdTokens (now : SystemTime) (spd : Dictionary) (before after : TokenMap) : Prop :=
  (∀ dictionary, spd.get "t" = some (.dictionary dictionary) →
    ∀ id, (after.lookup id).map FetchedToken.view =
      StringMap.lastValue id (spdEntries now dictionary)) ∧
  ((∀ dictionary, spd.get "t" ≠ some (.dictionary dictionary)) → after = before)

theorem installedTokens_holds {now : SystemTime} {spd : Dictionary} {current tokens : TokenMap}
    (installed : installedTokens now spd current = .ok tokens) :
    HoldsSpdTokens now spd current tokens := by
  unfold installedTokens at installed
  split at installed
  · next dictionary isDictionary =>
      refine ⟨fun other otherIs => ?_,
        fun notDictionary => absurd isDictionary (notDictionary _)⟩
      rw [isDictionary] at otherIs
      cases otherIs
      exact lookup_spdTokens installed
  · next notDictionary =>
      cases installed
      exact ⟨fun dictionary isDictionary => absurd isDictionary (notDictionary dictionary),
        fun _ => rfl⟩

end IMessageBridge
