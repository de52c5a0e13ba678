import IMessageBridge.Login

/-!
# The 2FA calls and what the auth steps leave in the account

`send_2fa_to_devices` and `send_sms_2fa_to_devices` read the account and write nothing.
`verify_2fa` and `verify_sms_2fa` read it to check the server's answer
(`verify2faResponse`, `verifySms2faResponse`), then run the token tail
`installTokenHeaders` with their own header format.

The results gather what the three auth steps (`login_email_pass` and the two verify
calls) leave in the account:

* `verify_tokenMap`: on an accepted answer whose token headers are readable, a verify
  call returns, and its token map is the one its own headers and PET name;
* `tokens_afterOk`: after any `Ok` the token map is the one the call's own answer
  names, except that a login whose SPD has no `t` dictionary keeps the old map;
* `error_preserves`: an `Err` leaves the SPD and the token map as they were; a verify
  call's `Err` leaves the whole account, a login's has written the username, and the
  hashed password once the init exchange passed.
-/

namespace IMessageBridge

/-- What one 2FA request receives from outside the account: the anisette data of its
headers, its round trip, and the clock `SystemTime::now()` reads. -/
structure TwoFactorExchange where
  anisette : Except Error AnisetteData
  reply : Except Error HttpResponse
  now : SystemTime

/-- `StatusCode::is_success`. -/
def isSuccess (status : Nat) : Bool := 200 ≤ status && status < 300

/-- `AppleAccount::send_2fa_to_devices`. -/
def send2faToDevices (exchange : TwoFactorExchange) :
    EStateM (Fault Error) AppleAccount LoginState :=
  Fault.reading fun account => do
    let _ ← build2faHeaders false exchange.anisette account
    let response ← Fault.ofResult exchange.reply
    if !isSuccess response.status then throw (.error .authSrp)
    pure .needs2FAVerification

/-- `AppleAccount::send_sms_2fa_to_devices`. -/
def sendSms2faToDevices (phoneId : Nat) (exchange : TwoFactorExchange) :
    EStateM (Fault Error) AppleAccount LoginState :=
  Fault.reading fun account => do
    let _ ← build2faHeaders true exchange.anisette account
    let body : VerifyBody := ⟨phoneId, "sms", none⟩
    let response ← Fault.ofResult exchange.reply
    if !isSuccess response.status then throw (.error .authSrp)
    pure (.needsSMS2FAVerification body)

/-- The part of `verify_2fa` that reads the account: the request with the code as a
header, and the answer's `check_error`. -/
def verify2faResponse (plist : PlistCodec) (code : String) (exchange : TwoFactorExchange)
    (account : AppleAccount) : Except (Fault Error) HttpResponse := do
  let _ ← build2faHeaders false exchange.anisette account
  let _ ← Fault.ofPanic (expectAt (clientRs 895) unwrapErr (headerValueFromStr code))
  let response ← Fault.ofResult exchange.reply
  let text ← Fault.ofResult response.text
  let body ← Fault.ofResult ((plist.fromBytes (asBytes text)).mapError .plistError)
  checkError body
  pure response

/-- `AppleAccount::verify_2fa`. -/
def verify2fa (plist : PlistCodec) (code : String) (exchange : TwoFactorExchange) :
    EStateM (Fault Error) AppleAccount LoginState := do
  let response ← Fault.reading (verify2faResponse plist code exchange)
  installTokenHeaders verify2faFormat exchange.now response

/-- The part of `verify_sms_2fa` that reads the account: the request, and the answer's
status, which must be 200. The code only shapes the request's body. -/
def verifySms2faResponse (exchange : TwoFactorExchange) (account : AppleAccount) :
    Except (Fault Error) HttpResponse := do
  let _ ← build2faHeaders true exchange.anisette account
  let response ← Fault.ofResult exchange.reply
  if response.status ≠ 200 then
    let _ ← Fault.ofResult response.text
    throw (.error .bad2faCode)
  pure response

/-- `AppleAccount::verify_sms_2fa`. -/
def verifySms2fa (exchange : TwoFactorExchange) :
    EStateM (Fault Error) AppleAccount LoginState := do
  let response ← Fault.reading (verifySms2faResponse exchange)
  installTokenHeaders verifySms2faFormat exchange.now response

theorem verify2fa_run (plist : PlistCodec) (code : String) (exchange : TwoFactorExchange)
    (account : AppleAccount) :
    (verify2fa plist code exchange).run account =
      match verify2faResponse plist code exchange account with
      | .ok response => (installTokenHeaders verify2faFormat exchange.now response).run account
      | .error fault => .error fault account := by
  rw [verify2fa, Fault.reading_bind_run]
  cases verify2faResponse plist code exchange account <;> rfl

theorem verifySms2fa_run (exchange : TwoFactorExchange) (account : AppleAccount) :
    (verifySms2fa exchange).run account =
      match verifySms2faResponse exchange account with
      | .ok response =>
          (installTokenHeaders verifySms2faFormat exchange.now response).run account
      | .error fault => .error fault account := by
  rw [verifySms2fa, Fault.reading_bind_run]
  cases verifySms2faResponse exchange account <;> rfl

/-- A verify call that returns has read an answer the server accepted, and the tail
took it from there. -/
theorem verify2fa_eq_ok {plist : PlistCodec} {code : String} {exchange : TwoFactorExchange}
    {account after : AppleAccount} {state : LoginState}
    (returned : (verify2fa plist code exchange).run account = .ok state after) :
    ∃ response, verify2faResponse plist code exchange account = .ok response ∧
      (installTokenHeaders verify2faFormat exchange.now response).run account =
        .ok state after := by
  rw [verify2fa_run] at returned
  split at returned
  · exact ⟨_, ‹_›, returned⟩
  · cases returned

theorem verifySms2fa_eq_ok {exchange : TwoFactorExchange} {account after : AppleAccount}
    {state : LoginState} (returned : (verifySms2fa exchange).run account = .ok state after) :
    ∃ response, verifySms2faResponse exchange account = .ok response ∧
      (installTokenHeaders verifySms2faFormat exchange.now response).run account =
        .ok state after := by
  rw [verifySms2fa_run] at returned
  split at returned
  · exact ⟨_, ‹_›, returned⟩
  · cases returned

/-- A verify call's `Err` comes from reading the answer, before any write. -/
theorem verify2fa_error {plist : PlistCodec} {code : String} {exchange : TwoFactorExchange}
    {account after : AppleAccount} {error : Error}
    (failed : (verify2fa plist code exchange).run account = .error (.error error) after) :
    after = account := by
  rw [verify2fa_run] at failed
  split at failed
  · exact absurd failed (installTokenHeaders_ne_error _ _ _ _ _ _)
  · cases failed
    rfl

theorem verifySms2fa_error {exchange : TwoFactorExchange} {account after : AppleAccount}
    {error : Error} (failed : (verifySms2fa exchange).run account = .error (.error error) after) :
    after = account := by
  rw [verifySms2fa_run] at failed
  split at failed
  · exact absurd failed (installTokenHeaders_ne_error _ _ _ _ _ _)
  · cases failed
    rfl

/-! ## A scripted server

Primitives and a codec under which whole calls run on fixed answers, for the witnesses
and counterexamples below: every SRP proof is accepted, the cipher is the identity, and
the codec reads each body by its bytes. -/

/-- Primitives that accept every proof; the cipher is the identity. -/
def acceptingCrypto : Primitives where
  Verifier := Unit
  processReply := fun _ _ _ _ _ => some ()
  verifyServer := fun _ _ => true
  key := fun _ => []
  pbkdf2HmacSha256 := fun password _ _ => password
  hmacSha256 := fun _ _ => List.replicate 32 0
  aes256CbcDecrypt := fun _ _ data => some data
  sha256 := id
  hmacSha256_length := fun _ _ => List.length_replicate 32 0

/-- A codec that reads the bodies of a script by their bytes, and writes nothing. -/
def scriptedPlist (script : List (Bytes × Dictionary)) : PlistCodec where
  fromBytes := fun bytes =>
    match script.find? (fun entry => entry.1 = bytes) with
    | some entry => .ok entry.2
    | none => .error "unexpected body"
  toWriterBinary := fun _ => .error "not written"
  fromBytes_toWriterBinary := fun _ _ written => nomatch written

/-- A `Status` that passes `check_error`. -/
def okStatus : Value := .dictionary [("ec", .integer 0)]

/-- An SPD with an account name and the identity `build_2fa_headers` reads, and no `t`. -/
def scriptedSpd : Dictionary :=
  [("acname", .string "user@example.com"), ("adsid", .string "000001"),
    ("GsIdmsToken", .string "token")]

/-- An SPD that also grants a PET for an hour. -/
def petSpd : Dictionary :=
  scriptedSpd ++ [("t", .dictionary [(petService,
    .dictionary [("token", .string "pet"), ("duration", .integer 3600)])])]

/-- The token map of that grant, at the epoch. -/
def petGrant : TokenMap :=
  (∅ : TokenMap).insert petService ⟨"pet", ⟨3600 * 1000000000, by decide⟩⟩

/-- The server's bodies: the init and complete answers, the given SPD, and an accepted
code. -/
def scriptedBodies (spd : Dictionary) : List (Bytes × Dictionary) :=
  [(asBytes "init", [("Response", .dictionary [("Status", okStatus), ("s", .data []),
      ("B", .data []), ("i", .integer 1000), ("c", .string "cookie")])]),
    (asBytes "complete", [("Response", .dictionary [("Status", okStatus), ("M2", .data []),
      ("spd", .data [7])])]),
    ([7], spd),
    (asBytes "verified", [("Status", okStatus)])]

/-- The scripted server with the given SPD. -/
def scriptedPlistWith (spd : Dictionary) : PlistCodec := scriptedPlist (scriptedBodies spd)

/-- The scripted server with the SPD that has no `t`. -/
def scriptedPlistBodies : PlistCodec := scriptedPlistWith scriptedSpd

/-- A login the scripted server accepts, at the epoch. -/
def scriptedLogin : LoginExchange :=
  ⟨[], .ok ⟨[], []⟩, .ok ⟨200, [], .ok "init"⟩, .ok ⟨200, [], .ok "complete"⟩,
    SystemTime.unixEpoch⟩

/-- An account that holds a PET from an earlier grant. -/
def staleAccount : AppleAccount :=
  ⟨none, none, (∅ : TokenMap).insert petService ⟨"stale", SystemTime.unixEpoch⟩, none⟩

/-- An account after a login to the scripted server. -/
def scriptedAccount : AppleAccount :=
  ⟨some scriptedSpd, some "user@example.com", ∅, some []⟩

/-- A 2FA request the scripted server accepts, with the given headers. -/
def scriptedVerify (headers : List (String × HeaderValue)) : TwoFactorExchange :=
  ⟨.ok ⟨[], []⟩, .ok ⟨200, headers, .ok "verified"⟩, SystemTime.unixEpoch⟩

/-! ## Token maps of accepted answers -/

/-- On an answer a verify call accepts, whose GS, HB and PE token headers are readable,
the call returns `LoggedIn` when the PE header is present and `NeedsLogin` otherwise,
and its token map is the one its own headers name: at the PET's id the PE header's
token and instant, and at every other id the last GS-then-HB header with that id,
read with the call's own ttl field and the forty-year heuristic. -/
theorem verify_tokenMap :
    (∀ (plist : PlistCodec) (code : String) (exchange : TwoFactorExchange)
        (account : AppleAccount) (response : HttpResponse),
      verify2faResponse plist code exchange account = .ok response →
      verify2faFormat.Readable exchange.now response →
      ∃ after, (verify2fa plist code exchange).run account =
          .ok (if (response.get "X-Apple-PE-Token").isSome then .loggedIn else .needsLogin)
            after ∧
        HoldsVerifiedTokens verify2faFormat exchange.now response after) ∧
    (∀ (exchange : TwoFactorExchange) (account : AppleAccount) (response : HttpResponse),
      verifySms2faResponse exchange account = .ok response →
      verifySms2faFormat.Readable exchange.now response →
      ∃ after, (verifySms2fa exchange).run account =
          .ok (if (response.get "X-Apple-PE-Token").isSome then .loggedIn else .needsLogin)
            after ∧
        HoldsVerifiedTokens verifySms2faFormat exchange.now response after) := by
  refine ⟨fun plist code exchange account response accepted readable => ?_,
    fun exchange account response accepted readable => ?_⟩
  · obtain ⟨after, returned, -, tokensAre⟩ :=
      installTokenHeaders_contract verify2faFormat exchange.now readable account
    exact ⟨after, by rw [verify2fa_run, accepted]; exact returned, tokensAre⟩
  · obtain ⟨after, returned, -, tokensAre⟩ :=
      installTokenHeaders_contract verifySms2faFormat exchange.now readable account
    exact ⟨after, by rw [verifySms2fa_run, accepted]; exact returned, tokensAre⟩

/-- The GS, HB and PE headers of the witness: a relative ttl, an epoch timestamp in
milliseconds, and a PET without a lifetime. -/
def tokenHeadersShown : List (String × HeaderValue) :=
  [("x-apple-gs-token", asBytes (base64Encode (asBytes "gs:tokgs:3600"))),
    ("x-apple-hb-token", asBytes (base64Encode (asBytes "hb:tokhb:1700000000000:9"))),
    ("x-apple-pe-token", asBytes (base64Encode (asBytes "pe:tokpe")))]

theorem verify_tokenMap_shown :
    (∃ after, (verify2fa scriptedPlistBodies "123456" (scriptedVerify tokenHeadersShown)).run
        scriptedAccount = .ok .loggedIn after ∧
      HoldsVerifiedTokens verify2faFormat SystemTime.unixEpoch
        ⟨200, tokenHeadersShown, .ok "verified"⟩ after) ∧
    (∃ after, (verifySms2fa (scriptedVerify tokenHeadersShown)).run scriptedAccount =
        .ok .loggedIn after ∧
      HoldsVerifiedTokens verifySms2faFormat SystemTime.unixEpoch
        ⟨200, tokenHeadersShown, .ok "verified"⟩ after) := by
  have headers : tokenHeaders ⟨200, tokenHeadersShown, .ok "verified"⟩ =
      [asBytes (base64Encode (asBytes "gs:tokgs:3600")),
        asBytes (base64Encode (asBytes "hb:tokhb:1700000000000:9"))] := rfl
  have pet : ∀ header, (⟨200, tokenHeadersShown, .ok "verified"⟩ : HttpResponse).get
      "X-Apple-PE-Token" = some header → ∃ payload, decodePetHeader header = some payload ∧
        PetWellFormed SystemTime.unixEpoch payload := by
    rintro header ⟨⟩
    exact ⟨_, decodePetHeader_encode (by decide), by decide, 300, by decide, by decide⟩
  refine ⟨verify_tokenMap.1 scriptedPlistBodies "123456" (scriptedVerify tokenHeadersShown)
      scriptedAccount _ rfl ⟨fun header member => ?_, pet⟩,
    verify_tokenMap.2 (scriptedVerify tokenHeadersShown) scriptedAccount _ rfl
      ⟨fun header member => ?_, pet⟩⟩
  all_goals
    rw [headers] at member
    rcases member with _ | ⟨_, _ | ⟨_, ⟨⟩⟩⟩
  · exact ⟨_, decodeTokenHeader_encode (by decide), by decide, 3600, by decide, by decide⟩
  · exact ⟨_, decodeTokenHeader_encode (by decide), by decide, 1700000000000, by decide,
      by decide⟩
  · exact ⟨_, decodeTokenHeader_encode (by decide), by decide, 3600, by decide, by decide⟩
  · exact ⟨_, decodeTokenHeader_encode (by decide), by decide, 9, by decide, by decide⟩

/-- A PE header whose lifetime is `u64::MAX` seconds: `now + ttl` overflows, and the
call panics where the PET would have been stored. -/
def overflowingPet : List (String × HeaderValue) :=
  [("x-apple-pe-token", asBytes (base64Encode (asBytes "pe:tokpe:18446744073709551615")))]

theorem verify2fa_overflowingPet :
    (verify2fa scriptedPlistBodies "123456" (scriptedVerify overflowingPet)).run
        scriptedAccount =
      .error (.panic ⟨clientRs 991, "overflow when adding duration to instant"⟩)
        { scriptedAccount with tokens := ∅ } := by
  have accepted : verify2faResponse scriptedPlistBodies "123456" (scriptedVerify overflowingPet)
      scriptedAccount = .ok ⟨200, overflowingPet, .ok "verified"⟩ := rfl
  have collected : headerTokens verify2faFormat SystemTime.unixEpoch
      ⟨200, overflowingPet, .ok "verified"⟩ = .ok ∅ := rfl
  have overflow : petHeaderToken verify2faFormat.petLine SystemTime.unixEpoch
      (asBytes (base64Encode (asBytes "pe:tokpe:18446744073709551615"))) =
      .error ⟨clientRs 991, "overflow when adding duration to instant"⟩ := by
    have utf8 : fromUtf8 (asBytes "pe:tokpe:18446744073709551615") =
        some "pe:tokpe:18446744073709551615" := fromUtf8_asBytes (by decide)
    simp only [petHeaderToken, toStr_asBytes (base64Encode_visible _), expectAt, Except.bind,
      petToken, base64_decode_encode, utf8, bind]
    rfl
  rw [verify2fa_run, accepted]
  dsimp only
  rw [installTokenHeaders_run]
  simp only [scriptedVerify, collected]
  rw [show (⟨200, overflowingPet, .ok "verified"⟩ : HttpResponse).get "X-Apple-PE-Token" =
    some (asBytes (base64Encode (asBytes "pe:tokpe:18446744073709551615"))) from rfl]
  dsimp only
  rw [overflow]

/-! ## What an auth step leaves in the account -/

/-- After an `Ok` return of an auth step, the token map is the one the call's own answer
names: for a verify call, its own headers and PET; for a login, the well-formed entries
of the decrypted SPD's `t` dictionary, except that a login whose SPD has no `t`
dictionary keeps the map the account held before. -/
theorem tokens_afterOk :
    (∀ (crypto : Primitives) (plist : PlistCodec) (username : String) (hashedPassword : Bytes)
        (exchange : LoginExchange) (account after : AppleAccount) (state : LoginState),
      (loginEmailPass crypto plist username hashedPassword exchange).run account =
        .ok state after →
      ∃ answer session, initExchange plist exchange = .ok answer ∧
        proveExchange crypto plist username hashedPassword exchange answer = .ok session ∧
        after.spd = some session.spd ∧
        HoldsSpdTokens exchange.now session.spd account.tokens after.tokens) ∧
    (∀ (plist : PlistCodec) (code : String) (exchange : TwoFactorExchange)
        (account after : AppleAccount) (state : LoginState),
      (verify2fa plist code exchange).run account = .ok state after →
      ∃ response, verify2faResponse plist code exchange account = .ok response ∧
        HoldsVerifiedTokens verify2faFormat exchange.now response after) ∧
    (∀ (exchange : TwoFactorExchange) (account after : AppleAccount) (state : LoginState),
      (verifySms2fa exchange).run account = .ok state after →
      ∃ response, verifySms2faResponse exchange account = .ok response ∧
        HoldsVerifiedTokens verifySms2faFormat exchange.now response after) := by
  refine ⟨fun crypto plist username hashedPassword exchange account after state returned => ?_,
    fun plist code exchange account after state returned => ?_,
    fun exchange account after state returned => ?_⟩
  · obtain ⟨answer, session, _, initiated, proved, installed, _, afterIs, _⟩ :=
      loginEmailPass_eq_ok returned
    exact ⟨answer, session, initiated, proved, by rw [afterIs], installedTokens_holds installed⟩
  · obtain ⟨response, accepted, ran⟩ := verify2fa_eq_ok returned
    exact ⟨response, accepted, (installTokenHeaders_eq_ok ran).2.2.2⟩
  · obtain ⟨response, accepted, ran⟩ := verifySms2fa_eq_ok returned
    exact ⟨response, accepted, (installTokenHeaders_eq_ok ran).2.2.2⟩

theorem tokens_afterOk_shown :
    (∃ answer session, initExchange (scriptedPlistWith petSpd) scriptedLogin = .ok answer ∧
      proveExchange acceptingCrypto (scriptedPlistWith petSpd) "user@example.com" []
        scriptedLogin answer = .ok session ∧
      some petSpd = some session.spd ∧
      HoldsSpdTokens SystemTime.unixEpoch session.spd staleAccount.tokens petGrant) ∧
    (∃ response, verify2faResponse scriptedPlistBodies "123456" (scriptedVerify [])
        scriptedAccount = .ok response ∧
      HoldsVerifiedTokens verify2faFormat SystemTime.unixEpoch response
        { scriptedAccount with tokens := ∅ }) ∧
    (∃ response, verifySms2faResponse (scriptedVerify []) scriptedAccount = .ok response ∧
      HoldsVerifiedTokens verifySms2faFormat SystemTime.unixEpoch response
        { scriptedAccount with tokens := ∅ }) :=
  ⟨tokens_afterOk.1 acceptingCrypto (scriptedPlistWith petSpd) "user@example.com" []
      scriptedLogin staleAccount
      ⟨some petSpd, some "user@example.com", petGrant, some []⟩ .loggedIn rfl,
    tokens_afterOk.2.1 scriptedPlistBodies "123456" (scriptedVerify []) scriptedAccount
      { scriptedAccount with tokens := ∅ } .needsLogin rfl,
    tokens_afterOk.2.2 (scriptedVerify []) scriptedAccount { scriptedAccount with tokens := ∅ }
      .needsLogin rfl⟩

/-- A login whose SPD has no `t` dictionary returns `Ok` with the PET of the earlier
grant still in the token map. -/
theorem loginEmailPass_keepsStaleTokens :
    (loginEmailPass acceptingCrypto scriptedPlistBodies "user@example.com" [] scriptedLogin).run
        staleAccount =
      .ok .loggedIn { scriptedAccount with tokens := staleAccount.tokens } ∧
    (staleAccount.tokens.lookup petService).map FetchedToken.token = some "stale" :=
  ⟨rfl, rfl⟩

/-- An `Err` return of an auth step leaves the SPD and the token map as they were. A
verify call's `Err` leaves the whole account; a login's has written the username it was
given, and the hashed password once the init exchange passed. -/
theorem error_preserves :
    (∀ (crypto : Primitives) (plist : PlistCodec) (username : String) (hashedPassword : Bytes)
        (exchange : LoginExchange) (account after : AppleAccount) (error : Error),
      (loginEmailPass crypto plist username hashedPassword exchange).run account =
        .error (.error error) after →
      after.spd = account.spd ∧ after.tokens = account.tokens ∧
        after.username = some username ∧
        after.hashedPassword =
          if (initExchange plist exchange).isOk then some hashedPassword
          else account.hashedPassword) ∧
    (∀ (plist : PlistCodec) (code : String) (exchange : TwoFactorExchange)
        (account after : AppleAccount) (error : Error),
      (verify2fa plist code exchange).run account = .error (.error error) after →
      after = account) ∧
    (∀ (exchange : TwoFactorExchange) (account after : AppleAccount) (error : Error),
      (verifySms2fa exchange).run account = .error (.error error) after → after = account) := by
  refine ⟨fun crypto plist username hashedPassword exchange account after error failed => ?_,
    fun _ _ _ _ _ _ failed => verify2fa_error failed,
    fun _ _ _ _ failed => verifySms2fa_error failed⟩
  rw [loginEmailPass_error failed]
  exact ⟨rfl, rfl, rfl, rfl⟩

/-- Logins to the scripted server that fail at the anisette fetch and at the complete
request, and verify calls it rejects. -/
def failingLogin : LoginExchange :=
  { scriptedLogin with anisette := .error (.errorGettingAnisette .missingLibraries) }

def failingProof : LoginExchange :=
  { scriptedLogin with completeReply := .error (.reqwestError "connection reset") }

def rejectedVerify : TwoFactorExchange :=
  ⟨.ok ⟨[], []⟩, .ok ⟨401, [], .ok "rejected"⟩, SystemTime.unixEpoch⟩

theorem error_preserves_shown :
    (staleAccount.spd = staleAccount.spd ∧ staleAccount.tokens = staleAccount.tokens ∧
      some "user@example.com" = some "user@example.com" ∧
      staleAccount.hashedPassword = if (initExchange scriptedPlistBodies failingLogin).isOk
        then some [] else staleAccount.hashedPassword) ∧
    scriptedAccount = scriptedAccount ∧ scriptedAccount = scriptedAccount :=
  ⟨error_preserves.1 acceptingCrypto scriptedPlistBodies "user@example.com" [] failingLogin
      staleAccount { staleAccount with username := some "user@example.com" }
      (.errorGettingAnisette .missingLibraries) rfl,
    error_preserves.2.1 scriptedPlistBodies "123456" rejectedVerify scriptedAccount
      scriptedAccount (.plistError "unexpected body") rfl,
    error_preserves.2.2 rejectedVerify scriptedAccount scriptedAccount .bad2faCode rfl⟩

/-- A login that fails at the anisette fetch has written the username; one that fails at
the complete request has also written the hashed password. -/
theorem loginEmailPass_error_writes :
    (loginEmailPass acceptingCrypto scriptedPlistBodies "user@example.com" [1] failingLogin).run
        staleAccount =
      .error (.error (.errorGettingAnisette .missingLibraries))
        { staleAccount with username := some "user@example.com" } ∧
    (loginEmailPass acceptingCrypto scriptedPlistBodies "user@example.com" [1] failingProof).run
        staleAccount =
      .error (.error (.reqwestError "connection reset"))
        { staleAccount with username := some "user@example.com", hashedPassword := some [1] } :=
  ⟨rfl, rfl⟩

end IMessageBridge
