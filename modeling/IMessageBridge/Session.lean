import IMessageBridge.Driver

/-!
# The login session of the Go bridge

`rustpushgo` drives the login for the Go side through a `LoginSession`: `login_start`
logs in and keeps the account in a slot behind a `tokio` mutex, `submit_2fa` verifies a
code against it, and `finish` persists the credentials, registers with IDS and takes the
account out of the slot. Each method holds the mutex for its whole body, so a run of the
session is a sequence of calls, each from the state the last one left (`runSession`). A
`tokio` mutex is not poisoned by a panic: the slot a panicking call left is the one the
next call finds.

`finish` calls services this model keeps outside (the delegate login, the IDS
authentication, identity generation and registration); `FinishInputs` gives their
outcomes. The results:

* `finish_cases`: `finish` leaves the session as it was, or returns the slot's account
  and empties the slot; from an empty slot every call returns `Err("No active session")`
  and changes nothing (`call_emptySlot`), so over any run at most one `finish` returns
  `Ok` (`runSession_finishesOnce`);
* `runSession_holdsLogin`: in a session that `login_start` returned, the slot's account
  holds an SPD and the hashed password after any run of calls.
-/

namespace IMessageBridge

/-- `pkg/rustpushgo/src/lib.rs` at a line. -/
def libRs (line : Nat) : Site := ⟨"pkg/rustpushgo/src/lib.rs", line⟩

/-- `WrappedError`: the bridge hands every failure to Go as a message. -/
inductive WrappedError where
  | genericError (msg : String)
  deriving DecidableEq, Repr

/-- `map_err(|e| WrappedError::GenericError { msg: format!(..) })`: the message is
`context` followed by the error's `Display`; a panic goes on. -/
def Fault.wrap {ε : Type} (context : String) (describe : ε → String) :
    Fault ε → Fault WrappedError
  | .error returned => .error (.genericError (context ++ describe returned))
  | .panic raised => .panic raised

/-- `Err(WrappedError::GenericError { msg })`. -/
def genericError (msg : String) : Fault WrappedError := .error (.genericError msg)

/-- A call to a service outside the model, whose error is kept as its `Display`, under
`map_err` with the given context. -/
def serviceCall {α : Type} (context : String) (outcome : Except String α) :
    Except (Fault WrappedError) α :=
  (Fault.ofResult outcome).mapError (Fault.wrap context id)

theorem spares_serviceCall {α : Type} (site : Site) (context : String)
    (outcome : Except String α) : Fault.Spares site (serviceCall context outcome) :=
  fun _ => by cases outcome <;> simp [serviceCall, Fault.ofResult, Except.mapError, Fault.wrap]

/-- `Option::ok_or(..)?`. -/
def okOr {α : Type} (fault : Fault WrappedError) : Option α → Except (Fault WrappedError) α
  | some value => .ok value
  | none => .error fault

theorem spares_okOr {α : Type} (site : Site) (msg : String) (value : Option α) :
    Fault.Spares site (okOr (genericError msg) value) :=
  fun _ => by cases value <;> simp [okOr, genericError]

/-! ## `login_start` -/

/-- `char::is_whitespace`: the characters of Unicode's `White_Space` property. -/
def isWhitespace (c : Char) : Bool :=
  let code := c.toNat
  (9 ≤ code && code ≤ 13) || code == 32 || code == 0x85 || code == 0xA0 ||
    code == 0x1680 || (0x2000 ≤ code && code ≤ 0x200A) || code == 0x2028 ||
    code == 0x2029 || code == 0x202F || code == 0x205F || code == 0x3000

/-- `str::trim`: the text without its leading and trailing whitespace. -/
def strTrim (text : String) : String :=
  ⟨((text.data.dropWhile isWhitespace).reverse.dropWhile isWhitespace).reverse⟩

/-- `LoginSession`: the account slot behind its mutex, the trimmed Apple ID, the hashed
password and whether the login asked for a code. -/
structure LoginSession where
  account : Option AppleAccount
  username : String
  passwordHash : Bytes
  needs2fa : Bool

/-- What `login_start` receives from outside: the outcome of building the account's
client, the exchange of its login, and the answer to the push `send_2fa_to_devices`
makes when the server asks for a device code. -/
structure StartExchange where
  client : Except Error Unit
  login : LoginExchange
  push : TwoFactorExchange

/-- What `login_start` makes of the state its login returned: whether the session needs
a code. A failed push is only logged. -/
def startNeeds2fa (push : TwoFactorExchange) (account : AppleAccount) :
    LoginState → Except (Fault WrappedError) Bool
  | .loggedIn => .ok false
  | .needs2FAVerification => .ok true
  | .needsDevice2FA | .needsSMS2FA =>
      match (send2faToDevices push).run account with
      | .error (.panic raised) _ => .error (.panic raised)
      | _ => .ok true
  | .needsSMS2FAVerification _ => .ok true
  | .needsExtraStep step =>
      if account.getPet.isSome then .ok false
      else .error (genericError ("Login requires extra step: " ++ step))
  | .needsLogin => .error (genericError "Login failed - bad credentials")

/-- `login_start`: the Apple ID and the password are trimmed, and the password is hashed
with SHA-256 before the login. -/
def loginStart (crypto : Primitives) (plist : PlistCodec) (appleId password : String)
    (exchange : StartExchange) : Except (Fault WrappedError) LoginSession := do
  let userTrimmed := strTrim appleId
  let pwBytes := crypto.sha256 (asBytes (strTrim password))
  let account ← (Fault.ofResult (AppleAccount.newWithAnisette exchange.client)).mapError
    (Fault.wrap "Failed to create account: " Error.display)
  match (loginEmailPass crypto plist userTrimmed pwBytes exchange.login).run account with
  | .ok result account => do
      let needs2fa ← startNeeds2fa exchange.push account result
      pure ⟨some account, userTrimmed, pwBytes, needs2fa⟩
  | .error fault _ => .error (fault.wrap "Login failed: " Error.display)

/-- A session `login_start` returns holds the account of a login that returned, under
the trimmed Apple ID and the hash of the trimmed password. -/
theorem loginStart_eq_ok {crypto : Primitives} {plist : PlistCodec} {appleId password : String}
    {exchange : StartExchange} {session : LoginSession}
    (started : loginStart crypto plist appleId password exchange = .ok session) :
    ∃ fresh state account,
      (loginEmailPass crypto plist (strTrim appleId)
          (crypto.sha256 (asBytes (strTrim password))) exchange.login).run fresh =
        .ok state account ∧
      session.account = some account ∧ session.username = strTrim appleId ∧
      session.passwordHash = crypto.sha256 (asBytes (strTrim password)) := by
  obtain ⟨fresh, -, logged⟩ := Except.bind_eq_ok.mp started
  split at logged
  · obtain ⟨_, -, built⟩ := Except.bind_eq_ok.mp logged
    cases built
    exact ⟨fresh, _, _, ‹_›, rfl, rfl, rfl⟩
  · cases logged

/-! ## `submit_2fa` and `finish` -/

/-- The `ok_or` on the slot with which every method begins. -/
def noActiveSession : Fault WrappedError := genericError "No active session"

/-- `LoginSession::submit_2fa`: whether the account is logged in once the code is
verified. The account is verified in its slot, so what the call wrote stays there
whatever it returns. -/
def submit2fa (plist : PlistCodec) (code : String) (exchange : TwoFactorExchange) :
    EStateM (Fault WrappedError) LoginSession Bool := fun session =>
  match session.account with
  | none => .error noActiveSession session
  | some account =>
      match (verify2fa plist code exchange).run account with
      | .ok .loggedIn after => .ok true { session with account := some after }
      | .ok (.needsExtraStep _) after =>
          .ok after.getPet.isSome { session with account := some after }
      | .ok _ after => .ok false { session with account := some after }
      | .error fault after =>
          .error (fault.wrap "2FA verification failed: " Error.display)
            { session with account := some after }

theorem submit2fa_finalState (plist : PlistCodec) (code : String)
    (exchange : TwoFactorExchange) (session : LoginSession) :
    finalState ((submit2fa plist code exchange).run session) =
      match session.account with
      | none => session
      | some account =>
          { session with
            account := some (finalState ((verify2fa plist code exchange).run account)) } := by
  cases present : session.account with
  | none => simp only [submit2fa, EStateM.run, present]; rfl
  | some account =>
      simp only [submit2fa, EStateM.run, present]
      cases verify2fa plist code exchange account with
      | ok state after => cases state <;> rfl
      | error fault after => rfl

/-- What `finish` is given besides the session: whether an identity is passed in, and,
when users are passed in, whether the first still holds a valid registration; then the
outcomes of the services it calls: the delegate login (whether the answer names an IDS
delegate), the IDS authentication (whether the fresh user is registered already),
identity generation and registration. -/
structure FinishInputs where
  existingIdentity : Bool
  existingUsers : Option Bool
  delegates : Except String Bool
  authenticate : Except String Bool
  newIdentity : Except String Unit
  register : Except String Unit

/-- `AccountPersistData`: the credentials the Go side keeps to restore the session. -/
structure AccountPersistData where
  username : String
  hashedPasswordHex : String
  pet : String
  adsid : String
  dsid : String
  spdBase64 : String
  deriving DecidableEq, Repr

/-- `IDSUsersWithIdentityRecord` as far as the account goes: the account the new
`TokenProvider` owns, and the persisted credentials. -/
structure FinishRecord where
  tokenProvider : AppleAccount
  accountPersist : AccountPersistData

/-- The `DsPrsId` (or `dsid`) value as text: a string as it is, an integer in decimal. -/
def dsidText (value : Value) : Option String :=
  match value.asString with
  | some text => some text
  | none =>
      match value.asSignedInteger with
      | some signed => some (toString signed)
      | none => value.asUnsignedInteger.map toString

/-- The part of `finish` that reads the account: the credentials to persist, built while
the SPD is at hand. -/
def persistData (plist : PlistCodec) (username : String) (account : AppleAccount) :
    Except (Fault WrappedError) AccountPersistData := do
  let pet ← okOr (genericError "No PET token available after login") account.getPet
  let spd ← Fault.ofPanic (expectAt (libRs 935) "No SPD after login" account.spd)
  let adsid ← Fault.ofPanic (expectAt (libRs 936) "No adsid" (spd.get "adsid"))
  let adsid ← Fault.ofPanic (expectAt (libRs 936) unwrapNone adsid.asString)
  let dsid := (((spd.get "DsPrsId").or (spd.get "dsid")).bind dsidText).getD ""
  let hashedPasswordHex := (account.hashedPassword.map encodeHex).getD ""
  let spdBytes ← serviceCall "Failed to serialize SPD: " (plist.toWriterBinary spd)
  pure ⟨username, hashedPasswordHex, pet, adsid, dsid, base64Encode spdBytes⟩

/-- The part of `finish` after the account is read: the delegates, the IDS
authentication, the identity and the registration. -/
def finishServices (inputs : FinishInputs) : Except (Fault WrappedError) Unit := do
  let hasIds ← serviceCall "Failed to get delegates: " inputs.delegates
  if !hasIds then throw (genericError "No IDS delegate in response")
  let registered ← serviceCall "IDS authentication failed: " inputs.authenticate
  if !inputs.existingIdentity then
    serviceCall "Failed to create identity: " inputs.newIdentity
  let register := serviceCall "Registration failed: " inputs.register
  match inputs.existingUsers with
  | some true => pure ()
  | some false => register
  | none => if registered then pure () else register

/-- Everything `finish` does between taking the lock and `guard.take()`. -/
def finishSteps (plist : PlistCodec) (username : String) (account : AppleAccount)
    (inputs : FinishInputs) : Except (Fault WrappedError) AccountPersistData := do
  let persist ← persistData plist username account
  finishServices inputs
  pure persist

/-- `LoginSession::finish`. Every `?` of the method comes before `guard.take()`, which
then finds the account the method read: its `Account already consumed` cannot be
reached. -/
def finish (plist : PlistCodec) (inputs : FinishInputs) :
    EStateM (Fault WrappedError) LoginSession FinishRecord := fun session =>
  match session.account with
  | none => .error noActiveSession session
  | some account =>
      match finishSteps plist session.username account inputs with
      | .ok persist => .ok ⟨account, persist⟩ { session with account := none }
      | .error fault => .error fault session

/-- `finish` either fails and leaves the session as it was, or returns the slot's
account with the persisted credentials and empties the slot. -/
theorem finish_cases (plist : PlistCodec) (inputs : FinishInputs) (session : LoginSession) :
    (∃ fault, (finish plist inputs).run session = .error fault session) ∨
    ∃ record, session.account = some record.tokenProvider ∧
      finishSteps plist session.username record.tokenProvider inputs =
        .ok record.accountPersist ∧
      (finish plist inputs).run session = .ok record { session with account := none } := by
  cases present : session.account with
  | none => exact .inl ⟨noActiveSession, by simp only [finish, EStateM.run, present]⟩
  | some account =>
      cases steps : finishSteps plist session.username account inputs with
      | error fault => exact .inl ⟨fault, by simp only [finish, EStateM.run, present, steps]⟩
      | ok persist =>
          exact .inr ⟨⟨account, persist⟩, rfl, steps, by
            simp only [finish, EStateM.run, present, steps]⟩

/-! ## Runs of a session -/

/-- A call on a session. -/
inductive SessionCall where
  | submit2fa (code : String) (exchange : TwoFactorExchange)
  | finish (inputs : FinishInputs)

/-- What a call on a session returns. -/
inductive SessionReply where
  | verified (loggedIn : Bool)
  | finished (record : FinishRecord)

/-- Whether a call returned `Ok` from `finish`. -/
def SessionReply.isFinished : Except (Fault WrappedError) SessionReply → Bool
  | .ok (.finished _) => true
  | _ => false

/-- A call, as the method it names. -/
def SessionCall.run (plist : PlistCodec) :
    SessionCall → EStateM (Fault WrappedError) LoginSession SessionReply
  | .submit2fa code exchange =>
      SessionReply.verified <$> IMessageBridge.submit2fa plist code exchange
  | .finish inputs => SessionReply.finished <$> IMessageBridge.finish plist inputs

/-- A run of calls on one session, each from the state the last one left: what each
returned, and the session after the last. -/
def runSession (plist : PlistCodec) : List SessionCall → LoginSession →
    List (Except (Fault WrappedError) SessionReply) × LoginSession
  | [], session => ([], session)
  | call :: calls, session =>
      let result := (call.run plist).run session
      let rest := runSession plist calls (finalState result)
      (returnedValue result :: rest.1, rest.2)

/-- From an empty slot, every call returns `Err("No active session")`, whatever its
arguments, and changes nothing. -/
theorem call_emptySlot (plist : PlistCodec) (call : SessionCall) {session : LoginSession}
    (empty : session.account = none) :
    (call.run plist).run session = .error noActiveSession session := by
  cases call <;> simp only [SessionCall.run, Fault.map_run] <;>
    simp only [EStateM.run, submit2fa, finish, empty]

theorem runSession_emptySlot (plist : PlistCodec) :
    ∀ (calls : List SessionCall) {session : LoginSession}, session.account = none →
      runSession plist calls session = (calls.map fun _ => .error noActiveSession, session)
  | [], _, _ => rfl
  | call :: calls, session, empty => by
      simp only [runSession, call_emptySlot plist call empty, finalState, returnedValue,
        runSession_emptySlot plist calls empty, List.map_cons]

theorem call_finished_empties (plist : PlistCodec) (call : SessionCall)
    (session : LoginSession)
    (finished : SessionReply.isFinished (returnedValue ((call.run plist).run session))) :
    (finalState ((call.run plist).run session)).account = none := by
  cases call with
  | submit2fa code exchange =>
      simp only [SessionCall.run, Fault.map_run] at finished
      split at finished <;> simp [returnedValue, SessionReply.isFinished] at finished
  | finish inputs =>
      simp only [SessionCall.run, finalState_map]
      rcases finish_cases plist inputs session with
        ⟨fault, failed⟩ | ⟨record, -, -, returned⟩
      · simp [SessionCall.run, Fault.map_run, failed, returnedValue,
          SessionReply.isFinished] at finished
      · rw [returned]
        rfl

/-- At most one call of a run returns `Ok` from `finish`. -/
theorem runSession_finishesOnce (plist : PlistCodec) :
    ∀ (calls : List SessionCall) (session : LoginSession),
      (runSession plist calls session).1.countP SessionReply.isFinished ≤ 1
  | [], _ => by simp [runSession]
  | call :: calls, session => by
      simp only [runSession, List.countP_cons]
      by_cases finished : SessionReply.isFinished (returnedValue ((call.run plist).run session))
      · rw [runSession_emptySlot plist calls (call_finished_empties plist call session finished),
          if_pos finished]
        simp [List.countP_eq_zero, SessionReply.isFinished]
      · simpa [finished] using runSession_finishesOnce plist calls _

/-- A run in which a `finish` returned `Ok` ends with an empty slot. -/
theorem runSession_finished_empties (plist : PlistCodec) :
    ∀ (calls : List SessionCall) (session : LoginSession) (record : FinishRecord),
      .ok (.finished record) ∈ (runSession plist calls session).1 →
        (runSession plist calls session).2.account = none
  | [], _, _, member => by simp [runSession] at member
  | call :: calls, session, record, member => by
      simp only [runSession, List.mem_cons] at member ⊢
      rcases member with first | later
      · have empty := call_finished_empties plist call session (by rw [← first]; rfl)
        rw [runSession_emptySlot plist calls empty]
        exact empty
      · exact runSession_finished_empties plist calls _ record later

/-! ## What a session's account holds -/

/-- The slot holds, whenever it holds an account, one with what a login installs. -/
def LoginSession.HoldsLogin (session : LoginSession) : Prop :=
  ∀ account, session.account = some account → account.HoldsLogin

theorem loginStart_holdsLogin {crypto : Primitives} {plist : PlistCodec}
    {appleId password : String} {exchange : StartExchange} {session : LoginSession}
    (started : loginStart crypto plist appleId password exchange = .ok session) :
    session.HoldsLogin := by
  obtain ⟨_, _, account, logged, holds, -, -⟩ := loginStart_eq_ok started
  intro held present
  rw [holds, Option.some.injEq] at present
  rw [← present]
  exact loginEmailPass_holdsLogin logged

theorem call_holdsLogin (plist : PlistCodec) (call : SessionCall) {session : LoginSession}
    (held : session.HoldsLogin) : (finalState ((call.run plist).run session)).HoldsLogin := by
  cases call with
  | submit2fa code exchange =>
      simp only [SessionCall.run, finalState_map, submit2fa_finalState]
      cases present : session.account with
      | none => exact held
      | some account =>
          obtain ⟨tokens, leaves⟩ := verify2fa_finalState plist code exchange account
          rintro _ ⟨⟩
          rw [leaves]
          exact held account present
  | finish inputs =>
      simp only [SessionCall.run, finalState_map]
      rcases finish_cases plist inputs session with
        ⟨fault, failed⟩ | ⟨record, -, -, returned⟩
      · rw [failed]
        exact held
      · rw [returned]
        rintro _ ⟨⟩

/-- Every state a run of calls reaches from a session holding a login holds one. -/
theorem runSession_holdsLogin (plist : PlistCodec) :
    ∀ (calls : List SessionCall) {session : LoginSession}, session.HoldsLogin →
      (runSession plist calls session).2.HoldsLogin
  | [], _, held => held
  | call :: calls, _, held => runSession_holdsLogin plist calls (call_holdsLogin plist call held)

theorem persistData_spares_spd (plist : PlistCodec) (username : String)
    {account : AppleAccount} {spd : Dictionary} (present : account.spd = some spd) :
    Fault.Spares (libRs 935) (persistData plist username account) := by
  have differs : libRs 936 ≠ libRs 935 := by decide
  unfold persistData
  refine Fault.spares_bind (spares_okOr _ _ _) fun pet => ?_
  rw [present]
  refine Fault.spares_bind (fun _ => by simp [expectAt, Fault.ofPanic]) fun spd => ?_
  refine Fault.spares_bind (Fault.spares_expectAt _ _ differs) fun adsid => ?_
  refine Fault.spares_bind (Fault.spares_expectAt _ _ differs) fun adsid => ?_
  exact Fault.spares_bind (spares_serviceCall _ _ _) fun _ => Fault.spares_pure _


/-! ## A scripted session -/

/-- A codec that writes one dictionary, as the given bytes, and reads those bytes and
the bodies of a script. -/
def writingPlist (written : Dictionary) (bytes : Bytes) (script : List (Bytes × Dictionary)) :
    PlistCodec where
  fromBytes := (scriptedPlist ((bytes, written) :: script)).fromBytes
  toWriterBinary := fun dictionary =>
    if dictionary = written then .ok bytes else .error "not written"
  fromBytes_toWriterBinary := fun dictionary output wrote => by
    by_cases same : dictionary = written
    · simp only [same, if_true, Except.ok.injEq] at wrote
      simp [scriptedPlist, same, wrote]
    · simp [same] at wrote

/-- The scripted server with that SPD, and a codec that writes it. -/
def sessionPlist : PlistCodec := writingPlist petSpd [9] (scriptedBodies petSpd)

/-- A `login_start` the scripted server accepts. -/
def sessionStart : StartExchange := ⟨.ok (), scriptedLogin, scriptedVerify []⟩

/-- The account that login leaves: the SPD's PET, valid for an hour. -/
def petAccount : AppleAccount :=
  ⟨some petSpd, some "user@example.com",
    petGrant, some (asBytes "secret")⟩

/-- The session `login_start` returns. -/
def startedSession : LoginSession :=
  ⟨some petAccount, "user@example.com", asBytes "secret", false⟩

/-- The session once `finish` has taken its account. -/
def consumedSession : LoginSession := { startedSession with account := none }

/-- Services that all succeed, for a first login with no identity or users given. -/
def servicesAccepting : FinishInputs := ⟨false, none, .ok true, .ok false, .ok (), .ok ()⟩

/-- The credentials `finish` persists for that session. -/
def persistShown : AccountPersistData :=
  ⟨"user@example.com", encodeHex (asBytes "secret"), "pet", "000001", "", base64Encode [9]⟩

/-! ## What a session guarantees -/

/-- An `Err` (or a panic) of `finish` leaves the session as it was, and an `Ok` returns
the slot's account and empties the slot. Over any run of calls at most one `finish`
returns `Ok`, and once one has, every later call returns `Err("No active session")`,
whatever its arguments, and leaves the session as it is. -/
theorem finish_consumes (plist : PlistCodec) :
    (∀ (inputs : FinishInputs) (session : LoginSession) (fault : Fault WrappedError)
        (after : LoginSession),
      (finish plist inputs).run session = .error fault after → after = session) ∧
    (∀ (inputs : FinishInputs) (session : LoginSession) (record : FinishRecord)
        (after : LoginSession),
      (finish plist inputs).run session = .ok record after →
      session.account = some record.tokenProvider ∧ after = { session with account := none }) ∧
    (∀ (calls : List SessionCall) (session : LoginSession),
      (runSession plist calls session).1.countP SessionReply.isFinished ≤ 1) ∧
    (∀ (calls later : List SessionCall) (session : LoginSession) (record : FinishRecord),
      .ok (.finished record) ∈ (runSession plist calls session).1 →
      runSession plist later (runSession plist calls session).2 =
        (later.map fun _ => .error noActiveSession, (runSession plist calls session).2)) := by
  refine ⟨fun inputs session fault after failed => ?_,
    fun inputs session record after returned => ?_, runSession_finishesOnce plist,
    fun calls later session record member =>
      runSession_emptySlot plist later
        (runSession_finished_empties plist calls session record member)⟩
  · rcases finish_cases plist inputs session with ⟨_, failedIs⟩ | ⟨_, -, -, returnedIs⟩
    · rw [failedIs] at failed
      cases failed
      rfl
    · rw [returnedIs] at failed
      cases failed
  · rcases finish_cases plist inputs session with
      ⟨_, failedIs⟩ | ⟨_, present, -, returnedIs⟩
    · rw [failedIs] at returned
      cases returned
    · rw [returnedIs] at returned
      cases returned
      exact ⟨present, rfl⟩

theorem finish_consumes_shown :
    startedSession = startedSession ∧
    (startedSession.account = some petAccount ∧
      consumedSession = { startedSession with account := none }) ∧
    runSession sessionPlist [.submit2fa "123456" (scriptedVerify [])] consumedSession =
      ([.error noActiveSession], consumedSession) :=
  ⟨(finish_consumes sessionPlist).1 { servicesAccepting with delegates := .error "boom" }
      startedSession (.error (.genericError ("Failed to get delegates: " ++ "boom")))
      startedSession rfl,
    (finish_consumes sessionPlist).2.1 servicesAccepting startedSession
      ⟨petAccount, persistShown⟩ consumedSession rfl,
    (finish_consumes sessionPlist).2.2.2 [.finish servicesAccepting]
      [.submit2fa "123456" (scriptedVerify [])] startedSession ⟨petAccount, persistShown⟩
      (List.mem_singleton.mpr rfl)⟩

/-- What a login installs, read where the code unwraps it: `build_2fa_headers` does not
panic at its SPD unwrap, nor `finish` at its `expect("No SPD after login")`. -/
theorem holdsLogin_spares {account : AppleAccount} (held : account.HoldsLogin)
    (plist : PlistCodec) (username : String) :
    (∀ sms anisette, Fault.Spares (clientRs 1013) (build2faHeaders sms anisette account)) ∧
      Fault.Spares (libRs 935) (persistData plist username account) := by
  obtain ⟨spd, present⟩ := Option.isSome_iff_exists.mp held.1
  exact ⟨fun sms anisette => build2faHeaders_spares_spd sms anisette present,
    persistData_spares_spd plist username present⟩

/-- The account holds an SPD wherever a 2FA request or `finish` reads it: at every pass
of the driver's loop, after the login of `login_start` (whose push reads the account it
returned), and in the slot of a session `login_start` returned, after any run of
`submit_2fa` and `finish` calls. -/
theorem spd_present :
    (∀ (crypto : Primitives) (plist : PlistCodec) (client : Except Error Unit)
        (username : String) (password : Bytes) (first : LoginExchange)
        (rounds : List LoopRound) (account : AppleAccount) (response : LoginState),
      loginWithAnisette crypto plist client username password first rounds =
        .looping account response →
      account.spd.isSome ∧
        ∀ sms anisette, Fault.Spares (clientRs 1013) (build2faHeaders sms anisette account)) ∧
    (∀ (crypto : Primitives) (plist : PlistCodec) (username : String) (hashedPassword : Bytes)
        (exchange : LoginExchange) (account after : AppleAccount) (state : LoginState),
      (loginEmailPass crypto plist username hashedPassword exchange).run account =
        .ok state after →
      after.spd.isSome ∧
        ∀ sms anisette, Fault.Spares (clientRs 1013) (build2faHeaders sms anisette after)) ∧
    (∀ (crypto : Primitives) (plist : PlistCodec) (appleId password : String)
        (exchange : StartExchange) (session : LoginSession),
      loginStart crypto plist appleId password exchange = .ok session →
      ∀ (calls : List SessionCall) (account : AppleAccount),
        (runSession plist calls session).2.account = some account →
        account.spd.isSome ∧
          (∀ sms anisette,
            Fault.Spares (clientRs 1013) (build2faHeaders sms anisette account)) ∧
          Fault.Spares (libRs 935)
            (persistData plist (runSession plist calls session).2.username account)) := by
  refine ⟨fun crypto plist client username password first rounds account response looping => ?_,
    fun crypto plist username hashedPassword exchange account after state returned => ?_,
    fun crypto plist appleId password exchange session started calls account present => ?_⟩
  · have held : account.HoldsLogin := by
      have reached :=
        loginWithAnisette_holdsLogin crypto plist client username password first rounds
      rwa [looping] at reached
    exact ⟨held.1, (holdsLogin_spares held plist username).1⟩
  · have held := loginEmailPass_holdsLogin returned
    exact ⟨held.1, (holdsLogin_spares held plist username).1⟩
  · have held := runSession_holdsLogin plist calls (loginStart_holdsLogin started) account present
    exact ⟨held.1, holdsLogin_spares held plist _⟩

/-- The scripted server, asking for a code on the trusted devices after the password. -/
def devicePrompting : PlistCodec :=
  scriptedPlist ((asBytes "complete", [("Response", .dictionary [("Status",
      .dictionary [("ec", .integer 0), ("au", .string "trustedDeviceSecondaryAuth")]),
      ("M2", .data []), ("spd", .data [7])])]) :: scriptedBodies scriptedSpd)

/-- A pass of the loop the scripted server accepts, with the code it was sent. -/
def acceptedRound : LoopRound := ⟨"123456", scriptedVerify [], scriptedVerify [], scriptedLogin⟩

theorem spd_present_shown :
    (scriptedAccount.spd.isSome ∧ ∀ sms anisette,
      Fault.Spares (clientRs 1013) (build2faHeaders sms anisette scriptedAccount)) ∧
    (scriptedAccount.spd.isSome ∧ ∀ sms anisette,
      Fault.Spares (clientRs 1013) (build2faHeaders sms anisette scriptedAccount)) ∧
    ({ petAccount with tokens := ∅ }.spd.isSome ∧
      (∀ sms anisette, Fault.Spares (clientRs 1013)
        (build2faHeaders sms anisette { petAccount with tokens := ∅ })) ∧
      Fault.Spares (libRs 935)
        (persistData sessionPlist "user@example.com" { petAccount with tokens := ∅ })) :=
  ⟨spd_present.1 acceptingCrypto devicePrompting (.ok ()) "user@example.com" []
      scriptedLogin [acceptedRound, acceptedRound] scriptedAccount .needsLogin rfl,
    spd_present.2.1 acceptingCrypto devicePrompting "user@example.com" [] scriptedLogin
      scriptedAccount scriptedAccount .needsDevice2FA rfl,
    spd_present.2.2 acceptingCrypto sessionPlist " user@example.com " "secret" sessionStart
      startedSession rfl [.submit2fa "123456" (scriptedVerify [])]
      { petAccount with tokens := ∅ } rfl⟩

end IMessageBridge
