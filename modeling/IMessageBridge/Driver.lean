import IMessageBridge.TwoFactor

/-!
# The login driver

`AppleAccount::login_with_anisette` logs in once, then loops on the state the last call
returned: it verifies a code, pushes a code to the trusted devices and asks for an SMS,
verifies an SMS code, or logs in again, until the server answers `LoggedIn` or asks for
an extra step. The loop has no bound of its own, so the model runs it over a finite list
of rounds, one per pass, each holding the code `tfa_closure` returns and the answers to
the pass's requests; `loginWithAnisette` is where the run stands after them.

What a login installs stays: every pass starts from an account that holds an SPD and
the hashed password (`AppleAccount.HoldsLogin`), and so does the account the loop
returns, because the first login's `Ok` installed them and no call of the loop takes
them away. The verify calls write only the
token map whatever they return (`verify2fa_finalState`), and the push calls write
nothing, which the login session below relies on as well.
-/

namespace IMessageBridge

/-- What a login's `Ok` leaves in the account: an SPD and the hashed password. -/
def AppleAccount.HoldsLogin (account : AppleAccount) : Prop :=
  account.spd.isSome ∧ account.hashedPassword.isSome

@[simp]
theorem holdsLogin_withTokens (account : AppleAccount) (tokens : TokenMap) :
    ({ account with tokens := tokens } : AppleAccount).HoldsLogin ↔ account.HoldsLogin :=
  Iff.rfl

theorem loginEmailPass_holdsLogin {crypto : Primitives} {plist : PlistCodec}
    {username : String} {hashedPassword : Bytes} {exchange : LoginExchange}
    {account after : AppleAccount} {state : LoginState}
    (returned : (loginEmailPass crypto plist username hashedPassword exchange).run account =
      .ok state after) :
    after.HoldsLogin := by
  obtain ⟨_, _, _, _, _, _, _, afterIs, _⟩ := loginEmailPass_eq_ok returned
  rw [afterIs]
  exact ⟨rfl, rfl⟩

/-! ## What the 2FA calls write -/

theorem installTokenHeaders_finalState (format : TokenHeaderFormat) (now : SystemTime)
    (response : HttpResponse) (account : AppleAccount) :
    ∃ tokens, finalState ((installTokenHeaders format now response).run account) =
      { account with tokens := tokens } := by
  rw [installTokenHeaders_run]
  split
  · exact ⟨account.tokens, rfl⟩
  · split
    · exact ⟨_, rfl⟩
    · split <;> exact ⟨_, rfl⟩

/-- `verify_2fa` writes only the token map, whether it returns, fails or panics. -/
theorem verify2fa_finalState (plist : PlistCodec) (code : String)
    (exchange : TwoFactorExchange) (account : AppleAccount) :
    ∃ tokens, finalState ((verify2fa plist code exchange).run account) =
      { account with tokens := tokens } := by
  rw [verify2fa_run]
  split
  · exact installTokenHeaders_finalState _ _ _ _
  · exact ⟨account.tokens, rfl⟩

theorem verifySms2fa_finalState (exchange : TwoFactorExchange) (account : AppleAccount) :
    ∃ tokens, finalState ((verifySms2fa exchange).run account) =
      { account with tokens := tokens } := by
  rw [verifySms2fa_run]
  split
  · exact installTokenHeaders_finalState _ _ _ _
  · exact ⟨account.tokens, rfl⟩

theorem send2faToDevices_finalState (exchange : TwoFactorExchange) (account : AppleAccount) :
    finalState ((send2faToDevices exchange).run account) = account :=
  finalState_reading _ _

theorem sendSms2faToDevices_finalState (phoneId : Nat) (exchange : TwoFactorExchange)
    (account : AppleAccount) :
    finalState ((sendSms2faToDevices phoneId exchange).run account) = account :=
  finalState_reading _ _

theorem finalState_of_eq_ok {ε σ α : Type} {result : EStateM.Result ε σ α} {value : α}
    {after : σ} (returned : result = .ok value after) : finalState result = after := by
  rw [returned]
  rfl

/-! ## The loop -/

/-- What one pass of the loop receives from outside: the code `tfa_closure` returns, the
answer to its 2FA request (a push to the trusted devices is followed by an SMS request,
answered by `smsRequest`), and the exchange of a new login. -/
structure LoopRound where
  code : String
  request : TwoFactorExchange
  smsRequest : TwoFactorExchange
  login : LoginExchange

/-- One pass of the loop on the state the last call returned: the state to loop on, or
`none` when the loop returns the account. -/
def loopPass (crypto : Primitives) (plist : PlistCodec) (username : String)
    (password : Bytes) (round : LoopRound) :
    LoginState → EStateM (Fault Error) AppleAccount (Option LoginState)
  | .needs2FAVerification => some <$> verify2fa plist round.code round.request
  | .needsSMS2FA | .needsDevice2FA => do
      let _ ← send2faToDevices round.request
      some <$> sendSms2faToDevices 1 round.smsRequest
  | .needsSMS2FAVerification _ => some <$> verifySms2fa round.request
  | .needsLogin => some <$> loginEmailPass crypto plist username password round.login
  | .loggedIn => pure none
  | .needsExtraStep step => fun account =>
      if account.getPet.isSome then .ok none account
      else .error (.error (.extraStep step)) account

/-- A pass that returns, whether the loop goes on or stops, leaves what a login installs
in place. -/
theorem loopPass_holdsLogin {crypto : Primitives} {plist : PlistCodec} {username : String}
    {password : Bytes} {round : LoopRound} {response : LoginState} {next : Option LoginState}
    {account after : AppleAccount} (held : account.HoldsLogin)
    (continued : (loopPass crypto plist username password round response).run account =
      .ok next after) :
    after.HoldsLogin := by
  cases response with
  | loggedIn =>
      cases continued
      exact held
  | needsExtraStep step =>
      simp only [loopPass, EStateM.run] at continued
      split at continued <;> cases continued
      exact held
  | needs2FAVerification =>
      obtain ⟨_, verified, -⟩ := Fault.exists_of_map_run_eq_ok continued
      obtain ⟨tokens, leaves⟩ := verify2fa_finalState plist round.code round.request account
      rw [finalState_of_eq_ok verified] at leaves
      rw [leaves]
      exact held
  | needsSMS2FAVerification body =>
      obtain ⟨_, verified, -⟩ := Fault.exists_of_map_run_eq_ok continued
      obtain ⟨tokens, leaves⟩ := verifySms2fa_finalState round.request account
      rw [finalState_of_eq_ok verified] at leaves
      rw [leaves]
      exact held
  | needsLogin =>
      obtain ⟨_, loggedIn, -⟩ := Fault.exists_of_map_run_eq_ok continued
      exact loginEmailPass_holdsLogin loggedIn
  | needsSMS2FA | needsDevice2FA =>
      simp only [loopPass, send2faToDevices, Fault.reading_bind_run] at continued
      split at continued
      · obtain ⟨_, requested, -⟩ := Fault.exists_of_map_run_eq_ok continued
        rw [← finalState_of_eq_ok requested, sendSms2faToDevices_finalState]
        exact held
      · cases continued

/-- Where a run of the driver stands: looping on the account and the state the last call
returned, or returned. -/
inductive DriverStatus where
  | looping (account : AppleAccount) (response : LoginState)
  | returned (result : Except (Fault Error) AppleAccount)

namespace DriverStatus

/-- The status a call leaves: the loop goes on with the state the call returned, returns
the account on `none`, and returns the fault of a call that failed. -/
def ofCall : EStateM.Result (Fault Error) AppleAccount (Option LoginState) → DriverStatus
  | .ok (some response) account => .looping account response
  | .ok none account => .returned (.ok account)
  | .error fault _ => .returned (.error fault)

/-- The account the loop goes on with, or returns, holds what a login installs. -/
def HoldsLogin : DriverStatus → Prop
  | .looping account _ => account.HoldsLogin
  | .returned (.ok account) => account.HoldsLogin
  | .returned (.error _) => True

theorem ofCall_holdsLogin {result : EStateM.Result (Fault Error) AppleAccount (Option LoginState)}
    (continued : ∀ next after, result = .ok next after → after.HoldsLogin) :
    (ofCall result).HoldsLogin := by
  match result with
  | .ok (some next) after => exact continued (some next) after rfl
  | .ok none after => exact continued none after rfl
  | .error _ _ => trivial

end DriverStatus

/-- One pass of the loop, once the driver has returned nothing more happens. -/
def driverPass (crypto : Primitives) (plist : PlistCodec) (username : String)
    (password : Bytes) (status : DriverStatus) (round : LoopRound) : DriverStatus :=
  match status with
  | .looping account response =>
      .ofCall ((loopPass crypto plist username password round response).run account)
  | .returned result => .returned result

/-- `AppleAccount::login_with_anisette` through the given rounds: `client` is the outcome
of building the account's client, `username` and `password` what `appleid_closure`
returns, and `first` the exchange of the first login. -/
def loginWithAnisette (crypto : Primitives) (plist : PlistCodec) (client : Except Error Unit)
    (username : String) (password : Bytes) (first : LoginExchange) (rounds : List LoopRound) :
    DriverStatus :=
  rounds.foldl (driverPass crypto plist username password)
    (match AppleAccount.newWithAnisette client with
      | .error error => .returned (.error (.error error))
      | .ok account =>
          .ofCall ((some <$> loginEmailPass crypto plist username password first).run account))

theorem driverPass_holdsLogin {crypto : Primitives} {plist : PlistCodec} {username : String}
    {password : Bytes} {status : DriverStatus} (round : LoopRound) (held : status.HoldsLogin) :
    (driverPass crypto plist username password status round).HoldsLogin := by
  cases status with
  | looping account response =>
      exact DriverStatus.ofCall_holdsLogin fun _ _ continued =>
        loopPass_holdsLogin held continued
  | returned result => exact held

/-- Every status a run of the driver reaches holds what a login installs. -/
theorem loginWithAnisette_holdsLogin (crypto : Primitives) (plist : PlistCodec)
    (client : Except Error Unit) (username : String) (password : Bytes)
    (first : LoginExchange) (rounds : List LoopRound) :
    (loginWithAnisette crypto plist client username password first rounds).HoldsLogin := by
  have passes : ∀ (rounds : List LoopRound) (status : DriverStatus), status.HoldsLogin →
      (rounds.foldl (driverPass crypto plist username password) status).HoldsLogin := by
    intro rounds
    induction rounds with
    | nil => exact fun _ held => held
    | cons round rest inductionHypothesis =>
        exact fun _ held => inductionHypothesis _ (driverPass_holdsLogin round held)
  refine passes rounds _ ?_
  split
  · trivial
  · exact DriverStatus.ofCall_holdsLogin fun _ _ continued =>
      have ⟨_, loggedIn, _⟩ := Fault.exists_of_map_run_eq_ok continued
      loginEmailPass_holdsLogin loggedIn

/-- An account the driver returns holds an SPD and the hashed password: the loop returns
only from a pass that left what the first login installed. -/
theorem loginWithAnisette_returnsLogin (crypto : Primitives) (plist : PlistCodec)
    (client : Except Error Unit) (username : String) (password : Bytes)
    (first : LoginExchange) (rounds : List LoopRound) (account : AppleAccount)
    (returned : loginWithAnisette crypto plist client username password first rounds =
      .returned (.ok account)) :
    account.spd.isSome ∧ account.hashedPassword.isSome := by
  have reached := loginWithAnisette_holdsLogin crypto plist client username password first rounds
  rwa [returned] at reached

/-- A round whose requests nobody reads: the login before it answered `LoggedIn`. -/
def idleRound : LoopRound := ⟨"", scriptedVerify [], scriptedVerify [], scriptedLogin⟩

theorem loginWithAnisette_returnsLogin_shown :
    loginWithAnisette acceptingCrypto scriptedPlistBodies (.ok ()) "user@example.com" []
        scriptedLogin [idleRound] = .returned (.ok scriptedAccount) ∧
      scriptedAccount.spd.isSome ∧ scriptedAccount.hashedPassword.isSome :=
  ⟨rfl, loginWithAnisette_returnsLogin acceptingCrypto scriptedPlistBodies (.ok ())
    "user@example.com" [] scriptedLogin [idleRound] scriptedAccount rfl⟩

end IMessageBridge
