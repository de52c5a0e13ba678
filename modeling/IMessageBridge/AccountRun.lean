import IMessageBridge.AccountReads
import IMessageBridge.Grandslam

/-!
# Runs of the account

The bridge calls the account's methods one after another. Each call starts from the
state the last one left, whatever that call returned: an `Err` or a panic leaves the
account as the call left it (`runAccount`). Calls made this way keep what a login
installed.

* `accountRun_keepsLogin`: from an account that holds an SPD and the hashed password,
  every run of calls ends in an account that still holds both, panics included. A run
  with no explicit `login_email_pass` also never changes the username or the hashed
  password. `get_token` may log in again silently, but it signs in with exactly those
  credentials, so writing them back changes nothing.

Each call's part is one lemma on what the call may write (`KeepsLogin`). The run lemma
follows by induction over the calls.
-/

namespace IMessageBridge

/-- What a call may do to the login the account keeps: the hashed password stays, and
neither the username nor an SPD is ever dropped. -/
structure KeepsLogin (before after : AppleAccount) : Prop where
  hashedPassword : after.hashedPassword = before.hashedPassword
  username : before.username.isSome → after.username.isSome
  spd : before.spd.isSome → after.spd.isSome

namespace KeepsLogin

theorem refl (account : AppleAccount) : KeepsLogin account account := ⟨rfl, id, id⟩

theorem trans {first second third : AppleAccount} (early : KeepsLogin first second)
    (late : KeepsLogin second third) : KeepsLogin first third :=
  ⟨late.hashedPassword.trans early.hashedPassword, late.username ∘ early.username,
    late.spd ∘ early.spd⟩

theorem withTokens (account : AppleAccount) (tokens : TokenMap) :
    KeepsLogin account { account with tokens := tokens } :=
  ⟨rfl, id, id⟩

end KeepsLogin

/-! ## What each call writes -/

/-- Whatever a login returns, it has written a username: the one it was given, or the
SPD's account name. The hashed password is the one it was given or the old one, and the
SPD is the one it installed or the old one. -/
theorem loginEmailPass_finalState (crypto : Primitives) (plist : PlistCodec)
    (username : String) (hashedPassword : Bytes) (exchange : LoginExchange)
    (account : AppleAccount) :
    ∃ name hashed spd tokens,
      finalState ((loginEmailPass crypto plist username hashedPassword exchange).run account) =
        { account with
          username := some name, hashedPassword := hashed, spd := spd, tokens := tokens } ∧
      (hashed = account.hashedPassword ∨ hashed = some hashedPassword) ∧
      (spd = account.spd ∨ spd.isSome) := by
  rw [loginEmailPass_run]
  split
  · exact ⟨_, _, _, _, rfl, .inl rfl, .inl rfl⟩
  · split
    · exact ⟨_, _, _, _, rfl, .inr rfl, .inl rfl⟩
    · rw [adoptSpd_run]
      split
      · exact ⟨_, _, _, _, rfl, .inr rfl, .inl rfl⟩
      · split
        · exact ⟨_, _, _, _, rfl, .inr rfl, .inl rfl⟩
        · exact ⟨_, _, _, _, rfl, .inr rfl, .inr rfl⟩

theorem loginEmailPass_holdsLogin_finalState {crypto : Primitives} {plist : PlistCodec}
    {username : String} {hashedPassword : Bytes} {exchange : LoginExchange}
    {account : AppleAccount} (held : account.HoldsLogin) :
    (finalState
      ((loginEmailPass crypto plist username hashedPassword exchange).run account)).HoldsLogin := by
  obtain ⟨_, hashed, spd, tokens, afterIs, hashedIs, spdIs⟩ :=
    loginEmailPass_finalState crypto plist username hashedPassword exchange account
  rw [afterIs]
  refine ⟨?_, ?_⟩
  · rcases spdIs with rfl | present
    exacts [held.1, present]
  · rcases hashedIs with rfl | rfl
    exacts [held.2, rfl]

theorem finalState_afterRelogin (token : String)
    (result : EStateM.Result (Fault Error) AppleAccount LoginState) :
    finalState (afterRelogin token result) = finalState result := by
  unfold afterRelogin
  split <;> rfl

/-- `get_token` keeps the login: its silent re-login signs in with the stored username
and hashed password, so the hashed password it writes back is the same. -/
theorem getToken_keepsLogin (crypto : Primitives) (plist : PlistCodec)
    (exchange : LoginExchange) (now : SystemTime) (token : String) (account : AppleAccount) :
    KeepsLogin account (finalState ((getToken crypto plist exchange now token).run account)) := by
  unfold getToken EStateM.run
  dsimp only
  split
  · exact .refl _
  · exact .refl _
  · split
    · rename_i username hashedPassword _ hashed
      rw [finalState_afterRelogin]
      obtain ⟨name, hashedAfter, spd, tokens, afterIs, hashedIs, spdIs⟩ :=
        loginEmailPass_finalState crypto plist username hashedPassword exchange account
      unfold EStateM.run at afterIs
      rw [afterIs]
      refine ⟨?_, fun _ => rfl, fun present => ?_⟩
      · rcases hashedIs with rfl | rfl
        exacts [rfl, hashed.symm]
      · rcases spdIs with rfl | other
        exacts [present, other]
    · exact .refl _

/-- The GsService2 calls that `get_token` authenticates keep the login: they write the
account only through it. -/
theorem hbCall_keepsLogin (crypto : Primitives) (plist : PlistCodec) (exchange : GsExchange)
    (lines : HbLines) (urlSwitch url : String)
    (adjust : List (String × HeaderValue) → List (String × HeaderValue)) (packet : Dictionary)
    (account : AppleAccount) :
    KeepsLogin account
      (finalState ((hbCall crypto plist exchange lines urlSwitch url adjust packet).run account)) := by
  rw [hbCall_finalState]
  split
  · exact getToken_keepsLogin _ _ _ _ _ _
  · exact .refl _

theorem updatePostdata_keepsLogin (crypto : Primitives) (plist : PlistCodec)
    (pushToken : Option String) (deviceName : String) (logout : Option String)
    (services : List String) (exchange : GsExchange) (account : AppleAccount) :
    KeepsLogin account (finalState ((updatePostdata crypto plist pushToken deviceName logout
      services exchange).run account)) :=
  hbCall_keepsLogin _ _ _ _ _ _ _ _ _

theorem logoutLoop_keepsLogin (crypto : Primitives) (plist : PlistCodec)
    (pushToken : Option String) (deviceName : String) (exchanges : Nat → GsExchange) :
    ∀ (k : Nat) (services : List String) (account : AppleAccount),
      KeepsLogin account (finalState
        ((logoutLoop crypto plist pushToken deviceName exchanges k services).run account))
  | _, [], _ => .refl _
  | k, service :: services, account => by
      rw [logoutLoop]
      exact finalState_bind_of_trans KeepsLogin KeepsLogin.trans
        (updatePostdata_keepsLogin _ _ _ _ _ _ _ _)
        fun _ middle => logoutLoop_keepsLogin _ _ _ _ _ (k + 1) services middle

theorem logoutAll_keepsLogin (crypto : Primitives) (plist : PlistCodec)
    (pushToken : Option String) (deviceName : String) (exchanges : Nat → GsExchange)
    (account : AppleAccount) :
    KeepsLogin account (finalState
      ((logoutAll crypto plist pushToken deviceName exchanges).run account)) := by
  rw [logoutAll]
  exact finalState_bind_of_trans KeepsLogin KeepsLogin.trans
    (logoutLoop_keepsLogin _ _ _ _ _ 0 logoutServices account)
    fun _ middle => finalState_bind_of_trans KeepsLogin KeepsLogin.trans
      (updatePostdata_keepsLogin _ _ _ _ _ _ _ middle) fun _ _ => .refl _

/-- `circle` keeps the login: outside a 2FA step it writes the account only through
`get_token`. -/
theorem circle_keepsLogin (crypto : Primitives) (plist : PlistCodec)
    (message : CircleSendMessage) (isTwofa : Bool) (exchange : CircleExchange)
    (account : AppleAccount) :
    KeepsLogin account (finalState ((circle crypto plist message isTwofa exchange).run account)) := by
  rw [circle_finalState]
  split
  · exact .refl _
  · split
    · exact .refl _
    · rw [circleAuth_finalState]
      split
      · exact .refl _
      · exact getToken_keepsLogin _ _ _ _ _ _

theorem KeepsLogin.holdsLogin {before after : AppleAccount} (kept : KeepsLogin before after)
    (held : before.HoldsLogin) : after.HoldsLogin :=
  ⟨kept.spd held.1, kept.hashedPassword ▸ held.2⟩

/-! ## Runs -/

/-- A call of the account's API, with what it receives from outside the account. -/
inductive AccountCall where
  | loginEmailPass (username : String) (hashedPassword : Bytes) (exchange : LoginExchange)
  | getToken (exchange : LoginExchange) (now : SystemTime) (token : String)
  | send2faToDevices (exchange : TwoFactorExchange)
  | sendSms2faToDevices (phoneId : Nat) (exchange : TwoFactorExchange)
  | verify2fa (code : String) (exchange : TwoFactorExchange)
  | verifySms2fa (exchange : TwoFactorExchange)
  | getName
  | getAuthExtras (exchange : AuthExtrasExchange)
  | requestUpdateAccount (exchange : UpdateAccountExchange)
  | updatePostdata (pushToken : Option String) (deviceName : String) (logout : Option String)
      (services : List String) (exchange : GsExchange)
  | teardown (action : String) (cmd : Nat) (txnid : String) (exchange : GsExchange)
  | logoutAll (pushToken : Option String) (deviceName : String) (exchanges : Nat → GsExchange)
  | circle (message : CircleSendMessage) (isTwofa : Bool) (exchange : CircleExchange)

/-- What a call of the account returns. -/
inductive AccountReply where
  | state (state : LoginState)
  | token (token : Option String)
  | name (first last : String)
  | extras (extras : AuthenticationExtras)
  | text (text : String)
  | loggedOut
  | circle (response : CircleResponse)

/-- Whether a call is an explicit login. -/
def AccountCall.isLogin : AccountCall → Bool
  | .loginEmailPass _ _ _ => true
  | _ => false

/-- A call, as the method it names. -/
def AccountCall.run (crypto : Primitives) (plist : PlistCodec) :
    AccountCall → EStateM (Fault Error) AppleAccount AccountReply
  | .loginEmailPass username hashedPassword exchange =>
      .state <$> IMessageBridge.loginEmailPass crypto plist username hashedPassword exchange
  | .getToken exchange now token =>
      .token <$> IMessageBridge.getToken crypto plist exchange now token
  | .send2faToDevices exchange => .state <$> IMessageBridge.send2faToDevices exchange
  | .sendSms2faToDevices phoneId exchange =>
      .state <$> IMessageBridge.sendSms2faToDevices phoneId exchange
  | .verify2fa code exchange => .state <$> IMessageBridge.verify2fa plist code exchange
  | .verifySms2fa exchange => .state <$> IMessageBridge.verifySms2fa exchange
  | .getName => Fault.reading fun account =>
      Fault.ofPanic ((fun names => .name names.1 names.2) <$> IMessageBridge.getName account)
  | .getAuthExtras exchange => .extras <$> IMessageBridge.getAuthExtras exchange
  | .requestUpdateAccount exchange =>
      .text <$> IMessageBridge.requestUpdateAccount exchange
  | .updatePostdata pushToken deviceName logout services exchange =>
      .state <$> IMessageBridge.updatePostdata crypto plist pushToken deviceName logout services
        exchange
  | .teardown action cmd txnid exchange =>
      .state <$> IMessageBridge.teardown crypto plist action cmd txnid exchange
  | .logoutAll pushToken deviceName exchanges =>
      (fun _ => .loggedOut) <$> IMessageBridge.logoutAll crypto plist pushToken deviceName exchanges
  | .circle message isTwofa exchange =>
      .circle <$> IMessageBridge.circle crypto plist message isTwofa exchange

/-- A run of calls on one account, each from the state the last one left: what each
returned, and the account after the last. -/
def runAccount (crypto : Primitives) (plist : PlistCodec) :
    List AccountCall → AppleAccount → List (Except (Fault Error) AccountReply) × AppleAccount
  | [], account => ([], account)
  | call :: calls, account =>
      let result := (call.run crypto plist).run account
      let rest := runAccount crypto plist calls (finalState result)
      (returnedValue result :: rest.1, rest.2)

section Run

variable (crypto : Primitives) (plist : PlistCodec)

/-- Every call but a login keeps the login, whatever it returns. -/
theorem AccountCall.keepsLogin (call : AccountCall) (notLogin : call.isLogin = false)
    (account : AppleAccount) :
    KeepsLogin account (finalState ((call.run crypto plist).run account)) := by
  cases call <;> simp only [AccountCall.run, finalState_map]
  case loginEmailPass => cases notLogin
  case getToken exchange now token => exact getToken_keepsLogin _ _ _ _ _ _
  case send2faToDevices exchange =>
    rw [send2faToDevices_finalState]
    exact .refl _
  case sendSms2faToDevices phoneId exchange =>
    rw [sendSms2faToDevices_finalState]
    exact .refl _
  case verify2fa code exchange =>
    obtain ⟨tokens, written⟩ := verify2fa_finalState plist code exchange account
    exact written ▸ .withTokens _ _
  case verifySms2fa exchange =>
    obtain ⟨tokens, written⟩ := verifySms2fa_finalState exchange account
    exact written ▸ .withTokens _ _
  case getName =>
    rw [finalState_reading]
    exact .refl _
  case getAuthExtras exchange =>
    rw [IMessageBridge.getAuthExtras, finalState_reading]
    exact .refl _
  case requestUpdateAccount exchange =>
    rw [IMessageBridge.requestUpdateAccount, finalState_reading]
    exact .refl _
  case updatePostdata => exact hbCall_keepsLogin _ _ _ _ _ _ _ _ _
  case teardown => exact hbCall_keepsLogin _ _ _ _ _ _ _ _ _
  case logoutAll => exact logoutAll_keepsLogin _ _ _ _ _ _
  case circle => exact circle_keepsLogin _ _ _ _ _ _

/-- Every call, logins included, leaves an account that held a login holding one. -/
theorem AccountCall.holdsLogin (call : AccountCall) {account : AppleAccount}
    (held : account.HoldsLogin) :
    (finalState ((call.run crypto plist).run account)).HoldsLogin := by
  cases login : call.isLogin
  · exact (call.keepsLogin crypto plist login account).holdsLogin held
  · cases call <;> cases login
    simp only [AccountCall.run, finalState_map]
    exact loginEmailPass_holdsLogin_finalState held

theorem runAccount_holdsLogin :
    ∀ (calls : List AccountCall) {account : AppleAccount}, account.HoldsLogin →
      (runAccount crypto plist calls account).2.HoldsLogin
  | [], _, held => held
  | call :: calls, _, held =>
      runAccount_holdsLogin calls (call.holdsLogin crypto plist held)

theorem runAccount_keepsLogin :
    ∀ (calls : List AccountCall) (account : AppleAccount),
      (∀ call ∈ calls, call.isLogin = false) →
      KeepsLogin account (runAccount crypto plist calls account).2
  | [], _, _ => .refl _
  | call :: calls, account, noLogin =>
      (call.keepsLogin crypto plist (noLogin call (List.mem_cons_self _ _)) account).trans
        (runAccount_keepsLogin calls _ fun other member =>
          noLogin other (List.mem_cons_of_mem _ member))

/-- From an account that holds an SPD and the hashed password, every run of the account's
calls leaves one that holds both, whatever each call returned, panics included. A run
with no explicit `login_email_pass` also keeps the hashed password and never drops the
username or the SPD: `get_token`'s silent re-logins sign in with the stored
credentials. -/
theorem accountRun_keepsLogin (calls : List AccountCall) (account : AppleAccount)
    (held : account.HoldsLogin) :
    (runAccount crypto plist calls account).2.HoldsLogin ∧
    ((∀ call ∈ calls, call.isLogin = false) →
      KeepsLogin account (runAccount crypto plist calls account).2) :=
  ⟨runAccount_holdsLogin crypto plist calls held, runAccount_keepsLogin crypto plist calls account⟩

end Run

/-- A run that renews the HB token as it expires, reports liveness and signs out of
everything. -/
def renewalRun : List AccountCall :=
  [.getToken scriptedLogin oneSecond hbService, .updatePostdata none "Mac" none [] acceptingGs,
    .logoutAll none "Mac" fun _ => acceptingGs]

theorem accountRun_keepsLogin_shown :
    hbAccount.HoldsLogin ∧
    (runAccount acceptingCrypto scriptedPlistBodies renewalRun hbAccount).2.HoldsLogin ∧
    ((∀ call ∈ renewalRun, call.isLogin = false) →
      KeepsLogin hbAccount (runAccount acceptingCrypto scriptedPlistBodies renewalRun hbAccount).2) :=
  ⟨⟨rfl, rfl⟩, accountRun_keepsLogin acceptingCrypto scriptedPlistBodies renewalRun hbAccount
    ⟨rfl, rfl⟩⟩

end IMessageBridge
