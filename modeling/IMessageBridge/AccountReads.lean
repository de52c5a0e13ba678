import IMessageBridge.Session
import IMessageBridge.GetToken

/-!
# The account's reading calls

`get_name`, `get_auth_extras` and `request_update_account` take the account by `&self`:
they read it and write nothing.

* `get_name` answers the SPD's `fn` and `ln`, and panics on lines 324 and 325 without
  them.
* `get_auth_extras` asks `https://gsa.apple.com/auth` for the trusted phone numbers.
  A 403 means the account cannot use them (`FailedGetting2FAConfig`), an empty list
  means it uses hardware keys (`HardwareKeyError`), and a 201 asks for an SMS to the
  first number. Its `info!` line unwraps the body as UTF-8. The `log` macros evaluate
  their arguments only when the record is logged, so that panic depends on the logger.
* `request_update_account` posts to `setup.icloud.com` with the anisette headers and ten
  fixed ones. Among the fixed ones are the basic authorization of the trimmed username
  and the PET, and the family-auth token under the SPD's `adsid`
  (`requestUpdateAccount_contract`).

`serde_json` and the anisette client are not in this repository. The JSON reading of the
phone numbers, the anisette headers and the round trips are inputs. So is the message of
`Index` on a map without the key, which the map crates write.
-/

namespace IMessageBridge

/-! ## `get_name` -/

/-- `AppleAccount::get_name`. -/
def getName (account : AppleAccount) : Except Panic (String × String) := do
  let spd ← expectAt (clientRs 324) unwrapNone account.spd
  let first ← expectAt (clientRs 324) unwrapNone (spd.get "fn")
  let first ← expectAt (clientRs 324) unwrapNone first.asString
  let spd ← expectAt (clientRs 325) unwrapNone account.spd
  let last ← expectAt (clientRs 325) unwrapNone (spd.get "ln")
  let last ← expectAt (clientRs 325) unwrapNone last.asString
  pure (first, last)

/-! ## `get_auth_extras` -/

/-- `TrustedPhoneNumber`, with the field the bridge reads. -/
structure TrustedPhoneNumber where
  id : Nat
  deriving DecidableEq, Repr

/-- `AuthenticationExtras`, with the fields `get_auth_extras` reads and writes: the
trusted phone numbers, an absent list read as empty, and the state it sets, which JSON
never fills (`#[serde(skip)]`). -/
structure AuthenticationExtras where
  trustedPhoneNumbers : List TrustedPhoneNumber
  newState : Option LoginState
  deriving DecidableEq, Repr

/-- What `get_auth_extras` receives from outside the account: the anisette data of its
headers, the round trip of the request, the bytes of the answer's body, whether the
logger takes this module's `info!` records, and `serde_json::from_slice` of the body
with the display of its error. -/
structure AuthExtrasExchange where
  anisette : Except Error AnisetteData
  reply : Except Error HttpResponse
  body : Except Error Bytes
  infoLogged : Bool
  json : Bytes → Except String (List TrustedPhoneNumber)

/-- The extras of an accepted answer: a 201 asks for an SMS to the first number. -/
def authExtras (status : Nat) (first : TrustedPhoneNumber) (others : List TrustedPhoneNumber) :
    AuthenticationExtras :=
  ⟨first :: others,
    if status = 201 then some (.needsSMS2FAVerification ⟨first.id, "sms", none⟩) else none⟩

/-- The `info!` line: when it is logged, the body is unwrapped as UTF-8. -/
def logAuthExtras (infoLogged : Bool) (body : Bytes) : Except Panic Unit :=
  if infoLogged then (expectAt (clientRs 827) unwrapErr (fromUtf8 body)).map fun _ => ()
  else pure ()

/-- What `get_auth_extras` makes of an answer other than a 403: its body, logged, read
as the trusted phone numbers, of which there must be one. -/
def readAuthExtras (exchange : AuthExtrasExchange) (status : Nat) :
    Except (Fault Error) AuthenticationExtras := do
  let body ← Fault.ofResult exchange.body
  Fault.ofPanic (logAuthExtras exchange.infoLogged body)
  let phones ← Fault.ofResult ((exchange.json body).mapError .serdeError)
  match phones with
  | [] => throw (.error .hardwareKeyError)
  | first :: others => pure (authExtras status first others)

/-- The part of `get_auth_extras` that reads the account. -/
def authExtrasResponse (exchange : AuthExtrasExchange) (account : AppleAccount) :
    Except (Fault Error) AuthenticationExtras := do
  let _ ← build2faHeaders true exchange.anisette account
  let response ← Fault.ofResult exchange.reply
  if response.status = 403 then
    let _ ← Fault.ofResult exchange.body
    throw (.error .failedGetting2FAConfig)
  else readAuthExtras exchange response.status

/-- `AppleAccount::get_auth_extras`. -/
def getAuthExtras (exchange : AuthExtrasExchange) :
    EStateM (Fault Error) AppleAccount AuthenticationExtras :=
  Fault.reading (authExtrasResponse exchange)

/-! ## `request_update_account` -/

/-- `HashMap::extend` and `RequestBuilder::headers`: the entries added replace those of
their names. -/
def overrideEntries {β : Type} (entries added : List (String × β)) : List (String × β) :=
  entries.filter (fun entry => entry.1 ∉ added.map Prod.fst) ++ added

theorem mem_overrideEntries_of_mem {β : Type} {entries added : List (String × β)}
    {entry : String × β} (member : entry ∈ added) : entry ∈ overrideEntries entries added :=
  List.mem_append_right _ member

/-- What `request_update_account` receives from outside the account: the anisette
client's headers, the client info's `update_account_bundle_id`, `plist::to_writer_xml`
of an empty dictionary, the round trip of the request with its text, and the messages
of `Index` on a map without the key, the SPD's (`plist::Dictionary`) and the token
map's (`HashMap`), which those crates write. -/
structure UpdateAccountExchange where
  anisette : Except Error (List (String × String))
  updateAccountBundleId : String
  emptyXml : Except Error Bytes
  reply : List (String × HeaderValue) → Except Error String
  spdMissingKey : String
  tokensMissingKey : String

/-- The headers `request_update_account` adds to the anisette ones. -/
def updateAccountHeaders (adsid username pet familyToken bundleId : String) :
    List (String × String) :=
  [("Authorization", "Basic " ++ base64Encode (asBytes (strTrim username ++ ":" ++ pet))),
    ("User-Agent",
      "Mozilla/5.0 (Macintosh; Intel Mac OS X 10_15_7) AppleWebKit/605.1.15 (KHTML, like Gecko)"),
    ("X-Apple-ADSID", adsid),
    ("X-Apple-GS-Token", base64Encode (asBytes (adsid ++ ":" ++ familyToken))),
    ("X-Apple-I-Current-Application", "com.apple.systempreferences.AppleIDSettings"),
    ("X-Apple-I-Current-Application-Version", "1"),
    ("X-MMe-Client-Info", bundleId),
    ("X-MMe-Country", "US"),
    ("X-MMe-Language", "en,en-US"),
    ("x-apple-i-device-type", "1")]

/-- The headers the request is built with before the header map replaces its own. -/
def updateAccountRequestHeaders : List (String × HeaderValue) :=
  [("Accept", "text/html,application/xhtml+xml,application/xml;q=0.9,*/*;q=0.8"),
    ("Accept-Encoding", "gzip, deflate, br"), ("Accept-Language", "en-US,en"),
    ("Content-Type", "text/plist"), ("Origin", "null"), ("Sec-Fetch-Dest", "document"),
    ("Sec-Fetch-Mode", "navigate"), ("Sec-Fetch-Site", "cross-site")].map fun header =>
      (asciiLowercase header.1, asBytes header.2)

/-- The part of `request_update_account` that reads the account. -/
def updateAccountResponse (exchange : UpdateAccountExchange) (account : AppleAccount) :
    Except (Fault Error) String := do
  let spd ← Fault.ofPanic (expectAt (clientRs 847) unwrapNone account.spd)
  let adsid ← Fault.ofPanic (expectAt (clientRs 847) exchange.spdMissingKey (spd.get "adsid"))
  let adsid ← Fault.ofPanic (expectAt (clientRs 847) unwrapNone adsid.asString)
  let base ← Fault.ofResult exchange.anisette
  let username ← Fault.ofPanic (expectAt (clientRs 852) unwrapNone account.username)
  let pet ← Fault.ofPanic (expectAt (clientRs 852) "No pet?" account.getPet)
  let family ← Fault.ofPanic
    (expectAt (clientRs 855) exchange.tokensMissingKey (account.tokens.lookup familyService))
  let map := overrideEntries base
    (updateAccountHeaders adsid username pet family.token exchange.updateAccountBundleId)
  let headerMap ← Fault.ofPanic (headerPairs (clientRs 864) (clientRs 864) map)
  let _ ← Fault.ofResult exchange.emptyXml
  Fault.ofResult (exchange.reply (overrideEntries updateAccountRequestHeaders headerMap))

/-- `AppleAccount::request_update_account`. -/
def requestUpdateAccount (exchange : UpdateAccountExchange) :
    EStateM (Fault Error) AppleAccount String :=
  Fault.reading (updateAccountResponse exchange)

/-- `request_update_account` writes nothing. An `Ok` is the text of the answer to a
request that carries the basic authorization of the trimmed username and the PET, the
SPD's `adsid`, and the family-auth token under it. -/
theorem requestUpdateAccount_contract (exchange : UpdateAccountExchange)
    (account : AppleAccount) :
    finalState ((requestUpdateAccount exchange).run account) = account ∧
    ∀ text after, (requestUpdateAccount exchange).run account = .ok text after →
      after = account ∧ ∃ spd adsid username pet family headers,
        account.spd = some spd ∧ spd.get "adsid" = some (.string adsid) ∧
        account.username = some username ∧ account.getPet = some pet ∧
        account.tokens.lookup familyService = some family ∧
        exchange.reply headers = .ok text ∧
        (asciiLowercase "Authorization",
          asBytes ("Basic " ++ base64Encode (asBytes (strTrim username ++ ":" ++ pet)))) ∈
            headers ∧
        (asciiLowercase "X-Apple-ADSID", asBytes adsid) ∈ headers ∧
        (asciiLowercase "X-Apple-GS-Token",
          asBytes (base64Encode (asBytes (adsid ++ ":" ++ family.token)))) ∈ headers := by
  refine ⟨finalState_reading _ _, fun text after returned => ?_⟩
  obtain ⟨rfl, answered⟩ := Fault.reading_run_eq_ok.mp returned
  simp only [updateAccountResponse, Except.bind_eq_ok, Fault.ofResult_eq_ok,
    Fault.ofPanic_eq_ok, expectAt_eq_ok, Value.asString_eq_some] at answered
  obtain ⟨spd, spdIs, _, found, adsid, rfl, base, -, username, named, pet, petIs, family,
    familyIs, headerMap, copied, _, -, replied⟩ := answered
  have sent : ∀ entry ∈ updateAccountHeaders adsid username pet family.token
      exchange.updateAccountBundleId, (asciiLowercase entry.1, asBytes entry.2) ∈
        overrideEntries updateAccountRequestHeaders headerMap := fun entry member => by
    refine mem_overrideEntries_of_mem ?_
    rw [headerPairs_eq_ok copied]
    exact List.mem_map_of_mem _ (mem_overrideEntries_of_mem member)
  exact ⟨rfl, spd, adsid, username, pet, family, _, spdIs, found, named, petIs, familyIs, replied,
    sent ("Authorization", _) (List.mem_cons_self _ _),
    sent ("X-Apple-ADSID", _) (.tail _ (.tail _ (.head _))),
    sent ("X-Apple-GS-Token", _) (.tail _ (.tail _ (.tail _ (.head _))))⟩

end IMessageBridge
