import IMessageBridge.Plist
import IMessageBridge.Codec
import IMessageBridge.Anisette

/-!
# The Apple account

`icloud_auth::AppleAccount` as the state its methods share: the decrypted SPD, the
username, the token map and the pre-hashed password. The other fields (the anisette
client, the client info and the `reqwest` client) only shape requests, which the model
does not keep; the server's answers are inputs of each method.

This module holds what every login step uses: the crate's `Error` with its texts, the
`LoginState` returned to the caller, the HTTP answers as the code reads them,
`parse_response`, `check_error` and `build_2fa_headers`, and the cryptographic crates
as the parameter `Primitives`.
-/

namespace IMessageBridge

/-- A line of `icloud-auth/src/client.rs`. -/
def clientRs (line : Nat) : Site := ⟨"icloud-auth/src/client.rs", line⟩

/-- `icloud_auth::Error`; the library errors it wraps are kept as their display text. -/
inductive Error where
  | parse
  | authSrp
  | happyBirthdayError
  | bad2faCode
  | authSrpWithMessage (code : Int) (message : String)
  | extraStep (step : String)
  | plistError (description : String)
  | reqwestError (description : String)
  | errorGettingAnisette (error : AnisetteError)
  | failedGetting2FAConfig
  | serdeError (description : String)
  | hardwareKeyError
  deriving DecidableEq, Repr

/-- The `#[error]` texts of `icloud_auth::Error`. -/
def Error.display : Error → String
  | .parse => "Failed to parse the response"
  | .authSrp => "Failed to authenticate."
  | .happyBirthdayError => "Failed to have a happy birthday!."
  | .bad2faCode => "Bad 2fa code."
  | .authSrpWithMessage code message => message ++ " (" ++ toString code ++ ")"
  | .extraStep _ => "Please login to appleid.apple.com to fix this account"
  | .plistError description => "Failed to parse a plist " ++ description
  | .reqwestError description => "Request failed " ++ description
  | .errorGettingAnisette error => "Failed getting anisette data " ++ error.display
  | .failedGetting2FAConfig => "Disable Advanced Data Protection"
  | .serdeError _ => "Serde Error"
  | .hardwareKeyError => "Disable hardware authentication keys and try again!"

/-- `VerifyBody`: the phone id, the mode and, once a code is entered, the code. -/
structure VerifyBody where
  phoneNumber : Nat
  mode : String
  securityCode : Option String
  deriving DecidableEq, Repr

/-- `LoginState`. -/
inductive LoginState where
  | loggedIn
  | needsDevice2FA
  | needs2FAVerification
  | needsSMS2FA
  | needsSMS2FAVerification (body : VerifyBody)
  | needsExtraStep (step : String)
  | needsLogin
  deriving DecidableEq, Repr

/-- `FetchedToken`. -/
structure FetchedToken where
  token : String
  expiration : SystemTime
  deriving DecidableEq

/-- The token map, keyed by service id. -/
abbrev TokenMap := StringMap FetchedToken

/-- The service id of the PET. -/
def petService : String := "com.apple.gs.idms.pet"

/-- The state of an `AppleAccount`. -/
structure AppleAccount where
  spd : Option Dictionary
  username : Option String
  tokens : TokenMap
  hashedPassword : Option Bytes

namespace AppleAccount

/-- `AppleAccount::new_with_anisette`; `client` is the outcome of building the `reqwest`
client (the root certificate and `ClientBuilder::build`). -/
def newWithAnisette (client : Except Error Unit) : Except Error AppleAccount :=
  client.map fun _ => ⟨none, none, ∅, none⟩

/-- `AppleAccount::get_pet`. -/
def getPet (account : AppleAccount) : Option String :=
  (account.tokens.lookup petService).map FetchedToken.token

end AppleAccount

/-! ## Answers of the server -/

/-- An HTTP response as the code reads it: the status, the headers in the order
received (names lowercase, as `HeaderName` stores them) and the body text. -/
structure HttpResponse where
  status : Nat
  headers : List (String × HeaderValue)
  text : Except Error String

namespace HttpResponse

/-- `HeaderMap::get_all`: every value of a header, in order. -/
def getAll (response : HttpResponse) (name : String) : List HeaderValue :=
  response.headers.filterMap fun header =>
    if header.1 = asciiLowercase name then some header.2 else none

/-- `HeaderMap::get`: the first value of a header. -/
def get (response : HttpResponse) (name : String) : Option HeaderValue :=
  (response.getAll name).head?

end HttpResponse

/-- `AnisetteData`, whose source (`icloud-auth/src/anisette.rs`) is not in this
repository: only the header lists the modelled requests read. -/
structure AnisetteData where
  gsServiceHeaders : List (String × String)
  extraHeaders : List (String × String)

/-- A byte of an HTTP token, the characters `HeaderName::from_bytes` accepts. -/
def headerNameByte (byte : UInt8) : Bool :=
  let code := byte.toNat
  (48 ≤ code && code ≤ 57) || (65 ≤ code && code ≤ 90) || (97 ≤ code && code ≤ 122) ||
    [33, 35, 36, 37, 38, 39, 42, 43, 45, 46, 94, 95, 96, 124, 126].contains code

/-- The `HeaderName` and `HeaderValue` unwraps of an anisette header copied into a
request, at the lines that make them. -/
def headerPair (nameSite valueSite : Site) (pair : String × String) :
    Except Panic (String × HeaderValue) :=
  if (asBytes pair.1).all headerNameByte ∧ asBytes pair.1 ≠ [] then
    (expectAt valueSite unwrapErr (headerValueFromStr pair.2)).map fun value =>
      (asciiLowercase pair.1, value)
  else .error ⟨nameSite, unwrapErr⟩

/-- Every anisette header of a list copied into a request. -/
def headerPairs (nameSite valueSite : Site) (pairs : List (String × String)) :
    Except Panic (List (String × HeaderValue)) :=
  pairs.mapM (headerPair nameSite valueSite)

/-- `parse_response`: the plist body's `Response` dictionary. `reply` is the request's
round trip: an `Err` covers serialising the request, sending it and reading it. -/
def parseResponse (plist : PlistCodec) (reply : Except Error HttpResponse) :
    Except (Fault Error) Dictionary := do
  let response ← Fault.ofResult reply
  let text ← Fault.ofResult response.text
  let top ← Fault.ofResult ((plist.fromBytes (asBytes text)).mapError .plistError)
  let body ← Fault.ofPanic (expectAt (clientRs 205) unwrapNone (top.get "Response"))
  match body with
  | .dictionary dictionary => pure dictionary
  | _ => throw (.error .parse)

/-- `AppleAccount::check_error`: the `Status` dictionary (or the response itself) must
carry `ec = 0`; otherwise the error carries `ec` and `em`. -/
def checkError (response : Dictionary) : Except (Fault Error) Unit := do
  let status : Dictionary := match response.get "Status" with
    | some (.dictionary status) => status
    | _ => response
  let code ← Fault.ofPanic (expectAt (clientRs 1000) unwrapNone (status.get "ec"))
  let code ← Fault.ofPanic (expectAt (clientRs 1000) unwrapNone code.asSignedInteger)
  if code ≠ 0 then
    let message ← Fault.ofPanic (expectAt (clientRs 1003) unwrapNone (status.get "em"))
    let message ← Fault.ofPanic (expectAt (clientRs 1003) unwrapNone message.asString)
    throw (.error (.authSrpWithMessage code message))

/-- `HeaderMap::insert`: replace every value of the header. -/
def insertHeader (headers : List (String × HeaderValue)) (name value : String) :
    List (String × HeaderValue) :=
  headers.filter (fun header => header.1 ≠ asciiLowercase name) ++
    [(asciiLowercase name, asBytes value)]

theorem mem_insertHeader {headers : List (String × HeaderValue)} {header : String × HeaderValue}
    {name value : String} :
    header ∈ insertHeader headers name value ↔
      header ∈ headers ∧ header.1 ≠ asciiLowercase name ∨
        header = (asciiLowercase name, asBytes value) := by
  simp [insertHeader]

/-- `AppleAccount::build_2fa_headers`: the identity token of the SPD's `adsid` and
`GsIdmsToken`, after the anisette headers and the Xcode identification. -/
def build2faHeaders (sms : Bool) (anisette : Except Error AnisetteData)
    (account : AppleAccount) : Except (Fault Error) (List (String × HeaderValue)) := do
  let spd ← Fault.ofPanic (expectAt (clientRs 1013) unwrapNone account.spd)
  let dsid ← Fault.ofPanic (expectAt (clientRs 1014) unwrapNone (spd.get "adsid"))
  let dsid ← Fault.ofPanic (expectAt (clientRs 1014) unwrapNone dsid.asString)
  let token ← Fault.ofPanic (expectAt (clientRs 1015) unwrapNone (spd.get "GsIdmsToken"))
  let token ← Fault.ofPanic (expectAt (clientRs 1015) unwrapNone token.asString)
  let identityToken := base64Encode (asBytes (dsid ++ ":" ++ token))
  let validAnisette ← Fault.ofResult anisette
  let headers ← Fault.ofPanic
    (headerPairs (clientRs 1027) (clientRs 1028) validAnisette.extraHeaders)
  let headers := if sms then headers else
    insertHeader (insertHeader headers "Content-Type" "text/x-xml-plist") "Accept"
      "text/x-xml-plist"
  let headers := insertHeader headers "User-Agent" "Xcode"
  let headers := insertHeader headers "Accept-Language" "en-us"
  let headers := insertHeader headers "X-Apple-App-Info" "com.apple.gs.xcode.auth"
  let headers := insertHeader headers "X-Xcode-Version" "11.2 (11B41)"
  pure (headers ++ [("x-apple-identity-token", asBytes identityToken)])

theorem headerPair_site {nameSite valueSite : Site} {pair : String × String} {raised : Panic}
    (failed : headerPair nameSite valueSite pair = .error raised) :
    raised.site = nameSite ∨ raised.site = valueSite := by
  unfold headerPair at failed
  split at failed
  · cases value : headerValueFromStr pair.2 <;>
      simp [value, expectAt, Except.map] at failed
    exact .inr (by rw [← failed])
  · cases failed
    exact .inl rfl

theorem headerPairs_site (nameSite valueSite : Site) :
    ∀ (pairs : List (String × String)) (raised : Panic),
      headerPairs nameSite valueSite pairs = .error raised →
        raised.site = nameSite ∨ raised.site = valueSite
  | [], _, failed => by cases failed
  | pair :: rest, raised, failed => by
      simp only [headerPairs, List.mapM_cons] at failed
      cases first : headerPair nameSite valueSite pair with
      | error early =>
          rw [first] at failed
          cases failed
          exact headerPair_site first
      | ok header =>
          rw [first] at failed
          cases others : rest.mapM (headerPair nameSite valueSite) with
          | error late =>
              rw [others] at failed
              cases failed
              exact headerPairs_site nameSite valueSite rest _ others
          | ok headers =>
              rw [others] at failed
              cases failed

theorem headerPair_eq_ok {nameSite valueSite : Site} {pair : String × String}
    {header : String × HeaderValue} (copied : headerPair nameSite valueSite pair = .ok header) :
    header = (asciiLowercase pair.1, asBytes pair.2) := by
  unfold headerPair at copied
  split at copied
  · obtain ⟨value, parsed, rfl⟩ := Except.map_eq_ok.mp copied
    rw [headerValueFromStr_eq_some (expectAt_eq_ok.mp parsed)]
  · cases copied

theorem headerPairs_eq_ok {nameSite valueSite : Site} :
    ∀ {pairs : List (String × String)} {headers : List (String × HeaderValue)},
      headerPairs nameSite valueSite pairs = .ok headers →
        headers = pairs.map fun pair => (asciiLowercase pair.1, asBytes pair.2)
  | [], _, copied => by
      cases copied
      rfl
  | pair :: rest, headers, copied => by
      simp only [headerPairs, List.mapM_cons, Except.bind_eq_ok] at copied
      obtain ⟨header, first, others, rest, ⟨⟩⟩ := copied
      rw [headerPair_eq_ok first, headerPairs_eq_ok rest, List.map_cons]

theorem build2faHeaders_spares_spd (sms : Bool) (anisette : Except Error AnisetteData)
    {account : AppleAccount} {spd : Dictionary} (present : account.spd = some spd) :
    Fault.Spares (clientRs 1013) (build2faHeaders sms anisette account) := by
  have differs : ∀ line, line ≠ 1013 → clientRs line ≠ clientRs 1013 := fun line ne same =>
    ne (Site.mk.inj same).2
  simp only [build2faHeaders, present]
  refine Fault.spares_bind (fun _ => by simp [expectAt, Fault.ofPanic]) fun spd => ?_
  refine Fault.spares_bind (Fault.spares_expectAt _ _ (differs _ (by decide))) fun dsid => ?_
  refine Fault.spares_bind (Fault.spares_expectAt _ _ (differs _ (by decide))) fun dsid => ?_
  refine Fault.spares_bind (Fault.spares_expectAt _ _ (differs _ (by decide))) fun token => ?_
  refine Fault.spares_bind (Fault.spares_expectAt _ _ (differs _ (by decide))) fun token => ?_
  refine Fault.spares_bind (Fault.spares_ofResult _) fun validAnisette => ?_
  refine Fault.spares_bind (Fault.spares_ofPanic fun raised failed => ?_) fun headers => ?_
  · rcases headerPairs_site _ _ _ _ failed with atName | atValue
    · rw [atName]
      exact differs _ (by decide)
    · rw [atValue]
      exact differs _ (by decide)
  · exact Fault.spares_pure _

/-! ## Cryptographic primitives -/

/-- The cryptographic crates the login calls (`srp`, `pbkdf2`, `hmac`, `aes` with
`cbc`, `sha2`), with the failures the code unwraps as `none`. Only what shapes the
account is kept: the public ephemeral and the client proof go into requests. -/
structure Primitives where
  Verifier : Type
  processReply : (ephemeral username password salt serverPublic : Bytes) → Option Verifier
  verifyServer : Verifier → Bytes → Bool
  key : Verifier → Bytes
  pbkdf2HmacSha256 : (password salt : Bytes) → (rounds : Nat) → Bytes
  hmacSha256 : (key message : Bytes) → Bytes
  aes256CbcDecrypt : (key iv data : Bytes) → Option Bytes
  sha256 : Bytes → Bytes
  /-- An HMAC-SHA256 tag is 32 bytes. -/
  hmacSha256_length : ∀ key message, (hmacSha256 key message).length = 32

end IMessageBridge
