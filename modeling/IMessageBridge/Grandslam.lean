import IMessageBridge.GetToken

/-!
# The GsService2 calls

`update_postdata`, `teardown` and `circle` post a packet to Apple's GsService2: a
dictionary with an empty `Header` and the call's `Request`, written as XML. The first
two, and `circle` outside a 2FA step, authenticate with the HB token: they ask
`get_token` for `com.apple.gs.idms.hb`, which may log in again with the stored
credentials, and send it under the SPD's `adsid` as `X-Apple-HB-Token`, with
`X-Apple-I-UrlSwitch-Info` naming the call. `logout_all` signs out of iCloud, iMessage
and FaceTime one at a time, each request naming the services still signed in, and then
out of all of them.

`update_postdata` and `teardown` differ only in their lines, the header list anisette
gives them, the URL switch, the URL, the packet and the headers a sign-out adjusts, so
they are one definition, `hbCall`, applied to each method's values. The results:

* `hbCall_contract`, what the two share: the call leaves the account exactly as
  `get_token` left it, and an `Ok` means the server accepted a request that carries the
  token `get_token` answered under the `adsid` of the SPD it left;
* `updatePostdata_signout`, what a sign-out adds: its request keeps the HB token and
  the URL switch, reports CDP and OT as off, and drops the service type and the
  recovery status;
* `circle_contract`: the identity token of the SPD in a 2FA step, the HB token
  otherwise, and the account written only through `get_token`;
* `logoutAll_signsOut`: a `logout_all` that returns made its four sign-outs in order,
  each accepted, by induction over the loop (`logoutLoop_eq_ok`).

The anisette data (`icloud-auth/src/anisette.rs`), `plist::to_writer_xml`,
`plist::to_value` and the reading of `CircleResponse` are not in this repository: their
outcomes are inputs (`GsExchange`, `CircleExchange`). A request is kept with the
dictionary whose XML its body is.
-/

namespace IMessageBridge

/-- The service id of the HB token. -/
def hbService : String := "com.apple.gs.idms.hb"

/-- A request to GsService2: its URL, its headers, and the packet its body is the XML
of. -/
structure GsRequest where
  url : String
  headers : List (String × HeaderValue)
  packet : Dictionary

/-- What one GsService2 call receives from outside the account: the anisette headers of
its kind (`get_postdata_headers`, `get_takedown_headers` or `get_circle_headers` of the
data `get_anisette` fetches), the exchange of the login `get_token` may make and the
clock it reads, `plist::to_writer_xml` of the packet, and the server's answer to the
request. -/
structure GsExchange where
  anisette : Except Error (List (String × String))
  relogin : LoginExchange
  now : SystemTime
  toXml : Dictionary → Except Error Bytes
  reply : GsRequest → Except Error HttpResponse

/-- `HeaderMap::remove`. -/
def removeHeader (headers : List (String × HeaderValue)) (name : String) :
    List (String × HeaderValue) :=
  headers.filter fun header => header.1 ≠ asciiLowercase name

theorem mem_removeHeader {headers : List (String × HeaderValue)} {header : String × HeaderValue}
    {name : String} :
    header ∈ removeHeader headers name ↔ header ∈ headers ∧ header.1 ≠ asciiLowercase name := by
  simp [removeHeader]

/-- The packet of every GsService2 call. -/
def gsPacket (request : Value) : Dictionary :=
  [("Header", .dictionary []), ("Request", request)]

/-- `self.spd.as_ref().unwrap().get("adsid").expect("no adsid!!").as_string().unwrap()`
at `line`. -/
def spdAdsid (line : Nat) (account : AppleAccount) : Except Panic String := do
  let spd ← expectAt (clientRs line) unwrapNone account.spd
  let adsid ← expectAt (clientRs line) "no adsid!!" (spd.get "adsid")
  expectAt (clientRs line) unwrapNone adsid.asString

theorem spdAdsid_eq_ok {line : Nat} {account : AppleAccount} {adsid : String} :
    spdAdsid line account = .ok adsid ↔
      ∃ spd, account.spd = some spd ∧ spd.get "adsid" = some (.string adsid) := by
  simp only [spdAdsid, Except.bind_eq_ok, expectAt_eq_ok, Value.asString_eq_some]
  constructor
  · rintro ⟨spd, spdIs, value, found, rfl⟩
    exact ⟨spd, spdIs, found⟩
  · rintro ⟨spd, spdIs, found⟩
    exact ⟨spd, spdIs, _, found, rfl⟩

/-- `headers.insert(name, HeaderValue::from_str(&base64::encode(text)).unwrap())` at
`line`. -/
def insertBase64 (line : Nat) (headers : List (String × HeaderValue)) (name text : String) :
    Except Panic (List (String × HeaderValue)) := do
  let encoded := base64Encode (asBytes text)
  let _ ← expectAt (clientRs line) unwrapErr (headerValueFromStr encoded)
  pure (insertHeader headers name encoded)

/-- The header `insertBase64` inserts, as the request carries it. -/
def base64Header (name text : String) : String × HeaderValue :=
  (asciiLowercase name, asBytes (base64Encode (asBytes text)))

theorem insertBase64_eq (line : Nat) (headers : List (String × HeaderValue))
    (name text : String) :
    insertBase64 line headers name text =
      .ok (insertHeader headers name (base64Encode (asBytes text))) := by
  simp only [insertBase64, headerValueFromStr_visible (base64Encode_visible _)]
  rfl

/-- The end of every GsService2 call: the packet written as XML at `line` and read back as
text on the next line, the POST, and its status. -/
def postPacket (exchange : GsExchange) (line : Nat) (url : String)
    (headers : List (String × HeaderValue)) (packet : Dictionary) :
    Except (Fault Error) HttpResponse := do
  let buffer ← Fault.ofResult (exchange.toXml packet)
  let _ ← Fault.ofPanic (expectAt (clientRs (line + 1)) unwrapErr (fromUtf8 buffer))
  let response ← Fault.ofResult (exchange.reply ⟨url, headers, packet⟩)
  if !isSuccess response.status then throw (.error .authSrp)
  pure response

theorem postPacket_eq_ok {exchange : GsExchange} {line : Nat} {url : String}
    {headers : List (String × HeaderValue)} {packet : Dictionary} {response : HttpResponse}
    (posted : postPacket exchange line url headers packet = .ok response) :
    exchange.reply ⟨url, headers, packet⟩ = .ok response ∧ isSuccess response.status = true := by
  simp only [postPacket, Except.bind_eq_ok, Fault.ofResult_eq_ok] at posted
  obtain ⟨_, _, _, _, answer, replied, checked⟩ := posted
  cases success : isSuccess answer.status <;> simp only [success] at checked
  · cases checked
  · cases checked
    exact ⟨replied, success⟩

/-! ## The HB-authenticated calls -/

/-- `self.get_token("com.apple.gs.idms.hb").await.ok_or(Error::HappyBirthdayError)?`. -/
def hbToken (crypto : Primitives) (plist : PlistCodec) (relogin : LoginExchange)
    (now : SystemTime) : EStateM (Fault Error) AppleAccount String := do
  let some token ← getToken crypto plist relogin now hbService
    | throw (.error .happyBirthdayError)
  pure token

section HbToken

variable {crypto : Primitives} {plist : PlistCodec} {relogin : LoginExchange} {now : SystemTime}

theorem hbToken_finalState (account : AppleAccount) :
    finalState ((hbToken crypto plist relogin now).run account) =
      finalState ((getToken crypto plist relogin now hbService).run account) := by
  rw [hbToken, finalState_bind]
  cases (getToken crypto plist relogin now hbService).run account with
  | ok token after => cases token <;> rfl
  | error fault after => rfl

theorem hbToken_eq_ok {account after : AppleAccount} {token : String} :
    (hbToken crypto plist relogin now).run account = .ok token after ↔
      (getToken crypto plist relogin now hbService).run account = .ok (some token) after := by
  show EStateM.bind _ _ account = _ ↔ _
  unfold EStateM.bind EStateM.run
  cases getToken crypto plist relogin now hbService account with
  | ok answer middle =>
      cases answer with
      | none => exact ⟨nofun, nofun⟩
      | some value =>
          exact ⟨fun returned => by cases returned; rfl, fun found => by cases found; rfl⟩
  | error fault middle => exact ⟨nofun, nofun⟩

end HbToken

/-- The lines of an HB-authenticated call: where it copies the anisette headers, makes
the URL switch and the HB header, and writes its packet. -/
structure HbLines where
  anisetteHeaders : Nat
  urlSwitch : Nat
  hbToken : Nat
  xml : Nat

/-- The headers of an HB-authenticated call, on the account `get_token` left and with the
token it answered: `Content-Type`, `Accept` and the anisette headers, then the URL switch
and the HB token, each under the SPD's `adsid`. -/
def hbHeaders (lines : HbLines) (urlSwitch : String) (anisette : List (String × String))
    (token : String) (account : AppleAccount) :
    Except Panic (List (String × HeaderValue)) := do
  let headers := insertHeader (insertHeader [] "Content-Type" "text/x-xml-plist") "Accept" "*/*"
  let copied ← headerPairs (clientRs lines.anisetteHeaders) (clientRs lines.anisetteHeaders)
    anisette
  let adsid ← spdAdsid lines.urlSwitch account
  let headers ← insertBase64 lines.urlSwitch (headers ++ copied) "X-Apple-I-UrlSwitch-Info"
    (adsid ++ ":" ++ urlSwitch)
  let adsid ← spdAdsid lines.hbToken account
  insertBase64 lines.hbToken headers "X-Apple-HB-Token" (adsid ++ ":" ++ token)

/-- The headers carry the URL switch and the HB token, each under the SPD's `adsid`. -/
theorem hbHeaders_eq_ok {lines : HbLines} {urlSwitch : String}
    {anisette : List (String × String)} {token : String} {account : AppleAccount}
    {headers : List (String × HeaderValue)}
    (built : hbHeaders lines urlSwitch anisette token account = .ok headers) :
    ∃ spd adsid, account.spd = some spd ∧ spd.get "adsid" = some (.string adsid) ∧
      base64Header "X-Apple-I-UrlSwitch-Info" (adsid ++ ":" ++ urlSwitch) ∈ headers ∧
      base64Header "X-Apple-HB-Token" (adsid ++ ":" ++ token) ∈ headers := by
  simp only [hbHeaders, insertBase64_eq, Except.bind_eq_ok] at built
  obtain ⟨_, _, adsid, first, _, ⟨⟩, _, again, ⟨⟩⟩ := built
  obtain ⟨spd, spdIs, found⟩ := spdAdsid_eq_ok.mp first
  cases again.symm.trans (spdAdsid_eq_ok.mpr ⟨spd, spdIs, found⟩)
  have names : asciiLowercase "X-Apple-I-UrlSwitch-Info" ≠ asciiLowercase "X-Apple-HB-Token" := by
    decide
  exact ⟨spd, adsid, spdIs, found, mem_insertHeader.mpr (.inl ⟨mem_insertHeader.mpr (.inr rfl),
    names⟩), mem_insertHeader.mpr (.inr rfl)⟩

/-- What an HB-authenticated call does once `get_token` answered: on the account it left,
the headers (which `adjust` changes last) and the post of `packet` to `url`. -/
def hbTail (exchange : GsExchange) (lines : HbLines) (urlSwitch url : String)
    (adjust : List (String × HeaderValue) → List (String × HeaderValue)) (packet : Dictionary)
    (anisette : List (String × String)) (token : String) (account : AppleAccount) :
    Except (Fault Error) LoginState := do
  let headers ← Fault.ofPanic (hbHeaders lines urlSwitch anisette token account)
  let _ ← postPacket exchange lines.xml url (adjust headers) packet
  pure .loggedIn

/-- An HB-authenticated call: the anisette data, the HB token from `get_token`, then the
rest on the account `get_token` left. -/
def hbCall (crypto : Primitives) (plist : PlistCodec) (exchange : GsExchange)
    (lines : HbLines) (urlSwitch url : String)
    (adjust : List (String × HeaderValue) → List (String × HeaderValue)) (packet : Dictionary) :
    EStateM (Fault Error) AppleAccount LoginState := do
  let anisette ← Fault.lift (Fault.ofResult exchange.anisette)
  let token ← hbToken crypto plist exchange.relogin exchange.now
  Fault.reading (hbTail exchange lines urlSwitch url adjust packet anisette token)

/-- The request `update_postdata` posts: a sign-out of `logout` naming the services still
signed in, or otherwise a liveness report, which names the client's push token when it
has one. -/
def postdataRequest (pushToken : Option String) (deviceName : String) (logout : Option String)
    (services : List String) : Dictionary :=
  match logout with
  | some logout =>
      [("cdpStatus", .boolean false), ("circleStatus", .boolean false),
        ("dn", .string deviceName), ("event", .string ("signout-" ++ logout)),
        ("loc", .string "en_US"), ("otStatus", .boolean false), ("prkgen", .boolean true),
        ("rep", .integer 1), ("services", .array (services.map .string)), ("ut", .integer 1)]
  | none =>
      [("cdpStatus", .boolean true), ("cfuids", .array []), ("circleStatus", .boolean true),
        ("denyICloudWebAccess", .boolean true), ("dn", .string deviceName),
        ("event", .string "liveness"), ("icloudMailEnabled", .boolean false),
        ("icscStatus", .boolean true), ("isLegacyContactAssignee", .integer 1),
        ("isRecoveryContactAssignee", .integer 1), ("loc", .string "en_US"),
        ("otStatus", .boolean true), ("pkc", .string "1"), ("prkgen", .boolean true),
        ("reason", .integer 5), ("rep", .integer 1),
        ("services", .array (services.map .string)), ("signinPartition", .integer 1),
        ("stingrayDisabledIndicator", .boolean false), ("usrt", .integer 4),
        ("ut", .integer 1)] ++
      match pushToken with
      | some ptkn => [("ptkn", .string ptkn)]
      | none => []

/-- The headers a sign-out changes: it drops the service type and the recovery status,
and reports CDP and OT as off. -/
def postdataHeaders (logout : Option String) (headers : List (String × HeaderValue)) :
    List (String × HeaderValue) :=
  match logout with
  | some _ =>
      let headers := removeHeader headers "X-Apple-I-Service-Type"
      let headers := removeHeader headers "X-Apple-AK-DataRecoveryService-Status"
      let headers := removeHeader headers "X-Apple-I-CDP-Status"
      let headers := removeHeader headers "X-Apple-I-OT-Status"
      insertHeader (insertHeader headers "X-Apple-I-CDP-Status" "false") "X-Apple-I-OT-Status"
        "false"
  | none => headers

/-- A sign-out keeps every header but the four it names, and reports CDP and OT as off; it
carries neither a service type nor a recovery status. -/
theorem postdataHeaders_signout (service : String) (headers : List (String × HeaderValue)) :
    (∀ header ∈ headers, header.1 ∉ [asciiLowercase "X-Apple-I-Service-Type",
        asciiLowercase "X-Apple-AK-DataRecoveryService-Status",
        asciiLowercase "X-Apple-I-CDP-Status", asciiLowercase "X-Apple-I-OT-Status"] →
      header ∈ postdataHeaders (some service) headers) ∧
    (asciiLowercase "X-Apple-I-CDP-Status", asBytes "false") ∈
      postdataHeaders (some service) headers ∧
    (asciiLowercase "X-Apple-I-OT-Status", asBytes "false") ∈
      postdataHeaders (some service) headers ∧
    ∀ header ∈ postdataHeaders (some service) headers,
      header.1 ≠ asciiLowercase "X-Apple-I-Service-Type" ∧
        header.1 ≠ asciiLowercase "X-Apple-AK-DataRecoveryService-Status" := by
  have names : asciiLowercase "X-Apple-I-CDP-Status" ≠ asciiLowercase "X-Apple-I-OT-Status" ∧
      asciiLowercase "X-Apple-I-CDP-Status" ≠ asciiLowercase "X-Apple-I-Service-Type" ∧
      asciiLowercase "X-Apple-I-CDP-Status" ≠
        asciiLowercase "X-Apple-AK-DataRecoveryService-Status" ∧
      asciiLowercase "X-Apple-I-OT-Status" ≠ asciiLowercase "X-Apple-I-Service-Type" ∧
      asciiLowercase "X-Apple-I-OT-Status" ≠
        asciiLowercase "X-Apple-AK-DataRecoveryService-Status" := by
    decide
  dsimp only [postdataHeaders]
  refine ⟨fun header member kept => ?_, mem_insertHeader.mpr (.inl ⟨mem_insertHeader.mpr
    (.inr rfl), names.1⟩), mem_insertHeader.mpr (.inr rfl), fun header member => ?_⟩
  case refine_1 =>
    simp only [List.mem_cons, List.not_mem_nil, not_or] at kept
    obtain ⟨serviceType, recovery, cdp, ot, -⟩ := kept
    exact mem_insertHeader.mpr (.inl ⟨mem_insertHeader.mpr (.inl ⟨mem_removeHeader.mpr
      ⟨mem_removeHeader.mpr ⟨mem_removeHeader.mpr ⟨mem_removeHeader.mpr ⟨member, serviceType⟩,
        recovery⟩, cdp⟩, ot⟩, cdp⟩), ot⟩)
  case refine_2 =>
    rcases mem_insertHeader.mp member with ⟨member, -⟩ | rfl
    · rcases mem_insertHeader.mp member with ⟨member, -⟩ | rfl
      · simp only [mem_removeHeader] at member
        exact ⟨member.1.1.1.2, member.1.1.2⟩
      · exact ⟨names.2.1, names.2.2.1⟩
    · exact ⟨names.2.2.2.1, names.2.2.2.2⟩

/-- `AppleAccount::update_postdata`; `pushToken` is the client's `push_token`. -/
def updatePostdata (crypto : Primitives) (plist : PlistCodec) (pushToken : Option String)
    (deviceName : String) (logout : Option String) (services : List String)
    (exchange : GsExchange) : EStateM (Fault Error) AppleAccount LoginState :=
  hbCall crypto plist exchange ⟨446, 447, 448, 509⟩ "postdata"
    "https://gsas.apple.com/grandslam/GsService2/postdata" (postdataHeaders logout)
    (gsPacket (.dictionary (postdataRequest pushToken deviceName logout services)))

/-- `AppleAccount::teardown`. -/
def teardown (crypto : Primitives) (plist : PlistCodec) (action : String) (cmd : Nat)
    (txnid : String) (exchange : GsExchange) : EStateM (Fault Error) AppleAccount LoginState :=
  hbCall crypto plist exchange ⟨549, 550, 551, 569⟩ "teardown"
    "https://gsas.apple.com/grandslam/GsService2/teardown" id
    (gsPacket (.dictionary [("action", .string action), ("cmd", .integer cmd),
      ("prkgen", .boolean false), ("txnid", .string txnid)]))

/-- The services `logout_all` signs out of one at a time. -/
def logoutServices : List String := ["icloud", "imessage", "facetime"]

/-- The `while` loop of `logout_all`: it signs out of the first service still signed in,
naming those after it; `exchanges k` answers the `k`-th call. -/
def logoutLoop (crypto : Primitives) (plist : PlistCodec) (pushToken : Option String)
    (deviceName : String) (exchanges : Nat → GsExchange) :
    Nat → List String → EStateM (Fault Error) AppleAccount Unit
  | _, [] => pure ()
  | k, service :: services => do
      let _ ← updatePostdata crypto plist pushToken deviceName (some service) services
        (exchanges k)
      logoutLoop crypto plist pushToken deviceName exchanges (k + 1) services

/-- `AppleAccount::logout_all`. -/
def logoutAll (crypto : Primitives) (plist : PlistCodec) (pushToken : Option String)
    (deviceName : String) (exchanges : Nat → GsExchange) :
    EStateM (Fault Error) AppleAccount Unit := do
  logoutLoop crypto plist pushToken deviceName exchanges 0 logoutServices
  let _ ← updatePostdata crypto plist pushToken deviceName (some "all") []
    (exchanges logoutServices.length)

/-! ## `circle` -/

/-- `CircleSendMessage`. -/
structure CircleSendMessage where
  atxid : String
  circlestep : Nat
  idmsdata : Option String
  pakedata : Option String
  ptkn : String
  ec : Option Int

/-- `CircleResponse`. -/
structure CircleResponse where
  sid : Option String

/-- What `circle` receives besides a GsService2 exchange: `plist::to_value` of the
message, and the reading of the answer's bytes as a `CircleResponse` (its `sid`). -/
structure CircleExchange extends GsExchange where
  toValue : CircleSendMessage → Except Error Value
  readResponse : HttpResponse → Except Error (Option String)

/-- The identity token of a 2FA step, as `circle` makes it from the SPD. -/
def circleIdentity (headers : List (String × HeaderValue)) (account : AppleAccount) :
    Except Panic (List (String × HeaderValue)) := do
  let spd ← expectAt (clientRs 371) unwrapNone account.spd
  let dsid ← expectAt (clientRs 372) unwrapNone (spd.get "adsid")
  let dsid ← expectAt (clientRs 372) unwrapNone dsid.asString
  let token ← expectAt (clientRs 373) unwrapNone (spd.get "GsIdmsToken")
  let token ← expectAt (clientRs 373) unwrapNone token.asString
  insertBase64 376 headers "X-Apple-Identity-Token" (dsid ++ ":" ++ token)

/-- The token `circle` adds to its headers: the SPD's identity token in a 2FA step, and
otherwise the HB token from `get_token`. -/
def circleAuth (crypto : Primitives) (plist : PlistCodec) (isTwofa : Bool)
    (exchange : CircleExchange) (headers : List (String × HeaderValue)) :
    EStateM (Fault Error) AppleAccount (List (String × HeaderValue)) :=
  if isTwofa then Fault.reading fun account => Fault.ofPanic (circleIdentity headers account)
  else do
    let token ← hbToken crypto plist exchange.relogin exchange.now
    Fault.reading fun account => Fault.ofPanic do
      let adsid ← spdAdsid 379 account
      insertBase64 379 headers "X-Apple-HB-Token" (adsid ++ ":" ++ token)

/-- What `circle` does once its headers are made: the message as a plist value, the post
of its packet, and the answer read as a `CircleResponse`. -/
def circlePost (message : CircleSendMessage) (exchange : CircleExchange)
    (headers : List (String × HeaderValue)) : Except (Fault Error) CircleResponse := do
  let data ← Fault.ofResult (exchange.toValue message)
  let response ← postPacket exchange.toGsExchange 393
    "https://gsa.apple.com/grandslam/GsService2/circle" headers (gsPacket data)
  let sid ← Fault.ofResult (exchange.readResponse response)
  pure ⟨sid⟩

/-- `AppleAccount::circle`. -/
def circle (crypto : Primitives) (plist : PlistCodec) (message : CircleSendMessage)
    (isTwofa : Bool) (exchange : CircleExchange) :
    EStateM (Fault Error) AppleAccount CircleResponse := do
  let anisette ← Fault.lift (Fault.ofResult exchange.anisette)
  let copied ← Fault.lift (Fault.ofPanic (headerPairs (clientRs 368) (clientRs 368) anisette))
  let headers ← circleAuth crypto plist isTwofa exchange
    (insertHeader (insertHeader [] "Content-Type" "text/x-xml-plist") "Accept" "*/*" ++ copied)
  Fault.lift (circlePost message exchange headers)

/-! ## What the HB-authenticated calls do -/

section HbCall

variable {crypto : Primitives} {plist : PlistCodec} {exchange : GsExchange} {lines : HbLines}
  {urlSwitch url : String} {adjust : List (String × HeaderValue) → List (String × HeaderValue)}
  {packet : Dictionary}

/-- The call writes the account only through `get_token`. -/
theorem hbCall_finalState (account : AppleAccount) :
    finalState ((hbCall crypto plist exchange lines urlSwitch url adjust packet).run account) =
      match exchange.anisette with
      | .ok _ => finalState ((getToken crypto plist exchange.relogin exchange.now hbService).run
          account)
      | .error _ => account := by
  rw [hbCall, Fault.lift_bind_run]
  cases exchange.anisette with
  | error error => rfl
  | ok anisette =>
      rw [Fault.ofResult, finalState_bind, ← hbToken_finalState]
      cases (hbToken crypto plist exchange.relogin exchange.now).run account with
      | ok token after => exact finalState_reading _ _
      | error fault after => rfl

/-- An `Ok` of the call: the anisette data, an HB token from `get_token`, the headers on
the account it left, and a success answer to the post. -/
theorem hbCall_eq_ok {account after : AppleAccount} {state : LoginState}
    (returned : (hbCall crypto plist exchange lines urlSwitch url adjust packet).run account =
      .ok state after) :
    state = .loggedIn ∧ ∃ anisette token headers response,
      exchange.anisette = .ok anisette ∧
      (getToken crypto plist exchange.relogin exchange.now hbService).run account =
        .ok (some token) after ∧
      hbHeaders lines urlSwitch anisette token after = .ok headers ∧
      exchange.reply ⟨url, adjust headers, packet⟩ = .ok response ∧
      isSuccess response.status = true := by
  rw [hbCall, Fault.lift_bind_run] at returned
  cases anisetteIs : exchange.anisette with
  | error error =>
      rw [anisetteIs] at returned
      cases returned
  | ok anisette =>
      rw [anisetteIs, Fault.ofResult] at returned
      obtain ⟨token, _, tokenIs, tailed⟩ := run_bind_eq_ok returned
      obtain ⟨rfl, tailed⟩ := Fault.reading_run_eq_ok.mp tailed
      simp only [hbTail, Except.bind_eq_ok, Fault.ofPanic_eq_ok] at tailed
      obtain ⟨headers, built, response, posted, ⟨⟩⟩ := tailed
      obtain ⟨replied, success⟩ := postPacket_eq_ok posted
      exact ⟨rfl, anisette, token, headers, response, rfl, hbToken_eq_ok.mp tokenIs, built,
        replied, success⟩

/-- `update_postdata` and `teardown` write the account only through `get_token`, whether
they return, fail or panic: it is as `get_token` left it, or untouched when the anisette
data failed. An `Ok` means the server accepted, with a success status, the call's packet
posted to its URL, with headers adjusted from ones that carry the URL switch and the HB
token `get_token` answered, each under the `adsid` of the SPD `get_token` left. -/
theorem hbCall_contract (account : AppleAccount) :
    finalState ((hbCall crypto plist exchange lines urlSwitch url adjust packet).run account) =
      (match exchange.anisette with
        | .ok _ => finalState ((getToken crypto plist exchange.relogin exchange.now hbService).run
            account)
        | .error _ => account) ∧
    ∀ state after,
      (hbCall crypto plist exchange lines urlSwitch url adjust packet).run account =
        .ok state after →
      state = .loggedIn ∧ ∃ token spd adsid headers response,
        (getToken crypto plist exchange.relogin exchange.now hbService).run account =
          .ok (some token) after ∧
        after.spd = some spd ∧ spd.get "adsid" = some (.string adsid) ∧
        base64Header "X-Apple-I-UrlSwitch-Info" (adsid ++ ":" ++ urlSwitch) ∈ headers ∧
        base64Header "X-Apple-HB-Token" (adsid ++ ":" ++ token) ∈ headers ∧
        exchange.reply ⟨url, adjust headers, packet⟩ = .ok response ∧
        isSuccess response.status = true := by
  refine ⟨hbCall_finalState account, fun state after returned => ?_⟩
  obtain ⟨loggedIn, _, token, headers, response, -, tokenIs, built, replied, success⟩ :=
    hbCall_eq_ok returned
  obtain ⟨spd, adsid, spdIs, found, urlSwitchSent, tokenSent⟩ := hbHeaders_eq_ok built
  exact ⟨loggedIn, token, spd, adsid, headers, response, tokenIs, spdIs, found, urlSwitchSent,
    tokenSent, replied, success⟩

end HbCall

/-- A sign-out that returns was accepted in a request to `postdata` whose packet is the
sign-out of the service, naming the services left, and whose headers carry the HB token
and the URL switch under the SPD's `adsid`, report CDP and OT as off, and name neither a
service type nor a recovery status. -/
theorem updatePostdata_signout {crypto : Primitives} {plist : PlistCodec}
    {pushToken : Option String} {deviceName service : String} {services : List String}
    {exchange : GsExchange} {account after : AppleAccount} {state : LoginState}
    (returned : (updatePostdata crypto plist pushToken deviceName (some service) services
      exchange).run account = .ok state after) :
    ∃ token spd adsid request response,
      (getToken crypto plist exchange.relogin exchange.now hbService).run account =
        .ok (some token) after ∧
      after.spd = some spd ∧ spd.get "adsid" = some (.string adsid) ∧
      exchange.reply request = .ok response ∧ isSuccess response.status = true ∧
      request.url = "https://gsas.apple.com/grandslam/GsService2/postdata" ∧
      request.packet =
        gsPacket (.dictionary (postdataRequest pushToken deviceName (some service) services)) ∧
      base64Header "X-Apple-I-UrlSwitch-Info" (adsid ++ ":" ++ "postdata") ∈ request.headers ∧
      base64Header "X-Apple-HB-Token" (adsid ++ ":" ++ token) ∈ request.headers ∧
      (asciiLowercase "X-Apple-I-CDP-Status", asBytes "false") ∈ request.headers ∧
      (asciiLowercase "X-Apple-I-OT-Status", asBytes "false") ∈ request.headers ∧
      ∀ header ∈ request.headers, header.1 ≠ asciiLowercase "X-Apple-I-Service-Type" ∧
        header.1 ≠ asciiLowercase "X-Apple-AK-DataRecoveryService-Status" := by
  obtain ⟨-, _, token, headers, response, -, tokenIs, built, replied, success⟩ :=
    hbCall_eq_ok returned
  obtain ⟨spd, adsid, spdIs, found, urlSwitchSent, tokenSent⟩ := hbHeaders_eq_ok built
  obtain ⟨kept, cdp, ot, dropped⟩ := postdataHeaders_signout service headers
  exact ⟨token, spd, adsid, _, response, tokenIs, spdIs, found, replied, success, rfl, rfl,
    kept _ urlSwitchSent (by show asciiLowercase "X-Apple-I-UrlSwitch-Info" ∉ _; decide),
    kept _ tokenSent (by show asciiLowercase "X-Apple-HB-Token" ∉ _; decide), cdp, ot, dropped⟩

/-- A GsService2 exchange the server accepts: no anisette headers, and the packet's XML
empty. -/
def acceptingGs : GsExchange :=
  ⟨.ok [], scriptedLogin, SystemTime.unixEpoch, fun _ => .ok [],
    fun _ => .ok ⟨200, [], .ok ""⟩⟩

/-- The scripted account with an HB token valid for a second after the epoch. -/
def hbAccount : AppleAccount :=
  { scriptedAccount with tokens := (∅ : TokenMap).insert hbService ⟨"hb", oneSecond⟩ }

/-- The accepting exchange answers any `update_postdata` on the account with a valid HB
token. -/
theorem updatePostdata_acceptingGs (logout : Option String) (services : List String) :
    (updatePostdata acceptingCrypto scriptedPlistBodies none "Mac" logout services
      acceptingGs).run hbAccount = .ok .loggedIn hbAccount := by
  have utf8 : fromUtf8 [] = some "" := @fromUtf8_asBytes "" (by decide)
  have token : (hbToken acceptingCrypto scriptedPlistBodies scriptedLogin
      SystemTime.unixEpoch).run hbAccount = .ok "hb" hbAccount := rfl
  rw [updatePostdata, hbCall, Fault.lift_bind_run]
  dsimp only [acceptingGs, Fault.ofResult]
  rw [run_bind_of_eq_ok token, Fault.reading_run]
  simp only [hbTail, postPacket, Fault.ofResult, bind, Except.bind, utf8]
  rfl

theorem updatePostdata_signout_shown :
    (updatePostdata acceptingCrypto scriptedPlistBodies none "Mac" (some "icloud")
        ["imessage", "facetime"] acceptingGs).run hbAccount = .ok .loggedIn hbAccount ∧
    ∃ token spd adsid request response,
      (getToken acceptingCrypto scriptedPlistBodies scriptedLogin SystemTime.unixEpoch
          hbService).run hbAccount = .ok (some token) hbAccount ∧
      hbAccount.spd = some spd ∧ spd.get "adsid" = some (.string adsid) ∧
      acceptingGs.reply request = .ok response ∧ isSuccess response.status = true ∧
      request.url = "https://gsas.apple.com/grandslam/GsService2/postdata" ∧
      request.packet = gsPacket (.dictionary (postdataRequest none "Mac" (some "icloud")
        ["imessage", "facetime"])) ∧
      base64Header "X-Apple-I-UrlSwitch-Info" (adsid ++ ":" ++ "postdata") ∈ request.headers ∧
      base64Header "X-Apple-HB-Token" (adsid ++ ":" ++ token) ∈ request.headers ∧
      (asciiLowercase "X-Apple-I-CDP-Status", asBytes "false") ∈ request.headers ∧
      (asciiLowercase "X-Apple-I-OT-Status", asBytes "false") ∈ request.headers ∧
      ∀ header ∈ request.headers, header.1 ≠ asciiLowercase "X-Apple-I-Service-Type" ∧
        header.1 ≠ asciiLowercase "X-Apple-AK-DataRecoveryService-Status" :=
  ⟨updatePostdata_acceptingGs _ _, @updatePostdata_signout acceptingCrypto scriptedPlistBodies none "Mac" "icloud"
    ["imessage", "facetime"] acceptingGs hbAccount hbAccount .loggedIn
    (updatePostdata_acceptingGs _ _)⟩


/-! ## What `circle` does -/

theorem circleIdentity_eq_ok {headers added : List (String × HeaderValue)}
    {account : AppleAccount} (built : circleIdentity headers account = .ok added) :
    ∃ spd adsid token, account.spd = some spd ∧ spd.get "adsid" = some (.string adsid) ∧
      spd.get "GsIdmsToken" = some (.string token) ∧
      base64Header "X-Apple-Identity-Token" (adsid ++ ":" ++ token) ∈ added := by
  simp only [circleIdentity, insertBase64_eq, Except.bind_eq_ok, expectAt_eq_ok,
    Value.asString_eq_some] at built
  obtain ⟨spd, spdIs, _, found, adsid, rfl, _, tokenFound, token, rfl, ⟨⟩⟩ := built
  exact ⟨spd, adsid, token, spdIs, found, tokenFound, mem_insertHeader.mpr (.inr rfl)⟩

section Circle

variable {crypto : Primitives} {plist : PlistCodec} {isTwofa : Bool} {exchange : CircleExchange}
  {headers : List (String × HeaderValue)}

/-- In a 2FA step the token is read from the SPD; otherwise `get_token` writes the
account. -/
theorem circleAuth_finalState (account : AppleAccount) :
    finalState ((circleAuth crypto plist isTwofa exchange headers).run account) =
      if isTwofa then account
      else finalState ((getToken crypto plist exchange.relogin exchange.now hbService).run
        account) := by
  cases isTwofa with
  | true => exact finalState_reading _ _
  | false =>
      simp only [circleAuth, Bool.false_eq_true, ↓reduceIte]
      rw [finalState_bind, ← hbToken_finalState]
      cases (hbToken crypto plist exchange.relogin exchange.now).run account with
      | ok token after => exact finalState_reading _ _
      | error fault after => rfl

theorem circleAuth_eq_ok {account after : AppleAccount} {added : List (String × HeaderValue)}
    (returned : (circleAuth crypto plist isTwofa exchange headers).run account =
      .ok added after) :
    (isTwofa = true → after = account ∧ ∃ spd adsid token, account.spd = some spd ∧
      spd.get "adsid" = some (.string adsid) ∧ spd.get "GsIdmsToken" = some (.string token) ∧
      base64Header "X-Apple-Identity-Token" (adsid ++ ":" ++ token) ∈ added) ∧
    (isTwofa = false → ∃ token spd adsid,
      (getToken crypto plist exchange.relogin exchange.now hbService).run account =
        .ok (some token) after ∧
      after.spd = some spd ∧ spd.get "adsid" = some (.string adsid) ∧
      base64Header "X-Apple-HB-Token" (adsid ++ ":" ++ token) ∈ added) := by
  cases isTwofa with
  | true =>
      refine ⟨fun _ => ?_, nofun⟩
      obtain ⟨rfl, built⟩ := Fault.reading_run_eq_ok.mp returned
      exact ⟨rfl, circleIdentity_eq_ok (Fault.ofPanic_eq_ok.mp built)⟩
  | false =>
      refine ⟨nofun, fun _ => ?_⟩
      simp only [circleAuth, Bool.false_eq_true, ↓reduceIte] at returned
      obtain ⟨token, _, tokenIs, tailed⟩ := run_bind_eq_ok returned
      obtain ⟨rfl, built⟩ := Fault.reading_run_eq_ok.mp tailed
      simp only [Except.bind_eq_ok, insertBase64_eq, Fault.ofPanic_eq_ok] at built
      obtain ⟨adsid, adsidIs, ⟨⟩⟩ := built
      obtain ⟨spd, spdIs, found⟩ := spdAdsid_eq_ok.mp adsidIs
      exact ⟨token, spd, adsid, hbToken_eq_ok.mp tokenIs, spdIs, found,
        mem_insertHeader.mpr (.inr rfl)⟩

/-- The call as one equation: the anisette data and its headers, then the token, then the
rest, which reads no state. -/
theorem circle_run {message : CircleSendMessage} (account : AppleAccount) :
    (circle crypto plist message isTwofa exchange).run account =
      match exchange.anisette with
      | .error error => .error (.error error) account
      | .ok anisette =>
        match headerPairs (clientRs 368) (clientRs 368) anisette with
        | .error raised => .error (.panic raised) account
        | .ok copied =>
          match (circleAuth crypto plist isTwofa exchange
              (insertHeader (insertHeader [] "Content-Type" "text/x-xml-plist") "Accept" "*/*" ++
                copied)).run account with
          | .ok headers after =>
              match circlePost message exchange headers with
              | .ok response => .ok response after
              | .error fault => .error fault after
          | .error fault after => .error fault after := by
  rw [circle, Fault.lift_bind_run]
  cases exchange.anisette with
  | error error => rfl
  | ok anisette =>
      dsimp only [Fault.ofResult]
      rw [Fault.lift_bind_run]
      cases headerPairs (clientRs 368) (clientRs 368) anisette with
      | error raised => rfl
      | ok copied =>
          show EStateM.bind _ _ account = _
          unfold EStateM.bind EStateM.run
          dsimp only
          cases circleAuth crypto plist isTwofa exchange
            (insertHeader (insertHeader [] "Content-Type" "text/x-xml-plist") "Accept" "*/*" ++
              copied) account with
          | ok headers after =>
              dsimp only
              cases circlePost message exchange headers <;> rfl
          | error fault after => rfl

/-- The call writes the account only through its token. -/
theorem circle_finalState {message : CircleSendMessage} (account : AppleAccount) :
    finalState ((circle crypto plist message isTwofa exchange).run account) =
      match exchange.anisette with
      | .error _ => account
      | .ok anisette =>
        match headerPairs (clientRs 368) (clientRs 368) anisette with
        | .error _ => account
        | .ok copied =>
          finalState ((circleAuth crypto plist isTwofa exchange
            (insertHeader (insertHeader [] "Content-Type" "text/x-xml-plist") "Accept" "*/*" ++
              copied)).run account) := by
  rw [circle_run]
  split
  · rfl
  · split
    · rfl
    · split <;> rename_i authorized <;> rw [authorized]
      · split <;> rfl
      · rfl

theorem circlePost_eq_ok {message : CircleSendMessage} {response : CircleResponse}
    (posted : circlePost message exchange headers = .ok response) :
    ∃ data answer, exchange.toValue message = .ok data ∧
      exchange.reply ⟨"https://gsa.apple.com/grandslam/GsService2/circle", headers,
        gsPacket data⟩ = .ok answer ∧
      isSuccess answer.status = true ∧ exchange.readResponse answer = .ok response.sid := by
  simp only [circlePost, Except.bind_eq_ok, Fault.ofResult_eq_ok] at posted
  obtain ⟨data, converted, answer, sent, sid, read, ⟨⟩⟩ := posted
  obtain ⟨replied, success⟩ := postPacket_eq_ok sent
  exact ⟨data, answer, converted, replied, success, read⟩

/-- `circle` writes the account only through `get_token`, and not at all in a 2FA step.
An `Ok` means the server accepted, with a success status, the message's packet posted to
`circle`, and the answer read as the response; the request's headers carry the SPD's
identity token in a 2FA step, and otherwise the HB token `get_token` answered, under the
`adsid` of the SPD it left. -/
theorem circle_contract (message : CircleSendMessage) (account : AppleAccount) :
    (finalState ((circle crypto plist message isTwofa exchange).run account) = account ∨
      isTwofa = false ∧ finalState ((circle crypto plist message isTwofa exchange).run account) =
        finalState ((getToken crypto plist exchange.relogin exchange.now hbService).run
          account)) ∧
    ∀ response after,
      (circle crypto plist message isTwofa exchange).run account = .ok response after →
      ∃ headers data answer, exchange.toValue message = .ok data ∧
        exchange.reply ⟨"https://gsa.apple.com/grandslam/GsService2/circle", headers,
          gsPacket data⟩ = .ok answer ∧
        isSuccess answer.status = true ∧ exchange.readResponse answer = .ok response.sid ∧
        (isTwofa = true → after = account ∧ ∃ spd adsid token, account.spd = some spd ∧
          spd.get "adsid" = some (.string adsid) ∧ spd.get "GsIdmsToken" = some (.string token) ∧
          base64Header "X-Apple-Identity-Token" (adsid ++ ":" ++ token) ∈ headers) ∧
        (isTwofa = false → ∃ token spd adsid,
          (getToken crypto plist exchange.relogin exchange.now hbService).run account =
            .ok (some token) after ∧
          after.spd = some spd ∧ spd.get "adsid" = some (.string adsid) ∧
          base64Header "X-Apple-HB-Token" (adsid ++ ":" ++ token) ∈ headers) := by
  refine ⟨?_, fun response after returned => ?_⟩
  · rw [circle_finalState]
    split
    · exact .inl rfl
    · split
      · exact .inl rfl
      · rw [circleAuth_finalState]
        cases isTwofa
        · exact .inr ⟨rfl, rfl⟩
        · exact .inl rfl
  · rw [circle_run] at returned
    split at returned
    · cases returned
    · split at returned
      · cases returned
      · split at returned
        · rename_i headers _ authorized
          split at returned
          · rename_i posted
            cases returned
            obtain ⟨data, answer, converted, replied, success, read⟩ := circlePost_eq_ok posted
            exact ⟨headers, data, answer, converted, replied, success, read,
              (circleAuth_eq_ok authorized).1, (circleAuth_eq_ok authorized).2⟩
          · cases returned
        · cases returned

end Circle

/-! ## What `logout_all` does -/

/-- `exchange` accepted the sign-out of `service` naming `services`: it gave a success
answer to a request to `postdata` whose packet is that sign-out. -/
def AcceptedSignout (pushToken : Option String) (deviceName : String) (exchange : GsExchange)
    (service : String) (services : List String) : Prop :=
  ∃ request response, exchange.reply request = .ok response ∧
    isSuccess response.status = true ∧
    request.url = "https://gsas.apple.com/grandslam/GsService2/postdata" ∧
    request.packet =
      gsPacket (.dictionary (postdataRequest pushToken deviceName (some service) services))

section Logout

variable {crypto : Primitives} {plist : PlistCodec} {pushToken : Option String}
  {deviceName : String} {exchanges : Nat → GsExchange}

theorem updatePostdata_acceptedSignout {service : String} {services : List String}
    {exchange : GsExchange} {account after : AppleAccount} {state : LoginState}
    (returned : (updatePostdata crypto plist pushToken deviceName (some service) services
      exchange).run account = .ok state after) :
    AcceptedSignout pushToken deviceName exchange service services := by
  obtain ⟨-, _, _, _, response, -, -, -, replied, success⟩ := hbCall_eq_ok returned
  exact ⟨_, response, replied, success, rfl, rfl⟩

/-- A loop that returns made each sign-out in turn: the `i`-th service, naming those
after it, answered by exchange `k + i`. -/
theorem logoutLoop_eq_ok : ∀ {k : Nat} {services : List String} {account after : AppleAccount},
    (logoutLoop crypto plist pushToken deviceName exchanges k services).run account =
      .ok () after →
    ∀ i (bound : i < services.length), AcceptedSignout pushToken deviceName (exchanges (k + i))
      services[i] (services.drop (i + 1))
  | _, [], _, _, _, i, bound => absurd bound (Nat.not_lt_zero i)
  | k, service :: services, account, after, returned, i, bound => by
      rw [logoutLoop] at returned
      obtain ⟨_, _, posted, looped⟩ := run_bind_eq_ok returned
      cases i with
      | zero => exact updatePostdata_acceptedSignout posted
      | succ i =>
          rw [show k + (i + 1) = k + 1 + i by omega]
          exact logoutLoop_eq_ok looped i (Nat.lt_of_succ_lt_succ bound)

theorem logoutAll_eq_ok {account after : AppleAccount}
    (returned : (logoutAll crypto plist pushToken deviceName exchanges).run account =
      .ok () after) :
    ∃ middle, (logoutLoop crypto plist pushToken deviceName exchanges 0 logoutServices).run
        account = .ok () middle ∧
      ∃ state, (updatePostdata crypto plist pushToken deviceName (some "all") []
        (exchanges logoutServices.length)).run middle = .ok state after := by
  obtain ⟨_, middle, looped, rest⟩ := run_bind_eq_ok returned
  obtain ⟨state, _, posted, ⟨⟩⟩ := run_bind_eq_ok rest
  exact ⟨middle, looped, state, posted⟩

/-- A `logout_all` that returns signed out of iCloud, iMessage and FaceTime in that order,
each request naming the services still signed in, and then out of all of them: the
server accepted the four sign-outs, the `k`-th answered by exchange `k`. -/
theorem logoutAll_signsOut {account after : AppleAccount}
    (returned : (logoutAll crypto plist pushToken deviceName exchanges).run account =
      .ok () after) :
    AcceptedSignout pushToken deviceName (exchanges 0) "icloud" ["imessage", "facetime"] ∧
    AcceptedSignout pushToken deviceName (exchanges 1) "imessage" ["facetime"] ∧
    AcceptedSignout pushToken deviceName (exchanges 2) "facetime" [] ∧
    AcceptedSignout pushToken deviceName (exchanges 3) "all" [] := by
  obtain ⟨_, looped, _, posted⟩ := logoutAll_eq_ok returned
  have turn := logoutLoop_eq_ok looped
  exact ⟨turn 0 (by decide), turn 1 (by decide), turn 2 (by decide),
    updatePostdata_acceptedSignout posted⟩

end Logout

theorem logoutAll_signsOut_shown :
    (logoutAll acceptingCrypto scriptedPlistBodies none "Mac" fun _ => acceptingGs).run
        hbAccount = .ok () hbAccount ∧
    AcceptedSignout none "Mac" acceptingGs "icloud" ["imessage", "facetime"] ∧
    AcceptedSignout none "Mac" acceptingGs "imessage" ["facetime"] ∧
    AcceptedSignout none "Mac" acceptingGs "facetime" [] ∧
    AcceptedSignout none "Mac" acceptingGs "all" [] :=
  have returned : (logoutAll acceptingCrypto scriptedPlistBodies none "Mac" fun _ => acceptingGs).run
      hbAccount = .ok () hbAccount := by
    have looped : (logoutLoop acceptingCrypto scriptedPlistBodies none "Mac" (fun _ => acceptingGs)
        0 logoutServices).run hbAccount = .ok () hbAccount := by
      simp only [logoutServices, logoutLoop, run_bind_of_eq_ok (updatePostdata_acceptingGs _ _)]
      rfl
    rw [logoutAll, run_bind_of_eq_ok looped, run_bind_of_eq_ok (updatePostdata_acceptingGs _ _)]
    rfl
  ⟨returned, logoutAll_signsOut returned⟩

end IMessageBridge
