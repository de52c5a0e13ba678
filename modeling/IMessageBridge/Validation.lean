import IMessageBridge.Session

/-!
# Validation data for registration

`MacOSConfig::generate_validation_data` produces the blob IDS registration needs to
trust the device, in one of two ways. With a NAC relay configured it posts to the relay,
with a bearer token when one is configured, and decodes the base64 text of a successful
answer. Otherwise it runs the NAC handshake itself: it fetches the validation
certificate, starts a `ValidationCtx` on it, posts the context's session-info request,
hands the answer's session info to `key_establishment`, and returns what `sign`
produces.

The context (`open_absinthe::nac`), `get_bag`, `REQWEST`, `plist_to_buf` and `PushError`
are `rustpush`'s and not in this repository. The model takes their answers as inputs
(`ValidationExchange`) and records every call the handshake makes on its context, failed
ones included. The relay's certificate fingerprint, which the source's comment says is
verified, is read by neither path.
-/

namespace IMessageBridge

/-- A line of `rustpush/src/macos.rs`. -/
def macosRs (line : Nat) : Site := ⟨"rustpush/src/macos.rs", line⟩

/-- `rustpush::PushError`: the relay's errors; serde's error for a field a response
lacks (its text is serde's); and every other error the local path passes on, kept as its
display. -/
inductive PushError where
  | relayError (status : Nat) (message : String)
  | missingField (field : String)
  | other (display : String)
  deriving DecidableEq, Repr

/-- The fields of `MacOSConfig` the function reads. -/
structure MacOSConfig where
  nacRelayUrl : Option String
  relayToken : Option String

/-- The request the relay path sends: a POST to the relay, with its `Authorization`
header when it has one. -/
structure RelayRequest where
  url : String
  authorization : Option String
  deriving DecidableEq, Repr

/-- The relay's answer: its status, and its body as `text()` reads it. -/
structure RelayResponse where
  status : Nat
  text : Except String String

/-- A call the local path makes on its `ValidationCtx`. -/
inductive NacCall where
  | init (cert : Bytes)
  | keyEstablishment (sessionInfo : Bytes)
  | sign
  deriving DecidableEq, Repr

/-- What the context answers each call: the session-info request `ValidationCtx::new`
writes, and the outcomes of key establishment and of signing, errors kept as their
display. -/
structure NacAnswers where
  init : Bytes → Except String Bytes
  keyEstablishment : Bytes → Except String Unit
  sign : Except String Bytes

/-- What `generate_validation_data` receives from outside: the relay client's build,
the relay's answer to a request, the display of `base64`'s error on the relay's text,
the bag's entries, the answers of Apple's servers to a GET and to a POST with a body,
`plist_to_buf`, and the context's answers. -/
structure ValidationExchange where
  relayClient : Except String Unit
  relay : RelayRequest → Except String RelayResponse
  decodeErrorDisplay : String
  bag : String → Except PushError Value
  get : String → Except PushError Bytes
  post : String → Bytes → Except PushError Bytes
  plistToBuf : Dictionary → Except PushError Bytes
  nac : NacAnswers

/-! ## The relay -/

/-- What the relay path makes of the relay's answer. -/
def relayAnswer (decodeErrorDisplay : String) :
    Except String RelayResponse → Except (Fault PushError) Bytes
  | .error display => throw (.error (.relayError 0 ("NAC relay request failed: " ++ display)))
  | .ok response =>
      if !isSuccess response.status then
        throw (.error (.relayError response.status
          ("NAC relay error: " ++ response.text.toOption.getD "")))
      else
        match response.text with
        | .error display => throw (.error (.relayError 0 ("NAC relay read error: " ++ display)))
        | .ok b64 =>
            match base64Decode (strTrim b64) with
            | some data => pure data
            | none => throw (.error (.relayError 0
                ("NAC relay base64 decode error: " ++ decodeErrorDisplay)))

/-- The relay path: the request it sends, once its client is built, and what it
returns. -/
def relayValidation (exchange : ValidationExchange) (relayToken : Option String)
    (url : String) : Option RelayRequest × Except (Fault PushError) Bytes :=
  match exchange.relayClient with
  | .error display =>
      (none, throw (.error (.relayError 0 ("Failed to build relay client: " ++ display))))
  | .ok () =>
      let request : RelayRequest := ⟨url, relayToken.map ("Bearer " ++ ·)⟩
      (some request, relayAnswer exchange.decodeErrorDisplay (exchange.relay request))

/-! ## The handshake -/

/-- A bag entry's URL: `get_bag(IDS_BAG, key).await?.into_string().unwrap()`. -/
def bagUrl (exchange : ValidationExchange) (line : Nat) (key : String) :
    Except (Fault PushError) String := do
  let value ← Fault.ofResult (exchange.bag key)
  Fault.ofPanic (expectAt (macosRs line) unwrapNone value.asString)

/-- The data of one field of a plist body, as serde reads it into a struct with that
field. -/
def dataField (plist : PlistCodec) (field : String) (body : Bytes) :
    Except (Fault PushError) Bytes :=
  match plist.fromBytes body with
  | .error display => throw (.error (.other display))
  | .ok dictionary =>
      match (dictionary.get field).bind Value.asData with
      | some data => pure data
      | none => throw (.error (.missingField field))

/-- The certificate the handshake starts from: the `cert` of the plist at the bag's
`id-validation-cert` URL. -/
def fetchCertificate (plist : PlistCodec) (exchange : ValidationExchange) :
    Except (Fault PushError) Bytes := do
  let url ← bagUrl exchange 149 "id-validation-cert"
  let key ← Fault.ofResult (exchange.get url)
  dataField plist "cert" key

/-- The servers' session info for a context's request, posted as the
`session-info-request` of a plist to the bag's `id-initialize-validation` URL. -/
def exchangeSessionInfo (plist : PlistCodec) (exchange : ValidationExchange)
    (request : Bytes) : Except (Fault PushError) Bytes := do
  let info ← Fault.ofResult (exchange.plistToBuf [("session-info-request", .data request)])
  let url ← bagUrl exchange 163 "id-initialize-validation"
  let activation ← Fault.ofResult (exchange.post url info)
  dataField plist "session-info" activation

/-- A call on the context, recorded whether it returns or not. -/
def nacStep {α : Type} (call : NacCall) (answer : Except String α) :
    EStateM (Fault PushError) (List NacCall) α := fun calls =>
  match answer with
  | .ok value => .ok value (calls ++ [call])
  | .error display => .error (.error (.other display)) (calls ++ [call])

/-- The local path, over the calls made on the context so far. -/
def localValidation (plist : PlistCodec) (exchange : ValidationExchange) :
    EStateM (Fault PushError) (List NacCall) Bytes := do
  let certs ← Fault.lift (fetchCertificate plist exchange)
  let outputReq ← nacStep (.init certs) (exchange.nac.init certs)
  let output ← Fault.lift (exchangeSessionInfo plist exchange outputReq)
  nacStep (.keyEstablishment output) (exchange.nac.keyEstablishment output)
  nacStep .sign exchange.nac.sign

/-- What a run of `generate_validation_data` did: the relay request it sent, the calls
it made on a context, and what it returned. -/
structure ValidationRun where
  relayRequest : Option RelayRequest
  nacCalls : List NacCall
  result : Except (Fault PushError) Bytes

/-- `MacOSConfig::generate_validation_data`. -/
def generateValidationData (plist : PlistCodec) (exchange : ValidationExchange)
    (config : MacOSConfig) : ValidationRun :=
  match config.nacRelayUrl with
  | some url =>
      let (request, result) := relayValidation exchange config.relayToken url
      ⟨request, [], result⟩
  | none =>
      ⟨none, finalState ((localValidation plist exchange).run []),
        returnedValue ((localValidation plist exchange).run [])⟩

end IMessageBridge
