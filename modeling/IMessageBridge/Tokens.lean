import IMessageBridge.Account

/-!
# Token maps from the server's answers

Three places build the account's token map:

* `login_email_pass` collects the well-formed entries of the decrypted SPD's `t`
  dictionary: a string `token`, and an unsigned `expiry` in epoch milliseconds or,
  without one, an unsigned `duration` in seconds from now (`spdTokens`);
* `verify_2fa` and `verify_sms_2fa` collect their `X-Apple-GS-Token` then
  `X-Apple-HB-Token` headers, each the base64 of `id:token[:…]`. The two closures
  differ only in the field that holds the ttl and in their lines, so they are one
  definition, `headerToken`, applied to `verify2faFormat` and `verifySms2faFormat`;
  the same holds of the tail the two calls share, `installTokenHeaders`;
* `parse_pet_header` inserts the PET from `X-Apple-PE-Token`.

A ttl above forty years of milliseconds is an epoch timestamp in milliseconds, any other
ttl a duration in seconds from now (`ttlExpiration`). The results say which map each
builder yields, in both directions: a builder that returns has read every entry as
its specification (`spdEntry`, `TokenHeaderFormat.entry`, `petEntry`) reads it, and
on well-formed input it returns (`installTokenHeaders_ok`).
-/

namespace IMessageBridge

/-! ## Expirations -/

/-- Forty years of milliseconds, the threshold of the ttl heuristic. -/
def fortyYearsMillis : Nat := 40 * 365 * 24 * 60 * 60 * 1000

/-- The heuristic of the verify calls: more than forty years of milliseconds is
`UNIX_EPOCH + from_millis`, anything else `now + from_secs`. -/
def ttlExpiration (epochSite nowSite : Site) (now : SystemTime) (ttl : Nat) :
    Except Panic SystemTime :=
  if ttl > fortyYearsMillis then SystemTime.unixEpoch.add epochSite (Duration.fromMillis ttl)
  else now.add nowSite (Duration.fromSecs ttl)

/-- The instant, in nanoseconds since the epoch, that the heuristic gives a ttl. -/
def ttlNanos (now : SystemTime) (ttl : Nat) : Int :=
  if ttl > fortyYearsMillis then ttl * 1000000 else now.sinceEpoch + ttl * 1000000000

theorem SystemTime.add_ok (site : Site) (self : SystemTime) (duration : Duration)
    (fits : self.sinceEpoch + duration.nanos < timeBound) :
    ∃ result, self.add site duration = .ok result ∧
      result.sinceEpoch = self.sinceEpoch + duration.nanos := by
  unfold SystemTime.add
  rw [dif_pos fits]
  exact ⟨_, rfl, rfl⟩

theorem ttlExpiration_sinceEpoch {epochSite nowSite : Site} {now : SystemTime} {ttl : Nat}
    {expiration : SystemTime} (expires : ttlExpiration epochSite nowSite now ttl = .ok expiration) :
    expiration.sinceEpoch = ttlNanos now ttl := by
  unfold ttlExpiration at expires
  unfold ttlNanos
  split at expires
  · simpa [SystemTime.unixEpoch, Duration.fromMillis, *] using
      SystemTime.add_sinceEpoch expires
  · simpa [Duration.fromSecs, nanosPerSecond, *] using SystemTime.add_sinceEpoch expires

/-- The heuristic's expiration is representable when its instant is below the
`timespec` bound, and it is then that instant. -/
theorem ttlExpiration_ok (epochSite nowSite : Site) (now : SystemTime) {ttl : Nat}
    (fits : ttlNanos now ttl < timeBound) :
    ∃ expiration, ttlExpiration epochSite nowSite now ttl = .ok expiration := by
  unfold ttlExpiration
  unfold ttlNanos at fits
  split
  · rw [if_pos ‹_›] at fits
    obtain ⟨result, added, -⟩ := SystemTime.add_ok epochSite SystemTime.unixEpoch
      (Duration.fromMillis ttl) (by simpa [SystemTime.unixEpoch, Duration.fromMillis] using fits)
    exact ⟨result, added⟩
  · rw [if_neg ‹_›] at fits
    obtain ⟨result, added, -⟩ := SystemTime.add_ok nowSite now (Duration.fromSecs ttl)
      (by simpa [Duration.fromSecs, nanosPerSecond] using fits)
    exact ⟨result, added⟩

/-- A token as the results compare it: its text and its instant. -/
def FetchedToken.view (token : FetchedToken) : String × Int :=
  (token.token, token.expiration.sinceEpoch)

/-- A collected entry as the results compare it. -/
def viewEntry (entry : String × FetchedToken) : String × String × Int :=
  (entry.1, entry.2.view)

theorem lookup_ofList_view (id : String) (entries : List (String × FetchedToken)) :
    ((StringMap.ofList entries).lookup id).map FetchedToken.view =
      StringMap.lastValue id (entries.map viewEntry) := by
  rw [StringMap.lookup_ofList, ← StringMap.lastValue_map]
  rfl

/-! ## The SPD's `t` dictionary -/

/-- The closure over one entry of the SPD's `t` dictionary: `none` when the entry is not
well formed (one of its `?`), a panic when `now + duration` overflows. -/
def spdToken (now : SystemTime) (entry : String × Value) :
    Except Panic (Option (String × FetchedToken)) :=
  match entry.2.asDictionary with
  | none => pure none
  | some fields =>
      match (fields.get "token").bind Value.asString with
      | none => pure none
      | some token =>
          match fields.get "expiry" with
          | some expiry =>
              match expiry.asUnsignedInteger with
              | some millis =>
                  (SystemTime.unixEpoch.add (clientRs 721) (Duration.fromMillis millis)).map
                    fun expiration => some (entry.1, ⟨token, expiration⟩)
              | none => pure none
          | none =>
              match (fields.get "duration").bind Value.asUnsignedInteger with
              | some secs =>
                  (now.add (clientRs 723) (Duration.fromSecs secs)).map
                    fun expiration => some (entry.1, ⟨token, expiration⟩)
              | none => pure none

/-- The token map of the SPD's `t` dictionary: its well-formed entries, collected. -/
def spdTokens (now : SystemTime) (dictionary : Dictionary) : Except Panic TokenMap :=
  (dictionary.mapM (spdToken now)).map fun entries => StringMap.ofList entries.reduceOption

/-- What a well-formed `t` entry stands for: its token and its instant. -/
def spdEntry (now : SystemTime) (value : Value) : Option (String × Int) :=
  value.asDictionary.bind fun fields =>
    ((fields.get "token").bind Value.asString).bind fun token =>
      match fields.get "expiry" with
      | some expiry =>
          expiry.asUnsignedInteger.map fun millis : Nat => (token, (millis : Int) * 1000000)
      | none => ((fields.get "duration").bind Value.asUnsignedInteger).map
          fun secs : Nat => (token, now.sinceEpoch + secs * 1000000000)

/-- The well-formed entries of a `t` dictionary, as the results compare them. -/
def spdEntries (now : SystemTime) (dictionary : Dictionary) : List (String × String × Int) :=
  dictionary.filterMap fun entry => (spdEntry now entry.2).map (entry.1, ·)

private theorem add_view {site : Site} {start : SystemTime} {duration : Duration}
    {key token : String} {result : Option (String × FetchedToken)}
    (read : (start.add site duration).map (fun expiration => some (key, ⟨token, expiration⟩)) =
      .ok result) :
    result.map viewEntry = some (key, token, start.sinceEpoch + duration.nanos) := by
  obtain ⟨expiration, added, rfl⟩ := Except.map_eq_ok.mp read
  simp [viewEntry, FetchedToken.view, SystemTime.add_sinceEpoch added]

theorem spdToken_view {now : SystemTime} {entry : String × Value}
    {result : Option (String × FetchedToken)} (read : spdToken now entry = .ok result) :
    result.map viewEntry = (spdEntry now entry.2).map (entry.1, ·) := by
  unfold spdToken at read
  unfold spdEntry
  split at read
  · next fieldsIs =>
      cases read
      simp [fieldsIs]
  rename_i fields fieldsIs
  simp only [fieldsIs, Option.bind_eq_bind, Option.some_bind]
  split at read
  · next tokenIs =>
      cases read
      simp [tokenIs]
  rename_i token tokenIs
  simp only [tokenIs, Option.some_bind]
  split at read
  · split at read
    · next millis millisIs =>
        rw [add_view read, millisIs]
        simp [SystemTime.unixEpoch, Duration.fromMillis]
    · next millisIs =>
        cases read
        simp [millisIs]
  · split at read
    · next secs secsIs =>
        rw [add_view read, secsIs]
        simp [Duration.fromSecs, nanosPerSecond]
    · next secsIs =>
        cases read
        simp [secsIs]

theorem mapM_spdToken_view (now : SystemTime) :
    ∀ (dictionary : Dictionary) (results : List (Option (String × FetchedToken))),
      dictionary.mapM (spdToken now) = .ok results →
        results.reduceOption.map viewEntry = spdEntries now dictionary
  | [], results, read => by
      cases read
      rfl
  | entry :: rest, results, read => by
      rw [List.mapM_cons] at read
      obtain ⟨result, first, read⟩ := Except.bind_eq_ok.mp read
      obtain ⟨later, others, read⟩ := Except.bind_eq_ok.mp read
      cases read
      have restView := mapM_spdToken_view now rest later others
      unfold spdEntries at restView ⊢
      rw [List.filterMap_cons, ← spdToken_view first, ← restView]
      cases result <;> rfl

/-- A `t` dictionary that `login_email_pass` collects yields, at each id, the last
well-formed entry with that id. -/
theorem lookup_spdTokens {now : SystemTime} {dictionary : Dictionary} {tokens : TokenMap}
    (collected : spdTokens now dictionary = .ok tokens) (id : String) :
    (tokens.lookup id).map FetchedToken.view =
      StringMap.lastValue id (spdEntries now dictionary) := by
  obtain ⟨results, read, rfl⟩ := Except.map_eq_ok.mp collected
  rw [lookup_ofList_view, mapM_spdToken_view now dictionary results read]

/-! ## The GS and HB token headers -/

/-- `base64::decode` of the bytes of a header value. -/
def base64DecodeBytes (input : Bytes) : Option Bytes :=
  base64Bytes (input.map fun byte => Char.ofNat byte.toNat)

/-- What distinguishes the token tails of `verify_2fa` and `verify_sms_2fa`: the field
that holds the ttl, and the lines of their steps. -/
structure TokenHeaderFormat where
  ttlField : List String → Option String
  decodeLine : Nat
  ttlLine : Nat
  epochLine : Nat
  nowLine : Nat
  entryLine : Nat
  petLine : Nat

/-- `verify_2fa`: `id:token:ttl`, the ttl in the third field. -/
def verify2faFormat : TokenHeaderFormat :=
  ⟨fun parts => parts[2]?, 918, 920, 924, 926, 930, 936⟩

/-- `verify_sms_2fa`: `id:token:duration:expiry`, the fourth field, or else the third. -/
def verifySms2faFormat : TokenHeaderFormat :=
  ⟨fun parts => parts[3]?.or parts[2]?, 963, 967, 970, 972, 976, 982⟩

/-- The ttl a header's fields name: the field the format picks, as a `u64`, or a year
when the field is absent; `none` when the field is not a `u64`. -/
def TokenHeaderFormat.ttl (format : TokenHeaderFormat) (parts : List String) : Option Nat :=
  match format.ttlField parts with
  | some field => parseU64 field
  | none => some 31536000

/-- The closure over one token header: decode it, split it on `:`, read the ttl, then
take the id and the token. -/
def headerToken (format : TokenHeaderFormat) (now : SystemTime) (header : HeaderValue) :
    Except Panic (String × FetchedToken) := do
  let bytes ← expectAt (clientRs format.decodeLine) "Not base64!" (base64DecodeBytes header)
  let decoded ← expectAt (clientRs format.decodeLine) "Decoded not utf8!" (fromUtf8 bytes)
  let parts := strSplit decoded ':'
  let ttl ← expectAt (clientRs format.ttlLine) "Bad expiration format?" (format.ttl parts)
  let expiration ← ttlExpiration (clientRs format.epochLine) (clientRs format.nowLine) now ttl
  let token ← expectAt (clientRs format.entryLine)
    "index out of bounds: the len is 1 but the index is 1" parts[1]?
  pure (parts.headD "", ⟨token, expiration⟩)

/-- The GS headers, then the HB headers. -/
def tokenHeaders (response : HttpResponse) : List HeaderValue :=
  response.getAll "X-Apple-GS-Token" ++ response.getAll "X-Apple-HB-Token"

/-- The token map of the GS and HB headers, collected. -/
def headerTokens (format : TokenHeaderFormat) (now : SystemTime) (response : HttpResponse) :
    Except Panic TokenMap :=
  ((tokenHeaders response).mapM (headerToken format now)).map StringMap.ofList

/-- The payload of a token header: its base64 decoded as UTF-8. -/
def decodeTokenHeader (header : HeaderValue) : Option String :=
  (base64DecodeBytes header).bind fromUtf8

private theorem ascii_of_visible {text : String} (visible : Visible text) :
    ∀ c ∈ text.data, c.toNat < 128 := fun c member => by
  have := visible c member
  omega

/-- A token header written as the base64 of an ASCII payload reads back as the
payload. -/
theorem decodeTokenHeader_encode {payload : String}
    (ascii : ∀ c ∈ payload.data, c.toNat < 128) :
    decodeTokenHeader (asBytes (base64Encode (asBytes payload))) = some payload := by
  have encoded := ascii_of_visible (base64Encode_visible (asBytes payload))
  rw [decodeTokenHeader, base64DecodeBytes, asBytes_of_ascii encoded, asciiBytes_chars encoded]
  exact (congrArg (·.bind fromUtf8) (base64_decode_encode (asBytes payload))).trans
    (fromUtf8_asBytes ascii)

/-- A token payload the closures read without panicking: it has an id and a token, its
ttl field (when present) is a `u64`, and the expiration it names is representable. -/
def TokenHeaderFormat.WellFormed (format : TokenHeaderFormat) (now : SystemTime)
    (payload : String) : Prop :=
  2 ≤ (strSplit payload ':').length ∧
    ∃ ttl, format.ttl (strSplit payload ':') = some ttl ∧ ttlNanos now ttl < timeBound

/-- What a well-formed token payload stands for: its id, its token and the instant its
ttl names. -/
def TokenHeaderFormat.entry (format : TokenHeaderFormat) (now : SystemTime)
    (payload : String) : String × String × Int :=
  let parts := strSplit payload ':'
  (parts.headD "", parts[1]?.getD "", ttlNanos now ((format.ttl parts).getD 0))

/-- A header the closure reads returns exactly when its payload is well formed, and it
then returns what the payload stands for. -/
theorem headerToken_eq_ok {format : TokenHeaderFormat} {now : SystemTime}
    {header : HeaderValue} {token : String × FetchedToken}
    (read : headerToken format now header = .ok token) :
    ∃ payload, decodeTokenHeader header = some payload ∧ format.WellFormed now payload ∧
      viewEntry token = format.entry now payload := by
  unfold headerToken at read
  obtain ⟨bytes, bytesIs, read⟩ := Except.bind_eq_ok.mp read
  obtain ⟨payload, payloadIs, read⟩ := Except.bind_eq_ok.mp read
  obtain ⟨ttl, ttlIs, read⟩ := Except.bind_eq_ok.mp read
  obtain ⟨expiration, expires, read⟩ := Except.bind_eq_ok.mp read
  obtain ⟨text, tokenIs, read⟩ := Except.bind_eq_ok.mp read
  rw [expectAt_eq_ok] at bytesIs payloadIs ttlIs tokenIs
  cases read
  have fits := ttlExpiration_sinceEpoch expires
  refine ⟨payload, by simp [decodeTokenHeader, bytesIs, payloadIs],
    ⟨?_, ttl, ttlIs, ?_⟩, ?_⟩
  · by_contra short
    rw [List.getElem?_eq_none (by omega)] at tokenIs
    cases tokenIs
  · exact fits ▸ expiration.bounded.2
  · simp [viewEntry, FetchedToken.view, TokenHeaderFormat.entry, tokenIs, ttlIs, fits]

theorem headerToken_ok (format : TokenHeaderFormat) (now : SystemTime) {header : HeaderValue}
    {payload : String} (decoded : decodeTokenHeader header = some payload)
    (wellFormed : format.WellFormed now payload) :
    ∃ token, headerToken format now header = .ok token := by
  obtain ⟨fields, ttl, ttlIs, fits⟩ := wellFormed
  obtain ⟨expiration, expires⟩ :=
    ttlExpiration_ok (clientRs format.epochLine) (clientRs format.nowLine) now fits
  obtain ⟨bytes, bytesIs, payloadIs⟩ := Option.bind_eq_some.mp decoded
  obtain ⟨text, tokenIs⟩ : ∃ text, (strSplit payload ':')[1]? = some text :=
    ⟨_, List.getElem?_eq_getElem (by omega)⟩
  exact ⟨((strSplit payload ':').headD "", ⟨text, expiration⟩), by
    simp only [headerToken, bytesIs, payloadIs, ttlIs, expires, tokenIs, expectAt, bind,
      Except.bind, pure, Except.pure]⟩

/-- The collected headers, read one by one: every header's payload, in order. -/
theorem mapM_headerToken_view (format : TokenHeaderFormat) (now : SystemTime) :
    ∀ (headers : List HeaderValue) (tokens : List (String × FetchedToken)),
      headers.mapM (headerToken format now) = .ok tokens →
        (∀ header ∈ headers, ∃ payload, decodeTokenHeader header = some payload ∧
          format.WellFormed now payload) ∧
        tokens.map viewEntry = (headers.filterMap decodeTokenHeader).map (format.entry now)
  | [], tokens, read => by
      cases read
      simp
  | header :: rest, tokens, read => by
      rw [List.mapM_cons] at read
      obtain ⟨token, first, read⟩ := Except.bind_eq_ok.mp read
      obtain ⟨later, others, read⟩ := Except.bind_eq_ok.mp read
      cases read
      obtain ⟨payload, decoded, wellFormed, entryIs⟩ := headerToken_eq_ok first
      obtain ⟨restWellFormed, restView⟩ := mapM_headerToken_view format now rest later others
      refine ⟨fun other member => ?_, by simp [decoded, entryIs, restView]⟩
      rcases List.mem_cons.mp member with rfl | member
      · exact ⟨payload, decoded, wellFormed⟩
      · exact restWellFormed other member

theorem mapM_headerToken_ok (format : TokenHeaderFormat) (now : SystemTime) :
    ∀ headers : List HeaderValue,
      (∀ header ∈ headers, ∃ payload, decodeTokenHeader header = some payload ∧
        format.WellFormed now payload) →
        ∃ tokens, headers.mapM (headerToken format now) = .ok tokens
  | [], _ => ⟨[], rfl⟩
  | header :: rest, wellFormed => by
      obtain ⟨payload, decoded, headerWellFormed⟩ := wellFormed header (.head _)
      obtain ⟨token, first⟩ := headerToken_ok format now decoded headerWellFormed
      obtain ⟨later, others⟩ := mapM_headerToken_ok format now rest
        fun other member => wellFormed other (.tail _ member)
      exact ⟨token :: later, by rw [List.mapM_cons, first, others]; rfl⟩

/-! ## The PET -/

/-- The PET's lifetime: its third field as a `u64`, or five minutes when absent. -/
def petTtl (parts : List String) : Option Nat :=
  match parts[2]? with
  | some field => parseU64 field
  | none => some 300

/-- `parse_pet_header`'s reading of the PET: the token in the second field, expiring
the third field's seconds from now. -/
def petToken (now : SystemTime) (data : String) : Except Panic FetchedToken := do
  let bytes ← expectAt (clientRs 990) unwrapErr (base64Decode data)
  let decoded ← expectAt (clientRs 990) unwrapErr (fromUtf8 bytes)
  let token ← expectAt (clientRs 991) unwrapNone (strSplit decoded ':')[1]?
  let ttl ← expectAt (clientRs 991) "Bad pet format" (petTtl (strSplit decoded ':'))
  let expiration ← now.add (clientRs 991) (Duration.fromSecs ttl)
  pure ⟨token, expiration⟩

/-- `AppleAccount::parse_pet_header`. -/
def parsePetHeader (now : SystemTime) (data : String) :
    EStateM (Fault Error) AppleAccount Unit := do
  let token ← Fault.lift (Fault.ofPanic (petToken now data))
  modify fun account => { account with tokens := account.tokens.insert petService token }

/-- The payload of the PE header: visible ASCII, then base64 of UTF-8. -/
def decodePetHeader (pet : HeaderValue) : Option String :=
  pet.toStr.bind fun data => (base64Decode data).bind fromUtf8

/-- A PE header written as the base64 of an ASCII payload reads back as the payload. -/
theorem decodePetHeader_encode {payload : String} (ascii : ∀ c ∈ payload.data, c.toNat < 128) :
    decodePetHeader (asBytes (base64Encode (asBytes payload))) = some payload := by
  rw [decodePetHeader, toStr_asBytes (base64Encode_visible _), Option.some_bind]
  exact (congrArg (·.bind fromUtf8) (base64_decode_encode (asBytes payload))).trans
    (fromUtf8_asBytes ascii)

/-- A PET payload `parse_pet_header` reads without panicking. -/
def PetWellFormed (now : SystemTime) (payload : String) : Prop :=
  2 ≤ (strSplit payload ':').length ∧ ∃ ttl, petTtl (strSplit payload ':') = some ttl ∧
    now.sinceEpoch + ttl * 1000000000 < timeBound

/-- What a well-formed PET payload stands for: its token and its instant. -/
def petEntry (now : SystemTime) (payload : String) : String × Int :=
  let parts := strSplit payload ':'
  (parts[1]?.getD "", now.sinceEpoch + (petTtl parts).getD 0 * 1000000000)

/-- The PE header's unwrap and `parse_pet_header`'s reading, as one step. -/
def petHeaderToken (line : Nat) (now : SystemTime) (pet : HeaderValue) :
    Except Panic FetchedToken :=
  (expectAt (clientRs line) unwrapErr pet.toStr).bind (petToken now)

theorem petHeaderToken_eq_ok {line : Nat} {now : SystemTime} {pet : HeaderValue}
    {token : FetchedToken} (read : petHeaderToken line now pet = .ok token) :
    ∃ payload, decodePetHeader pet = some payload ∧ PetWellFormed now payload ∧
      token.view = petEntry now payload := by
  unfold petHeaderToken petToken at read
  obtain ⟨data, dataIs, read⟩ := Except.bind_eq_ok.mp read
  obtain ⟨bytes, bytesIs, read⟩ := Except.bind_eq_ok.mp read
  obtain ⟨payload, payloadIs, read⟩ := Except.bind_eq_ok.mp read
  obtain ⟨text, tokenIs, read⟩ := Except.bind_eq_ok.mp read
  obtain ⟨ttl, ttlIs, read⟩ := Except.bind_eq_ok.mp read
  obtain ⟨expiration, expires, read⟩ := Except.bind_eq_ok.mp read
  rw [expectAt_eq_ok] at dataIs bytesIs payloadIs tokenIs ttlIs
  cases read
  have fits : expiration.sinceEpoch = now.sinceEpoch + ttl * 1000000000 := by
    simpa [Duration.fromSecs, nanosPerSecond] using SystemTime.add_sinceEpoch expires
  refine ⟨payload, by simp [decodePetHeader, dataIs, bytesIs, payloadIs],
    ⟨?_, ttl, ttlIs, fits ▸ expiration.bounded.2⟩, ?_⟩
  · by_contra short
    rw [List.getElem?_eq_none (by omega)] at tokenIs
    cases tokenIs
  · simp [FetchedToken.view, petEntry, tokenIs, ttlIs, fits]

theorem petHeaderToken_ok (line : Nat) (now : SystemTime) {pet : HeaderValue}
    {payload : String} (decoded : decodePetHeader pet = some payload)
    (wellFormed : PetWellFormed now payload) :
    ∃ token, petHeaderToken line now pet = .ok token := by
  obtain ⟨fields, ttl, ttlIs, fits⟩ := wellFormed
  obtain ⟨expiration, expires, -⟩ := SystemTime.add_ok (clientRs 991) now
    (Duration.fromSecs ttl) (by simpa [Duration.fromSecs, nanosPerSecond] using fits)
  obtain ⟨data, dataIs, decodedData⟩ := Option.bind_eq_some.mp decoded
  obtain ⟨bytes, bytesIs, payloadIs⟩ := Option.bind_eq_some.mp decodedData
  obtain ⟨text, tokenIs⟩ : ∃ text, (strSplit payload ':')[1]? = some text :=
    ⟨_, List.getElem?_eq_getElem (by omega)⟩
  exact ⟨⟨text, expiration⟩, by
    simp only [petHeaderToken, petToken, dataIs, bytesIs, payloadIs, tokenIs, ttlIs, expires,
      expectAt, bind, Except.bind, pure, Except.pure]⟩

/-! ## The tail of the verify calls -/

/-- The tail `verify_2fa` and `verify_sms_2fa` share once the server has accepted the
code: the token map of the GS and HB headers replaces the old one, then the PET of
`X-Apple-PE-Token`, when present, is inserted and the account is logged in. -/
def installTokenHeaders (format : TokenHeaderFormat) (now : SystemTime)
    (response : HttpResponse) : EStateM (Fault Error) AppleAccount LoginState := do
  let tokens ← Fault.lift (Fault.ofPanic (headerTokens format now response))
  modify fun account => { account with tokens := tokens }
  match response.get "X-Apple-PE-Token" with
  | some pet =>
      let data ← Fault.lift
        (Fault.ofPanic (expectAt (clientRs format.petLine) unwrapErr pet.toStr))
      parsePetHeader now data
      pure .loggedIn
  | none => pure .needsLogin

/-- The tail as one equation: it panics or returns, and writes only the token map. -/
theorem installTokenHeaders_run (format : TokenHeaderFormat) (now : SystemTime)
    (response : HttpResponse) (account : AppleAccount) :
    (installTokenHeaders format now response).run account =
      match headerTokens format now response with
      | .error raised => .error (.panic raised) account
      | .ok tokens =>
          match response.get "X-Apple-PE-Token" with
          | none => .ok .needsLogin { account with tokens := tokens }
          | some pet =>
              match petHeaderToken format.petLine now pet with
              | .error raised => .error (.panic raised) { account with tokens := tokens }
              | .ok token =>
                  .ok .loggedIn { account with tokens := tokens.insert petService token } := by
  simp only [installTokenHeaders, EStateM.run, bind, EStateM.bind, modify, modifyGet,
    MonadStateOf.modifyGet, EStateM.modifyGet, pure, EStateM.pure]
  cases headerTokens format now response with
  | error raised => rfl
  | ok tokens =>
      simp only [Fault.lift, Fault.ofPanic]
      cases response.get "X-Apple-PE-Token" with
      | none => rfl
      | some pet =>
          simp only [petHeaderToken, parsePetHeader, EStateM.bind, modify, modifyGet,
            MonadStateOf.modifyGet, EStateM.modifyGet, Except.bind]
          cases pet.toStr with
          | none => rfl
          | some data =>
              simp only [expectAt, Fault.lift, Fault.ofPanic]
              cases petToken now data <;> rfl

theorem installTokenHeaders_ne_error (format : TokenHeaderFormat) (now : SystemTime)
    (response : HttpResponse) (account : AppleAccount) (error : Error) (after : AppleAccount) :
    (installTokenHeaders format now response).run account ≠ .error (.error error) after := by
  rw [installTokenHeaders_run]
  split
  · simp
  · split
    · simp
    · split <;> simp

/-- The payloads of the GS and HB headers, in order. -/
def tokenPayloads (response : HttpResponse) : List String :=
  (tokenHeaders response).filterMap decodeTokenHeader

/-- The payload of the PE header. -/
def petPayload (response : HttpResponse) : Option String :=
  (response.get "X-Apple-PE-Token").bind decodePetHeader

/-- The token map a verify call leaves, as the results read it: at the PET's id the PE
header's entry when there is one, and at every other id the last GS or HB entry. -/
def verifiedTokens (format : TokenHeaderFormat) (now : SystemTime) (response : HttpResponse)
    (id : String) : Option (String × Int) :=
  match petPayload response with
  | some payload =>
      if id = petService then some (petEntry now payload)
      else StringMap.lastValue id ((tokenPayloads response).map (format.entry now))
  | none => StringMap.lastValue id ((tokenPayloads response).map (format.entry now))

/-- The token map of `account` is the one a verify answer names. -/
def HoldsVerifiedTokens (format : TokenHeaderFormat) (now : SystemTime)
    (response : HttpResponse) (account : AppleAccount) : Prop :=
  ∀ id, (account.tokens.lookup id).map FetchedToken.view = verifiedTokens format now response id

/-- A response the tail reads without panicking: every GS and HB payload and the PE
payload are well formed. -/
def TokenHeaderFormat.Readable (format : TokenHeaderFormat) (now : SystemTime)
    (response : HttpResponse) : Prop :=
  (∀ header ∈ tokenHeaders response, ∃ payload, decodeTokenHeader header = some payload ∧
    format.WellFormed now payload) ∧
  ∀ pet, response.get "X-Apple-PE-Token" = some pet →
    ∃ payload, decodePetHeader pet = some payload ∧ PetWellFormed now payload

theorem lookup_headerTokens {format : TokenHeaderFormat} {now : SystemTime}
    {response : HttpResponse} {tokens : TokenMap}
    (collected : headerTokens format now response = .ok tokens) (id : String) :
    (tokens.lookup id).map FetchedToken.view =
      StringMap.lastValue id ((tokenPayloads response).map (format.entry now)) := by
  obtain ⟨entries, read, rfl⟩ := Except.map_eq_ok.mp collected
  rw [lookup_ofList_view, (mapM_headerToken_view format now _ entries read).2]
  rfl

/-- Whenever the tail returns, the token map is the one the response alone names, and
no other field of the account has changed. -/
theorem installTokenHeaders_eq_ok {format : TokenHeaderFormat} {now : SystemTime}
    {response : HttpResponse} {account after : AppleAccount} {state : LoginState}
    (returned : (installTokenHeaders format now response).run account = .ok state after) :
    format.Readable now response ∧
      state = (if (response.get "X-Apple-PE-Token").isSome then .loggedIn else .needsLogin) ∧
      after = { account with tokens := after.tokens } ∧
      HoldsVerifiedTokens format now response after := by
  rw [installTokenHeaders_run] at returned
  cases collected : headerTokens format now response with
  | error => simp [collected] at returned
  | ok tokens =>
  have headersRead : ∀ header ∈ tokenHeaders response, ∃ payload,
      decodeTokenHeader header = some payload ∧ format.WellFormed now payload := by
    obtain ⟨entries, read, -⟩ := Except.map_eq_ok.mp collected
    exact (mapM_headerToken_view format now _ entries read).1
  rw [collected] at returned
  cases petIs : response.get "X-Apple-PE-Token" with
  | none =>
      simp only [petIs, EStateM.Result.ok.injEq] at returned
      obtain ⟨rfl, rfl⟩ := returned
      refine ⟨⟨headersRead, by simp [petIs]⟩, rfl, rfl, fun id => ?_⟩
      simp [verifiedTokens, petPayload, petIs, lookup_headerTokens collected]
  | some pet =>
  cases read : petHeaderToken format.petLine now pet with
  | error => simp [petIs, read] at returned
  | ok token =>
      simp only [petIs, read, EStateM.Result.ok.injEq] at returned
      obtain ⟨rfl, rfl⟩ := returned
      obtain ⟨payload, decoded, wellFormed, viewIs⟩ := petHeaderToken_eq_ok read
      refine ⟨⟨headersRead, fun other otherIs => ?_⟩, rfl, rfl, fun id => ?_⟩
      · cases petIs.symm.trans otherIs
        exact ⟨payload, decoded, wellFormed⟩
      · by_cases pet : id = petService
        · subst pet
          simp [verifiedTokens, petPayload, petIs, decoded, viewIs]
        · simp [verifiedTokens, petPayload, petIs, decoded, pet,
            AList.lookup_insert_ne (Ne.symm pet), lookup_headerTokens collected]

/-- On a readable response the tail returns. -/
theorem installTokenHeaders_ok (format : TokenHeaderFormat) (now : SystemTime)
    {response : HttpResponse} (readable : format.Readable now response)
    (account : AppleAccount) :
    ∃ state after, (installTokenHeaders format now response).run account = .ok state after := by
  obtain ⟨headersRead, petRead⟩ := readable
  obtain ⟨entries, read⟩ := mapM_headerToken_ok format now _ headersRead
  have collected : headerTokens format now response = .ok (StringMap.ofList entries) := by
    rw [headerTokens, read]
    rfl
  rw [installTokenHeaders_run, collected]
  cases petIs : response.get "X-Apple-PE-Token" with
  | none => exact ⟨_, _, rfl⟩
  | some pet =>
      obtain ⟨payload, decoded, wellFormed⟩ := petRead pet petIs
      obtain ⟨token, tokenRead⟩ := petHeaderToken_ok format.petLine now decoded wellFormed
      exact ⟨_, _, by simp only [tokenRead]; rfl⟩

/-- On a readable response the tail returns the state the PE header names and leaves
the token map the response names, with the rest of the account untouched. -/
theorem installTokenHeaders_contract (format : TokenHeaderFormat) (now : SystemTime)
    {response : HttpResponse} (readable : format.Readable now response)
    (account : AppleAccount) :
    ∃ after, (installTokenHeaders format now response).run account =
        .ok (if (response.get "X-Apple-PE-Token").isSome then .loggedIn else .needsLogin) after ∧
      after = { account with tokens := after.tokens } ∧
      HoldsVerifiedTokens format now response after := by
  obtain ⟨state, after, returned⟩ := installTokenHeaders_ok format now readable account
  obtain ⟨-, rfl, unchanged, tokensAre⟩ := installTokenHeaders_eq_ok returned
  exact ⟨after, returned, unchanged, tokensAre⟩

end IMessageBridge
