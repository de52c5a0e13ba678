import IMessageBridge.Session

/-!
# Rich links in outgoing messages

The Go side hands `Client::send_message` a rich link inside the text:
`\x00RL\x01original_url\x01url\x01title\x01summary\x00actual_text`. The code cuts the
text with byte offsets (`&text[4..]`, `&rest[..end]`, `&rest[end + 1..]`), each of
which panics unless it falls on a character boundary, finds the NUL with `str::find`,
and splits the metadata with `splitn(4, '\x01')`.

`richLinkReading` states the reading in the terms of the specification: the metadata
runs to the first NUL, its fields are its `\x01`-separated parts and the summary is all
that follows the third separator. `parseRichLink_reading` shows that the code never
panics and reads every text that way; `sendMessage_richLink` carries it to the messages
handed to `client.send`, the SMS fallback included. That fallback, which
`send_attachment` makes too, is `sendWithSmsFallback`.

The types of `rustpush` (`LinkMeta`, `LPLinkMetadata`, `NSURL`) are not in this
repository; they are kept with the fields the bridge reads or writes.
-/

namespace IMessageBridge

/-! ## Byte offsets into UTF-8 text -/

/-- The bytes a run of characters takes in UTF-8. -/
def byteLength (chars : List Char) : Nat := (chars.map Char.utf8Size).sum

@[simp]
theorem byteLength_nil : byteLength [] = 0 := rfl

@[simp]
theorem byteLength_cons (c : Char) (chars : List Char) :
    byteLength (c :: chars) = c.utf8Size + byteLength chars := by
  simp [byteLength]

/-- The number of characters before byte offset `index`, when `index` falls on a
character boundary of the text (`str::is_char_boundary`). -/
def charsBefore (index : Nat) : List Char → Option Nat
  | [] => if index = 0 then some 0 else none
  | c :: rest =>
      if index = 0 then some 0
      else if c.utf8Size ≤ index then (charsBefore (index - c.utf8Size) rest).map (· + 1)
      else none

theorem charsBefore_byteLength (post : List Char) :
    ∀ pre : List Char, charsBefore (byteLength pre) (pre ++ post) = some pre.length
  | [] => by cases post <;> simp [charsBefore]
  | c :: pre => by
      have nonzero : c.utf8Size + byteLength pre ≠ 0 := by
        have := c.utf8Size_pos
        omega
      rw [List.cons_append, charsBefore, byteLength_cons, if_neg nonzero,
        if_pos (Nat.le_add_right _ _), Nat.add_sub_cancel_left, charsBefore_byteLength post pre]
      rfl

/-- The message of a slice at a byte offset inside a character or past the end; `std`
goes on to quote the character or the text. -/
def sliceMessage (index : Nat) : String :=
  "byte index " ++ toString index ++ " is not a char boundary"

/-- `&text[start..]` at `site`. -/
def sliceFrom (site : Site) (text : String) (start : Nat) : Except Panic String :=
  match charsBefore start text.data with
  | some count => .ok ⟨text.data.drop count⟩
  | none => .error ⟨site, sliceMessage start⟩

/-- `&text[..stop]` at `site`. -/
def sliceTo (site : Site) (text : String) (stop : Nat) : Except Panic String :=
  match charsBefore stop text.data with
  | some count => .ok ⟨text.data.take count⟩
  | none => .error ⟨site, sliceMessage stop⟩

/-- `str::find` of a character: the byte offset of its first occurrence. -/
def findChar (target : Char) : List Char → Option Nat
  | [] => none
  | c :: rest => if c = target then some 0 else (findChar target rest).map (c.utf8Size + ·)

theorem findChar_append (target : Char) (post : List Char) :
    ∀ pre : List Char, target ∉ pre →
      findChar target (pre ++ target :: post) = some (byteLength pre)
  | [], _ => by simp [findChar]
  | c :: pre, absent => by
      have different : c ≠ target := fun same => absent (same ▸ List.mem_cons_self c pre)
      rw [List.cons_append, findChar, if_neg different,
        findChar_append target post pre (fun inPre => absent (List.mem_cons_of_mem c inPre)),
        byteLength_cons]
      rfl

theorem findChar_eq_none (target : Char) :
    ∀ chars : List Char, target ∉ chars → findChar target chars = none
  | [], _ => rfl
  | c :: rest, absent => by
      have different : c ≠ target := fun same => absent (same ▸ List.mem_cons_self c rest)
      simp only [findChar, different, if_false,
        findChar_eq_none target rest (fun inRest => absent (List.mem_cons_of_mem c inRest)),
        Option.map_none']

/-! ## `splitn` -/

/-- The characters before the first `separator`, and those after it when there is one. -/
def breakAt (separator : Char) : List Char → List Char × Option (List Char)
  | [] => ([], none)
  | c :: rest =>
      if c = separator then ([], some rest)
      else (c :: (breakAt separator rest).1, (breakAt separator rest).2)

/-- `str::splitn(count, separator)`: at most `count` fields, the last holding the rest of
the text. -/
def splitn (separator : Char) : Nat → List Char → List (List Char)
  | 0, _ => []
  | 1, chars => [chars]
  | count + 2, chars =>
      match breakAt separator chars with
      | (field, some rest) => field :: splitn separator (count + 1) rest
      | (field, none) => [field]

/-- `List.splitOn` cuts at the same place as `breakAt`. -/
theorem splitOn_breakAt (separator : Char) :
    ∀ chars : List Char, chars.splitOn separator =
      (breakAt separator chars).1 ::
        ((breakAt separator chars).2.map (List.splitOn separator)).getD []
  | [] => rfl
  | c :: rest => by
      have rest_split := splitOn_breakAt separator rest
      simp only [List.splitOn] at rest_split ⊢
      by_cases same : c = separator
      · simp only [List.splitOnP_cons, same, beq_self_eq_true, if_true, breakAt]
        rfl
      · simp only [List.splitOnP_cons, beq_iff_eq, same, if_false, breakAt, rest_split]
        rfl

/-- The four fields `splitn(4, ..)` gives are the first three parts of `List.splitOn`
and all the parts after them, joined again. -/
theorem splitn_four (separator : Char) (chars : List Char) :
    (splitn separator 4 chars).getD 0 [] = (chars.splitOn separator).getD 0 [] ∧
    (splitn separator 4 chars).getD 1 [] = (chars.splitOn separator).getD 1 [] ∧
    (splitn separator 4 chars).getD 2 [] = (chars.splitOn separator).getD 2 [] ∧
    (splitn separator 4 chars).getD 3 [] =
      [separator].intercalate ((chars.splitOn separator).drop 3) := by
  rw [splitOn_breakAt separator chars]
  rcases first : breakAt separator chars with ⟨field, _ | rest⟩
  · simp [splitn, first, List.intercalate]
  simp only [Option.map_some', Option.getD_some]
  rw [splitOn_breakAt separator rest]
  rcases second : breakAt separator rest with ⟨field', _ | rest'⟩
  · simp [splitn, first, second, List.intercalate]
  simp only [Option.map_some', Option.getD_some]
  rw [splitOn_breakAt separator rest']
  rcases third : breakAt separator rest' with ⟨field'', _ | rest''⟩
  · simp [splitn, first, second, third, List.intercalate]
  simp [splitn, first, second, third, List.intercalate_splitOn]

/-! ## The rich link of an outgoing message -/

/-- `NSURL`. -/
structure NSURL where
  base : String
  relative : String
  deriving DecidableEq, Repr

/-- The image (or icon) of a link preview: its MIME type, and the index of its data
among the link's attachments (`rich_link_image_attachment_substitute_index`). -/
structure RichLinkImage where
  mimeType : String
  substituteIndex : Nat
  deriving DecidableEq, Repr

/-- `LPLinkMetadata`, with the fields the bridge reads or writes. -/
structure LPLinkMetadata where
  originalUrl : NSURL
  url : Option NSURL
  title : Option String
  summary : Option String
  image : Option RichLinkImage
  icon : Option RichLinkImage
  deriving DecidableEq, Repr

/-- `LinkMeta`: the metadata and the attachments its images point into. -/
structure LinkMeta where
  data : LPLinkMetadata
  attachments : List Bytes
  deriving DecidableEq, Repr

/-- The fields of a rich link the Go side encodes: the original URL, and the URL, the
title and the summary, each `None` when empty. -/
abbrev RichLinkFields := String × Option String × Option String × Option String

/-- The fields a link carries, as the Go side encodes them. -/
def LinkMeta.fields (linkMeta : LinkMeta) : RichLinkFields :=
  (linkMeta.data.originalUrl.relative, linkMeta.data.url.map NSURL.relative,
    linkMeta.data.title, linkMeta.data.summary)

/-- `None` for an empty text. -/
def nonEmpty (text : String) : Option String := if text.isEmpty then none else some text

/-- An empty text read back from `None` is the text itself. -/
@[simp]
theorem nonEmpty_getD (text : String) : (nonEmpty text).getD "" = text := by
  unfold nonEmpty
  split
  · next empty => exact ((String.isEmpty_iff text).mp empty).symm
  · rfl

/-- The prefix that marks a rich link. -/
def richLinkPrefix : String := "\x00RL\x01"

/-- The link `send_message` builds from the fields of the metadata. -/
def richLinkMeta (fields : List String) : LinkMeta :=
  let field := fun index => fields.getD index ""
  ⟨⟨⟨"$null", field 0⟩, (nonEmpty (field 1)).map fun url => ⟨"$null", url⟩,
    nonEmpty (field 2), nonEmpty (field 3), none, none⟩, []⟩

theorem richLinkMeta_fields (fields : List (List Char)) :
    (richLinkMeta (fields.map String.mk)).fields =
      (⟨fields.getD 0 []⟩, nonEmpty ⟨fields.getD 1 []⟩, nonEmpty ⟨fields.getD 2 []⟩,
        nonEmpty ⟨fields.getD 3 []⟩) := by
  have getD_map : ∀ index, (fields.map String.mk).getD index "" = ⟨fields.getD index []⟩ :=
    fun _ => List.getD_map fields [] String.mk
  simp [richLinkMeta, LinkMeta.fields, getD_map, Option.map_map, Function.comp_def]

/-- The parse at the head of `Client::send_message`: the text to send, and the rich link
when the text carries one. -/
def parseRichLink (text : String) : Except Panic (String × Option LinkMeta) :=
  if richLinkPrefix.data.isPrefixOf text.data then do
    let rest ← sliceFrom (libRs 1261) text 4
    match findChar '\x00' rest.data with
    | some stop =>
        let metadata ← sliceTo (libRs 1263) rest stop
        let actual ← sliceFrom (libRs 1264) rest (stop + 1)
        pure (actual, some (richLinkMeta ((splitn '\x01' 4 metadata.data).map String.mk)))
    | none => pure (text, none)
  else pure (text, none)

/-- The reading the specification gives a text, in its own terms: when the text starts
with the prefix and a NUL follows, the metadata runs to the first NUL and the text to
send is what follows it; the fields are the metadata's `\x01`-separated parts, the
summary being all that follows the third separator. -/
def richLinkReading (text : String) : String × Option RichLinkFields :=
  let rest := text.data.drop 4
  if richLinkPrefix.data.isPrefixOf text.data ∧ '\x00' ∈ rest then
    let fields := (rest.takeWhile (· != '\x00')).splitOn '\x01'
    let field := fun index => String.mk (fields.getD index [])
    (⟨(rest.dropWhile (· != '\x00')).tail⟩,
      some (field 0, nonEmpty (field 1), nonEmpty (field 2),
        nonEmpty ⟨['\x01'].intercalate (fields.drop 3)⟩))
  else (text, none)

theorem takeWhile_dropWhile_first (target : Char) :
    ∀ chars : List Char, target ∈ chars →
      chars = chars.takeWhile (· != target) ++ target :: (chars.dropWhile (· != target)).tail ∧
        target ∉ chars.takeWhile (· != target)
  | [], member => absurd member (List.not_mem_nil target)
  | c :: rest, member => by
      by_cases same : c = target
      · subst same
        simp
      · have later : target ∈ rest := (List.mem_cons.mp member).resolve_left (Ne.symm same)
        obtain ⟨split, absent⟩ := takeWhile_dropWhile_first target rest later
        simp only [List.takeWhile_cons, List.dropWhile_cons, bne_iff_ne, ne_eq, same,
          not_false_eq_true, if_true, List.cons_append, List.mem_cons, not_or]
        exact ⟨congrArg (c :: ·) split, Ne.symm same, absent⟩

/-- The code's parse never panics, and reads every text as the specification does. -/
theorem parseRichLink_reading (text : String) :
    ∃ parsed, parseRichLink text = .ok parsed ∧
      (parsed.1, parsed.2.map LinkMeta.fields) = richLinkReading text := by
  by_cases marked : richLinkPrefix.data.isPrefixOf text.data
  · obtain ⟨rest, textIs⟩ : ∃ rest, text.data = richLinkPrefix.data ++ rest :=
      (List.isPrefixOf_iff_prefix.mp marked).imp fun _ split => split.symm
    have cut : sliceFrom (libRs 1261) text 4 = .ok ⟨rest⟩ := by
      have boundary : charsBefore 4 (richLinkPrefix.data ++ rest) = some 4 :=
        charsBefore_byteLength rest richLinkPrefix.data
      simp only [sliceFrom, textIs, boundary]
      rfl
    have dropped : text.data.drop 4 = rest := by
      rw [textIs]
      rfl
    by_cases terminated : '\x00' ∈ rest
    · obtain ⟨split, absent⟩ := takeWhile_dropWhile_first '\x00' rest terminated
      simp only [richLinkReading, dropped, marked, terminated, and_self, if_true]
      generalize rest.takeWhile (· != '\x00') = metadata at split absent ⊢
      generalize (rest.dropWhile (· != '\x00')).tail = actual at split ⊢
      subst split
      have upTo : sliceTo (libRs 1263) ⟨metadata ++ '\x00' :: actual⟩ (byteLength metadata) =
          .ok ⟨metadata⟩ := by
        simp [sliceTo, charsBefore_byteLength]
      have after : sliceFrom (libRs 1264) ⟨metadata ++ '\x00' :: actual⟩
          (byteLength metadata + 1) = .ok ⟨actual⟩ := by
        have boundary := charsBefore_byteLength actual (metadata ++ ['\x00'])
        rw [List.append_assoc, List.singleton_append, byteLength, List.map_append,
          List.sum_append] at boundary
        simp only [sliceFrom]
        rw [show byteLength metadata + 1 = (metadata.map Char.utf8Size).sum +
          (['\x00'].map Char.utf8Size).sum from rfl, boundary]
        simp
      obtain ⟨first, second, third, summary⟩ := splitn_four '\x01' metadata
      refine ⟨_, by simp only [parseRichLink, marked, if_true, cut, bind, Except.bind,
        findChar_append '\x00' actual metadata absent, upTo, after]; rfl, ?_⟩
      simp only [Option.map_some', richLinkMeta_fields, first, second, third, summary]
    · refine ⟨_, by simp only [parseRichLink, marked, if_true, cut, bind, Except.bind,
        findChar_eq_none '\x00' rest terminated]; rfl, ?_⟩
      simp [richLinkReading, dropped, terminated]
  · refine ⟨_, by simp only [parseRichLink, marked]; rfl, ?_⟩
    simp [richLinkReading, marked]

/-- The link of a parse is one `richLinkMeta` builds: no image, no icon, no
attachments. -/
theorem parseRichLink_built {text : String} {parsed : String × Option LinkMeta}
    (parsedIs : parseRichLink text = .ok parsed) :
    ∀ link ∈ parsed.2, ∃ fields, link = richLinkMeta fields := by
  intro link member
  unfold parseRichLink at parsedIs
  split at parsedIs
  · obtain ⟨rest, -, found⟩ := Except.bind_eq_ok.mp parsedIs
    split at found
    · obtain ⟨metadata, -, found⟩ := Except.bind_eq_ok.mp found
      obtain ⟨actual, -, found⟩ := Except.bind_eq_ok.mp found
      cases found
      cases member
      exact ⟨_, rfl⟩
    · cases found
      cases member
  · cases parsedIs
    cases member

/-- The text the Go side writes for a rich link. -/
def richLinkText (originalUrl url title summary actual : String) : String :=
  richLinkPrefix ++ originalUrl ++ "\x01" ++ url ++ "\x01" ++ title ++ "\x01" ++ summary ++
    "\x00" ++ actual

theorem takeWhile_dropWhile_append (target : Char) (post : List Char) :
    ∀ pre : List Char, target ∉ pre →
      (pre ++ target :: post).takeWhile (· != target) = pre ∧
        ((pre ++ target :: post).dropWhile (· != target)).tail = post
  | [], _ => by simp
  | c :: pre, absent => by
      have different : c ≠ target := fun same => absent (same ▸ List.mem_cons_self c pre)
      obtain ⟨taken, dropped⟩ := takeWhile_dropWhile_append target post pre
        (fun inPre => absent (List.mem_cons_of_mem c inPre))
      simp [List.takeWhile_cons, List.dropWhile_cons, different, taken, dropped]

/-- The specification's reading recovers every field of a text the Go side wrote, when
no field holds a NUL and none before the summary holds a `\x01`. -/
theorem richLinkReading_richLinkText {originalUrl url title summary actual : String}
    (originalUrlClean : '\x00' ∉ originalUrl.data ∧ '\x01' ∉ originalUrl.data)
    (urlClean : '\x00' ∉ url.data ∧ '\x01' ∉ url.data)
    (titleClean : '\x00' ∉ title.data ∧ '\x01' ∉ title.data)
    (summaryClean : '\x00' ∉ summary.data) :
    richLinkReading (richLinkText originalUrl url title summary actual) =
      (actual, some (originalUrl, nonEmpty url, nonEmpty title, nonEmpty summary)) := by
  have separators : ('\x01' : Char) ≠ '\x00' := by decide
  set metadata := originalUrl.data ++ '\x01' :: (url.data ++ '\x01' ::
    (title.data ++ '\x01' :: summary.data))
  have dataIs : (richLinkText originalUrl url title summary actual).data =
      '\x00' :: 'R' :: 'L' :: '\x01' :: (metadata ++ '\x00' :: actual.data) := by
    simp [richLinkText, richLinkPrefix, metadata]
  have clean : '\x00' ∉ metadata := by
    simp [metadata, originalUrlClean.1, urlClean.1, titleClean.1, summaryClean, separators]
  obtain ⟨taken, dropped⟩ := takeWhile_dropWhile_append '\x00' actual.data metadata clean
  have fields : metadata.splitOn '\x01' =
      originalUrl.data :: url.data :: title.data :: summary.data.splitOn '\x01' := by
    have noSeparator : ∀ {chars : List Char}, '\x01' ∉ chars →
        ∀ x ∈ chars, ¬(x == '\x01') = true := fun absent x member same =>
      absent (by rwa [← beq_iff_eq.mp same])
    simp only [metadata, List.splitOn]
    rw [List.splitOnP_first _ _ (noSeparator originalUrlClean.2) _ (by simp),
      List.splitOnP_first _ _ (noSeparator urlClean.2) _ (by simp),
      List.splitOnP_first _ _ (noSeparator titleClean.2) _ (by simp)]
  have marked : richLinkPrefix.data.isPrefixOf
      ('\x00' :: 'R' :: 'L' :: '\x01' :: (metadata ++ '\x00' :: actual.data)) := by
    simp [richLinkPrefix, List.isPrefixOf]
  simp only [richLinkReading, dataIs, marked, List.drop_succ_cons, List.drop_zero,
    List.mem_append, List.mem_cons, true_or, or_true, and_self, if_true, taken, dropped,
    fields, List.getD_cons_zero, List.getD_cons_succ, List.drop_succ_cons, List.drop_zero,
    List.intercalate_splitOn]

/-! ## `send_message` -/

/-- What `client.send` answered: sent, or a `PushError`, given by whether it is
`NoValidTargets` and by its `Display`. -/
inductive PushOutcome where
  | sent
  | failed (noValidTargets : Bool) (display : String)

/-- A message handed to `client.send`: its text, its rich link, and whether it goes as
SMS. -/
structure OutgoingMessage where
  text : String
  linkMeta : Option LinkMeta
  sms : Bool

/-- What `send_message` did: the messages it handed to `client.send`, in order, and what
it returned (the message id is left out). -/
structure SendReport where
  attempts : List OutgoingMessage
  result : Except WrappedError Unit

/-- The send `send_message` and `send_attachment` both make: the message first, and when
`client.send` finds no valid targets for a conversation that is not SMS, its SMS form once
more. Each error opens with its method's context for the SMS send (`smsContext`) or for
the first (`context`). What it returns: the messages handed to `client.send`, in order,
and the result (the message id is left out). -/
def sendWithSmsFallback {M : Type} (isSms : Bool) (first fallback : M)
    (smsContext context : String) (push : M → PushOutcome) :
    List M × Except WrappedError Unit :=
  match push first with
  | .sent => ([first], .ok ())
  | .failed noValidTargets display =>
      if noValidTargets && !isSms then
        match push fallback with
        | .sent => ([first, fallback], .ok ())
        | .failed _ display => ([first, fallback], .error (.genericError (smsContext ++ display)))
      else ([first], .error (.genericError (context ++ display)))

section SmsFallback

variable {M : Type} {isSms : Bool} {first fallback : M} {smsContext context : String}
  {push : M → PushOutcome}

/-- The message is handed to `client.send` first, and its SMS form after it only when the
first found no valid targets in a conversation that is not SMS. -/
theorem sendWithSmsFallback_attempts :
    (sendWithSmsFallback isSms first fallback smsContext context push).1 = [first] ∨
      (sendWithSmsFallback isSms first fallback smsContext context push).1 = [first, fallback] ∧
        isSms = false ∧ ∃ display, push first = .failed true display := by
  unfold sendWithSmsFallback
  split
  · exact .inl rfl
  · rename_i noValidTargets display firstFailed
    split
    · rename_i resent
      simp only [Bool.and_eq_true, Bool.not_eq_true'] at resent
      obtain ⟨rfl, rfl⟩ := resent
      exact .inr ⟨by split <;> rfl, rfl, display, firstFailed⟩
    · exact .inl rfl

theorem sendWithSmsFallback_mem {message : M}
    (attempted : message ∈ (sendWithSmsFallback isSms first fallback smsContext context push).1) :
    message = first ∨ message = fallback := by
  rcases @sendWithSmsFallback_attempts M isSms first fallback smsContext context push with
    attempts | ⟨attempts, -⟩ <;>
    simp only [attempts, List.mem_cons, List.mem_singleton, List.not_mem_nil, or_false]
      at attempted
  · exact .inl attempted
  · exact attempted

/-- The send succeeds exactly when one of the messages handed to `client.send` was sent. -/
theorem sendWithSmsFallback_ok_iff :
    (sendWithSmsFallback isSms first fallback smsContext context push).2 = .ok () ↔
      ∃ message ∈ (sendWithSmsFallback isSms first fallback smsContext context push).1,
        push message = .sent := by
  unfold sendWithSmsFallback
  split
  next firstSent => simp [firstSent]
  next firstFailed =>
    split
    · split <;> simp [firstFailed, *]
    · simp [firstFailed]

end SmsFallback

/-- `Client::send_message`: `isSms` is the conversation's, and `push` answers each
`client.send`. An iMessage with no valid targets is sent again as SMS, without its rich
link. -/
def sendMessage (isSms : Bool) (text : String) (push : OutgoingMessage → PushOutcome) :
    Except Panic SendReport := do
  let parsed ← parseRichLink text
  let sent := sendWithSmsFallback isSms ⟨parsed.1, parsed.2, isSms⟩ ⟨parsed.1, none, true⟩
    "Failed to send SMS: " "Failed to send message: " push
  pure ⟨sent.1, sent.2⟩

/-- `send_message` hands `client.send` the parsed message first, and at most one SMS of
the same text without the link after it. -/
theorem sendMessage_attempts {isSms : Bool} {text : String}
    {push : OutgoingMessage → PushOutcome} {parsed : String × Option LinkMeta}
    (parsedIs : parseRichLink text = .ok parsed) :
    ∃ report, sendMessage isSms text push = .ok report ∧
      (report.attempts = [⟨parsed.1, parsed.2, isSms⟩] ∨
        report.attempts = [⟨parsed.1, parsed.2, isSms⟩, ⟨parsed.1, none, true⟩]) := by
  simp only [sendMessage, parsedIs, bind, Except.bind, pure, Except.pure, Except.ok.injEq,
    exists_eq_left']
  exact sendWithSmsFallback_attempts.imp_right And.left

/-- `send_message` never panics on its text. It hands `client.send` first the message the
specification's reading gives (the text after the metadata, with the link's fields, or
the whole text without a link), and any SMS fallback carries the same text without the
link. A text the Go side wrote is sent as its message, with every field recovered. -/
theorem sendMessage_richLink :
    (∀ (isSms : Bool) (push : OutgoingMessage → PushOutcome) (text : String),
      ∃ report first fallback, sendMessage isSms text push = .ok report ∧
        report.attempts = first :: fallback ∧
        (first.text, first.linkMeta.map LinkMeta.fields) = richLinkReading text ∧
        first.sms = isSms ∧
        ∀ resent ∈ fallback, resent.text = first.text ∧ resent.linkMeta = none ∧
          resent.sms = true) ∧
    (∀ (isSms : Bool) (push : OutgoingMessage → PushOutcome)
        (originalUrl url title summary actual : String),
      '\x00' ∉ originalUrl.data ∧ '\x01' ∉ originalUrl.data →
      '\x00' ∉ url.data ∧ '\x01' ∉ url.data →
      '\x00' ∉ title.data ∧ '\x01' ∉ title.data → '\x00' ∉ summary.data →
      ∃ report first fallback,
        sendMessage isSms (richLinkText originalUrl url title summary actual) push =
          .ok report ∧ report.attempts = first :: fallback ∧ first.text = actual ∧
        first.linkMeta.map LinkMeta.fields =
          some (originalUrl, nonEmpty url, nonEmpty title, nonEmpty summary)) := by
  have sent : ∀ (isSms : Bool) (push : OutgoingMessage → PushOutcome) (text : String),
      ∃ report first fallback, sendMessage isSms text push = .ok report ∧
        report.attempts = first :: fallback ∧
        (first.text, first.linkMeta.map LinkMeta.fields) = richLinkReading text ∧
        first.sms = isSms ∧
        ∀ resent ∈ fallback, resent.text = first.text ∧ resent.linkMeta = none ∧
          resent.sms = true := by
    intro isSms push text
    obtain ⟨parsed, parsedIs, reading⟩ := parseRichLink_reading text
    obtain ⟨report, returned, attempts⟩ := @sendMessage_attempts isSms text push _ parsedIs
    rcases attempts with alone | resent
    · exact ⟨report, _, [], returned, alone, reading, rfl, by simp⟩
    · exact ⟨report, _, _, returned, resent, reading, rfl, by simp⟩
  refine ⟨sent, fun isSms push originalUrl url title summary actual originalUrlClean urlClean
    titleClean summaryClean => ?_⟩
  obtain ⟨report, first, fallback, returned, attempts, reading, -⟩ :=
    sent isSms push (richLinkText originalUrl url title summary actual)
  rw [richLinkReading_richLinkText originalUrlClean urlClean titleClean summaryClean,
    Prod.mk.injEq] at reading
  exact ⟨report, first, fallback, returned, attempts, reading.1, reading.2⟩

/-- A `client.send` that finds no iMessage targets and sends SMS. -/
def smsOnly (message : OutgoingMessage) : PushOutcome :=
  if message.sms then .sent else .failed true "no valid targets"

theorem sendMessage_richLink_shown :
    ∃ report first fallback,
      sendMessage false (richLinkText "https://example.com" "" "Café" "A café" "look")
          smsOnly = .ok report ∧
        report.attempts = first :: fallback ∧ first.text = "look" ∧
        first.linkMeta.map LinkMeta.fields =
          some ("https://example.com", nonEmpty "", nonEmpty "Café", nonEmpty "A café") :=
  sendMessage_richLink.2 false smsOnly "https://example.com" "" "Café" "A café" "look"
    (by decide) (by decide) (by decide) (by decide)

end IMessageBridge
