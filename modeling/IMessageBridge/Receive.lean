import IMessageBridge.RichLink

/-!
# Attachments of received messages

On receipt, `message_inst_to_wrapped` flattens a message for the Go side: one
`WrappedAttachment` per attachment part, in order, then the rich link's entries (its
metadata, and its image when the link has one). `download_mmcs_attachments` then walks
the parts again with its own counter of attachment parts (`att_idx`), and fills in the
data of each MMCS attachment whose download succeeds.

The two loops count attachment parts the same way, so each download lands on its own
part's entry. `downloadLoop_eq` is the loop invariant: after the parts seen so far, the
entries before the counter hold their downloads and the rest are as
`message_inst_to_wrapped` made them. `downloadMmcsAttachments_contract` gives the list
after the downloads, for any parts and any download outcomes.

A rich link is followed from one end to the other: the link `send_message` parses out
of a text the Go side wrote is received as one metadata entry that holds every field
of that text (`richLink_sendReceive`).

The message types of `rustpush` (`Message`, `NormalMessage`, `MessagePart`,
`Attachment`) are not in this repository; they are kept with the fields these two
functions read.
-/

namespace IMessageBridge

/-- `AttachmentType`: the data inline, or a reference to MMCS, of which the bridge reads
the size. -/
inductive AttachmentType where
  | inline (data : Bytes)
  | mmcs (size : Nat)
  deriving DecidableEq, Repr

/-- `Attachment`, with the fields the bridge reads. -/
structure Attachment where
  aType : AttachmentType
  mime : String
  name : String
  utiType : String
  deriving DecidableEq, Repr

/-- `MessagePart`: an attachment, or any other part (text and the rest), which these
functions pass over. -/
inductive MessagePart where
  | attachment (att : Attachment)
  | other
  deriving DecidableEq, Repr

/-- `NormalMessage`: its parts in order, and its rich link. -/
structure NormalMessage where
  parts : List MessagePart
  linkMeta : Option LinkMeta

/-- `Reaction`; a sticker's fields are left out, since the bridge reads none of them. -/
inductive Reaction where
  | heart
  | like
  | dislike
  | laugh
  | emphasize
  | question
  | emoji (emoji : String)
  | sticker
  deriving DecidableEq, Repr

/-- `ReactMessageType`: a reaction added or removed, or an extension (a sticker and the
like), whose fields the bridge does not read. -/
inductive ReactMessageType where
  | react (reaction : Reaction) (enable : Bool)
  | extension
  deriving DecidableEq, Repr

/-- `ReactMessage`, with the fields the bridge reads and writes. -/
structure ReactMessage where
  toUuid : String
  toPart : Option Nat
  reaction : ReactMessageType
  deriving DecidableEq, Repr

/-- `EditMessage`: the message and part edited. The new parts are left out: their
`raw_text` is `rustpush`'s, which is not in this repository. -/
structure EditMessage where
  tuuid : String
  editPart : Nat
  deriving DecidableEq, Repr

/-- `UnsendMessage`. -/
structure UnsendMessage where
  tuuid : String
  editPart : Nat
  deriving DecidableEq, Repr

/-- `Message`, with the kinds `message_inst_to_wrapped` tells apart (a rename, a change
of participants and an error with the fields it reads), and `other` for the rest. -/
inductive Message where
  | message (normal : NormalMessage)
  | react (react : ReactMessage)
  | edit (edit : EditMessage)
  | unsend (unsend : UnsendMessage)
  | renameMessage (newName : String)
  | changeParticipants (newParticipants : List String)
  | typing (typing : Bool)
  | read
  | delivered
  | error (forUuid : String) (status : Nat) (statusStr : String)
  | peerCacheInvalidate
  | other

/-- `WrappedAttachment`. -/
structure WrappedAttachment where
  mimeType : String
  filename : String
  utiType : String
  size : Nat
  isInline : Bool
  inlineData : Option Bytes
  deriving DecidableEq, Repr

/-- `WrappedMessage`, with the fields `message_inst_to_wrapped` fills from the message's
kind. -/
structure WrappedMessage where
  isTapback : Bool
  tapbackType : Option Nat
  tapbackTargetUuid : Option String
  tapbackTargetPart : Option Nat
  tapbackEmoji : Option String
  tapbackRemove : Bool
  isEdit : Bool
  editTargetUuid : Option String
  editPart : Option Nat
  isUnsend : Bool
  unsendTargetUuid : Option String
  unsendEditPart : Option Nat
  isRename : Bool
  newChatName : Option String
  isParticipantChange : Bool
  newParticipants : List String
  attachments : List WrappedAttachment
  isTyping : Bool
  isReadReceipt : Bool
  isDelivered : Bool
  isError : Bool
  errorForUuid : Option String
  errorStatus : Option Nat
  errorStatusStr : Option String
  isPeerCacheInvalidate : Bool
  deriving DecidableEq, Repr

/-- The `WrappedMessage` `message_inst_to_wrapped` starts from, before it looks at the
message's kind. -/
def wrappedDefaults : WrappedMessage where
  isTapback := false
  tapbackType := none
  tapbackTargetUuid := none
  tapbackTargetPart := none
  tapbackEmoji := none
  tapbackRemove := false
  isEdit := false
  editTargetUuid := none
  editPart := none
  isUnsend := false
  unsendTargetUuid := none
  unsendEditPart := none
  isRename := false
  newChatName := none
  isParticipantChange := false
  newParticipants := []
  attachments := []
  isTyping := false
  isReadReceipt := false
  isDelivered := false
  isError := false
  errorForUuid := none
  errorStatus := none
  errorStatusStr := none
  isPeerCacheInvalidate := false

/-! ## `message_inst_to_wrapped` -/

/-- The attachments among the parts, in order. -/
def attachmentParts (parts : List MessagePart) : List Attachment :=
  parts.filterMap fun part =>
    match part with
    | .attachment att => some att
    | .other => none

/-- The entry of an attachment part: inline data as it is, an MMCS reference with its
size and no data. -/
def attachmentEntry (att : Attachment) : WrappedAttachment :=
  match att.aType with
  | .inline data => ⟨att.mime, att.name, att.utiType, data.length, true, some data⟩
  | .mmcs size => ⟨att.mime, att.name, att.utiType, size, false, none⟩

/-- The image of a link: its own, or else its icon. -/
def linkImage (data : LPLinkMetadata) : Option RichLinkImage :=
  data.image.or data.icon

/-- The entries of a rich link: its metadata, as
`original_url\x01url\x01title\x01summary\x01image_mime`, and the image's data when the
link's attachments hold it. The `From<NSURL> for String`
of `rustpush` is not in this repository; the model reads the relative URL, the part
`send_message` fills. -/
def richLinkEntries (linkMeta : LinkMeta) : List WrappedAttachment :=
  let data := linkMeta.data
  let imageMime := ((linkImage data).map RichLinkImage.mimeType).getD ""
  let meta := data.originalUrl.relative ++ "\x01" ++ ((data.url.map NSURL.relative).getD "") ++
    "\x01" ++ data.title.getD "" ++ "\x01" ++ data.summary.getD "" ++ "\x01" ++ imageMime
  let metaEntry : WrappedAttachment := ⟨"x-richlink/meta", "", "", 0, true, some (asBytes meta)⟩
  match (linkImage data).bind fun image => linkMeta.attachments[image.substituteIndex]? with
  | some image => [metaEntry, ⟨"x-richlink/image", "", "", image.length, true, some image⟩]
  | none => [metaEntry]

/-- `convert_reaction`: the tapback type, the emoji of an emoji reaction, and whether the
reaction is removed. -/
def convertReaction (reaction : Reaction) (enable : Bool) :
    Option Nat × Option String × Bool :=
  let tapbackType := match reaction with
    | .heart => some 0
    | .like => some 1
    | .dislike => some 2
    | .laugh => some 3
    | .emphasize => some 4
    | .question => some 5
    | .emoji _ => some 6
    | .sticker => some 7
  let emoji := match reaction with
    | .emoji emoji => some emoji
    | _ => none
  (tapbackType, emoji, !enable)

/-- The tapback fields of a reaction message. -/
def reactWrapped (react : ReactMessage) : WrappedMessage :=
  let tapback := { wrappedDefaults with
    isTapback := true, tapbackTargetUuid := some react.toUuid, tapbackTargetPart := react.toPart }
  match react.reaction with
  | .react reaction enable =>
      let (tapbackType, emoji, remove) := convertReaction reaction enable
      { tapback with tapbackType := tapbackType, tapbackEmoji := emoji, tapbackRemove := remove }
  | .extension => { tapback with tapbackType := some 7 }

/-- `message_inst_to_wrapped`: the fields of the message's kind, set over the defaults.
The fields the message instance fills whatever its kind (`uuid`, `sender`, the
conversation's, the timestamp) and those of a normal message other than its attachments
(the text, the subject, the reply, the service) are left out. -/
def messageInstToWrapped : Message → WrappedMessage
  | .message normal =>
      { wrappedDefaults with
        attachments := (attachmentParts normal.parts).map attachmentEntry ++
          (normal.linkMeta.map richLinkEntries).getD [] }
  | .react react => reactWrapped react
  | .edit edit =>
      { wrappedDefaults with
        isEdit := true, editTargetUuid := some edit.tuuid, editPart := some edit.editPart }
  | .unsend unsend =>
      { wrappedDefaults with
        isUnsend := true, unsendTargetUuid := some unsend.tuuid,
        unsendEditPart := some unsend.editPart }
  | .renameMessage newName => { wrappedDefaults with isRename := true, newChatName := some newName }
  | .changeParticipants newParticipants =>
      { wrappedDefaults with isParticipantChange := true, newParticipants := newParticipants }
  | .typing typing => { wrappedDefaults with isTyping := typing }
  | .read => { wrappedDefaults with isReadReceipt := true }
  | .delivered => { wrappedDefaults with isDelivered := true }
  | .error forUuid status statusStr =>
      { wrappedDefaults with
        isError := true, errorForUuid := some forUuid, errorStatus := some status,
        errorStatusStr := some statusStr }
  | .peerCacheInvalidate => { wrappedDefaults with isPeerCacheInvalidate := true }
  | .other => wrappedDefaults

/-! ## A rich link, sent and received

The metadata `send_message` parses out of a text is what a receiving bridge flattens
back for the Go side: the link a text of `richLinkText` carries is received as the one
entry `original_url\x01url\x01title\x01summary\x01`, every field the Go side wrote,
after the message's own attachments and with no image. -/

/-- The entries of a link `send_message` built: its metadata alone, the image's MIME
type empty. -/
theorem richLinkEntries_richLinkMeta (fields : List String) :
    richLinkEntries (richLinkMeta fields) =
      [⟨"x-richlink/meta", "", "", 0, true, some (asBytes (fields.getD 0 "" ++ "\x01" ++
        fields.getD 1 "" ++ "\x01" ++ fields.getD 2 "" ++ "\x01" ++ fields.getD 3 "" ++
        "\x01"))⟩] := by
  simp only [richLinkEntries, richLinkMeta, linkImage, Option.or_none, Option.map_none',
    Option.none_bind, Option.getD_none, Option.map_map, Function.comp_def, Option.map_id',
    nonEmpty_getD, String.append_empty]

/-- A text the Go side wrote is sent with a link whose receipt gives back every field it
wrote, when no field holds a NUL and none before the summary a `\x01`. -/
theorem richLink_sendReceive (isSms : Bool) (push : OutgoingMessage → PushOutcome)
    (originalUrl url title summary actual : String)
    (originalUrlClean : '\x00' ∉ originalUrl.data ∧ '\x01' ∉ originalUrl.data)
    (urlClean : '\x00' ∉ url.data ∧ '\x01' ∉ url.data)
    (titleClean : '\x00' ∉ title.data ∧ '\x01' ∉ title.data)
    (summaryClean : '\x00' ∉ summary.data) :
    ∃ report first fallback link,
      sendMessage isSms (richLinkText originalUrl url title summary actual) push =
        .ok report ∧ report.attempts = first :: fallback ∧ first.text = actual ∧
      first.linkMeta = some link ∧
      ∀ parts, (messageInstToWrapped (.message ⟨parts, some link⟩)).attachments =
        (attachmentParts parts).map attachmentEntry ++
          [⟨"x-richlink/meta", "", "", 0, true, some (asBytes (originalUrl ++ "\x01" ++ url ++
            "\x01" ++ title ++ "\x01" ++ summary ++ "\x01"))⟩] := by
  obtain ⟨parsed, parsedIs, reading⟩ :=
    parseRichLink_reading (richLinkText originalUrl url title summary actual)
  rw [richLinkReading_richLinkText originalUrlClean urlClean titleClean summaryClean,
    Prod.mk.injEq] at reading
  obtain ⟨link, linkIs, fieldsIs⟩ := Option.map_eq_some'.mp reading.2
  obtain ⟨fields, rfl⟩ := parseRichLink_built parsedIs link linkIs
  simp only [richLinkMeta, LinkMeta.fields, Option.map_map, Function.comp_def, Option.map_id',
    Prod.mk.injEq] at fieldsIs
  obtain ⟨originalUrlIs, urlIs, titleIs, summaryIs⟩ := fieldsIs
  obtain ⟨report, returned, attempts⟩ := @sendMessage_attempts isSms _ push _ parsedIs
  obtain ⟨fallback, attemptsIs⟩ :
      ∃ fallback, report.attempts = ⟨parsed.1, parsed.2, isSms⟩ :: fallback := by
    rcases attempts with alone | resent
    exacts [⟨_, alone⟩, ⟨_, resent⟩]
  refine ⟨report, _, fallback, _, returned, attemptsIs, reading.1, linkIs, fun parts => ?_⟩
  rw [messageInstToWrapped, Option.map_some', Option.getD_some, richLinkEntries_richLinkMeta,
    originalUrlIs, ← nonEmpty_getD (fields.getD 1 ""), ← nonEmpty_getD (fields.getD 2 ""),
    ← nonEmpty_getD (fields.getD 3 ""), urlIs, titleIs, summaryIs, nonEmpty_getD,
    nonEmpty_getD, nonEmpty_getD]

theorem richLink_sendReceive_shown :
    ∃ report first fallback link,
      sendMessage false (richLinkText "https://example.com" "" "Café" "A café" "look")
          smsOnly = .ok report ∧ report.attempts = first :: fallback ∧ first.text = "look" ∧
      first.linkMeta = some link ∧
      ∀ parts, (messageInstToWrapped (.message ⟨parts, some link⟩)).attachments =
        (attachmentParts parts).map attachmentEntry ++
          [⟨"x-richlink/meta", "", "", 0, true, some (asBytes ("https://example.com" ++ "\x01" ++
            "" ++ "\x01" ++ "Café" ++ "\x01" ++ "A café" ++ "\x01"))⟩] :=
  richLink_sendReceive false smsOnly "https://example.com" "" "Café" "A café" "look"
    (by decide) (by decide) (by decide) (by decide)

/-! ## `download_mmcs_attachments` -/

/-- An entry with downloaded data: inline, holding the bytes. -/
def markDownloaded (buf : Bytes) (entry : WrappedAttachment) : WrappedAttachment :=
  { entry with isInline := true, inlineData := some buf }

/-- What one attachment part does to the entries: an MMCS attachment with an entry at its
index `attIdx` gets the data of its download, when that succeeds. -/
def downloadInto (download : Nat → Attachment → Except String Bytes) (attIdx : Nat)
    (att : Attachment) (attachments : List WrappedAttachment) : List WrappedAttachment :=
  match att.aType with
  | .mmcs _ =>
      if attIdx < attachments.length then
        match download attIdx att with
        | .ok buf => attachments.modify (markDownloaded buf) attIdx
        | .error _ => attachments
      else attachments
  | .inline _ => attachments

/-- The loop of `download_mmcs_attachments` from attachment index `attIdx`. -/
def downloadLoop (download : Nat → Attachment → Except String Bytes) :
    Nat → List MessagePart → List WrappedAttachment → List WrappedAttachment
  | _, [], attachments => attachments
  | attIdx, .other :: parts, attachments => downloadLoop download attIdx parts attachments
  | attIdx, .attachment att :: parts, attachments =>
      downloadLoop download (attIdx + 1) parts (downloadInto download attIdx att attachments)

/-- `download_mmcs_attachments`: `download` answers the MMCS download of the attachment
at each attachment index. -/
def downloadMmcsAttachments (download : Nat → Attachment → Except String Bytes)
    (wrapped : WrappedMessage) : Message → WrappedMessage
  | .message normal =>
      { wrapped with attachments := downloadLoop download 0 normal.parts wrapped.attachments }
  | _ => wrapped

/-- The entry the attachment at `index` should end with: its download's bytes, inline,
when it is in MMCS and the download succeeded, and otherwise the entry
`message_inst_to_wrapped` made. -/
def downloadedEntry (download : Nat → Attachment → Except String Bytes) (index : Nat)
    (att : Attachment) : WrappedAttachment :=
  match att.aType, download index att with
  | .mmcs _, .ok buf => markDownloaded buf (attachmentEntry att)
  | _, _ => attachmentEntry att

theorem modify_length_append {α : Type} (f : α → α) (entry : α) (pending : List α) :
    ∀ done : List α, (done ++ entry :: pending).modify f done.length = done ++ f entry :: pending
  | [] => rfl
  | first :: done => by
      rw [List.cons_append, List.length_cons, List.modify_succ_cons,
        modify_length_append f entry pending done, List.cons_append]

theorem downloadInto_entry (download : Nat → Attachment → Except String Bytes)
    (att : Attachment) (done pending : List WrappedAttachment) :
    downloadInto download done.length att (done ++ attachmentEntry att :: pending) =
      done ++ downloadedEntry download done.length att :: pending := by
  obtain ⟨aType, mime, name, utiType⟩ := att
  cases aType with
  | inline data => rfl
  | mmcs size =>
      simp only [downloadInto, downloadedEntry, List.length_append, List.length_cons,
        Nat.lt_add_of_pos_right (Nat.succ_pos _), if_true]
      cases download done.length ⟨.mmcs size, mime, name, utiType⟩ with
      | ok buf => exact modify_length_append _ _ _ _
      | error _ => rfl

/-- The loop invariant: once the parts before `parts` are done, their entries `done`
hold their downloads, and the loop leaves the entries of `parts` as `downloadedEntry`
says and the entries after them as they are. -/
theorem downloadLoop_eq (download : Nat → Attachment → Except String Bytes)
    (rest : List WrappedAttachment) :
    ∀ (parts : List MessagePart) (done : List WrappedAttachment),
      downloadLoop download done.length parts
          (done ++ (attachmentParts parts).map attachmentEntry ++ rest) =
        done ++ (attachmentParts parts).mapIdx
          (fun index att => downloadedEntry download (done.length + index) att) ++ rest
  | [], done => by simp [downloadLoop, attachmentParts]
  | .other :: parts, done => by
      simpa [downloadLoop, attachmentParts] using downloadLoop_eq download rest parts done
  | .attachment att :: parts, done => by
      have shifted : ∀ index, done.length + 1 + index = done.length + (index + 1) := by
        intro index
        omega
      have later := downloadLoop_eq download rest parts
        (done ++ [downloadedEntry download done.length att])
      simp only [List.length_append, List.length_singleton, shifted] at later
      simp only [attachmentParts, List.filterMap_cons, List.map_cons, List.mapIdx_cons,
        downloadLoop, List.append_assoc, List.cons_append] at later ⊢
      rw [downloadInto_entry, Nat.add_zero]
      simpa using later

/-- After `download_mmcs_attachments`, a received message's attachments are, for each
attachment part in order, its entry with the download's bytes put in when it is in MMCS
and the download succeeded, followed by the rich link's entries as they were. The list
keeps its length; entry `i` carries the `i`-th attachment part's MIME type, file name and
UTI, and holds the downloaded bytes (inline) when that part is in MMCS and its download
succeeded, the part's own data when it is inline, and nothing when its download failed. -/
theorem downloadMmcsAttachments_contract (download : Nat → Attachment → Except String Bytes)
    (normal : NormalMessage) :
    (downloadMmcsAttachments download (messageInstToWrapped (.message normal))
        (.message normal)).attachments =
      (attachmentParts normal.parts).mapIdx (downloadedEntry download) ++
        (normal.linkMeta.map richLinkEntries).getD [] ∧
    (downloadMmcsAttachments download (messageInstToWrapped (.message normal))
        (.message normal)).attachments.length =
      (messageInstToWrapped (.message normal)).attachments.length ∧
    (∀ (index : Nat) (att : Attachment), (attachmentParts normal.parts)[index]? = some att →
      ∃ entry, (downloadMmcsAttachments download (messageInstToWrapped (.message normal))
          (.message normal)).attachments[index]? = some entry ∧
        entry.mimeType = att.mime ∧ entry.filename = att.name ∧ entry.utiType = att.utiType ∧
        entry.inlineData = (match att.aType, download index att with
          | .mmcs _, .ok buf => some buf
          | .mmcs _, .error _ => none
          | .inline data, _ => some data) ∧
        (entry.isInline = true ↔ (∃ data, att.aType = .inline data) ∨
          (∃ size buf, att.aType = .mmcs size ∧ download index att = .ok buf))) ∧
    (downloadMmcsAttachments download (messageInstToWrapped (.message normal))
        (.message normal)).attachments.drop (attachmentParts normal.parts).length =
      (messageInstToWrapped (.message normal)).attachments.drop
        (attachmentParts normal.parts).length := by
  have whole : (downloadMmcsAttachments download (messageInstToWrapped (.message normal))
      (.message normal)).attachments =
      (attachmentParts normal.parts).mapIdx (downloadedEntry download) ++
        (normal.linkMeta.map richLinkEntries).getD [] := by
    simpa using downloadLoop_eq download ((normal.linkMeta.map richLinkEntries).getD [])
      normal.parts []
  refine ⟨whole, by rw [whole]; simp [messageInstToWrapped], fun index att found => ?_,
    by rw [whole]; simp [messageInstToWrapped]⟩
  refine ⟨downloadedEntry download index att, ?_, ?_⟩
  · obtain ⟨bound, -⟩ := List.getElem?_eq_some_iff.mp found
    rw [whole, List.getElem?_append_left (by simpa using bound), List.getElem?_mapIdx, found]
    rfl
  · obtain ⟨aType, mime, name, utiType⟩ := att
    cases aType with
    | inline data => simp [downloadedEntry, attachmentEntry]
    | mmcs size =>
        cases downloaded : download index ⟨.mmcs size, mime, name, utiType⟩ <;>
          simp [downloadedEntry, attachmentEntry, markDownloaded, downloaded]

/-- A photo in MMCS. -/
def mmcsPhoto : Attachment := ⟨.mmcs 3, "image/jpeg", "photo.jpg", "public.jpeg"⟩

/-- A message with a text part, the photo, an inline note and a second MMCS file. -/
def receivedShown : NormalMessage :=
  ⟨[.other, .attachment mmcsPhoto,
    .attachment ⟨.inline [7], "text/plain", "note.txt", "public.text"⟩,
    .attachment ⟨.mmcs 9, "video/mp4", "clip.mp4", "public.mpeg-4"⟩], none⟩

/-- Downloads of which only the first succeeds. -/
def firstDownloadOnly (index : Nat) (_ : Attachment) : Except String Bytes :=
  if index = 0 then .ok [1, 2, 3] else .error "timeout"

theorem downloadMmcsAttachments_contract_shown :
    ∃ entry, (downloadMmcsAttachments firstDownloadOnly
          (messageInstToWrapped (.message receivedShown))
          (.message receivedShown)).attachments[0]? = some entry ∧
      entry.mimeType = mmcsPhoto.mime ∧ entry.filename = mmcsPhoto.name ∧
      entry.utiType = mmcsPhoto.utiType ∧
      entry.inlineData = (match mmcsPhoto.aType, firstDownloadOnly 0 mmcsPhoto with
        | .mmcs _, .ok buf => some buf
        | .mmcs _, .error _ => none
        | .inline data, _ => some data) ∧
      (entry.isInline = true ↔ (∃ data, mmcsPhoto.aType = .inline data) ∨
        (∃ size buf, mmcsPhoto.aType = .mmcs size ∧ firstDownloadOnly 0 mmcsPhoto = .ok buf)) :=
  (downloadMmcsAttachments_contract firstDownloadOnly receivedShown).2.2.1 0 mmcsPhoto rfl

end IMessageBridge
