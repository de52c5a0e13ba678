import IMessageBridge.Receive

/-!
# The other sends, and what the receiving side makes of them

Besides `send_message`, the Go side sends tapbacks, edits, unsends, typing indicators
and receipts. Each of these methods builds one message, hands it to `client.send` once,
and returns the push error's display after the method's own context; they differ only
in the message and the context, so they are one definition, `sendBuilt`, applied to
each method's message and text.

A bridge that receives such a message hands the Go side, through
`message_inst_to_wrapped`, the fields it was sent with. The one place where the two
sides do not meet is the tapback type (`convertReaction_tapbackReaction`):
`send_tapback` knows the types 0 to 5, and 6 only with an emoji, and sends a heart for
any other, so such a tapback comes back as type 0; the emoji comes back only with
type 6.

`send_attachment` uploads its data to MMCS once and sends the attachment with the SMS
fallback of `send_message`: whatever it hands `client.send` is received as that one
attachment (`sendAttachment_received`).

The id of the message (`MessageInst::new`'s fresh one, or the `for_uuid` of a read
receipt) and the text of an edit's new parts (whose `raw_text` is `rustpush`'s) are left
out.
-/

namespace IMessageBridge

/-- What one of these sends did: the message it handed `client.send`, and what it
returned (the message id is left out). -/
structure SentMessage where
  message : Message
  result : Except WrappedError Unit

/-- One `client.send` of a built message, whose error is returned as the method's
context followed by the push error's display. -/
def sendBuilt (context : String) (message : Message) (push : Message → PushOutcome) :
    SentMessage :=
  ⟨message, match push message with
    | .sent => .ok ()
    | .failed _ display => .error (.genericError (context ++ display))⟩

/-- The reaction `send_tapback` sends for the Go side's tapback type: a heart for a type
it does not know, and for an emoji tapback without its emoji. -/
def tapbackReaction (reaction : Nat) (emoji : Option String) : Reaction :=
  match reaction, emoji with
  | 0, _ => .heart
  | 1, _ => .like
  | 2, _ => .dislike
  | 3, _ => .laugh
  | 4, _ => .emphasize
  | 5, _ => .question
  | 6, some em => .emoji em
  | _, _ => .heart

/-- `Client::send_tapback`. -/
def sendTapback (targetUuid : String) (targetPart reaction : Nat) (emoji : Option String)
    (remove : Bool) (push : Message → PushOutcome) : SentMessage :=
  sendBuilt "Failed to send tapback: "
    (.react ⟨targetUuid, some targetPart, .react (tapbackReaction reaction emoji) !remove⟩) push

/-- `Client::send_typing`. -/
def sendTyping (typing : Bool) (push : Message → PushOutcome) : SentMessage :=
  sendBuilt "Failed to send typing: " (.typing typing) push

/-- `Client::send_read_receipt`. -/
def sendReadReceipt (push : Message → PushOutcome) : SentMessage :=
  sendBuilt "Failed to send read receipt: " .read push

/-- `Client::send_delivery_receipt`. -/
def sendDeliveryReceipt (push : Message → PushOutcome) : SentMessage :=
  sendBuilt "Failed to send delivery receipt: " .delivered push

/-- `Client::send_edit`, without the new text (see above). -/
def sendEdit (targetUuid : String) (editPart : Nat) (push : Message → PushOutcome) :
    SentMessage :=
  sendBuilt "Failed to send edit: " (.edit ⟨targetUuid, editPart⟩) push

/-- `Client::send_unsend`. -/
def sendUnsend (targetUuid : String) (editPart : Nat) (push : Message → PushOutcome) :
    SentMessage :=
  sendBuilt "Failed to send unsend: " (.unsend ⟨targetUuid, editPart⟩) push

/-- The tapback type and emoji the receiving side reads from the reaction `send_tapback`
built. -/
theorem convertReaction_tapbackReaction (reaction : Nat) (emoji : Option String)
    (enable : Bool) :
    convertReaction (tapbackReaction reaction emoji) enable =
      (some (if reaction < 6 ∨ (reaction = 6 ∧ emoji.isSome) then reaction else 0),
        (if reaction = 6 then emoji else none), !enable) := by
  match reaction, emoji with
  | 0, _ | 1, _ | 2, _ | 3, _ | 4, _ | 5, _ => rfl
  | 6, some em => rfl
  | 6, none => rfl
  | n + 7, emoji =>
      have unknown : ¬(n + 7 < 6 ∨ (n + 7 = 6 ∧ emoji.isSome)) := by omega
      rw [if_neg unknown, if_neg (by omega)]
      rfl

/-- A tapback type `send_tapback` does not know comes back as a heart. -/
example :
    (messageInstToWrapped (sendTapback "u" 0 9 none false fun _ => .sent).message).tapbackType =
      some 0 := rfl

/-! ## `send_attachment` -/

/-- A message `send_attachment` hands `client.send`: one part, the uploaded attachment, and
no rich link; whether it goes as SMS; whether it is a voice message. -/
structure OutgoingAttachment where
  normal : NormalMessage
  sms : Bool
  voice : Bool

/-- `Client::send_attachment`: the data is uploaded to MMCS once (`prepare` and `newMmcs`
are `rustpush`'s `MMCSFile::prepare_put` and `Attachment::new_mmcs`, given the data, the
MIME type, the UTI and the file name), and the attachment is then sent as
`send_message` sends its text, with its own contexts. A CAF file is a voice message. -/
def sendAttachment {Prepared : Type} (isSms : Bool) (data : Bytes)
    (mime utiType filename : String) (prepare : Bytes → Except String Prepared)
    (newMmcs : Prepared → Bytes → String → String → String → Except String Attachment)
    (push : OutgoingAttachment → PushOutcome) : List OutgoingAttachment × Except WrappedError Unit :=
  let isVoice := utiType == "com.apple.coreaudio-format"
  match prepare data with
  | .error display => ([], .error (.genericError ("Failed to prepare MMCS upload: " ++ display)))
  | .ok prepared =>
      match newMmcs prepared data mime utiType filename with
      | .error display => ([], .error (.genericError ("Failed to upload attachment: " ++ display)))
      | .ok attachment =>
          sendWithSmsFallback isSms ⟨⟨[.attachment attachment], none⟩, isSms, isVoice⟩
            ⟨⟨[.attachment attachment], none⟩, true, isVoice⟩ "Failed to send SMS attachment: "
            "Failed to send attachment: " push

/-- `send_attachment` returns Ok exactly when a message it handed `client.send` was sent,
and hands `client.send` nothing exactly when the upload fails. After an upload that made
an attachment, each message it hands `client.send` has that attachment as its one part,
is a voice message exactly for a CAF file, and is received by a bridge as that
attachment's entry alone; the first goes in the conversation's service, and its SMS form
follows only when an iMessage found no valid targets. -/
theorem sendAttachment_received {Prepared : Type} (isSms : Bool) (data : Bytes)
    (mime utiType filename : String) (prepare : Bytes → Except String Prepared)
    (newMmcs : Prepared → Bytes → String → String → String → Except String Attachment)
    (push : OutgoingAttachment → PushOutcome) :
    let sent := sendAttachment isSms data mime utiType filename prepare newMmcs push
    (sent.2 = .ok () ↔ ∃ attempt ∈ sent.1, push attempt = .sent) ∧
    (sent.1 = [] ↔ ¬∃ prepared attachment, prepare data = .ok prepared ∧
      newMmcs prepared data mime utiType filename = .ok attachment) ∧
    ∀ prepared attachment, prepare data = .ok prepared →
      newMmcs prepared data mime utiType filename = .ok attachment →
      (∀ attempt ∈ sent.1, attempt.normal = ⟨[.attachment attachment], none⟩ ∧
        attempt.voice = (utiType == "com.apple.coreaudio-format") ∧
        messageInstToWrapped (.message attempt.normal) =
          { wrappedDefaults with attachments := [attachmentEntry attachment] }) ∧
      ((∃ first, sent.1 = [first] ∧ first.sms = isSms) ∨
        ∃ first fallback, sent.1 = [first, fallback] ∧ isSms = false ∧ first.sms = false ∧
          fallback.sms = true ∧ ∃ display, push first = .failed true display) := by
  unfold sendAttachment
  dsimp only
  split
  · rename_i display notPrepared
    simp [notPrepared]
  · rename_i prepared preparedIs
    split
    · rename_i display notUploaded
      have failed : ¬∃ prepared attachment, prepare data = .ok prepared ∧
          newMmcs prepared data mime utiType filename = .ok attachment := by
        rintro ⟨prepared', attachment', preparedIs', uploaded'⟩
        cases preparedIs.symm.trans preparedIs'
        cases notUploaded.symm.trans uploaded'
      exact ⟨by simp, iff_of_true rfl failed, fun prepared' attachment' preparedIs' uploaded' =>
        absurd ⟨prepared', attachment', preparedIs', uploaded'⟩ failed⟩
    · rename_i attachment uploaded
      have attempts := @sendWithSmsFallback_attempts _ isSms
        ⟨⟨[.attachment attachment], none⟩, isSms, utiType == "com.apple.coreaudio-format"⟩
        ⟨⟨[.attachment attachment], none⟩, true, utiType == "com.apple.coreaudio-format"⟩
        "Failed to send SMS attachment: " "Failed to send attachment: " push
      refine ⟨sendWithSmsFallback_ok_iff, ?_, fun prepared' attachment' preparedIs' uploaded' => ?_⟩
      · refine iff_of_false ?_ (not_not.mpr ⟨prepared, attachment, preparedIs, uploaded⟩)
        rcases attempts with attempted | ⟨attempted, -⟩ <;> simp [attempted]
      · cases preparedIs.symm.trans preparedIs'
        cases uploaded.symm.trans uploaded'
        refine ⟨fun attempt attempted => ?_, ?_⟩
        · rcases sendWithSmsFallback_mem attempted with rfl | rfl <;> exact ⟨rfl, rfl, rfl⟩
        · exact attempts.imp (fun alone => ⟨_, alone, rfl⟩)
            fun ⟨both, isSmsFalse, firstFailed⟩ =>
              ⟨_, _, both, isSmsFalse, isSmsFalse, rfl, firstFailed⟩

/-- An iMessage voice note with no iMessage targets is sent again as SMS. -/
example :
    (sendAttachment false [1] "audio/x-caf" "com.apple.coreaudio-format" "v.caf" .ok
        (fun _ data mime uti name => .ok ⟨.mmcs data.length, mime, name, uti⟩)
        fun attempt => if attempt.sms then .sent else .failed true "no valid targets").1.map
      (fun attempt => (attempt.sms, attempt.voice)) = [(false, true), (true, true)] := rfl

end IMessageBridge
