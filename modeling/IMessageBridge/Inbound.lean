import IMessageBridge.Receive

/-!
# The receive loop

`new_client` spawns the task that hands received messages to Go. It waits on the APS
connection's broadcast channel, lets the IDS client handle each message, and passes the
instances that carry something for Go to the message callback, flattened by
`message_inst_to_wrapped` and with their MMCS attachments downloaded. A lagging receiver
skips ahead, a handling error is logged, and a closed channel ends the loop.

* `receiveLoop_forwards`: the messages the callback gets are, in order, those of the
  handled instances that arrived before the channel closed and pass the loop's filter;
  nothing that arrives after a close reaches Go.

The channel, `IMClient::handle` and `MessageInst::has_payload` are `rustpush`'s: what they
return is an input, a list of `RecvEvent`s.
-/

namespace IMessageBridge

/-- `MessageInst`, with what the receive loop reads: the message, and whether it has a
payload (`has_payload`). -/
structure MessageInst where
  message : Message
  hasPayload : Bool

/-- What one `recv` of the loop gives, with what follows from it outside the bridge: a
message, with what `IMClient::handle` made of it and the MMCS downloads of its
attachments; a receiver that lagged behind; or the channel closed. -/
inductive RecvEvent where
  | received (handled : Except String (Option MessageInst))
      (download : Nat → Attachment → Except String Bytes)
  | lagged (skipped : Nat)
  | closed

/-- The loop's filter: an instance with a payload, or a typing indicator, a read or
delivery receipt, an error, or a peer cache invalidation. -/
def forwardsToGo (inst : MessageInst) : Bool :=
  inst.hasPayload ||
    match inst.message with
    | .typing _ | .read | .delivered | .error .. | .peerCacheInvalidate => true
    | _ => false

/-- What Go gets for an instance: `message_inst_to_wrapped`, then
`download_mmcs_attachments`. -/
def wrapForGo (download : Nat → Attachment → Except String Bytes) (inst : MessageInst) :
    WrappedMessage :=
  downloadMmcsAttachments download (messageInstToWrapped inst.message) inst.message

/-- The receive loop of `new_client`: the messages it hands to `on_message`, in order. -/
def receiveLoop : List RecvEvent → List WrappedMessage
  | [] => []
  | .received (.ok (some inst)) download :: events =>
      if forwardsToGo inst then wrapForGo download inst :: receiveLoop events
      else receiveLoop events
  | .received (.ok none) _ :: events => receiveLoop events
  | .received (.error _) _ :: events => receiveLoop events
  | .lagged _ :: events => receiveLoop events
  | .closed :: _ => []

/-- Whether an event closes the channel. -/
def RecvEvent.isClosed : RecvEvent → Bool
  | .closed => true
  | _ => false

/-- What Go gets for one event, if anything. -/
def RecvEvent.forGo : RecvEvent → Option WrappedMessage
  | .received (.ok (some inst)) download =>
      if forwardsToGo inst then some (wrapForGo download inst) else none
  | _ => none

theorem receiveLoop_eq_filterMap : ∀ events : List RecvEvent,
    receiveLoop events =
      (events.takeWhile fun event => !event.isClosed).filterMap RecvEvent.forGo
  | [] => rfl
  | .received (.ok (some inst)) download :: events => by
      have rest := receiveLoop_eq_filterMap events
      by_cases forwarded : forwardsToGo inst = true <;>
        simp [receiveLoop, RecvEvent.isClosed, RecvEvent.forGo, forwarded, rest]
  | .received (.ok none) _ :: events => by
      simp [receiveLoop, RecvEvent.isClosed, RecvEvent.forGo, receiveLoop_eq_filterMap events]
  | .received (.error _) _ :: events => by
      simp [receiveLoop, RecvEvent.isClosed, RecvEvent.forGo, receiveLoop_eq_filterMap events]
  | .lagged _ :: events => by
      simp [receiveLoop, RecvEvent.isClosed, RecvEvent.forGo, receiveLoop_eq_filterMap events]
  | .closed :: _ => rfl

theorem receiveLoop_append_closed : ∀ (before after : List RecvEvent),
    receiveLoop (before ++ .closed :: after) = receiveLoop before
  | [], _ => rfl
  | .received (.ok (some inst)) download :: before, after => by
      simp only [List.cons_append, receiveLoop, List.append_eq,
        receiveLoop_append_closed before after]
  | .received (.ok none) _ :: before, after => receiveLoop_append_closed before after
  | .received (.error _) _ :: before, after => receiveLoop_append_closed before after
  | .lagged _ :: before, after => receiveLoop_append_closed before after
  | .closed :: _, _ => rfl

/-- The messages the callback gets are, in order, those of the handled instances that
arrived before the channel closed and pass the filter, each flattened and with its
attachments downloaded; what arrives after a close never reaches Go. -/
theorem receiveLoop_forwards (events : List RecvEvent) :
    receiveLoop events =
      (events.takeWhile fun event => !event.isClosed).filterMap RecvEvent.forGo ∧
    (∀ message ∈ receiveLoop events, ∃ inst download,
      RecvEvent.received (.ok (some inst)) download ∈ events ∧ forwardsToGo inst = true ∧
        message = wrapForGo download inst) ∧
    ∀ later, receiveLoop (events ++ .closed :: later) = receiveLoop events := by
  refine ⟨receiveLoop_eq_filterMap events, fun message delivered => ?_,
    receiveLoop_append_closed events⟩
  rw [receiveLoop_eq_filterMap, List.mem_filterMap] at delivered
  obtain ⟨event, member, forGo⟩ := delivered
  have arrived := (List.takeWhile_sublist _).subset member
  match event, forGo with
  | .received (.ok (some inst)) download, forGo =>
      by_cases forwarded : forwardsToGo inst = true
      · simp only [RecvEvent.forGo, forwarded, if_true, Option.some.injEq] at forGo
        exact ⟨inst, download, arrived, forwarded, forGo.symm⟩
      · simp [RecvEvent.forGo, forwarded] at forGo

end IMessageBridge
