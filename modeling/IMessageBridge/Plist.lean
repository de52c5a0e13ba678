import IMessageBridge.Basic

/-!
# Property lists

The `plist` crate's `Value` and `Dictionary`, with the accessors the code calls on
them (`get`, `as_string`, `as_data`, `as_signed_integer`, `as_unsigned_integer`,
`as_dictionary`). A `Dictionary` is an `IndexMap`: `get` finds a key and `iter` walks
the entries in order; every dictionary the crate parses has distinct keys.

The codec of the crate (`from_bytes`, `to_writer_binary`) is not part of this
repository. It is a parameter, `PlistCodec`, that carries the crate's one law this
development relies on: a dictionary written as a binary plist reads back as itself.
-/

namespace IMessageBridge

/-- `plist::Value`. A real is kept as its IEEE bits and a date as nanoseconds since the
epoch; no modelled function reads either. -/
inductive Value where
  | array (items : List Value)
  | dictionary (entries : List (String × Value))
  | boolean (value : Bool)
  | data (bytes : Bytes)
  | date (sinceEpoch : Int)
  | real (bits : UInt64)
  | integer (value : Int)
  | string (value : String)
  | uid (value : Nat)
  deriving Repr

/-- `plist::Dictionary`: the entries in insertion order. -/
abbrev Dictionary := List (String × Value)

namespace Dictionary

/-- `Dictionary::get`. -/
def get (dictionary : Dictionary) (key : String) : Option Value :=
  (dictionary.find? (fun entry => entry.1 = key)).map Prod.snd

end Dictionary

namespace Value

/-- `Value::as_string`. -/
def asString : Value → Option String
  | .string value => some value
  | _ => none

theorem asString_eq_some {value : Value} {text : String} :
    value.asString = some text ↔ value = .string text := by
  cases value <;> simp [asString]

/-- `Value::as_data`. -/
def asData : Value → Option Bytes
  | .data bytes => some bytes
  | _ => none

/-- `Value::as_dictionary`. -/
def asDictionary : Value → Option Dictionary
  | .dictionary entries => some entries
  | _ => none

/-- `Value::as_signed_integer`: the integer, when it fits an `i64`. -/
def asSignedInteger : Value → Option Int
  | .integer value => if -2 ^ 63 ≤ value ∧ value < 2 ^ 63 then some value else none
  | _ => none

/-- `Value::as_unsigned_integer`: the integer, when it fits a `u64`. -/
def asUnsignedInteger : Value → Option Nat
  | .integer value => if 0 ≤ value ∧ value < 2 ^ 64 then some value.toNat else none
  | _ => none

/-! ## Equality

A nested inductive gets no derived `DecidableEq` here, so equality is decided by a
structural comparison, proved to agree with `=` in both directions. -/

mutual

/-- Structural equality of values. -/
def beq : Value → Value → Bool
  | .array items, .array others => beqItems items others
  | .dictionary entries, .dictionary others => beqEntries entries others
  | .boolean value, .boolean other => value == other
  | .data bytes, .data other => bytes == other
  | .date sinceEpoch, .date other => sinceEpoch == other
  | .real bits, .real other => bits == other
  | .integer value, .integer other => value == other
  | .string value, .string other => value == other
  | .uid value, .uid other => value == other
  | _, _ => false

/-- Structural equality of arrays. -/
def beqItems : List Value → List Value → Bool
  | [], [] => true
  | item :: items, other :: others => item.beq other && beqItems items others
  | _, _ => false

/-- Structural equality of dictionaries, entry by entry. -/
def beqEntries : List (String × Value) → List (String × Value) → Bool
  | [], [] => true
  | (key, value) :: entries, (otherKey, other) :: others =>
      key == otherKey && value.beq other && beqEntries entries others
  | _, _ => false

end

mutual

theorem eq_of_beq : ∀ {value other : Value}, value.beq other = true → value = other
  | .array items, other, same => by
      cases other <;> first | exact congrArg array (eq_of_beqItems same) | nomatch same
  | .dictionary entries, other, same => by
      cases other <;> first | exact congrArg dictionary (eq_of_beqEntries same) | nomatch same
  | .boolean _, other, same
  | .data _, other, same
  | .date _, other, same
  | .real _, other, same
  | .integer _, other, same
  | .string _, other, same
  | .uid _, other, same => by
      cases other <;> first | exact congrArg _ (beq_iff_eq.mp same) | nomatch same

theorem eq_of_beqItems : ∀ {items others : List Value},
    beqItems items others = true → items = others
  | [], [], _ => rfl
  | item :: items, other :: others, same => by
      obtain ⟨sameItem, sameRest⟩ := Bool.and_eq_true_iff.mp same
      rw [eq_of_beq sameItem, eq_of_beqItems sameRest]
  | [], _ :: _, same | _ :: _, [], same => nomatch same

theorem eq_of_beqEntries : ∀ {entries others : List (String × Value)},
    beqEntries entries others = true → entries = others
  | [], [], _ => rfl
  | (key, value) :: entries, (otherKey, other) :: others, same => by
      obtain ⟨sameHead, sameRest⟩ := Bool.and_eq_true_iff.mp same
      obtain ⟨sameKey, sameValue⟩ := Bool.and_eq_true_iff.mp sameHead
      rw [beq_iff_eq.mp sameKey, eq_of_beq sameValue, eq_of_beqEntries sameRest]
  | [], _ :: _, same | _ :: _, [], same => nomatch same

end

mutual

theorem beq_self : ∀ value : Value, value.beq value = true
  | .array items => beqItems_self items
  | .dictionary entries => beqEntries_self entries
  | .boolean value => beq_self_eq_true value
  | .data bytes => beq_self_eq_true bytes
  | .date sinceEpoch => beq_self_eq_true sinceEpoch
  | .real bits => beq_self_eq_true bits
  | .integer value => beq_self_eq_true value
  | .string value => beq_self_eq_true value
  | .uid value => beq_self_eq_true value

theorem beqItems_self : ∀ items : List Value, beqItems items items = true
  | [] => rfl
  | item :: items => Bool.and_eq_true_iff.mpr ⟨beq_self item, beqItems_self items⟩

theorem beqEntries_self : ∀ entries : List (String × Value), beqEntries entries entries = true
  | [] => rfl
  | (key, value) :: entries =>
      have sameHead : (key == key && value.beq value) = true :=
        Bool.and_eq_true_iff.mpr ⟨beq_self_eq_true key, beq_self value⟩
      Bool.and_eq_true_iff.mpr ⟨sameHead, beqEntries_self entries⟩

end

instance : DecidableEq Value := fun value other =>
  if same : value.beq other then isTrue (eq_of_beq same)
  else isFalse fun equal => same (equal ▸ beq_self value)

end Value

/-- The `plist` crate's codec, with the round trip its binary format guarantees. The
errors are the crate's `plist::Error`, kept as their display text. -/
structure PlistCodec where
  /-- `plist::from_bytes` into a `Dictionary`. -/
  fromBytes : Bytes → Except String Dictionary
  /-- `plist::to_writer_binary` into a fresh `Vec<u8>`. -/
  toWriterBinary : Dictionary → Except String Bytes
  fromBytes_toWriterBinary :
    ∀ dictionary bytes, toWriterBinary dictionary = .ok bytes →
      fromBytes bytes = .ok dictionary

end IMessageBridge
