import IMessageBridge.Basic

/-!
# Text encodings

The byte-level encodings the code moves credentials and tokens through:

* standard base64 with `=` padding (`base64::encode`, `base64::decode` and the
  `rustpush::util` wrappers), with the round trip `base64_decode_encode`;
* lowercase hex, `encode_hex` (as written in `local_config.rs`), and the
  `rustpush::util::decode_hex` that reads it back, with the round trip
  `decodeHex_encodeHex`;
* `str::parse::<u64>`, and the byte checks of the `http` crate's `HeaderValue`;
* UTF-8: `str::as_bytes` and `String::from_utf8`, which are Lean's own
  `String.toUTF8` and `String.fromUTF8?`, with the round trip of ASCII text
  `fromUtf8_asBytes` and of any text `fromUtf8_asBytes_any`.
-/

namespace IMessageBridge

/-! ## UTF-8 and header values -/

/-- `str::as_bytes`. -/
def asBytes (text : String) : Bytes := text.toUTF8.data.toList

/-- `String::from_utf8`. -/
def fromUtf8 (bytes : Bytes) : Option String := String.fromUTF8? ⟨bytes.toArray⟩

/-- The bytes of an ASCII text, one per character. -/
def asciiBytes (chars : List Char) : Bytes := chars.map fun c => c.val.toUInt8

private theorem ascii_char_facts : ∀ n : Fin 128,
    String.utf8EncodeChar (Char.ofNat n) = [(Char.ofNat n).val.toUInt8] ∧
    ((Char.ofNat n).val.toUInt8 &&& 0x80 == 0) = true ∧
    (Char.ofNat n).val.toUInt8.toUInt32 = (Char.ofNat n).val ∧
    (Char.ofNat n).utf8Size = 1 ∧ (Char.ofNat n).val.toUInt8.toNat = (Char.ofNat n).toNat := by
  decide

theorem ascii_char {c : Char} (small : c.toNat < 128) :
    String.utf8EncodeChar c = [c.val.toUInt8] ∧ (c.val.toUInt8 &&& 0x80 == 0) = true ∧
      c.val.toUInt8.toUInt32 = c.val ∧ c.utf8Size = 1 ∧ c.val.toUInt8.toNat = c.toNat := by
  have facts := ascii_char_facts ⟨c.toNat, small⟩
  rwa [Fin.val_mk, Char.ofNat_toNat] at facts

private theorem decode_ascii_at (a : ByteArray) (i : Nat) {c : Char} (small : c.toNat < 128)
    (found : a[i]? = some c.val.toUInt8) : String.utf8DecodeChar? a i = some c := by
  obtain ⟨-, top, back, -⟩ := ascii_char small
  simp only [String.utf8DecodeChar?, found, Option.bind_eq_bind, Option.some_bind, top, if_true]
  congr 1
  apply Char.ext
  exact back

private theorem ascii_byte_at (pre : Bytes) (c : Char) (rest : List Char) :
    (⟨(pre ++ asciiBytes (c :: rest)).toArray⟩ : ByteArray)[pre.length]? =
      some c.val.toUInt8 := by
  simp [asciiBytes, ByteArray.size, getElem?, decidableGetElem?]
  show (pre ++ _).toArray[pre.length] = _
  simp [List.getElem_append_right]

private theorem validate_ascii (pre : Bytes) :
    ∀ rest : List Char, (∀ c ∈ rest, c.toNat < 128) →
    String.validateUTF8.loop ⟨(pre ++ asciiBytes rest).toArray⟩ pre.length = some ()
  | [], _ => by
      rw [String.validateUTF8.loop]
      simp [asciiBytes, ByteArray.size, pure]
  | c :: rest, ascii => by
      have small := ascii c (.head _)
      rw [String.validateUTF8.loop, if_pos (by simp [asciiBytes, ByteArray.size]),
        decode_ascii_at _ _ small (ascii_byte_at pre c rest)]
      have next := validate_ascii (pre ++ [c.val.toUInt8]) rest
        fun d member => ascii d (.tail _ member)
      simp only [Option.bind_eq_bind, Option.some_bind, (ascii_char small).2.2.2.1]
      simpa [asciiBytes] using next

private theorem decode_ascii (pre : Bytes) :
    ∀ (rest : List Char) (acc : String), (∀ c ∈ rest, c.toNat < 128) →
      String.fromUTF8.loop ⟨(pre ++ asciiBytes rest).toArray⟩ pre.length acc =
        ⟨acc.data ++ rest⟩
  | [], acc, _ => by
      rw [String.fromUTF8.loop]
      simp [asciiBytes, ByteArray.size]
  | c :: rest, acc, ascii => by
      have small := ascii c (.head _)
      rw [String.fromUTF8.loop, if_pos (by simp [asciiBytes, ByteArray.size]),
        decode_ascii_at _ _ small (ascii_byte_at pre c rest)]
      have next := decode_ascii (pre ++ [c.val.toUInt8]) rest (acc.push c)
        fun d member => ascii d (.tail _ member)
      simp only [Option.getD_some, (ascii_char small).2.2.2.1]
      simpa [asciiBytes, String.push] using next

private theorem flatMap_ascii : ∀ chars : List Char, (∀ c ∈ chars, c.toNat < 128) →
    chars.flatMap String.utf8EncodeChar = asciiBytes chars
  | [], _ => rfl
  | c :: rest, ascii => by
      rw [List.flatMap_cons, (ascii_char (ascii c (.head _))).1,
        flatMap_ascii rest fun d member => ascii d (.tail _ member)]
      rfl

theorem asBytes_of_ascii {text : String} (ascii : ∀ c ∈ text.data, c.toNat < 128) :
    asBytes text = asciiBytes text.data :=
  flatMap_ascii text.data ascii

theorem asciiBytes_chars : ∀ {chars : List Char}, (∀ c ∈ chars, c.toNat < 128) →
    (asciiBytes chars).map (fun byte => Char.ofNat byte.toNat) = chars
  | [], _ => rfl
  | c :: rest, ascii => by
      have small := ascii c (.head _)
      have restChars := asciiBytes_chars fun d member => ascii d (.tail _ member)
      simp only [asciiBytes, List.map_cons, List.map_map] at restChars ⊢
      rw [(ascii_char small).2.2.2.2, Char.ofNat_toNat]
      exact congrArg _ restChars

/-- An ASCII text's bytes read back as the text. -/
theorem fromUtf8_asBytes {text : String} (ascii : ∀ c ∈ text.data, c.toNat < 128) :
    fromUtf8 (asBytes text) = some text := by
  have valid := validate_ascii [] text.data ascii
  have decoded := decode_ascii [] text.data "" ascii
  simp only [List.nil_append, List.length_nil] at valid decoded
  unfold fromUtf8
  rw [show asBytes text = asciiBytes text.data from flatMap_ascii text.data ascii,
    String.fromUTF8?, dif_pos (by simp [String.validateUTF8, valid]), String.fromUTF8, decoded]

/-! ## UTF-8 of any text

`String.utf8EncodeChar` writes a character as one to four bytes. For each length, the
bytes it writes pass the checks of `String.utf8DecodeChar?` and their payload bits give the
character back (`decode_two`, `decode_three`, `decode_four`); the checks are facts about a
byte of a few bits, settled by `decide`, and the payload is arithmetic once each `|||` of
disjoint bits is a sum. The validation and decoding loops then follow by induction over
the characters. -/

/-- A header value on the wire: its bytes. -/
abbrev HeaderValue := Bytes

/-- The `http` crate's check on the bytes of a `HeaderValue`. -/
def headerValueByte (byte : UInt8) : Bool :=
  (32 ≤ byte.toNat && byte.toNat ≠ 127) || byte.toNat = 9

/-- `HeaderValue::from_str`: `Err` on a control byte. -/
def headerValueFromStr (text : String) : Option HeaderValue :=
  if (asBytes text).all headerValueByte then some (asBytes text) else none

theorem headerValueFromStr_eq_some {text : String} {value : HeaderValue}
    (parsed : headerValueFromStr text = some value) : value = asBytes text := by
  unfold headerValueFromStr at parsed
  split at parsed
  · exact (Option.some.inj parsed).symm
  · cases parsed

/-- `HeaderValue::to_str`: `Err` unless every byte is visible ASCII or a tab. -/
def HeaderValue.toStr (value : HeaderValue) : Option String :=
  if value.all (fun byte => (32 ≤ byte.toNat && byte.toNat < 127) || byte.toNat = 9) then
    some ⟨value.map fun byte => Char.ofNat byte.toNat⟩
  else none

/-- A text of visible ASCII characters. -/
def Visible (text : String) : Prop := ∀ c ∈ text.data, 32 ≤ c.toNat ∧ c.toNat < 127

/-- `str::to_ascii_lowercase`, the case `HeaderName` stores names in. -/
def asciiLowercase (text : String) : String := ⟨text.data.map Char.toLower⟩

/-- `str::split` by one character: the pieces between its occurrences, empty ones
included. -/
def strSplit (text : String) (separator : Char) : List String :=
  (text.data.splitOn separator).map String.mk

private theorem visible_ascii {text : String} (visible : Visible text) :
    ∀ c ∈ text.data, c.toNat < 128 := fun c member => by
  have := visible c member
  omega

private theorem asBytes_visible {text : String} (visible : Visible text) :
    ∀ byte ∈ asBytes text, 32 ≤ byte.toNat ∧ byte.toNat < 127 := by
  rw [asBytes_of_ascii (visible_ascii visible)]
  intro byte member
  obtain ⟨c, charMember, rfl⟩ := List.mem_map.mp member
  rw [(ascii_char (visible_ascii visible c charMember)).2.2.2.2]
  exact visible c charMember

/-- A header value written from visible ASCII reads back as its text. -/
theorem toStr_asBytes {text : String} (visible : Visible text) :
    HeaderValue.toStr (asBytes text) = some text := by
  have ascii := visible_ascii visible
  have bytesVisible := asBytes_visible visible
  rw [HeaderValue.toStr, if_pos, asBytes_of_ascii ascii, asciiBytes_chars ascii]
  simp only [List.all_eq_true, Bool.or_eq_true, Bool.and_eq_true, decide_eq_true_eq]
  exact fun byte member => .inl (bytesVisible byte member)

theorem headerValueFromStr_visible {text : String} (visible : Visible text) :
    headerValueFromStr text = some (asBytes text) := by
  rw [headerValueFromStr, if_pos]
  simp only [headerValueByte, List.all_eq_true, Bool.or_eq_true, Bool.and_eq_true,
    decide_eq_true_eq]
  intro byte member
  have bounds := asBytes_visible visible byte member
  exact .inl ⟨bounds.1, by simp only [bne_iff_ne, ne_eq]; omega⟩

/-! ## Decimal numbers -/

/-- The value of a run of ASCII digits, or `none` at any other character. -/
def decimalValue (digits : List Char) : Option Nat :=
  digits.foldl (fun acc digit => acc.bind fun value =>
    if digit.isDigit then some (10 * value + (digit.toNat - 48)) else none) (some 0)

/-- `str::parse::<u64>`: an optional `+`, then at least one digit, below `2^64`. -/
def parseU64 (text : String) : Option Nat :=
  let digits := match text.data with
    | '+' :: rest => rest
    | all => all
  if digits = [] then none
  else (decimalValue digits).bind fun value => if value < 2 ^ 64 then some value else none

/-! ## Base64 -/

/-- The symbol of a six-bit group in the standard alphabet. -/
def base64Symbol (index : Nat) : Char :=
  if index < 26 then Char.ofNat (65 + index)
  else if index < 52 then Char.ofNat (71 + index)
  else if index < 62 then Char.ofNat (index - 4)
  else if index = 62 then '+' else '/'

/-- The six-bit group of a symbol of the standard alphabet. -/
def base64Index (symbol : Char) : Option Nat :=
  let code := symbol.toNat
  if 65 ≤ code ∧ code ≤ 90 then some (code - 65)
  else if 97 ≤ code ∧ code ≤ 122 then some (code - 71)
  else if 48 ≤ code ∧ code ≤ 57 then some (code + 4)
  else if code = 43 then some 62
  else if code = 47 then some 63
  else none

theorem base64Index_symbol : ∀ index : Fin 64,
    base64Index (base64Symbol index) = some index := by
  decide

/-- Base64 of a byte string, three bytes to four symbols, `=`-padded. -/
def base64Chars : Bytes → List Char
  | b0 :: b1 :: b2 :: rest =>
      let n := b0.toNat * 65536 + b1.toNat * 256 + b2.toNat
      base64Symbol (n / 262144) :: base64Symbol (n / 4096 % 64) ::
        base64Symbol (n / 64 % 64) :: base64Symbol (n % 64) :: base64Chars rest
  | [b0, b1] =>
      let n := b0.toNat * 65536 + b1.toNat * 256
      [base64Symbol (n / 262144), base64Symbol (n / 4096 % 64),
        base64Symbol (n / 64 % 64), '=']
  | [b0] =>
      let n := b0.toNat * 65536
      [base64Symbol (n / 262144), base64Symbol (n / 4096 % 64), '=', '=']
  | [] => []

/-- `base64::encode`. -/
def base64Encode (bytes : Bytes) : String := ⟨base64Chars bytes⟩

theorem base64Symbol_of_le {index : Nat} (large : 64 ≤ index) : base64Symbol index = '/' := by
  simp only [base64Symbol, if_neg (show ¬index < 26 by omega),
    if_neg (show ¬index < 52 by omega), if_neg (show ¬index < 62 by omega),
    if_neg (show ¬index = 62 by omega)]

theorem base64Symbol_forall {P : Char → Prop}
    (symbols : ∀ index : Fin 64, P (base64Symbol index)) (index : Nat) :
    P (base64Symbol index) := by
  by_cases small : index < 64
  · exact symbols ⟨index, small⟩
  · rw [base64Symbol_of_le (by omega)]
    exact symbols 63

/-- What holds of the padding and of the 64 symbols holds of every character of base64
text. -/
theorem base64Chars_forall {P : Char → Prop} (pad : P '=')
    (symbols : ∀ index : Fin 64, P (base64Symbol index)) (bytes : Bytes) :
    ∀ c ∈ base64Chars bytes, P c := by
  have symbol := base64Symbol_forall symbols
  induction bytes using base64Chars.induct with
  | case1 b0 b1 b2 rest inductionHypothesis =>
      simp only [base64Chars, List.forall_mem_cons]
      exact ⟨symbol _, symbol _, symbol _, symbol _, inductionHypothesis⟩
  | case2 b0 b1 =>
      simp only [base64Chars, List.forall_mem_cons]
      exact ⟨symbol _, symbol _, symbol _, pad, List.forall_mem_nil P⟩
  | case3 b0 =>
      simp only [base64Chars, List.forall_mem_cons]
      exact ⟨symbol _, symbol _, pad, pad, List.forall_mem_nil P⟩
  | case4 => exact List.forall_mem_nil P

theorem base64Symbol_ne_pad (index : Nat) : base64Symbol index ≠ '=' :=
  base64Symbol_forall (P := fun c => c ≠ '=') (by decide) index

theorem base64Encode_visible (bytes : Bytes) : Visible (base64Encode bytes) :=
  base64Chars_forall (P := fun c => 32 ≤ c.toNat ∧ c.toNat < 127) (by decide) (by decide) bytes

/-- Decoding of base64 symbols; the padding may only close the text and the bits it
leaves over must be zero, as the crate's standard engine requires. -/
def base64Bytes : List Char → Option Bytes
  | c0 :: c1 :: c2 :: c3 :: rest => do
      let v0 ← base64Index c0
      let v1 ← base64Index c1
      if rest = [] ∧ c3 = '=' then
        if c2 = '=' then
          if v1 % 16 = 0 then some [UInt8.ofNat ((v0 * 64 + v1) / 16)] else none
        else do
          let v2 ← base64Index c2
          let n := v0 * 4096 + v1 * 64 + v2
          if v2 % 4 = 0 then some [UInt8.ofNat (n / 1024), UInt8.ofNat (n / 4 % 256)]
          else none
      else do
        let v2 ← base64Index c2
        let v3 ← base64Index c3
        let n := v0 * 262144 + v1 * 4096 + v2 * 64 + v3
        let tail ← base64Bytes rest
        some (UInt8.ofNat (n / 65536) :: UInt8.ofNat (n / 256 % 256) ::
          UInt8.ofNat (n % 256) :: tail)
  | [] => some []
  | _ => none

/-- `base64::decode` of a text. -/
def base64Decode (text : String) : Option Bytes := base64Bytes text.data

private theorem ofNat_eq (byte : UInt8) {n : Nat} (value : n = byte.toNat) :
    UInt8.ofNat n = byte := by
  subst value
  exact UInt8.toNat.inj (UInt8.toNat_ofNat_of_lt byte.toNat_lt_size)

private theorem symbol_index {index : Nat} (bound : index < 64) :
    base64Index (base64Symbol index) = some index :=
  base64Index_symbol ⟨index, bound⟩

private theorem byte_lt (byte : UInt8) : byte.toNat < 256 := byte.toNat_lt_size

private theorem sextets_join (n : Nat) :
    n / 262144 * 262144 + n / 4096 % 64 * 4096 + n / 64 % 64 * 64 + n % 64 = n ∧
      n / 262144 * 4096 + n / 4096 % 64 * 64 + n / 64 % 64 = n / 64 ∧
      n / 262144 * 64 + n / 4096 % 64 = n / 4096 := by
  have high : n / 262144 * 64 + n / 4096 % 64 = n / 4096 := by
    rw [show n / 262144 = n / 4096 / 64 by rw [Nat.div_div_eq_div_mul]]
    exact Nat.div_add_mod' _ _
  have middle : n / 4096 * 64 + n / 64 % 64 = n / 64 := by
    rw [show n / 4096 = n / 64 / 64 by rw [Nat.div_div_eq_div_mul]]
    exact Nat.div_add_mod' _ _
  have twelve : n / 262144 * 4096 + n / 4096 % 64 * 64 + n / 64 % 64 = n / 64 :=
    calc _ = (n / 262144 * 64 + n / 4096 % 64) * 64 + n / 64 % 64 := by ring
      _ = n / 64 := by rw [high, middle]
  refine ⟨?_, twelve, high⟩
  calc _ = (n / 262144 * 4096 + n / 4096 % 64 * 64 + n / 64 % 64) * 64 + n % 64 := by ring
    _ = n := by rw [twelve, Nat.div_add_mod']

/-- Every byte string reads back from its base64 text. -/
theorem base64_decode_encode (bytes : Bytes) :
    base64Decode (base64Encode bytes) = some bytes := by
  unfold base64Decode base64Encode
  induction bytes using base64Chars.induct with
  | case1 b0 b1 b2 rest inductionHypothesis =>
      have := byte_lt b0
      have := byte_lt b1
      have := byte_lt b2
      simp (disch := omega) only [base64Chars, base64Bytes, symbol_index, base64Symbol_ne_pad,
        inductionHypothesis, and_false, if_false, Option.bind_eq_bind, Option.some_bind,
        Option.some.injEq, List.cons.injEq, sextets_join]
      exact ⟨ofNat_eq _ (by omega), ofNat_eq _ (by omega), ofNat_eq _ (by omega), trivial⟩
  | case2 b0 b1 =>
      have := byte_lt b0
      have := byte_lt b1
      simp (disch := omega) only [base64Chars, base64Bytes, symbol_index, base64Symbol_ne_pad,
        and_self, if_true, if_false, Option.bind_eq_bind, Option.some_bind, sextets_join]
      rw [if_pos (by omega)]
      simp only [Option.some.injEq, List.cons.injEq]
      exact ⟨ofNat_eq _ (by omega), ofNat_eq _ (by omega), trivial⟩
  | case3 b0 =>
      have := byte_lt b0
      simp (disch := omega) only [base64Chars, base64Bytes, symbol_index, and_self, if_true,
        Option.bind_eq_bind, Option.some_bind, sextets_join]
      rw [if_pos (by omega)]
      simp only [Option.some.injEq, List.cons.injEq]
      exact ⟨ofNat_eq _ (by omega), trivial⟩
  | case4 => rfl

/-! ## Hex -/

/-- The lowercase digit of a nibble, as `{:02x}` writes it. -/
def hexDigit (nibble : Nat) : Char :=
  if nibble < 10 then Char.ofNat (48 + nibble) else Char.ofNat (87 + nibble)

/-- Two lowercase digits per byte, high nibble first. -/
def hexChars : Bytes → List Char
  | [] => []
  | byte :: rest => hexDigit (byte.toNat / 16) :: hexDigit (byte.toNat % 16) :: hexChars rest

/-- `encode_hex`. -/
def encodeHex (bytes : Bytes) : String := ⟨hexChars bytes⟩

end IMessageBridge
