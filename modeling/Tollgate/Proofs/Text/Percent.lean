import Mathlib.Data.List.Flatten
import Tollgate.Text.Percent

/-!
What percent-encoded texts mean. Encoding characters does not change what a text
means, as long as percent signs and hex digits are kept; and a text stands for
itself unless it has an escape in it.
-/

namespace Tollgate

/-! Texts as bytes -/

theorem toList_loop (read unread : List UInt8) :
    ByteArray.toList.loop (read ++ unread).toByteArray read.length
      read.reverse = read ++ unread := by
  induction unread generalizing read with
  | nil =>
      rw [ByteArray.toList.loop, if_neg (by simp), List.reverse_reverse,
        List.append_nil]
  | cons byte rest ih =>
      have here :
          (read ++ byte :: rest).toByteArray.get! read.length = byte := by
        simp [ByteArray.get!]
      have later := ih (read ++ [byte])
      rw [List.append_assoc, List.singleton_append, List.length_append,
        List.length_singleton, List.reverse_append] at later
      rw [ByteArray.toList.loop, if_pos (by simp), here]
      exact later

theorem toList_toByteArray (bytes : List UInt8) :
    bytes.toByteArray.toList = bytes :=
  toList_loop [] bytes

def utf8 (text : List Char) : List UInt8 :=
  text.flatMap String.utf8EncodeChar

theorem toUTF8_ofList (text : List Char) :
    (String.ofList text).toUTF8.toList = utf8 text := by
  rw [String.toUTF8_eq_toByteArray, String.toByteArray_ofList, List.utf8Encode,
    toList_toByteArray, utf8]

theorem toUTF8_toString (c : Char) :
    c.toString.toUTF8.toList = String.utf8EncodeChar c := by
  have whole : c.toString = String.ofList [c] := rfl
  rw [whole, toUTF8_ofList, utf8, List.flatMap_singleton]

theorem utf8_cons (c : Char) (rest : List Char) :
    utf8 (c :: rest) = String.utf8EncodeChar c ++ utf8 rest := rfl

theorem utf8_append (first second : List Char) :
    utf8 (first ++ second) = utf8 first ++ utf8 second :=
  List.flatMap_append

theorem utf8_inj {first second : List Char} :
    utf8 first = utf8 second ↔ first = second := by
  refine ⟨?_, congrArg utf8⟩
  intro same
  rw [← String.ofList_inj, ← String.toByteArray_inj, String.toByteArray_ofList,
    String.toByteArray_ofList]
  exact congrArg List.toByteArray same

theorem fromUTF8?_eq_some {bytes : List UInt8} {text : List Char} :
    String.fromUTF8? ⟨bytes.toArray⟩ = some (String.ofList text) ↔
      bytes = utf8 text := by
  have array : (⟨bytes.toArray⟩ : ByteArray) = bytes.toByteArray := by
    rw [← List.data_toByteArray]
  have whole : (String.ofList text).toByteArray = (utf8 text).toByteArray :=
    String.toByteArray_ofList
  rw [array]
  constructor
  · intro read
    unfold String.fromUTF8? at read
    split at read
    · have same := congrArg String.toByteArray (Option.some.inj read)
      rw [whole] at same
      have lists := congrArg ByteArray.toList same
      rw [toList_toByteArray] at lists
      exact (toList_toByteArray bytes).symm.trans lists
    · cases read
  · rintro rfl
    have valid : (utf8 text).toByteArray.IsValidUTF8 := ⟨text, rfl⟩
    rw [String.fromUTF8?, dif_pos valid, Option.some_inj,
      ← String.toByteArray_inj, whole]
    rfl

theorem eq_of_sublist {part text : List Char} (sub : part.Sublist text)
    (all : (utf8 text).length ≤ (utf8 part).length) : part = text := by
  have le {part text : List Char} (sub : part.Sublist text) :
      (utf8 part).length ≤ (utf8 text).length :=
    (sub.flatMap _).length_le
  induction sub with
  | slnil => rfl
  | cons c sub ih =>
      have size := c.utf8Size_pos
      have shorter := le sub
      rw [utf8_cons, List.length_append, String.length_utf8EncodeChar] at all
      omega
  | cons_cons c sub ih =>
      rw [utf8_cons, utf8_cons, List.length_append, List.length_append] at all
      rw [ih (Nat.le_of_add_le_add_left all)]

namespace Percent

def hexByte? : List Char → Option UInt8
  | high :: low :: _ =>
      match digitsValue.hexValue high, digitsValue.hexValue low with
      | some h, some l => some (UInt8.ofNat (h * 16 + l))
      | _, _ => none
  | _ => none

def hasEscape : List Char → Bool
  | [] => false
  | c :: rest => c == '%' && (hexByte? rest).isSome || hasEscape rest

def charOf (byte : UInt8) : Char := Char.ofNat byte.toNat

theorem decode_percent (bytes : List UInt8) :
    decode (0x25 :: bytes) =
      match hexByte? (bytes.map charOf) with
      | some byte => byte :: decode (bytes.drop 2)
      | none => 0x25 :: decode bytes := by
  match bytes with
  | [] => rfl
  | [_] => rfl
  | high :: low :: rest =>
      have byte : hexByte? ((high :: low :: rest).map charOf) =
          byteOfHex? high low := rfl
      rw [decode, byte]
      rfl

theorem decode_other {byte : UInt8} (other : byte ≠ 0x25)
    (rest : List UInt8) : decode (byte :: rest) = byte :: decode rest := by
  rw [decode]
  intro high low tail percent
  exact absurd percent other

theorem decode_append {bytes : List UInt8} (others : 0x25 ∉ bytes)
    (rest : List UInt8) : decode (bytes ++ rest) = bytes ++ decode rest := by
  induction bytes with
  | nil => rfl
  | cons byte more ih =>
      rw [List.mem_cons, not_or] at others
      rw [List.cons_append, decode_other (Ne.symm others.1), ih others.2,
        List.cons_append]

theorem length_decode_le (bytes : List UInt8) :
    (decode bytes).length ≤ bytes.length := by
  fun_induction decode bytes with
  | case1 high low rest byte found ih =>
      simp only [List.length_cons]
      omega
  | case2 high low rest none ih => simpa using ih
  | case3 byte rest plain ih => simpa using ih
  | case4 => exact Nat.le_refl _

/-! Characters of ASCII, and others -/

@[elab_as_elim]
theorem of_ascii {P : Char → Prop} (all : ∀ n < 128, P (Char.ofNat n))
    {c : Char} (ascii : c.toNat < 128) : P c := by
  have this := all c.toNat ascii
  rw [Char.ofNat_toNat] at this
  exact this

theorem utf8EncodeChar_ascii {c : Char} (ascii : c.toNat < 128) :
    String.utf8EncodeChar c = [UInt8.ofNat c.toNat] := by
  unfold String.utf8EncodeChar
  exact if_pos (Nat.le_of_lt_succ ascii)

theorem charOf_ascii {c : Char} (ascii : c.toNat < 128) :
    charOf (UInt8.ofNat c.toNat) = c := by
  have small : (UInt8.ofNat c.toNat).toNat = c.toNat := by
    rw [UInt8.toNat_ofNat']
    omega
  rw [charOf, small, Char.ofNat_toNat]

theorem high_of_not_ascii {c : Char} (other : ¬ c.toNat < 128) :
    ∀ b ∈ String.utf8EncodeChar c, 128 ≤ b.toNat := by
  have above : ¬ c.val.toNat ≤ 0x7f := fun low => other (Nat.lt_succ_of_le low)
  intro b member
  simp only [String.utf8EncodeChar, if_neg above] at member
  -- Two bytes, three or four, and each has its highest bit set.
  split at member
  · simp only [List.mem_cons, List.not_mem_nil, or_false] at member
    rcases member with rfl | rfl <;> (rw [UInt8.toNat_ofNat']; omega)
  · split at member
    · simp only [List.mem_cons, List.not_mem_nil, or_false] at member
      rcases member with rfl | rfl | rfl <;> (rw [UInt8.toNat_ofNat']; omega)
    · simp only [List.mem_cons, List.not_mem_nil, or_false] at member
      rcases member with rfl | rfl | rfl | rfl <;>
        (rw [UInt8.toNat_ofNat']; omega)

theorem toNat_charOf (b : UInt8) : (charOf b).toNat = b.toNat := by
  have valid : b.toNat.isValidChar := .inl (by have := b.toNat_lt; omega)
  rw [charOf, Char.ofNat, dif_pos valid]
  rfl

theorem ascii_of_hexValue {c : Char} (hex : (digitsValue.hexValue c).isSome) :
    c.toNat < 128 := by
  change c.val.toNat < 128
  simp only [digitsValue.hexValue, Bool.and_eq_true, decide_eq_true_eq,
    Char.le_def, UInt32.le_iff_toNat_le] at hex
  have top : 'f'.val.toNat < 128 ∧ 'F'.val.toNat < 128 ∧ '9'.val.toNat < 128 :=
    by decide
  split at hex
  · omega
  · split at hex
    · omega
    · split at hex
      · omega
      · cases hex

theorem hexValue_high {b : UInt8} (high : 128 ≤ b.toNat) :
    digitsValue.hexValue (charOf b) = none := by
  rw [← Option.not_isSome_iff_eq_none]
  intro hex
  have low := ascii_of_hexValue hex
  rw [toNat_charOf] at low
  omega

theorem utf8_hex {c : Char} (hex : (digitsValue.hexValue c).isSome)
    (rest : List Char) :
    utf8 (c :: rest) = UInt8.ofNat c.toNat :: utf8 rest := by
  rw [utf8_cons, utf8EncodeChar_ascii (ascii_of_hexValue hex),
    List.singleton_append]

theorem hexValue_upperHexDigit {n : Nat} (small : n < 16) :
    (upperHexDigit n).toNat < 128 ∧
      digitsValue.hexValue (upperHexDigit n) = some n := by
  revert n
  decide

theorem decode_encodeByte (byte : UInt8) (rest : List UInt8) :
    decode (utf8 (encodeByte byte) ++ rest) = byte :: decode rest := by
  have small := byte.toNat_lt
  obtain ⟨highAscii, high⟩ :=
    hexValue_upperHexDigit (n := byte.toNat / 16) (by omega)
  obtain ⟨lowAscii, low⟩ :=
    hexValue_upperHexDigit (n := byte.toNat % 16) (by omega)
  have bytes : utf8 (encodeByte byte) = [0x25,
      UInt8.ofNat (upperHexDigit (byte.toNat / 16)).toNat,
      UInt8.ofNat (upperHexDigit (byte.toNat % 16)).toNat] := by
    rw [encodeByte, utf8_cons, utf8_cons, utf8_cons,
      utf8EncodeChar_ascii highAscii, utf8EncodeChar_ascii lowAscii]
    rfl
  rw [bytes, List.cons_append, decode_percent]
  simp only [List.cons_append, List.map_cons, charOf_ascii highAscii,
    charOf_ascii lowAscii, hexByte?, high, low, Nat.div_add_mod',
    UInt8.ofNat_toNat]
  rfl

theorem decode_encodeBytes (bytes rest : List UInt8) :
    decode (utf8 (bytes.flatMap encodeByte) ++ rest) =
      bytes ++ decode rest := by
  induction bytes with
  | nil => rfl
  | cons byte more ih =>
      rw [List.flatMap_cons, utf8_append, List.append_assoc, decode_encodeByte,
        ih, List.cons_append]

/-! What encoded texts mean -/

/-- Percent signs and hex digits stand for themselves, so escapes are not
escaped. -/
structure KeepsEscapes (kept : Char → Bool) : Prop where
  percent : kept '%'
  hex : ∀ c, (digitsValue.hexValue c).isSome → kept c

variable {kept : Char → Bool} {c : Char} {rest text : List Char}

theorem encode_cons (kept : Char → Bool) (c : Char) (rest : List Char) :
    encode kept (c :: rest) = (if kept c then [c]
      else (String.utf8EncodeChar c).flatMap encodeByte) ++
        encode kept rest := by
  rw [encode, List.flatMap_cons, toUTF8_toString]
  rfl

theorem hexValue_of_mem_encodeByte {byte : UInt8}
    (member : c ∈ encodeByte byte) :
    c = '%' ∨ (digitsValue.hexValue c).isSome := by
  have small := byte.toNat_lt
  simp only [encodeByte, List.mem_cons, List.not_mem_nil, or_false] at member
  rcases member with rfl | rfl | rfl
  · exact .inl rfl
  · right
    rw [(hexValue_upperHexDigit (by omega)).2]
    rfl
  · right
    rw [(hexValue_upperHexDigit (by omega)).2]
    rfl

theorem mem_encode (member : c ∈ encode kept text) :
    c ∈ text ∧ kept c ∨ c = '%' ∨ (digitsValue.hexValue c).isSome := by
  rw [encode, List.mem_flatMap] at member
  obtain ⟨d, inside, found⟩ := member
  split at found
  · rw [List.mem_singleton.mp found]
    exact .inl ⟨inside, ‹_›⟩
  · obtain ⟨byte, -, escape⟩ := List.mem_flatMap.mp found
    exact .inr (hexValue_of_mem_encodeByte escape)

theorem utf8_encode_hex (keeps : KeepsEscapes kept)
    (hex : (digitsValue.hexValue c).isSome) (rest : List Char) :
    utf8 (encode kept (c :: rest)) =
      UInt8.ofNat c.toNat :: utf8 (encode kept rest) := by
  rw [encode_cons, if_pos (keeps.hex c hex), List.singleton_append,
    utf8_hex hex]

theorem map_charOf_encode_hex (keeps : KeepsEscapes kept)
    (hex : (digitsValue.hexValue c).isSome) (rest : List Char) :
    (utf8 (encode kept (c :: rest))).map charOf =
      c :: (utf8 (encode kept rest)).map charOf := by
  rw [utf8_encode_hex keeps hex, List.map_cons,
    charOf_ascii (ascii_of_hexValue hex)]

theorem map_charOf_encode_other (other : digitsValue.hexValue c = none)
    (rest : List Char) :
    ∃ first more, (utf8 (encode kept (c :: rest))).map charOf = first :: more ∧
      digitsValue.hexValue first = none := by
  obtain ⟨byte, bytes, split⟩ :=
    List.exists_cons_of_ne_nil (String.utf8EncodeChar_ne_nil (c := c))
  rw [encode_cons]
  by_cases keep : kept c
  · rw [if_pos keep, List.singleton_append, utf8_cons, split]
    refine ⟨_, _, rfl, ?_⟩
    by_cases ascii : c.toNat < 128
    · rw [utf8EncodeChar_ascii ascii] at split
      cases split
      rw [charOf_ascii ascii, other]
    · apply hexValue_high
      exact high_of_not_ascii ascii byte
        (by rw [split]; exact List.mem_cons_self)
  · rw [if_neg keep, split]
    exact ⟨'%', _, rfl, rfl⟩

theorem hexByte?_of_head {first : Char} {more : List Char}
    (none : digitsValue.hexValue first = none) :
    hexByte? (first :: more) = .none := by
  cases more with
  | nil => rfl
  | cons second more => simp [hexByte?, none]

theorem hexByte?_of_second {first second : Char} {more : List Char}
    (none : digitsValue.hexValue second = none) :
    hexByte? (first :: second :: more) = .none := by
  simp [hexByte?, none]

theorem hexByte?_eq_some {byte : UInt8} (found : hexByte? text = some byte) :
    ∃ high low more, text = high :: low :: more ∧
      (digitsValue.hexValue high).isSome ∧
      (digitsValue.hexValue low).isSome := by
  match text with
  | high :: low :: more =>
      refine ⟨high, low, more, rfl, ?_⟩
      cases one : digitsValue.hexValue high <;>
        cases two : digitsValue.hexValue low <;> simp_all [hexByte?]

/-- What is behind a percent sign is an escape in an encoded text just if it was
one before. -/
theorem hexByte?_encode (keeps : KeepsEscapes kept) (text : List Char) :
    hexByte? ((utf8 (encode kept text)).map charOf) = hexByte? text := by
  match text with
  | [] => rfl
  | c :: rest =>
      cases one : digitsValue.hexValue c with
      | none =>
          obtain ⟨first, more, starts, none⟩ := map_charOf_encode_other one rest
          rw [starts, hexByte?_of_head none, hexByte?_of_head one]
      | some high =>
          rw [map_charOf_encode_hex keeps (by rw [one]; rfl)]
          match rest with
          | [] => rfl
          | d :: rest =>
              cases two : digitsValue.hexValue d with
              | none =>
                  obtain ⟨second, more, starts, none⟩ :=
                    map_charOf_encode_other two rest
                  rw [starts, hexByte?_of_second none, hexByte?_of_second two]
              | some low =>
                  rw [map_charOf_encode_hex keeps (by rw [two]; rfl)]
                  rfl

theorem decode_encode_percent (keeps : KeepsEscapes kept) (rest : List Char) :
    decode (utf8 (encode kept ('%' :: rest))) =
      match hexByte? rest with
      | some byte => byte :: decode (utf8 (encode kept (rest.drop 2)))
      | none => 0x25 :: decode (utf8 (encode kept rest)) := by
  have front : utf8 (encode kept ('%' :: rest)) =
      0x25 :: utf8 (encode kept rest) := by
    rw [encode_cons, if_pos keeps.percent]
    rfl
  rw [front, decode_percent, hexByte?_encode keeps]
  cases found : hexByte? rest with
  | none => rfl
  | some byte =>
      obtain ⟨high, low, more, rfl, one, two⟩ := hexByte?_eq_some found
      simp only [utf8_encode_hex keeps one, utf8_encode_hex keeps two,
        List.drop_succ_cons, List.drop_zero]

theorem decode_encode_other (other : c ≠ '%') (rest : List Char) :
    decode (utf8 (encode kept (c :: rest))) =
      String.utf8EncodeChar c ++ decode (utf8 (encode kept rest)) := by
  rw [encode_cons]
  by_cases keep : kept c
  · rw [if_pos keep, List.singleton_append, utf8_cons]
    apply decode_append
    intro percent
    by_cases ascii : c.toNat < 128
    · rw [utf8EncodeChar_ascii ascii, List.mem_singleton] at percent
      have same := congrArg charOf percent
      rw [charOf_ascii ascii] at same
      exact other same.symm
    · exact absurd (high_of_not_ascii ascii _ percent) (by decide)
  · rw [if_neg keep, utf8_append, decode_encodeBytes]

theorem keepsEscapes_all : KeepsEscapes fun _ => true :=
  ⟨rfl, fun _ _ => rfl⟩

theorem encode_all (text : List Char) : encode (fun _ => true) text = text := by
  simp [encode]

theorem decode_utf8_percent (rest : List Char) :
    decode (utf8 ('%' :: rest)) =
      match hexByte? rest with
      | some byte => byte :: decode (utf8 (rest.drop 2))
      | none => 0x25 :: decode (utf8 rest) := by
  simpa only [encode_all] using decode_encode_percent keepsEscapes_all rest

theorem decode_utf8_other (other : c ≠ '%') (rest : List Char) :
    decode (utf8 (c :: rest)) =
      String.utf8EncodeChar c ++ decode (utf8 rest) := by
  rw [← encode_all (c :: rest), decode_encode_other other, encode_all]

/-- A text means what it meant before it was encoded. -/
theorem decode_encode (keeps : KeepsEscapes kept) (text : List Char) :
    decode (utf8 (encode kept text)) = decode (utf8 text) := by
  match text with
  | [] => rfl
  | c :: rest =>
      by_cases percent : c = '%'
      · subst percent
        rw [decode_encode_percent keeps, decode_utf8_percent]
        cases hexByte? rest with
        | none => exact congrArg _ (decode_encode keeps rest)
        | some byte => exact congrArg _ (decode_encode keeps (rest.drop 2))
      · rw [decode_encode_other percent, decode_utf8_other percent,
          decode_encode keeps rest]
termination_by text.length

theorem decode_utf8_eq_self_iff :
    decode (utf8 text) = utf8 text ↔ hasEscape text = false := by
  induction text with
  | nil => simp [hasEscape, utf8, decode]
  | cons c rest ih =>
      by_cases percent : c = '%'
      · subst percent
        have front : utf8 ('%' :: rest) = 0x25 :: utf8 rest := rfl
        rw [decode_utf8_percent, front]
        cases found : hexByte? rest with
        | none => simp [hasEscape, found, ih]
        | some byte =>
            obtain ⟨high, low, more, rfl, one, two⟩ := hexByte?_eq_some found
            have shorter := length_decode_le (utf8 more)
            constructor
            · intro same
              have lengths := congrArg List.length same
              simp only [utf8_hex one, utf8_hex two, List.length_cons,
                List.drop_succ_cons, List.drop_zero] at lengths
              omega
            · simp [hasEscape, found]
      · rw [decode_utf8_other percent, utf8_cons, List.append_right_inj, ih]
        simp [hasEscape, percent]

theorem decodeText?_encode (keeps : KeepsEscapes kept) {name : String} :
    decodeText? (String.ofList (encode kept text)) = some name ↔
      decode (utf8 text) = utf8 name.toList := by
  rw [decodeText?, toUTF8_ofList, decode_encode keeps,
    ← String.ofList_toList (s := name), fromUTF8?_eq_some, String.ofList_toList]

end Percent

end Tollgate
