import ConnectionManager.ObjectPath
import ConnectionManager.Text.Identifier
import Mathlib.Logic.Function.Basic

/-!
Escaped identifiers tell texts apart. The escape of a byte says where it ends, so what was escaped
can be read off from the left, byte by byte (`escape_byte_cancel`). Every escaped identifier is an
element of a path.
-/

namespace ConnectionManager.Text

theorem hex_digit_injective : ∀ left < 16, ∀ right < 16,
    hexDigit left = hexDigit right → left = right := by
  decide

theorem hex_byte_injective {left right : UInt8} (same : hexByte left = hexByte right) :
    left = right := by
  have leftBound := left.toNat_lt
  have rightBound := right.toNat_lt
  obtain ⟨high, low⟩ : hexDigit (left.toNat / 16) = hexDigit (right.toNat / 16) ∧
      hexDigit (left.toNat % 16) = hexDigit (right.toNat % 16) := by
    simpa [hexByte] using same
  have highs := hex_digit_injective _ (by omega) _ (by omega) high
  have lows := hex_digit_injective _ (by omega) _ (by omega) low
  apply UInt8.toNat_inj.1
  omega

def isPlain (isFirst : Bool) (byte : UInt8) : Bool :=
  isLetter byte || (!isFirst && isDecimalDigit byte)

theorem plain_byte {isFirst : Bool} {byte : UInt8} (plain : isPlain isFirst byte = true) :
    byte.toNat < 128 ∧ byte ≠ 95 := by
  have ranges : (65 ≤ byte.toNat ∧ byte.toNat ≤ 90) ∨ (97 ≤ byte.toNat ∧ byte.toNat ≤ 122) ∨
      (48 ≤ byte.toNat ∧ byte.toNat ≤ 57) := by
    simp only [isPlain, isLetter, isDecimalDigit, Bool.or_eq_true, Bool.and_eq_true,
      decide_eq_true_eq, UInt8.le_iff_toNat_le] at plain
    rcases plain with (upper | lower) | ⟨_, digit⟩
    · exact .inl upper
    · exact .inr (.inl lower)
    · exact .inr (.inr digit)
  refine ⟨by omega, ?_⟩
  intro underscore
  rw [underscore] at ranges
  revert ranges
  decide

theorem byte_char_code {byte : UInt8} (ascii : byte.toNat < 128) :
    (byteChar byte).toNat = byte.toNat := by
  have valid : byte.toNat.isValidChar := .inl (by omega)
  rw [byteChar, Char.ofNat, dif_pos valid]
  rfl

theorem escape_byte_plain {isFirst : Bool} {byte : UInt8} (plain : isPlain isFirst byte = true) :
    escapeByte isFirst byte = [byteChar byte] := if_pos plain

theorem escape_byte_other {isFirst : Bool} {byte : UInt8} (other : ¬ isPlain isFirst byte = true) :
    escapeByte isFirst byte = '_' :: hexByte byte := if_neg other

theorem plain_not_underscore {isFirst : Bool} {byte : UInt8}
    (plain : isPlain isFirst byte = true) : byteChar byte ≠ '_' := by
  obtain ⟨ascii, different⟩ := plain_byte plain
  intro same
  apply different
  apply UInt8.toNat_inj.1
  rw [← byte_char_code ascii, same]
  rfl

theorem escape_byte_cancel {isFirst : Bool} {left right : UInt8} {leftRest rightRest : List Char}
    (same : escapeByte isFirst left ++ leftRest = escapeByte isFirst right ++ rightRest) :
    left = right ∧ leftRest = rightRest := by
  by_cases leftPlain : isPlain isFirst left = true <;>
    by_cases rightPlain : isPlain isFirst right = true
  · rw [escape_byte_plain leftPlain, escape_byte_plain rightPlain] at same
    obtain ⟨characters, rests⟩ := List.cons.inj same
    refine ⟨UInt8.toNat_inj.1 ?_, rests⟩
    rw [← byte_char_code (plain_byte leftPlain).1, ← byte_char_code (plain_byte rightPlain).1,
      characters]
  · rw [escape_byte_plain leftPlain, escape_byte_other rightPlain] at same
    exact absurd (List.cons.inj same).1 (plain_not_underscore leftPlain)
  · rw [escape_byte_other leftPlain, escape_byte_plain rightPlain] at same
    exact absurd (List.cons.inj same).1.symm (plain_not_underscore rightPlain)
  · rw [escape_byte_other leftPlain, escape_byte_other rightPlain] at same
    obtain ⟨digits, rests⟩ := List.append_inj (List.cons.inj same).2 rfl
    exact ⟨hex_byte_injective digits, rests⟩

theorem escape_byte_ne_nil (isFirst : Bool) (byte : UInt8) : escapeByte isFirst byte ≠ [] := by
  unfold escapeByte
  split <;> exact List.cons_ne_nil _ _

theorem escape_rest_injective {left right : Bytes}
    (same : left.flatMap (escapeByte false) = right.flatMap (escapeByte false)) : left = right := by
  have nonempty := escape_byte_ne_nil false
  induction left generalizing right with
  | nil =>
      cases right with
      | nil => rfl
      | cons byte rest => exact absurd (List.append_eq_nil_iff.1 same.symm).1 (nonempty byte)
  | cons byte rest induction =>
      cases right with
      | nil => exact absurd (List.append_eq_nil_iff.1 same).1 (nonempty byte)
      | cons other others =>
          obtain ⟨bytes, rests⟩ := escape_byte_cancel same
          rw [bytes, induction rests]

theorem escape_first_ne (byte : UInt8) (rest : List Char) : escapeByte true byte ++ rest ≠ ['_'] := by
  intro same
  by_cases plain : isPlain true byte = true
  · rw [escape_byte_plain plain] at same
    exact plain_not_underscore plain (List.cons.inj same).1
  · rw [escape_byte_other plain] at same
    cases (List.cons.inj same).2

theorem escape_bytes_injective : Function.Injective escapeBytes := by
  intro left right same
  cases left with
  | nil =>
      cases right with
      | nil => rfl
      | cons byte rest => exact absurd same.symm (escape_first_ne byte _)
  | cons byte rest =>
      cases right with
      | nil => exact absurd same (escape_first_ne byte _)
      | cons other others =>
          obtain ⟨bytes, rests⟩ := escape_byte_cancel same
          rw [bytes, escape_rest_injective rests]

theorem escape_byte_characters : ∀ isFirst : Bool, ∀ value < 256,
    (escapeByte isFirst (UInt8.ofNat value)).all PathElement.isCharacter = true := by
  decide +kernel

theorem escape_bytes_characters (bytes : Bytes) :
    (escapeBytes bytes).all PathElement.isCharacter = true := by
  have single : ∀ isFirst byte, (escapeByte isFirst byte).all PathElement.isCharacter = true := by
    intro isFirst byte
    rw [← UInt8.ofNat_toNat (x := byte)]
    exact escape_byte_characters isFirst byte.toNat byte.toNat_lt
  cases bytes with
  | nil => decide
  | cons first rest =>
      rw [escapeBytes, List.all_append, single, Bool.true_and, List.all_flatMap, List.all_eq_true]
      exact fun byte _ => single false byte

theorem escape_bytes_ne_nil (bytes : Bytes) : escapeBytes bytes ≠ [] := by
  cases bytes with
  | nil => exact List.cons_ne_nil _ _
  | cons first rest => exact List.append_ne_nil_of_left_ne_nil (escape_byte_ne_nil true first) _

theorem escape_identifier_element (text : String) :
    PathElement.isValid (escapeIdentifier text).toList = true := by
  rw [PathElement.isValid, escapeIdentifier, String.toList_ofList, escape_bytes_characters,
    Bool.and_true, Bool.not_eq_true', List.isEmpty_eq_false_iff]
  exact escape_bytes_ne_nil _

theorem utf8_injective : Function.Injective utf8 := by
  intro left right same
  have characters := congrArg ofUtf8? same
  rw [of_utf8_utf8, of_utf8_utf8] at characters
  exact Option.some.inj characters

theorem escape_identifier_injective : Function.Injective escapeIdentifier := by
  intro left right same
  have bytes := escape_bytes_injective (String.ofList_injective same)
  exact String.toList_inj.1 (utf8_injective bytes)

end ConnectionManager.Text
