/-!
Characters as bytes. A text travels as the UTF-8 bytes of its characters; a byte sequence is
read strictly, or leniently with one replacement character per malformed stretch.
-/

namespace ConnectionManager.Text

abbrev Bytes := List UInt8

def utf8 (characters : List Char) : Bytes := characters.flatMap String.utf8EncodeChar

/-- The text that a byte sequence encodes; refused unless every sequence in it is well formed. -/
def ofUtf8? (bytes : Bytes) : Option (List Char) :=
  bytes.toByteArray.utf8Decode?.map Array.toList

theorem of_utf8_utf8 (characters : List Char) : ofUtf8? (utf8 characters) = some characters := by
  have encoded : (utf8 characters).toByteArray = characters.utf8Encode := rfl
  simp [ofUtf8?, encoded]

def replacement : Char := '\uFFFD'

/-- How a sequence continues after its first byte: the bounds of its second byte and how many
further continuation bytes follow. -/
structure SequenceShape where
  low : UInt8
  high : UInt8
  further : Nat

/-- The shapes that a first byte allows. Overlong forms, surrogates and values beyond the last
code point are excluded by the bounds of the second byte. -/
def SequenceShape.ofLead? (lead : UInt8) : Option SequenceShape :=
  if lead < 0xC2 then none
  else if lead < 0xE0 then some ⟨0x80, 0xBF, 0⟩
  else if lead = 0xE0 then some ⟨0xA0, 0xBF, 1⟩
  else if lead = 0xED then some ⟨0x80, 0x9F, 1⟩
  else if lead < 0xF0 then some ⟨0x80, 0xBF, 1⟩
  else if lead = 0xF0 then some ⟨0x90, 0xBF, 2⟩
  else if lead < 0xF4 then some ⟨0x80, 0xBF, 2⟩
  else if lead = 0xF4 then some ⟨0x80, 0x8F, 2⟩
  else none

def isContinuation (byte : UInt8) : Bool := 0x80 ≤ byte && byte ≤ 0xBF

/-- The bytes after `lead` that belong to its sequence: all of it, or the longest stretch that
could still have become one. -/
def continuationCount (lead : UInt8) (rest : Bytes) : Nat :=
  match SequenceShape.ofLead? lead, rest with
  | some shape, second :: others =>
      if shape.low ≤ second && second ≤ shape.high then
        1 + ((others.take shape.further).takeWhile isContinuation).length
      else 0
  | _, _ => 0

/-- Reads bytes as text; each stretch that is no character becomes one replacement character. -/
def ofUtf8Lossy : Bytes → List Char
  | [] => []
  | lead :: rest =>
      let count := continuationCount lead rest
      let character := match ofUtf8? (lead :: rest.take count) with
        | some [character] => character
        | _ => replacement
      character :: ofUtf8Lossy (rest.drop count)
termination_by bytes => bytes.length

def hexDigit (value : Nat) : Char :=
  if value < 10 then Char.ofNat (48 + value) else Char.ofNat (87 + value)

def hexByte (byte : UInt8) : List Char := [hexDigit (byte.toNat / 16), hexDigit (byte.toNat % 16)]

def hexValue? (digit : UInt8) : Option Nat :=
  if 48 ≤ digit && digit ≤ 57 then some (digit.toNat - 48)
  else if 97 ≤ digit && digit ≤ 102 then some (digit.toNat - 87)
  else if 65 ≤ digit && digit ≤ 70 then some (digit.toNat - 55)
  else none

end ConnectionManager.Text
