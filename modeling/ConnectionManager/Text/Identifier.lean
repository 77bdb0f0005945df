import ConnectionManager.Failure
import ConnectionManager.Text.Quoted

/-!
Identifiers that are safe in bus names and object paths. Letters stand for themselves, digits do
so after the first byte, and every other byte becomes an underscore with two hexadecimal digits.
The empty text becomes a lone underscore.
-/

namespace ConnectionManager.Text

def isLetter (byte : UInt8) : Bool := (65 ≤ byte && byte ≤ 90) || (97 ≤ byte && byte ≤ 122)

def isDecimalDigit (byte : UInt8) : Bool := 48 ≤ byte && byte ≤ 57

def byteChar (byte : UInt8) : Char := Char.ofNat byte.toNat

def escapeByte (isFirst : Bool) (byte : UInt8) : List Char :=
  if isLetter byte || (!isFirst && isDecimalDigit byte) then [byteChar byte]
  else '_' :: hexByte byte

def escapeBytes : Bytes → List Char
  | [] => ['_']
  | first :: rest => escapeByte true first ++ rest.flatMap (escapeByte false)

def escapeIdentifier (text : String) : String := String.ofList (escapeBytes (utf8 text.toList))

inductive UnescapeError
  | truncatedEscape
  | unexpectedByte (byte : UInt8)
  | notUtf8

/-- The byte of an escape: exactly two hexadecimal digits, or a plus sign and one of them. -/
def escapedByte? (high low : UInt8) : Option UInt8 :=
  match hexValue? high, hexValue? low with
  | some highValue, some lowValue => some (UInt8.ofNat (highValue * 16 + lowValue))
  | none, some lowValue => if high = 43 then some (UInt8.ofNat lowValue) else none
  | _, none => none

def unescapeBytes : Bytes → Except UnescapeError Bytes
  | [] => .ok []
  | byte :: rest =>
      if byte = 95 then
        match rest with
        | high :: low :: others =>
            match escapedByte? high low with
            | some decoded => (unescapeBytes others).map (decoded :: ·)
            | none => .error .truncatedEscape
        | _ => .error .truncatedEscape
      else if isLetter byte || isDecimalDigit byte then (unescapeBytes rest).map (byte :: ·)
      else .error (.unexpectedByte byte)

def UnescapeError.failure (text : String) : UnescapeError → Failure
  | .truncatedEscape => ⟨.invalidArgument, "truncated escape in " ++ quoted text⟩
  | .unexpectedByte byte =>
      ⟨.invalidArgument, "unexpected byte 0x" ++ String.ofList (hexByte byte)
        ++ " in escaped identifier " ++ quoted text⟩
  | .notUtf8 => ⟨.invalidArgument, quoted text ++ " does not decode to UTF-8"⟩

def unescapeIdentifier (text : String) : Outcome String :=
  if text = "_" then .ok ""
  else match unescapeBytes (utf8 text.toList) with
    | .error error => .error (error.failure text)
    | .ok bytes => match ofUtf8? bytes with
      | some decoded => .ok (String.ofList decoded)
      | none => .error (UnescapeError.notUtf8.failure text)

end ConnectionManager.Text
