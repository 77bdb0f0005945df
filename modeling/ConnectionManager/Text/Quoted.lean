import ConnectionManager.Text.Bytes
import ConnectionManager.Text.Invisible

/-!
Quoted text, as messages show a name: between double quotes, with the quote, the backslash and
every character that would not show escaped.
-/

namespace ConnectionManager.Text

def hexNumber (value : Nat) : List Char :=
  (Nat.toDigits 16 value)

def quoteCharacter (character : Char) : List Char :=
  if character = '"' then ['\\', '"']
  else if character = '\\' then ['\\', '\\']
  else if character = '\n' then ['\\', 'n']
  else if character = '\r' then ['\\', 'r']
  else if character = '\t' then ['\\', 't']
  else if character.toNat = 0 then ['\\', '0']
  else if isInvisible character then
    ['\\', 'u', Char.ofNat 0x7B] ++ hexNumber character.toNat ++ [Char.ofNat 0x7D]
  else [character]

def quoted (text : String) : String :=
  String.ofList (['"'] ++ text.toList.flatMap quoteCharacter ++ ['"'])

end ConnectionManager.Text
