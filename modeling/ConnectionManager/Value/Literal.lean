import ConnectionManager.KeyFile.Codec
import ConnectionManager.Number.DoubleText
import ConnectionManager.Value.Access

/-!
Values as text in a key file. A text is read against a signature, and a value is written the way
its own signature reads it back.
-/

namespace ConnectionManager

open Number (Double Word)

namespace Value

/-- The value of a type for which nothing was given. Types without a zero of their own read as
the empty string. -/
def zero (signature : String) : Value :=
  match WordType.ofSignature? signature with
  | some type => .integer (Word.zero type)
  | none =>
      if signature = "b" then .bool false
      else if signature = "d" then .double Double.zero
      else if signature = "o" then .path ObjectPath.root
      else if signature = "as" then .strings []
      else if signature = "ao" then .paths []
      else if signature = "ay" then .bytes []
      else .string ""

def readBool? (raw : List Char) : Option Bool :=
  let lowered := String.ofList (raw.map Char.toLower)
  if lowered = "true" || lowered = "1" then some true
  else if lowered = "false" || lowered = "0" then some false
  else none

def readString? (raw : List Char) : Option String := (KeyFile.unescape? raw).map String.ofList

def readStrings? (raw : List Char) : Option (List String) :=
  (KeyFile.splitList? raw).map fun items => items.map String.ofList

/-- Reads a text that was trimmed; `none` if it does not fit the signature. -/
def read? (signature : String) (raw : List Char) : Option Value :=
  match WordType.ofSignature? signature with
  | some type => (Word.read? type raw).map .integer
  | none =>
      if signature = "b" then (readBool? raw).map .bool
      else if signature = "d" then ((Double.read? raw).filter Double.isFinite).map .double
      else if signature = "s" || signature = "v" then (readString? raw).map .string
      else if signature = "ay" then (KeyFile.unescape? raw).map fun text => .bytes (Text.utf8 text)
      else if signature = "o" then ((readString? raw).bind ObjectPath.ofString?).map .path
      else if signature = "as" then (readStrings? raw).map .strings
      else if signature = "ao" then
        ((readStrings? raw).bind (KeyFile.mapAll? ObjectPath.ofString?)).map .paths
      else none

/-- Writes a value. Dictionaries, arrays and tuples have no written form. -/
def text (value : Value) : List Char :=
  match value.unboxed with
  | .bool content => (if content then "true" else "false").toList
  | .integer word => word.text
  | .double number => number.text
  | .string content => KeyFile.escape content.toList
  | .path location => location.text.toList
  | .bytes content => KeyFile.escape (Text.ofUtf8Lossy content)
  | .strings texts => KeyFile.joinList (texts.map String.toList)
  | .paths locations => KeyFile.joinList (locations.map fun location => location.text.toList)
  | .boxed _ | .dictionary _ | .array _ | .tuple _ => []

end Value

end ConnectionManager
