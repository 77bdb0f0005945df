import ConnectionManager.Text.Identifier

/-!
Protocol names. A name is an ASCII letter followed by letters, digits and hyphens. Inside a bus
name its hyphens become underscores.
-/

namespace ConnectionManager.Protocol

def isValidName (name : String) : Bool :=
  match name.toList with
  | first :: rest => first.isAlpha && rest.all fun character => character.isAlphanum || character == '-'
  | [] => false

/-- The component of a bus name for a protocol. A name that is not well formed is escaped like any
other text. -/
def escapeName (name : String) : String :=
  if isValidName name then
    String.ofList (name.toList.map fun character => if character = '-' then '_' else character)
  else Text.escapeIdentifier name

/-- Reads a hyphen for every underscore and for every `_2d`, the form of an escaped hyphen. -/
def restoreHyphens : List Char → List Char
  | '_' :: '2' :: 'd' :: rest => '-' :: restoreHyphens rest
  | character :: rest => (if character = '_' then '-' else character) :: restoreHyphens rest
  | [] => []

def unescapeName (component : String) : String := String.ofList (restoreHyphens component.toList)

end ConnectionManager.Protocol
