import ConnectionManager.Failure
import ConnectionManager.Text.Quoted
import ConnectionManager.Text.Split

/-!
Object paths. A path is a lone slash, or a slash before each of one or more elements, where an
element is a non-empty run of ASCII letters, digits and underscores.
-/

namespace ConnectionManager

namespace PathElement

def isCharacter (character : Char) : Bool := character.isAlphanum || character == '_'

def isValid (element : List Char) : Bool := !element.isEmpty && element.all isCharacter

end PathElement

structure ObjectPath where
  text : String
  valid : text.toList = ['/'] ∨
    ∃ rest, text.toList = '/' :: rest ∧ (Text.pieces (· == '/') rest).all PathElement.isValid = true

namespace ObjectPath

theorem ext_text {left right : ObjectPath} (same : left.text = right.text) : left = right := by
  cases left; cases right; cases same; rfl

instance : DecidableEq ObjectPath := fun left right =>
  if same : left.text = right.text then isTrue (ext_text same)
  else isFalse fun equal => same (congrArg text equal)

def isValid (text : String) : Bool :=
  match text.toList with
  | ['/'] => true
  | '/' :: rest => (Text.pieces (· == '/') rest).all PathElement.isValid
  | _ => false

theorem valid_of_is_valid {text : String} (accepted : isValid text = true) :
    text.toList = ['/'] ∨ ∃ rest, text.toList = '/' :: rest ∧
      (Text.pieces (· == '/') rest).all PathElement.isValid = true := by
  unfold isValid at accepted
  split at accepted
  · left; assumption
  · right; exact ⟨_, by assumption, accepted⟩
  · cases accepted

def ofString? (text : String) : Option ObjectPath :=
  if accepted : isValid text = true then some ⟨text, valid_of_is_valid accepted⟩ else none

def ofString (text : String) : Outcome ObjectPath :=
  match ofString? text with
  | some path => .ok path
  | none => .error ⟨.invalidArgument, Text.quoted text ++ " is not a valid object path"⟩

def root : ObjectPath := ⟨"/", .inl (by decide)⟩

def child (path : ObjectPath) (element : String) : Outcome ObjectPath :=
  ofString ((if path.text = "/" then "/" else path.text ++ "/") ++ element)

def elements (path : ObjectPath) : List (List Char) :=
  match path.text.toList with
  | ['/'] => []
  | _ :: rest => Text.pieces (· == '/') rest
  | [] => []

end ObjectPath

end ConnectionManager
