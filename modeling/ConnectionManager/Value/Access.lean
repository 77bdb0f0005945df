import ConnectionManager.Value.Basic

/-!
Reading values as a type. Boxes are looked through. An integer reads at every width that it fits;
any other mismatch reads as nothing, so a reader never fails otherwise.
-/

namespace ConnectionManager

open Number (Double Word WordType)

namespace Value

def integer? (value : Value) : Option Int :=
  match value.unboxed with
  | .integer word => some word.number
  | _ => none

def integerAs? (type : WordType) (value : Value) : Option Int :=
  value.integer?.filter type.contains

def bool? (value : Value) : Option Bool :=
  match value.unboxed with
  | .bool content => some content
  | _ => none

/-- The largest integer range in which every number is a double is bounded by this. -/
def exactBound : Nat := Double.significandBound

/-- Doubles, and the integers that convert exactly. -/
def double? (value : Value) : Option Double :=
  match value.unboxed with
  | .double number => some number
  | other => ((other.integerAs? .int64).filter fun number => number.natAbs < exactBound).map
      Double.ofInt

def string? (value : Value) : Option String :=
  match value.unboxed with
  | .string text => some text
  | _ => none

/-- Object paths, and strings that are written like one. -/
def path? (value : Value) : Option ObjectPath :=
  match value.unboxed with
  | .path content => some content
  | .string text => ObjectPath.ofString? text
  | _ => none

def strings? (value : Value) : Option (List String) :=
  match value.unboxed with
  | .strings content => some content
  | _ => none

def paths? (value : Value) : Option (List ObjectPath) :=
  match value.unboxed with
  | .paths content => some content
  | _ => none

def bytes? (value : Value) : Option Text.Bytes :=
  match value.unboxed with
  | .bytes content => some content
  | _ => none

def dictionary? (value : Value) : Option Dictionary :=
  match value.unboxed with
  | .dictionary entries => some ⟨entries⟩
  | _ => none

def array? (value : Value) : Option (List Value) :=
  match value.unboxed with
  | .array items => some items
  | _ => none

def tuple? (value : Value) : Option (List Value) :=
  match value.unboxed with
  | .tuple fields => some fields
  | _ => none

def uint32? (value : Value) : Option UInt32 :=
  (value.integerAs? .uint32).map fun number => UInt32.ofNat number.toNat

end Value

namespace Dictionary

def bool? (dictionary : Dictionary) (key : String) : Option Bool :=
  (dictionary.get? key).bind Value.bool?

def integerAs? (type : WordType) (dictionary : Dictionary) (key : String) : Option Int :=
  (dictionary.get? key).bind (Value.integerAs? type)

def strings? (dictionary : Dictionary) (key : String) : Option (List String) :=
  (dictionary.get? key).bind Value.strings?

def string? (dictionary : Dictionary) (key : String) : Option String :=
  (dictionary.get? key).bind Value.string?

def array? (dictionary : Dictionary) (key : String) : Option (List Value) :=
  (dictionary.get? key).bind Value.array?

/-- The number under a key; zero if there is none. -/
def uint32 (dictionary : Dictionary) (key : String) : UInt32 :=
  ((dictionary.get? key).bind Value.uint32?).getD 0

end Dictionary

end ConnectionManager
