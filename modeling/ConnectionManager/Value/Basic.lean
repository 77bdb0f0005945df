import ConnectionManager.Catalog
import ConnectionManager.Number.Double
import ConnectionManager.Number.Word
import ConnectionManager.ObjectPath
import ConnectionManager.Text.Bytes

/-!
Tagged values and dictionaries of them. They carry connection parameters, protocol properties and
the fixed properties of channel classes. The signature names the type of a value on the bus.
-/

namespace ConnectionManager

open Number (Double Word WordType)

inductive Value
  | bool (value : Bool)
  | integer (word : Word)
  | double (number : Double)
  | string (text : String)
  | path (path : ObjectPath)
  | bytes (content : Text.Bytes)
  | strings (texts : List String)
  | paths (paths : List ObjectPath)
  | boxed (inner : Value)
  | dictionary (entries : List (String × Value))
  | array (items : List Value)
  | tuple (fields : List Value)

/-- A dictionary from names to values, in ascending order of the names. -/
structure Dictionary where
  entries : List (String × Value)

namespace Dictionary

def empty : Dictionary := ⟨[]⟩

def get? (dictionary : Dictionary) (key : String) : Option Value :=
  Entries.find? key dictionary.entries

def insert (dictionary : Dictionary) (key : String) (value : Value) : Dictionary :=
  ⟨Entries.insert key value dictionary.entries⟩

def erase (dictionary : Dictionary) (key : String) : Dictionary :=
  ⟨Entries.erase key dictionary.entries⟩

def contains (dictionary : Dictionary) (key : String) : Bool := (dictionary.get? key).isSome

def keys (dictionary : Dictionary) : List String := dictionary.entries.map Prod.fst

def size (dictionary : Dictionary) : Nat := dictionary.entries.length

def isEmpty (dictionary : Dictionary) : Bool := dictionary.entries.isEmpty

/-- Later pairs replace earlier ones with the same name. -/
def ofPairs (pairs : List (String × Value)) : Dictionary :=
  pairs.foldl (fun dictionary pair => dictionary.insert pair.1 pair.2) empty

theorem get_insert (dictionary : Dictionary) (key sought : String) (value : Value) :
    (dictionary.insert key value).get? sought
      = if sought = key then some value else dictionary.get? sought :=
  Entries.find_insert key sought value dictionary.entries

theorem get_erase (dictionary : Dictionary) (key sought : String) :
    (dictionary.erase key).get? sought = if sought = key then none else dictionary.get? sought :=
  Entries.find_erase key sought dictionary.entries

end Dictionary

namespace WordType

def signature : WordType → String
  | .byte => "y"
  | .int16 => "n"
  | .uint16 => "q"
  | .int32 => "i"
  | .uint32 => "u"
  | .int64 => "x"
  | .uint64 => "t"

def ofSignature? (signature : String) : Option WordType :=
  Number.WordType.all.find? fun type => WordType.signature type = signature

end WordType

namespace Value

mutual

/-- The type of a value on the bus. An array takes its element type from its first item. -/
def signature : Value → String
  | .bool _ => "b"
  | .integer word => WordType.signature word.type
  | .double _ => "d"
  | .string _ => "s"
  | .path _ => "o"
  | .bytes _ => "ay"
  | .strings _ => "as"
  | .paths _ => "ao"
  | .boxed _ => "v"
  | .dictionary _ => "a\x7bsv\x7d"
  | .array [] => "av"
  | .array (first :: _) => "a" ++ signature first
  | .tuple fields => "(" ++ signatures fields ++ ")"

def signatures : List Value → String
  | [] => ""
  | value :: rest => signature value ++ signatures rest

end

def unboxed : Value → Value
  | .boxed inner => unboxed inner
  | value => value

mutual

/-- Equality in which doubles compare as numbers. -/
def same : Value → Value → Bool
  | .bool left, .bool right => left == right
  | .integer left, .integer right => left == right
  | .double left, .double right => left.same right
  | .string left, .string right => left == right
  | .path left, .path right => left == right
  | .bytes left, .bytes right => left == right
  | .strings left, .strings right => left == right
  | .paths left, .paths right => left == right
  | .boxed left, .boxed right => same left right
  | .dictionary left, .dictionary right => sameEntries left right
  | .array left, .array right => sameList left right
  | .tuple left, .tuple right => sameList left right
  | _, _ => false

def sameList : List Value → List Value → Bool
  | [], [] => true
  | left :: leftRest, right :: rightRest => same left right && sameList leftRest rightRest
  | _, _ => false

def sameEntries : List (String × Value) → List (String × Value) → Bool
  | [], [] => true
  | (leftKey, left) :: leftRest, (rightKey, right) :: rightRest =>
      leftKey == rightKey && same left right && sameEntries leftRest rightRest
  | _, _ => false

end

def ofWord (type : WordType) (number : Int) : Option Value :=
  (Word.ofInt? type number).map .integer

theorem uint32_fits (number : UInt32) : Number.WordType.uint32.contains number.toNat = true := by
  have bound : number.toNat < 4294967296 := number.toNat_lt
  rw [Number.WordType.contains, Bool.and_eq_true]
  exact ⟨decide_eq_true (Int.natCast_nonneg number.toNat),
    decide_eq_true (Int.le_sub_one_of_lt (Int.ofNat_lt.mpr bound))⟩

def uint32 (number : UInt32) : Value := .integer ⟨.uint32, number.toNat, uint32_fits number⟩

end Value

namespace Dictionary

def same (left right : Dictionary) : Bool := Value.sameEntries left.entries right.entries

end Dictionary

end ConnectionManager
