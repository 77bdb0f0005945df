import ConnectionManager.Number.Decimal

/-!
Integers of a fixed width. A word is an integer together with its type and the fact that it fits.
Changing the type keeps the number and fails when it does not fit.
-/

namespace ConnectionManager.Number

inductive WordType
  | byte
  | int16
  | uint16
  | int32
  | uint32
  | int64
  | uint64
deriving DecidableEq, Repr

namespace WordType

def lowest : WordType → Int
  | .byte | .uint16 | .uint32 | .uint64 => 0
  | .int16 => -32768
  | .int32 => -2147483648
  | .int64 => -9223372036854775808

def highest : WordType → Int
  | .byte => 255
  | .int16 => 32767
  | .uint16 => 65535
  | .int32 => 2147483647
  | .uint32 => 4294967295
  | .int64 => 9223372036854775807
  | .uint64 => 18446744073709551615

def isSigned : WordType → Bool
  | .int16 | .int32 | .int64 => true
  | .byte | .uint16 | .uint32 | .uint64 => false

def contains (type : WordType) (number : Int) : Bool :=
  type.lowest ≤ number && number ≤ type.highest

theorem contains_zero (type : WordType) : type.contains 0 = true := by cases type <;> rfl

def all : List WordType := [.byte, .int16, .uint16, .int32, .uint32, .int64, .uint64]

end WordType

structure Word where
  type : WordType
  number : Int
  fits : type.contains number = true
deriving DecidableEq

namespace Word

def ofInt? (type : WordType) (number : Int) : Option Word :=
  if fits : type.contains number = true then some ⟨type, number, fits⟩ else none

theorem of_int_word (word : Word) : ofInt? word.type word.number = some word := by
  simp [ofInt?, word.fits]

def zero (type : WordType) : Word := ⟨type, 0, type.contains_zero⟩

/-- Unsigned types take no minus sign, not even before zero. -/
def read? (type : WordType) (text : List Char) : Option Word :=
  let number := if type.isSigned then readInteger? text else (readNatural? text).map Int.ofNat
  number.bind (ofInt? type)

def text (word : Word) : List Char := integerText word.number

end Word

end ConnectionManager.Number
