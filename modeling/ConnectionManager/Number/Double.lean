/-!
Double precision numbers as the 64 bits that travel on the wire. A finite one is a significand
times a power of two; every other operation here is exact arithmetic on those two numbers.
-/

namespace ConnectionManager.Number

structure Double where
  bits : UInt64
deriving DecidableEq, Repr

namespace Double

def signBit : Nat := 0x8000000000000000

/-- The weight of the lowest bit of the exponent field. -/
def exponentUnit : Nat := 0x10000000000000

def significandBound : Nat := 0x20000000000000

/-- The bit that is set in the usual value that is no number. -/
def quietBit : Nat := 0x8000000000000

def isNegative (value : Double) : Bool := value.bits ≥ 0x8000000000000000

def magnitudeBits (value : Double) : Nat := value.bits.toNat % signBit

/-- The exponent field; 2047 marks the values that are not finite. -/
def exponentField (value : Double) : Nat := value.magnitudeBits / exponentUnit

def fraction (value : Double) : Nat := value.magnitudeBits % exponentUnit

def isFinite (value : Double) : Bool := value.exponentField < 2047

def isNaN (value : Double) : Bool := value.exponentField == 2047 && value.fraction != 0

def isZero (value : Double) : Bool := value.magnitudeBits == 0

/-- The integer that the power of two scales. Below the normal range there is no leading one. -/
def significand (value : Double) : Nat :=
  if value.exponentField = 0 then value.fraction else exponentUnit + value.fraction

def scale (value : Double) : Int := max value.exponentField 1 - 1075

/-- Whether two doubles are equal as numbers: nothing equals a value that is no number, and the
two zeros are one number. -/
def same (left right : Double) : Bool :=
  !left.isNaN && !right.isNaN && (left.bits == right.bits || (left.isZero && right.isZero))

def ofMagnitude (negative : Bool) (magnitude : Nat) : Double :=
  ⟨UInt64.ofNat ((if negative then signBit else 0) + magnitude)⟩

def zero : Double := ⟨0⟩

/-- Bits of positive infinity, one above those of the largest finite number. -/
def infiniteMagnitude : Nat := 2047 * exponentUnit

/-- The quotient as a pair of integers, after scaling by a power of two. -/
def scaledQuotient (numerator denominator : Nat) (scale : Int) : Nat × Nat :=
  (numerator * Nat.pow 2 (-scale).toNat, denominator * Nat.pow 2 scale.toNat)

/-- The scale at which a quotient has 53 significant bits, or the lowest scale there is. -/
def scaleOf (numerator denominator : Nat) : Int :=
  let guess := max (Int.ofNat numerator.log2 - Int.ofNat denominator.log2 - 53) (-1074)
  let (top, bottom) := scaledQuotient numerator denominator guess
  if top / bottom < significandBound then guess
  else
    let (top, bottom) := scaledQuotient numerator denominator (guess + 1)
    if top / bottom < significandBound then guess + 1 else guess + 2

/-- Rounds to an integer; a half goes to the even neighbour. -/
def roundHalfEven (numerator denominator : Nat) : Nat :=
  let quotient := numerator / denominator
  let rest := numerator % denominator
  if 2 * rest > denominator || (2 * rest == denominator && quotient % 2 == 1) then quotient + 1
  else quotient

/-- The double nearest to a quotient. A carry out of the significand moves into the exponent
field by itself, because the two fields are adjacent. -/
def ofQuotient (negative : Bool) (numerator denominator : Nat) : Double :=
  if numerator = 0 then ofMagnitude negative 0
  else
    let scale := scaleOf numerator denominator
    let (top, bottom) := scaledQuotient numerator denominator scale
    let magnitude := roundHalfEven top bottom + (scale + 1074).toNat * exponentUnit
    ofMagnitude negative (min magnitude infiniteMagnitude)

def ofInt (number : Int) : Double := ofQuotient (number < 0) number.natAbs 1

end Double

end ConnectionManager.Number
