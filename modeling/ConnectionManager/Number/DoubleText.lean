import ConnectionManager.Number.Decimal
import ConnectionManager.Number.Shortest

/-!
Doubles as text. A finite double is written positionally with its shortest digits: never with an
exponent, and with a point only where digits follow it. Reading takes an optional sign, digits
with an optional point, an optional exponent, and the names of the values that are not finite.
-/

namespace ConnectionManager.Number

namespace Decimal

def positional (decimal : Decimal) : List Char :=
  let digits := naturalText decimal.digits
  if decimal.exponent ≥ 0 then digits ++ List.replicate decimal.exponent.toNat '0'
  else
    let places := (-decimal.exponent).toNat
    let padded := List.replicate (places + 1 - digits.length) '0' ++ digits
    padded.take (padded.length - places) ++ ['.'] ++ padded.drop (padded.length - places)

end Decimal

namespace Double

def text (value : Double) : List Char :=
  let sign := if value.isNegative then ['-'] else []
  if value.isNaN then "NaN".toList
  else if !value.isFinite then sign ++ "inf".toList
  else sign ++ (if value.isZero then ['0'] else value.shortest.positional)

/-- Exponents beyond this bound leave the range of doubles whatever the digits are. -/
def exponentBound : Int := 2000

/-- The double nearest to `digits * 10 ^ exponent`. The order of magnitude is compared with the
range first, so that no power of ten is computed that would be thrown away. -/
def ofDecimal (negative : Bool) (digits : Nat) (exponent : Int) : Double :=
  let order := exponent + (naturalText digits).length
  if digits = 0 || order < -exponentBound then ofMagnitude negative 0
  else if order > exponentBound then ofMagnitude negative infiniteMagnitude
  else ofQuotient negative (digits * Nat.pow 10 exponent.toNat) (Nat.pow 10 (-exponent).toNat)

def readExponent? : List Char → Option Int
  | [] => some 0
  | marker :: rest => if marker.toLower = 'e' then readInteger? rest else none

/-- The digits with an optional point; at least one digit is needed on one side of it. -/
def readUnsigned? (negative : Bool) (text : List Char) : Option Double :=
  let whole := text.takeWhile Char.isDigit
  let afterWhole := text.dropWhile Char.isDigit
  let (part, rest) := match afterWhole with
    | '.' :: others => (others.takeWhile Char.isDigit, others.dropWhile Char.isDigit)
    | others => ([], others)
  if whole.isEmpty && part.isEmpty then none
  else (readExponent? rest).map fun exponent =>
    ofDecimal negative (extendByDigits 0 (whole ++ part)) (exponent - part.length)

def isNamed (name : String) (text : List Char) : Bool :=
  text.map Char.toLower == name.toList

def readMagnitude? (negative : Bool) (text : List Char) : Option Double :=
  if isNamed "inf" text || isNamed "infinity" text then some (ofMagnitude negative infiniteMagnitude)
  else if isNamed "nan" text then some (ofMagnitude negative (infiniteMagnitude + quietBit))
  else readUnsigned? negative text

def read? : List Char → Option Double
  | '-' :: text => readMagnitude? true text
  | '+' :: text => readMagnitude? false text
  | text => readMagnitude? false text

end Double

end ConnectionManager.Number
