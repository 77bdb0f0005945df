/-!
Whole numbers in decimal. A number is read digit by digit with an optional sign; there are no
separators, no white space and no other base.
-/

namespace ConnectionManager.Number

def digitValue (digit : Char) : Nat := digit.toNat - 48

def extendByDigits (start : Nat) (digits : List Char) : Nat :=
  digits.foldl (fun value digit => value * 10 + digitValue digit) start

def readDigits? (text : List Char) : Option Nat :=
  if !text.isEmpty && text.all Char.isDigit then some (extendByDigits 0 text) else none

def readNatural? : List Char → Option Nat
  | '+' :: digits => readDigits? digits
  | digits => readDigits? digits

def readInteger? : List Char → Option Int
  | '-' :: digits => (readDigits? digits).map fun value => -Int.ofNat value
  | text => (readNatural? text).map Int.ofNat

def naturalText (value : Nat) : List Char := Nat.toDigits 10 value

def integerText : Int → List Char
  | .ofNat value => naturalText value
  | .negSucc value => '-' :: naturalText (value + 1)

end ConnectionManager.Number
