import ConnectionManager.Number.DoubleText
import ConnectionManager.Number.Word
import ConnectionManager.Text.Split
import ConnectionManager.Toml.Basic

/-!
The parts of a TOML document that lie on one line or hold text: blanks, strings, numbers and dates.
Every reader takes the text before it and says what it found and what is left; `none` means that
the text is malformed.
-/

namespace ConnectionManager.Toml

abbrev Reader (α : Type) := List Char → Option (α × List Char)

def isBlank (character : Char) : Bool := character == ' ' || character == '\t'

def skipBlanks (text : List Char) : List Char := text.dropWhile isBlank

/-- Control characters stand nowhere in a document, tabs and line ends apart. -/
def isPrintable (character : Char) : Bool :=
  character == '\t' || (character ≥ ' ' && character ≠ '\x7F')

def skipComment : List Char → List Char
  | '#' :: rest => rest.dropWhile isPrintable
  | text => text

def endLine? (text : List Char) : Option (List Char) :=
  match skipComment (skipBlanks text) with
  | [] => some []
  | '\n' :: rest | '\r' :: '\n' :: rest => some rest
  | _ => none

def skipGaps (inComment : Bool) : List Char → List Char
  | [] => []
  | character :: rest =>
      if character = '\n' then skipGaps false rest
      else if character = '\r' && rest.head? = some '\n' then skipGaps false rest
      else if inComment then
        if isPrintable character then skipGaps true rest else character :: rest
      else if isBlank character then skipGaps false rest
      else if character = '#' then skipGaps true rest
      else character :: rest

def cutQuoted (quote : Char) (escapes : Bool) : Reader (List Char)
  | [] => none
  | first :: rest =>
      if escapes && first = '\\' then
        match rest with
        | [] => none
        | next :: more => (cutQuoted quote escapes more).map fun (body, after) =>
            (first :: next :: body, after)
      else if first = quote then some ([], rest)
      else (cutQuoted quote escapes rest).map fun (body, after) => (first :: body, after)

/-- The text before three closing quotes. One or two more quotes still belong to the text. -/
def cutBlock (quote : Char) (escapes : Bool) : Reader (List Char)
  | [] => none
  | first :: rest =>
      if escapes && first = '\\' then
        match rest with
        | [] => none
        | next :: more => (cutBlock quote escapes more).map fun (body, after) =>
            (first :: next :: body, after)
      else if first = quote && rest.take 2 = [quote, quote] then
        let further := min ((rest.drop 2).takeWhile (· == quote)).length 2
        some (List.replicate further quote, rest.drop (2 + further))
      else (cutBlock quote escapes rest).map fun (body, after) => (first :: body, after)

def shortEscape? : Char → Option Char
  | 'b' => some '\x08'
  | 't' => some '\t'
  | 'n' => some '\n'
  | 'f' => some '\x0C'
  | 'r' => some '\r'
  | '"' => some '"'
  | '\\' => some '\\'
  | _ => none

def digitOf? (base : Nat) (digit : Char) : Option Nat :=
  let value := if digit.isDigit then digit.toNat - 48
    else if 'a' ≤ digit && digit ≤ 'f' then digit.toNat - 87
    else if 'A' ≤ digit && digit ≤ 'F' then digit.toNat - 55
    else base
  if value < base then some value else none

def readDigits? (base : Nat) (digits : List Char) : Option Nat :=
  if digits.isEmpty then none
  else digits.foldlM (fun number digit => (digitOf? base digit).map fun value => number * base + value) 0

/-- The character of a code point; surrogates and what lies beyond the last one have none. -/
def characterOf? (digits : List Char) : Option Char := do
  let code ← readDigits? 16 digits
  if Nat.isValidChar code then some (Char.ofNat code) else none

def unescape (allowed : Char → Bool) : List Char → Option (List Char)
  | [] => some []
  | '\\' :: 'u' :: a :: b :: c :: d :: rest => do
      let character ← characterOf? [a, b, c, d]
      some (character :: (← unescape allowed rest))
  | '\\' :: 'U' :: a :: b :: c :: d :: e :: f :: g :: h :: rest => do
      let character ← characterOf? [a, b, c, d, e, f, g, h]
      some (character :: (← unescape allowed rest))
  | '\\' :: name :: rest => do
      let character ← shortEscape? name
      some (character :: (← unescape allowed rest))
  | character :: rest =>
      if allowed character && character ≠ '\\' then
        (unescape allowed rest).map fun others => character :: others
      else none

/-- Where a scan for broken lines is. -/
inductive BreakScan
  | text
  | escape
  /-- Between a backslash at the end of a line and the line end. -/
  | breaking
  | skipping

/-- Removes every backslash at the end of a line, with all blanks and line ends after it. -/
def joinBrokenLines : BreakScan → List Char → Option (List Char)
  | .text, [] | .skipping, [] => some []
  | .escape, [] | .breaking, [] => none
  | .escape, character :: rest =>
      if character = '\n' then joinBrokenLines .skipping rest
      else if isBlank character then joinBrokenLines .breaking rest
      else (joinBrokenLines .text rest).map fun others => '\\' :: character :: others
  | .breaking, character :: rest =>
      if character = '\n' then joinBrokenLines .skipping rest
      else if isBlank character then joinBrokenLines .breaking rest
      else none
  | .text, character :: rest =>
      if character = '\\' then joinBrokenLines .escape rest
      else (joinBrokenLines .text rest).map fun others => character :: others
  | .skipping, character :: rest =>
      if character = '\n' || isBlank character then joinBrokenLines .skipping rest
      else if character = '\\' then joinBrokenLines .escape rest
      else (joinBrokenLines .text rest).map fun others => character :: others

def plainLineEnds : List Char → List Char
  | '\r' :: '\n' :: rest => '\n' :: plainLineEnds rest
  | character :: rest => character :: plainLineEnds rest
  | [] => []

/-- Drops a line end that directly follows three opening quotes. -/
def dropFirstLineEnd : List Char → List Char
  | '\n' :: rest => rest
  | text => text

def isBlockCharacter (character : Char) : Bool := isPrintable character || character == '\n'

def readBlock (quote : Char) (escapes : Bool) (text : List Char) : Option (List Char × List Char) := do
  let (body, rest) ← cutBlock quote escapes text
  let body := dropFirstLineEnd (plainLineEnds body)
  if escapes then
    some (← unescape isBlockCharacter (← joinBrokenLines .text body), rest)
  else if body.all isBlockCharacter then some (body, rest)
  else none

def readQuoted (quote : Char) (escapes : Bool) (text : List Char) :
    Option (List Char × List Char) := do
  let (body, rest) ← cutQuoted quote escapes text
  if escapes then some (← unescape isPrintable body, rest)
  else if body.all isPrintable then some (body, rest)
  else none

/-- A string in quotes of either kind, on one line or as a block. -/
def readString : Reader (List Char)
  | '"' :: '"' :: '"' :: rest => readBlock '"' true rest
  | '\'' :: '\'' :: '\'' :: rest => readBlock '\'' false rest
  | '"' :: rest => readQuoted '"' true rest
  | '\'' :: rest => readQuoted '\'' false rest
  | _ => none

def isBareCharacter (character : Char) : Bool :=
  character.isAlphanum || character == '_' || character == '-'

/-- One part of a key. A quoted key is never a block. -/
def readSimpleKey : Reader String
  | '"' :: rest => (readQuoted '"' true rest).map fun (key, after) => (String.ofList key, after)
  | '\'' :: rest => (readQuoted '\'' false rest).map fun (key, after) => (String.ofList key, after)
  | text =>
      let key := text.takeWhile isBareCharacter
      if key.isEmpty then none else some (String.ofList key, text.dropWhile isBareCharacter)

/-- How many brackets and braces may be open at once, and how many parts a key may have. -/
def nestingLimit : Nat := 79

/-- A key of a limited number of parts with dots between them: the parts before the last, and the
last. -/
def readKeyUpTo (limit : Nat) (text : List Char) : Option ((List String × String) × List Char) :=
  match limit with
  | 0 => none
  | limit + 1 => do
      let (key, rest) ← readSimpleKey text
      match skipBlanks rest with
      | '.' :: more =>
          let ((keys, last), after) ← readKeyUpTo limit (skipBlanks more)
          some ((key :: keys, last), after)
      | after => some (([], key), after)

def readKey : Reader (List String × String) := readKeyUpTo nestingLimit

def joinDigits? (isDigit : Char → Bool) (text : List Char) : Option (List Char) :=
  let groups := Text.pieces (· == '_') text
  if groups.all fun group => !group.isEmpty && group.all isDigit then some groups.flatten else none

def withoutSign : List Char → List Char
  | '+' :: rest | '-' :: rest => rest
  | text => text

def wholeDigits? (text : List Char) : Option (List Char) :=
  (joinDigits? Char.isDigit text).filter fun digits =>
    digits.length = 1 || digits.head? ≠ some '0'

def inRange (number : Int) : Option Int :=
  if Number.WordType.int64.contains number then some number else none

def readBased? (base : Nat) (text : List Char) : Option Int := do
  let digits ← joinDigits? (fun digit => (digitOf? base digit).isSome) text
  inRange (← readDigits? base digits)

def readInteger? : List Char → Option Int
  | '0' :: 'x' :: rest => readBased? 16 rest
  | '0' :: 'o' :: rest => readBased? 8 rest
  | '0' :: 'b' :: rest => readBased? 2 rest
  | text => do
      let number ← readDigits? 10 (← wholeDigits? (withoutSign text))
      inRange (if text.head? = some '-' then -Int.ofNat number else number)

def isExponent (text : List Char) : Bool := (joinDigits? Char.isDigit (withoutSign text)).isSome

/-- A number with a fraction, an exponent or both. -/
def isDecimalFloat (text : List Char) : Bool :=
  let unsigned := withoutSign text
  let mantissa := unsigned.takeWhile fun character => character ≠ 'e' && character ≠ 'E'
  let exponent := unsigned.drop mantissa.length
  match Text.splitOnce '.' mantissa with
  | some (whole, fraction) =>
      (wholeDigits? whole).isSome && (joinDigits? Char.isDigit fraction).isSome
        && (exponent.isEmpty || isExponent exponent.tail)
  | none => (wholeDigits? mantissa).isSome && !exponent.isEmpty && isExponent exponent.tail

/-- Whether a decimal rounds to positive infinity. -/
def isTooLarge (text : List Char) : Bool :=
  match Number.Double.read? (text.filter fun character => character ≠ '_') with
  | some number => !number.isFinite && !number.isNegative
  | none => true

/-- A decimal that is not too large, or one of the special values. -/
def isFloat (text : List Char) : Bool :=
  let unsigned := withoutSign text
  unsigned = "inf".toList || unsigned = "nan".toList || (isDecimalFloat text && !isTooLarge text)

/-- A number of exactly two digits up to a bound. -/
def isPair (highest : Nat) (text : List Char) : Bool :=
  text.length = 2 && match readDigits? 10 text with
    | some number => number ≤ highest
    | none => false

def daysIn (year month : Nat) : Nat :=
  if month = 2 then
    if year % 4 = 0 && (year % 100 ≠ 0 || year % 400 = 0) then 29 else 28
  else if month = 4 || month = 6 || month = 9 || month = 11 then 30
  else 31

def isDate (text : List Char) : Bool :=
  match Text.pieces (· == '-') text with
  | [year, month, day] =>
      match readDigits? 10 year, readDigits? 10 month, readDigits? 10 day with
      | some yearNumber, some monthNumber, some dayNumber =>
          year.length = 4 && month.length = 2 && day.length = 2
            && 1 ≤ monthNumber && monthNumber ≤ 12
            && 1 ≤ dayNumber && dayNumber ≤ daysIn yearNumber monthNumber
      | _, _, _ => false
  | _ => false

/-- A time as hour, minute and second, with a fraction or without. -/
def isTime (text : List Char) : Bool :=
  match Text.pieces (· == ':') text with
  | [hour, minute, second] =>
      let whole := second.takeWhile fun character => character ≠ '.'
      let fraction := second.drop whole.length
      isPair 23 hour && isPair 59 minute && isPair 60 whole
        && (fraction.isEmpty || (readDigits? 10 fraction.tail).isSome)
  | _ => false

def isOffsetTime (text : List Char) : Bool :=
  let time := text.takeWhile fun character => character.isDigit || character == ':' || character == '.'
  let isOffset := match text.drop time.length with
    | [] | ['Z'] | ['z'] => true
    | sign :: rest =>
        (sign == '+' || sign == '-') && match Text.pieces (· == ':') rest with
          | [hour, minute] => isPair 23 hour && isPair 59 minute
          | _ => false
  isTime time && isOffset

/-- A date, a time, or both with a letter or a space between them. -/
def isDateTime (text : List Char) : Bool :=
  isTime text || isDate text || match text.drop 10 with
    | separator :: time =>
        isDate (text.take 10) && (separator == 'T' || separator == 't' || separator == ' ')
          && isOffsetTime time
    | [] => false

def isWordCharacter (character : Char) : Bool :=
  isBareCharacter character || character == '+' || character == '.' || character == ':'

def readWord? (word : List Char) : Option Value :=
  if word = "true".toList then some (.boolean true)
  else if word = "false".toList then some (.boolean false)
  else match readInteger? word with
    | some number => some (.integer number)
    | none =>
        if isFloat word then some (.float word)
        else if isDateTime word then some (.dateTime word)
        else none

/-- Reads a value that is one word. A date takes a time after a single space along. -/
def readPlain (text : List Char) : Option (Value × List Char) := do
  let word := text.takeWhile isWordCharacter
  let rest := text.drop word.length
  let time := rest.tail.takeWhile isWordCharacter
  if isDate word && rest.head? = some ' ' && (time.head?.any Char.isDigit) then
    some (← readWord? (word ++ ' ' :: time), rest.drop (1 + time.length))
  else some (← readWord? word, rest)

end ConnectionManager.Toml
