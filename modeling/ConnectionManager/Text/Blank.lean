/-!
White space. A character is blank when it has the White_Space property of Unicode. Trimming
removes blank characters from both ends of a text and nothing else.
-/

namespace ConnectionManager.Text

def isBlank (character : Char) : Bool :=
  let code := character.toNat
  (9 ≤ code && code ≤ 13) || code == 0x20 || code == 0x85 || code == 0xA0 || code == 0x1680
    || (0x2000 ≤ code && code ≤ 0x200A) || code == 0x2028 || code == 0x2029
    || code == 0x202F || code == 0x205F || code == 0x3000

def trimLeft (text : List Char) : List Char := text.dropWhile isBlank

def trimRight (text : List Char) : List Char := (text.reverse.dropWhile isBlank).reverse

def trim (text : List Char) : List Char := trimRight (trimLeft text)

end ConnectionManager.Text
