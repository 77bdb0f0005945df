/-!
Cutting texts apart: at every character of a kind, at the first one, at line ends, and after a
fixed beginning.
-/

namespace ConnectionManager.Text

/-- The pieces between separators. There is always one piece more than there are separators. -/
def pieces (isSeparator : Char → Bool) : List Char → List (List Char)
  | [] => [[]]
  | character :: rest =>
      if isSeparator character then [] :: pieces isSeparator rest
      else match pieces isSeparator rest with
        | [] => [[character]]
        | first :: others => (character :: first) :: others

theorem pieces_ne_nil (isSeparator : Char → Bool) (text : List Char) :
    pieces isSeparator text ≠ [] := by
  cases text with
  | nil => simp [pieces]
  | cons character rest =>
      rw [pieces]
      split
      · simp
      · split <;> simp

def splitOnce (separator : Char) : List Char → Option (List Char × List Char)
  | [] => none
  | character :: rest =>
      if character = separator then some ([], rest)
      else (splitOnce separator rest).map fun (before, after) => (character :: before, after)

def afterPrefix? (beginning text : List Char) : Option (List Char) := beginning.isPrefixOf? text

def dropReturn (line : List Char) : List Char :=
  if line.getLast? = some '\r' then line.dropLast else line

/-- The lines of a text. A line ends at a line feed, with a carriage return before it or without;
the text after the last line feed is a line of its own unless it is empty. -/
def lines (text : List Char) : List (List Char) :=
  let cut := pieces (· == '\n') text
  let complete := cut.dropLast.map dropReturn
  match cut.getLast? with
  | some (last@(_ :: _)) => complete ++ [last]
  | _ => complete

def join (separator : List Char) : List (List Char) → List Char
  | [] => []
  | [piece] => piece
  | piece :: rest => piece ++ separator ++ join separator rest

end ConnectionManager.Text
