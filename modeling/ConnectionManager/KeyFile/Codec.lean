import ConnectionManager.Text.Blank

/-!
How strings and lists are written as values of a key file. A backslash starts an escape; a space
is escaped at the ends of a string only, because the ends are what trimming would lose. In a list
the separators are escaped too.
-/

namespace ConnectionManager.KeyFile

/-- Where a character stands in its string. -/
structure Position where
  isFirst : Bool
  isLast : Bool

def isSeparator (character : Char) : Bool := character == ',' || character == ';'

def escapeCharacter (inList : Bool) (position : Position) (character : Char) : List Char :=
  if character = ' ' && (position.isFirst || position.isLast) then ['\\', 's']
  else if character = '\\' then ['\\', '\\']
  else if character = '\n' then ['\\', 'n']
  else if character = '\t' then ['\\', 't']
  else if character = '\r' then ['\\', 'r']
  else if inList && isSeparator character then ['\\', character]
  else [character]

def escapeFrom (inList isFirst : Bool) : List Char → List Char
  | [] => []
  | character :: rest =>
      escapeCharacter inList ⟨isFirst, rest.isEmpty⟩ character ++ escapeFrom inList false rest

def escape (text : List Char) : List Char := escapeFrom false true text

def escapeItem (text : List Char) : List Char := escapeFrom true true text

def escapedCharacter? : Char → Option Char
  | 's' => some ' '
  | 'n' => some '\n'
  | 't' => some '\t'
  | 'r' => some '\r'
  | '\\' => some '\\'
  | ',' => some ','
  | ';' => some ';'
  | _ => none

/-- Decodes a string; an unknown or unfinished escape makes it unreadable. -/
def unescape? : List Char → Option (List Char)
  | [] => some []
  | '\\' :: [] => none
  | '\\' :: marker :: rest =>
      match escapedCharacter? marker, unescape? rest with
      | some character, some decoded => some (character :: decoded)
      | _, _ => none
  | character :: rest => (unescape? rest).map (character :: ·)

/-- Cuts a list at the separators that are not escaped. What follows the last separator is an item
only if it is not blank. `none` if the text ends inside an escape. -/
def cutItems (current : List Char) : List Char → Option (List (List Char))
  | [] => some (if (Text.trim current).isEmpty then [] else [current])
  | '\\' :: [] => none
  | '\\' :: marker :: rest => cutItems (current ++ ['\\', marker]) rest
  | character :: rest =>
      if isSeparator character then (cutItems [] rest).map (current :: ·)
      else cutItems (current ++ [character]) rest

/-- Applies a partial function to every item; one failure fails the whole list. -/
def mapAll? {α β : Type} (change : α → Option β) : List α → Option (List β)
  | [] => some []
  | item :: rest =>
      match change item, mapAll? change rest with
      | some changed, some others => some (changed :: others)
      | _, _ => none

def splitList? (raw : List Char) : Option (List (List Char)) :=
  (cutItems [] raw).bind (mapAll? fun item => unescape? (Text.trim item))

/-- Writes a list, with a comma between neighbours. -/
def joinList : List (List Char) → List Char
  | [] => []
  | [item] => escapeItem item
  | item :: rest => escapeItem item ++ ',' :: joinList rest

end ConnectionManager.KeyFile
