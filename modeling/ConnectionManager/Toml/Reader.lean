import ConnectionManager.Toml.Lexeme

/-!
Reading of TOML documents: values of any depth, then headings and entries line by line. A document
with a single fault is refused as a whole.
-/

namespace ConnectionManager.Toml

mutual

/-- A value in which at most `levels` brackets and braces are open at once. -/
def readValue (fuel levels : Nat) (text : List Char) : Option (Value × List Char) :=
  match fuel with
  | 0 => none
  | fuel + 1 =>
      match text, levels with
      | '[' :: _, 0 | '\x7b' :: _, 0 => none
      | '[' :: rest, levels + 1 => do
          let (items, after) ← readItems fuel levels (skipGaps false rest)
          some (.array items, after)
      | '\x7b' :: rest, levels + 1 =>
          match skipBlanks rest with
          | '\x7d' :: after => some (.table [], after)
          | fields => do
              let (nodes, after) ← readFields fuel levels [] fields
              some (.table (finish nodes), after)
      | '"' :: _, _ | '\'' :: _, _ => do
          let (body, after) ← readString text
          some (.string (String.ofList body), after)
      | _, _ => readPlain text

/-- The items of an array up to its closing bracket. The last may have a comma after it. -/
def readItems (fuel levels : Nat) (text : List Char) : Option (List Value × List Char) :=
  match fuel with
  | 0 => none
  | fuel + 1 =>
      match text with
      | ']' :: after => some ([], after)
      | _ => do
          let (item, rest) ← readValue fuel levels text
          match skipGaps false rest with
          | ']' :: after => some ([item], after)
          | ',' :: more =>
              let (items, after) ← readItems fuel levels (skipGaps false more)
              some (item :: items, after)
          | _ => none

/-- The entries of a table in braces up to its closing brace, all on one line. -/
def readFields (fuel levels : Nat) (nodes : Nodes) (text : List Char) :
    Option (Nodes × List Char) :=
  match fuel with
  | 0 => none
  | fuel + 1 => do
      let ((keys, key), rest) ← readKey text
      match rest with
      | '=' :: more =>
          let (value, rest) ← readValue fuel levels (skipBlanks more)
          let nodes ← addValue keys key value .headed nodes
          match skipBlanks rest with
          | '\x7d' :: after => some (nodes, after)
          | ',' :: more => readFields fuel levels nodes (skipBlanks more)
          | _ => none
      | _ => none

end

def stepsOf (text : List Char) : Nat := 2 * text.length + 2

structure Document where
  nodes : Nodes := []
  /-- The table that entries go to. -/
  heading : List String := []

namespace Document

def addEntry (document : Document) (keys : List String) (key : String) (value : Value) :
    Option Document := do
  let nodes ← descend false (addValue keys key value) document.heading .headed document.nodes
  some { document with nodes }

def open? (document : Document) (add : List String → String → Nodes → Option Nodes)
    (keys : List String) (key : String) : Option Document := do
  some { nodes := ← add keys key document.nodes, heading := keys ++ [key] }

def readLine (document : Document) (text : List Char) : Option (Document × List Char) :=
  match skipBlanks text with
  | '[' :: '[' :: rest => do
      let ((keys, key), after) ← readKey (skipBlanks rest)
      match after with
      | ']' :: ']' :: more => some (← document.open? openElement keys key, ← endLine? more)
      | _ => none
  | '[' :: rest => do
      let ((keys, key), after) ← readKey (skipBlanks rest)
      match after with
      | ']' :: more => some (← document.open? openTable keys key, ← endLine? more)
      | _ => none
  | line =>
      match endLine? line with
      | some rest => some (document, rest)
      | none => do
          let ((keys, key), rest) ← readKey line
          match rest with
          | '=' :: more =>
              let (value, after) ← readValue (stepsOf more) nestingLimit (skipBlanks more)
              some (← document.addEntry keys key value, ← endLine? after)
          | _ => none

/-- Reads lines; every line takes at least one character. -/
def readLines (fuel : Nat) (document : Document) (text : List Char) : Option Document :=
  match fuel, text with
  | _, [] => some document
  | 0, _ => none
  | fuel + 1, text => do
      let (next, rest) ← document.readLine text
      readLines fuel next rest

end Document

/-- Takes the mark off that some editors put before a text. -/
def withoutMark : List Char → List Char
  | '\uFEFF' :: rest => rest
  | text => text

def read? (text : List Char) : Option (List (String × Value)) := do
  let text := withoutMark text
  let document ← Document.readLines (text.length + 1) {} text
  some (finish document.nodes)

end ConnectionManager.Toml
