import ConnectionManager.Catalog

/-!
Values and tables of a TOML document. A table remembers how it came about, because that decides
what may still be added to it: a table under a heading of its own takes no dotted keys from
elsewhere, and a table made by dotted keys never gets a heading.
-/

namespace ConnectionManager.Toml

inductive Value
  | string (text : String)
  | integer (number : Int)
  | float (literal : List Char)
  | boolean (value : Bool)
  | dateTime (literal : List Char)
  | array (items : List Value)
  | table (entries : List (String × Value))

inductive Origin
  /-- The table lies on the way to a heading. -/
  | implied
  | headed
  | dotted
deriving DecidableEq

/-- A value, a table that is still open, or a list of tables of which the last is open. -/
inductive Node
  | value (value : Value)
  | table (origin : Origin) (entries : List (String × Node))
  | tables (elements : List (List (String × Node)))

abbrev Nodes := List (String × Node)

def changeLast (change : Nodes → Option Nodes) : List Nodes → Option (List Nodes)
  | [] => none
  | [last] => (change last).map fun changed => [changed]
  | first :: rest => (changeLast change rest).map fun changed => first :: changed

/-- Changes the table at the end of a path and makes the tables that are missing on the way. Dotted
keys do not pass through a table with a heading. -/
def descend (dotted : Bool) (change : Origin → Nodes → Option Nodes) :
    List String → Origin → Nodes → Option Nodes
  | [], origin, nodes => change origin nodes
  | key :: rest, _, nodes =>
      match Entries.find? key nodes with
      | none => do
          let origin := if dotted then Origin.dotted else Origin.implied
          let made ← descend dotted change rest origin []
          some (Entries.insert key (.table origin made) nodes)
      | some (.table origin inner) =>
          if dotted && origin = .headed then none
          else do
            let changed ← descend dotted change rest origin inner
            some (Entries.insert key (.table origin changed) nodes)
      | some (.tables elements) => do
          let changed ← changeLast (descend dotted change rest .headed) elements
          some (Entries.insert key (.tables changed) nodes)
      | some (.value _) => none

/-- Adds a value under a dotted key; a key is given once. -/
def addValue (keys : List String) (key : String) (value : Value) (origin : Origin) (nodes : Nodes) :
    Option Nodes :=
  descend true (fun origin nodes =>
    if decide (origin = .dotted) == keys.isEmpty then none
    else match Entries.find? key nodes with
      | some _ => none
      | none => some (Entries.insert key (.value value) nodes)) keys origin nodes

def openTable (path : List String) (key : String) (nodes : Nodes) : Option Nodes :=
  descend false (fun _ nodes =>
    match Entries.find? key nodes with
    | none => some (Entries.insert key (.table .headed []) nodes)
    | some (.table .implied inner) => some (Entries.insert key (.table .headed inner) nodes)
    | some _ => none) path .headed nodes

def openElement (path : List String) (key : String) (nodes : Nodes) : Option Nodes :=
  descend false (fun _ nodes =>
    match Entries.find? key nodes with
    | none => some (Entries.insert key (.tables [[]]) nodes)
    | some (.tables elements) => some (Entries.insert key (.tables (elements ++ [[]])) nodes)
    | some _ => none) path .headed nodes

mutual

def Node.toValue : Node → Value
  | .value value => value
  | .table _ entries => .table (finish entries)
  | .tables elements => .array (finishAll elements)

def finish : List (String × Node) → List (String × Value)
  | [] => []
  | (key, node) :: rest => (key, node.toValue) :: finish rest

def finishAll : List (List (String × Node)) → List Value
  | [] => []
  | entries :: rest => .table (finish entries) :: finishAll rest

end

end ConnectionManager.Toml
