import ConnectionManager.KeyFile.Basic
import ConnectionManager.Text.Blank
import ConnectionManager.Text.Split

/-!
Reading key files line by line. A line is classified by itself (`Line.ofText`); the groups are
then built from the sequence of lines. A header that names an earlier group continues it.
-/

namespace ConnectionManager.KeyFile

inductive LineError
  | unterminatedHeader
  | emptyGroupName
  | missingEquals
  | emptyKey
  | outsideGroup
deriving DecidableEq, Repr

def LineError.message : LineError → String
  | .unterminatedHeader => "unterminated group header"
  | .emptyGroupName => "empty group name"
  | .missingEquals => "expected key = value"
  | .emptyKey => "empty key"
  | .outsideGroup => "entry outside of any group"

structure ReadError where
  line : Nat
  error : LineError
deriving DecidableEq, Repr

inductive Line
  | blank
  | header (name : List Char)
  | entry (key value : List Char)
deriving DecidableEq

namespace Line

def ofTrimmed : List Char → Except LineError Line
  | [] => .ok .blank
  | '#' :: _ => .ok .blank
  | '[' :: rest =>
      if rest.getLast? = some ']' then
        if rest.dropLast.isEmpty then .error .emptyGroupName else .ok (.header rest.dropLast)
      else .error .unterminatedHeader
  | text =>
      match Text.splitOnce '=' text with
      | none => .error .missingEquals
      | some (key, value) =>
          if (Text.trim key).isEmpty then .error .emptyKey
          else .ok (.entry (Text.trim key) (Text.trim value))

def ofText (text : List Char) : Except LineError Line := ofTrimmed (Text.trim text)

end Line

/-- A file while it is read, with the name of the group that entries go to. -/
structure Progress where
  file : KeyFile
  current : Option (List Char)

def addEntry (name : List Char) (entry : List Char × List Char) (groups : List Group) :
    List Group :=
  groups.map fun group =>
    if group.name = name then { group with entries := group.entries ++ [entry] } else group

def Progress.add (progress : Progress) : Line → Except LineError Progress
  | .blank => .ok progress
  | .header name =>
      if (progress.file.group? name).isSome then .ok { progress with current := some name }
      else .ok ⟨⟨progress.file.groups ++ [⟨name, []⟩]⟩, some name⟩
  | .entry key value =>
      match progress.current with
      | none => .error .outsideGroup
      | some name => .ok ⟨⟨addEntry name (key, value) progress.file.groups⟩, progress.current⟩

def readLines (progress : Progress) (number : Nat) : List (List Char) → Except ReadError KeyFile
  | [] => .ok progress.file
  | text :: rest =>
      match Line.ofText text with
      | .error error => .error ⟨number, error⟩
      | .ok line =>
          match progress.add line with
          | .error error => .error ⟨number, error⟩
          | .ok next => readLines next (number + 1) rest

def read (text : List Char) : Except ReadError KeyFile :=
  readLines ⟨⟨[]⟩, none⟩ 1 (Text.lines text)

end ConnectionManager.KeyFile
