import ConnectionManager.Roster.Backend

/-!
A stand-in for the roster of a service. It keeps contacts, groups and blocked contacts as it is
told, offers as much as it is set to offer, and notes every write.
-/

namespace ConnectionManager.Rehearsal

inductive Access
  | none
  | read
  | write
deriving DecidableEq

structure StandInBackend where
  /-- Whether blocking and groups follow the settings below or the usual defaults. -/
  custom : Bool := false
  canChange : Bool := true
  usesMessage : Bool := true
  persists : Bool := true
  isMutable : Bool := true
  blocking : Access := .write
  grouping : Access := .write
  canBlock : Bool := true
  disjoint : Bool := false
  writeFailure : Option Failure := Option.none
  /-- Whether these settings can be changed later. -/
  settable : Bool := true
  contacts : List Handle := []
  states : List (Handle × ContactStates) := []
  groups : List (String × List Handle) := []
  groupOrder : List String := []
  blocked : List Handle := []
  writes : List RosterWrite := []

namespace StandInBackend

def minimal : StandInBackend :=
  { canChange := false, usesMessage := false, isMutable := false, blocking := .none,
    grouping := .none, settable := false }

def configure (backend : StandInBackend) (change : StandInBackend → StandInBackend) :
    StandInBackend :=
  if backend.settable then change backend else backend

/-- Takes off spaces at the ends and lowers letters; refuses names that start with a mark. -/
def customGroupName (name : String) : Option String :=
  let isSpace (character : Char) : Bool := character == ' '
  let inner := ((name.toList.dropWhile isSpace).reverse.dropWhile isSpace).reverse
  let lowered := inner.map Char.toLower
  match lowered with
  | [] => Option.none
  | '!' :: _ => Option.none
  | _ => some (String.ofList lowered)

def groupsOf (backend : StandInBackend) (contact : Handle) : List String :=
  ((backend.groups.filter fun group => group.2.contains contact).map Prod.fst).mergeSort
    fun left right => left ≤ right

def groupSource (backend : StandInBackend) : GroupSource where
  names := backend.groupOrder
  ofContact := backend.groupsOf
  disjoint := backend.custom && backend.disjoint
  normalize := if backend.custom then customGroupName else plainGroupName

def blockingEnabled (backend : StandInBackend) : Bool := !backend.custom || backend.canBlock

def recordWrite (backend : StandInBackend) (write : RosterWrite) :
    StandInBackend × Outcome Unit :=
  ({ backend with writes := backend.writes ++ [write] },
    match backend.writeFailure with
    | some failure => .error failure
    | Option.none => .ok ())

/-- Creating groups is no work for a service that knows a group by its members. -/
def write (backend : StandInBackend) : RosterWrite → StandInBackend × Outcome Unit
  | .createGroups names =>
      if backend.custom then backend.recordWrite (.createGroups names) else (backend, .ok ())
  | other => backend.recordWrite other

instance : RosterBackend StandInBackend where
  contacts := contacts
  states backend contact := (backend.states.find? fun entry => entry.1 = contact).map Prod.snd
  canChangeSubscriptions := canChange
  usesMessage := usesMessage
  persists := persists
  isMutable := isMutable
  blocking backend :=
    if backend.blocking = .none then Option.none
    else some ⟨backend.blockingEnabled, backend.blocked⟩
  blockingEditor backend :=
    if backend.blocking = .write then some backend.blockingEnabled else Option.none
  groups backend :=
    if backend.grouping = .none then Option.none else some backend.groupSource
  groupsEditable backend := backend.grouping = .write
  write := write

/-- Sets the states of a contact, which is added if it is new. -/
def setStates (states : ContactStates) (backend : StandInBackend) (contact : Handle) :
    StandInBackend :=
  { backend with
    contacts := if backend.contacts.contains contact then backend.contacts
      else backend.contacts ++ [contact]
    states := (contact, states) :: backend.states.filter fun entry => entry.1 ≠ contact }

def forget (backend : StandInBackend) (contacts : List Handle) : StandInBackend :=
  { backend with
    contacts := backend.contacts.filter fun contact => !contacts.contains contact
    states := backend.states.filter fun entry => !contacts.contains entry.1 }

/-- Sets the members of a group, which is added if it is new. -/
def setGroup (backend : StandInBackend) (group : String) (members : List Handle) :
    StandInBackend :=
  { backend with
    groups := (group, members) :: backend.groups.filter fun entry => entry.1 ≠ group
    groupOrder := if backend.groupOrder.contains group then backend.groupOrder
      else backend.groupOrder ++ [group] }

/-- Leaves a group out of the list of groups, but not out of those of its members. -/
def hideGroup (backend : StandInBackend) (group : String) : StandInBackend :=
  { backend with groupOrder := backend.groupOrder.filter fun name => name ≠ group }

end StandInBackend

end ConnectionManager.Rehearsal
