import ConnectionManager.Channel.Basic
import ConnectionManager.Handle.Members

/-!
Views of a roster. A list has members and contacts that wait for an answer on either side; a group
has members only. Every set of a view keeps its contacts alive.
-/

namespace ConnectionManager

/-- Where a contact can stand in a list. -/
inductive Slot
  | members
  | localPending
  | remotePending
deriving DecidableEq, Repr

structure ListView where
  channel : Channel
  members : HandleSet := .empty
  localPending : HandleSet := .empty
  remotePending : HandleSet := .empty

structure GroupView where
  channel : Channel
  members : HandleSet := .empty

namespace ListView

def get (view : ListView) : Slot → HandleSet
  | .members => view.members
  | .localPending => view.localPending
  | .remotePending => view.remotePending

def set (view : ListView) (slot : Slot) (handles : HandleSet) : ListView :=
  match slot with
  | .members => { view with members := handles }
  | .localPending => { view with localPending := handles }
  | .remotePending => { view with remotePending := handles }

def contains (view : ListView) (slot : Slot) (contact : Handle) : Bool :=
  Catalog.contains (view.get slot) contact

/-- Takes a contact out of slots in turn, up to the first refusal of the repository. -/
def takeOut (contact : Handle) : List Slot → ListView → Repository → ListView × Repository
  | [], view, repository => (view, repository)
  | slot :: rest, view, repository =>
      let change := HandleSet.remove (view.get slot) repository contact
      let next := view.set slot change.set
      match change.result with
      | .ok _ => takeOut contact rest next change.repository
      | .error _ => (next, change.repository)

/-- The slots that a contact leaves when it comes to stand in one, or in none. -/
def othersOf : Option Slot → List Slot
  | some .members => [.localPending, .remotePending]
  | some .localPending => [.members, .remotePending]
  | some .remotePending => [.members, .localPending]
  | none => [.members, .localPending, .remotePending]

/-- Moves a contact into a slot and out of the others. The new reference is taken first, so the
handle survives the move; a handle that cannot be referenced is left where it is. -/
def place (view : ListView) (repository : Repository) (contact : Handle) (target : Option Slot) :
    ListView × Repository :=
  match target with
  | none => takeOut contact (othersOf none) view repository
  | some slot =>
      let change := HandleSet.add (view.get slot) repository contact
      match change.result with
      | .error _ => (view, repository)
      | .ok _ => takeOut contact (othersOf target) (view.set slot change.set) change.repository

def clear (view : ListView) (repository : Repository) : Repository :=
  HandleSet.clear view.remotePending
    (HandleSet.clear view.localPending (HandleSet.clear view.members repository))

end ListView

end ConnectionManager
