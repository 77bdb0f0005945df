import ConnectionManager.Roster.Basic

/-!
List views. Where a contact belongs in a list follows from what the backend knows of it
(`Roster.membership`); a view is brought in line contact by contact, and what moved is collected in
one change.
-/

namespace ConnectionManager

inductive Membership
  | member
  | localPending (message : String)
  | remotePending
  | outside
deriving DecidableEq, Repr

def Membership.slot : Membership → Option Slot
  | .member => some .members
  | .localPending _ => some .localPending
  | .remotePending => some .remotePending
  | .outside => none

def ContactStates.membership (states : ContactStates) : ListName → Membership
  | .stored => .member
  | .subscribe =>
      match states.subscribe with
      | .yes => .member
      | .ask => .remotePending
      | .no => .outside
  | .publish =>
      match states.publish with
      | .yes => .member
      | .ask => .localPending states.publishRequest
      | .no => .outside
  | .deny => .outside

def listPath (connection : ObjectPath) (list : ListName) : Outcome ObjectPath := do
  (← connection.child "ContactList").child list.name

namespace MembershipChange

/-- Notes where a contact goes, if that is news or if everything is to be told. -/
def note (change : MembershipChange) (view : ListView) (initial : Bool) (contact : Handle)
    (membership : Membership) : MembershipChange :=
  match membership with
  | .member =>
      if initial || !view.contains .members contact then
        { change with added := change.added ++ [contact] }
      else change
  | .localPending message =>
      if initial || !view.contains .localPending contact then
        { change with localPending := change.localPending ++ [(contact, message)] }
      else change
  | .remotePending =>
      if initial || !view.contains .remotePending contact then
        { change with remotePending := change.remotePending ++ [contact] }
      else change
  | .outside =>
      if initial || view.contains .members contact || view.contains .localPending contact
          || view.contains .remotePending contact then
        { change with removed := change.removed ++ [contact] }
      else change

end MembershipChange

/-- A view while it is brought in line. -/
structure ListUpdate where
  view : ListView
  repository : Repository
  change : MembershipChange

def ListUpdate.step (initial : Bool) (update : ListUpdate) (entry : Handle × Membership) :
    ListUpdate :=
  let (contact, membership) := entry
  let (view, repository) := update.view.place update.repository contact membership.slot
  ⟨view, repository, update.change.note update.view initial contact membership⟩

namespace Roster

variable {β : Type} [RosterBackend β]

def membership (roster : Roster β) (list : ListName) (contact : Handle) : Membership :=
  if list = .deny then if roster.blocked.contains contact then .member else .outside
  else match RosterBackend.states roster.backend contact with
    | some states => states.membership list
    | none => .outside

end Roster

namespace RosterCall

variable {β : Type} [RosterBackend β]

/-- Brings a list in line with the backend for some contacts and announces what changed. The
first time every contact is reported; later only real transitions are. -/
def updateList (initial : Bool) (contacts : List Handle) (call : RosterCall β) (list : ListName) :
    RosterCall β :=
  match call.roster.lists.find? list with
  | none => call
  | some view =>
      let entries := contacts.map fun contact => (contact, call.roster.membership list contact)
      let update := entries.foldl (ListUpdate.step initial)
        ⟨view, call.repositories.contacts, { view := .list list }⟩
      let updated := { call with
        roster := { call.roster with lists := call.roster.lists.insert list update.view } }
      (updated.withContacts update.repository).emitChange update.change initial

/-- Creates the views that the backend supports, up to one whose path cannot be formed. -/
def createLists (surroundings : Surroundings) : List ListName → RosterCall β → Bool × RosterCall β
  | [], call => (true, call)
  | list :: rest, call =>
      if call.roster.hasView list then
        match listPath surroundings.connectionPath list with
        | .error _ => (false, call)
        | .ok path =>
            let view : ListView := { channel := ⟨path, contactListType, .list, list.handle⟩ }
            createLists surroundings rest { call with
              roster := { call.roster with lists := call.roster.lists.insert list view } }
      else createLists surroundings rest call

end RosterCall

end ConnectionManager
