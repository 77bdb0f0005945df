import ConnectionManager.Roster.Basic

/-!
Group views. A group that appears is interned in the repository of groups and its channel is
reported; a group that goes gives its references back and its channel is reported closed.
-/

namespace ConnectionManager.RosterCall

variable {β : Type}

def groupElement : String := "ContactGroup"

/-- Creates the view of a group that is new. The result says whether it was. -/
def ensureGroup (surroundings : Surroundings) (call : RosterCall β) (name : String) :
    Outcome Bool × RosterCall β :=
  if call.roster.groups.contains name then (.ok false, call)
  else
    let attempt := do
      let path ← surroundings.channelPath [groupElement, name]
      let repository ← call.repositories.get .group
      let (handle, next) ← repository.intern name
      .ok (path, handle, next)
    match attempt with
    | .error failure => (.error failure, call)
    | .ok (path, handle, next) =>
        let channel : Channel := ⟨path, contactListType, .group, handle⟩
        let created := { call with
          repositories := call.repositories.set .group next
          roster := { call.roster with groups := call.roster.groups.insert name { channel } } }
        (.ok true, created.report (.newChannel channel none))

def releaseGroupHandle (call : RosterCall β) (handle : Handle) : RosterCall β :=
  match call.repositories.get .group with
  | .error _ => call
  | .ok repository =>
      let next := repository.orUnchanged (repository.dropReference handle)
      { call with repositories := call.repositories.set .group next }

/-- Removes the view of a group. The result says whether there was one. -/
def dropGroup (call : RosterCall β) (name : String) : Bool × RosterCall β :=
  match call.roster.groups.find? name with
  | none => (false, call)
  | some view =>
      let removed := { call with
        roster := { call.roster with groups := call.roster.groups.erase name } }
      let cleared := removed.withContacts
        (HandleSet.clear view.members call.repositories.contacts)
      (true, (cleared.releaseGroupHandle view.channel.handle).report
        (.channelClosed view.channel.path))

structure GroupUpdate where
  members : HandleSet
  repository : Repository
  moved : List Handle := []

/-- Changes the members by one contact, which has moved if the set changed. -/
def GroupUpdate.step (change : HandleSet → Repository → Handle → HandleSet.Change)
    (update : GroupUpdate) (contact : Handle) : GroupUpdate :=
  let changed := change update.members update.repository contact
  match changed.result with
  | .ok true => ⟨changed.set, changed.repository, update.moved ++ [contact]⟩
  | _ => ⟨changed.set, changed.repository, update.moved⟩

def GroupUpdate.add : GroupUpdate → Handle → GroupUpdate := GroupUpdate.step HandleSet.add

def GroupUpdate.remove : GroupUpdate → Handle → GroupUpdate := GroupUpdate.step HandleSet.remove

def setMembers (call : RosterCall β) (name : String) (view : GroupView) (members : HandleSet)
    (contacts : Repository) : RosterCall β :=
  ({ call with
    roster := { call.roster with
      groups := call.roster.groups.insert name { view with members } } }).withContacts contacts

/-- Adds contacts to a group, takes others out, and announces what changed. -/
def changeGroup (call : RosterCall β) (name : String) (add remove : List Handle)
    (always : Bool) : RosterCall β :=
  match call.roster.groups.find? name with
  | none => call
  | some view =>
      let joined := add.foldl GroupUpdate.add
        { members := view.members, repository := call.repositories.contacts }
      let left := remove.foldl GroupUpdate.remove
        { members := joined.members, repository := joined.repository }
      let change : MembershipChange :=
        { view := .group name, added := joined.moved, removed := left.moved }
      (call.setMembers name view left.members left.repository).emitChange change always

end ConnectionManager.RosterCall
