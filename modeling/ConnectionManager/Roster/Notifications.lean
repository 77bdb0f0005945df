import ConnectionManager.Roster.Requests

/-!
Notifications of a backend. They count only while the roster is received; what they name is
compared with the views, and only real transitions are announced.
-/

namespace ConnectionManager.RosterCall

variable {β : Type} [RosterBackend β]

def whenReceived (call : RosterCall β) (action : RosterCall β → RosterCall β) : RosterCall β :=
  if call.roster.phase = .received then action call else call

/-- The backend changed what it knows of some contacts and lost others. -/
def contactsChanged (changed removed : List Handle) (call : RosterCall β) : RosterCall β :=
  call.whenReceived fun call =>
    let updated := [ListName.subscribe, .publish, .stored].foldl
      (updateList false (changed ++ removed)) call
    if removed.isEmpty then updated
    else updated.roster.groups.keys.foldl
      (fun current name => current.changeGroup name [] removed false) updated

def blockingChanged (changed : List Handle) (call : RosterCall β) : RosterCall β :=
  call.whenReceived fun call => updateList false changed call .deny

/-- Creates those of some groups that are new; says which they were. -/
def ensureGroups (surroundings : Surroundings) (names : List String) (call : RosterCall β) :
    List String × RosterCall β :=
  names.foldl (fun (created, current) name =>
    match current.ensureGroup surroundings name with
    | (.ok true, next) => (created ++ [name], next)
    | (_, next) => (created, next)) ([], call)

def announceGroups (surroundings : Surroundings) (names : List String) (call : RosterCall β) :
    RosterCall β :=
  let (created, next) := call.ensureGroups surroundings names
  if created.isEmpty then next else next.emit (.groupsCreated created)

def groupsCreated (surroundings : Surroundings) (names : List String) (call : RosterCall β) :
    RosterCall β :=
  call.whenReceived fun call =>
    call.announceGroups surroundings (names.filterMap call.roster.normalizeGroup)

/-- Removes one group: it loses its members first, then its channel closes. -/
def removeGroup (state : List String × RosterCall β) (name : String) :
    List String × RosterCall β :=
  let (removed, call) := state
  let emptied := call.changeGroup name [] (call.roster.groupMembers name) false
  match emptied.dropGroup name with
  | (true, next) => (removed ++ [name], next)
  | (false, next) => (removed, next)

def groupsRemoved (names : List String) (call : RosterCall β) : RosterCall β :=
  call.whenReceived fun call =>
    let (removed, next) := (names.filterMap call.roster.normalizeGroup).foldl removeGroup ([], call)
    if removed.isEmpty then next else next.emit (.groupsRemoved removed)

/-- Hands the members of one group to another one, which has none, and closes the first. -/
def moveGroup (old new : String) (oldView newView : GroupView) (call : RosterCall β) :
    RosterCall β :=
  let groups := (call.roster.groups.erase old).insert new
    { newView with members := oldView.members }
  let moved := { call with roster := { call.roster with groups } }
  ((moved.releaseGroupHandle oldView.channel.handle).report
    (.channelClosed oldView.channel.path)).emit
      (.groupRenamed old new (HandleSet.toList oldView.members))

def renameGroup (surroundings : Surroundings) (old new : String) (call : RosterCall β) :
    RosterCall β :=
  match call.roster.groups.find? old, call.roster.groups.find? new with
  | some oldView, none =>
      match call.ensureGroup surroundings new with
      | (.error _, next) => next
      | (.ok _, next) =>
          match next.roster.groups.find? new with
          | some newView => next.moveGroup old new oldView newView
          | none => next
  | _, _ => call

def groupRenamed (surroundings : Surroundings) (old new : String) (call : RosterCall β) :
    RosterCall β :=
  call.whenReceived fun call =>
    match call.roster.normalizeGroup old, call.roster.normalizeGroup new with
    | some old, some new => call.renameGroup surroundings old new
    | _, _ => call

def groupsChanged (surroundings : Surroundings) (contacts : List Handle)
    (added removed : List String) (call : RosterCall β) : RosterCall β :=
  call.whenReceived fun call =>
    let added := added.filterMap call.roster.normalizeGroup
    let removed := removed.filterMap call.roster.normalizeGroup
    let created := call.announceGroups surroundings added
    let joined := added.foldl
      (fun current name => current.changeGroup name contacts [] false) created
    removed.foldl (fun current name => current.changeGroup name [] contacts false) joined

end ConnectionManager.RosterCall
