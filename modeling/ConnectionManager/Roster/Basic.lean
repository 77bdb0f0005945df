import ConnectionManager.Channel.Factory
import ConnectionManager.Journal
import ConnectionManager.Roster.Backend
import ConnectionManager.Roster.View

/-!
A roster as clients see it: up to four list views and a view for every group. Nothing is announced
until the whole roster is there; requests made before that wait. Changes are announced in batches,
one for each view that changed.
-/

namespace ConnectionManager

def contactListType : String := "org.freedesktop.Telepathy.Channel.Type.ContactList"

inductive RosterView
  | list (name : ListName)
  | group (name : String)
deriving DecidableEq, Repr

structure MembershipChange where
  view : RosterView
  added : List Handle := []
  removed : List Handle := []
  /-- Contacts that wait for our answer, with the message of their request. -/
  localPending : List (Handle × String) := []
  /-- Contacts that we wait for. -/
  remotePending : List Handle := []
  message : String := ""
  actor : Handle := Handle.none
deriving DecidableEq, Repr

namespace MembershipChange

def isEmpty (change : MembershipChange) : Bool :=
  change.added.isEmpty && change.removed.isEmpty && change.localPending.isEmpty
    && change.remotePending.isEmpty

def sortHandles (handles : List Handle) : List Handle :=
  handles.mergeSort fun left right => left ≤ right

/-- By handle, and by message where the handles are equal. -/
def pendingBefore (left right : Handle × String) : Bool :=
  left.1 < right.1 || (left.1 == right.1 && left.2 ≤ right.2)

def sort (change : MembershipChange) : MembershipChange :=
  { change with
    added := sortHandles change.added
    removed := sortHandles change.removed
    localPending := change.localPending.mergeSort pendingBefore
    remotePending := sortHandles change.remotePending }

end MembershipChange

inductive RosterEvent
  | membersChanged (change : MembershipChange)
  | groupsCreated (names : List String)
  | groupsRemoved (names : List String)
  /-- Every member left the old group and joined the new one in one step. -/
  | groupRenamed (old new : String) (members : List Handle)
deriving DecidableEq, Repr

inductive RosterPhase
  | waiting
  | received
  | gone
deriving DecidableEq, Repr

structure Roster (β : Type) where
  backend : β
  phase : RosterPhase := .waiting
  lists : Catalog ListName ListView := .empty
  groups : Catalog String GroupView := .empty
  queued : List (Token × ChannelRequest) := []
  events : Journal RosterEvent := {}

/-- What is left of a roster when its connection has ended. -/
def Roster.gone : Failure := ⟨.disconnected, "contact list is gone"⟩

/-- A roster in the middle of a call, with the repositories and the reports so far. -/
structure RosterCall (β : Type) where
  roster : Roster β
  repositories : Repositories
  reports : List Report := []

namespace RosterCall

variable {β : Type}

def report (call : RosterCall β) (report : Report) : RosterCall β :=
  { call with reports := call.reports ++ [report] }

def emit (call : RosterCall β) (event : RosterEvent) : RosterCall β :=
  { call with roster := { call.roster with events := call.roster.events.emit event } }

/-- Announces a change. An empty one is announced only as part of the first batch. -/
def emitChange (call : RosterCall β) (change : MembershipChange) (always : Bool) : RosterCall β :=
  if call.roster.phase ≠ .received || (!always && change.isEmpty) then call
  else call.emit (.membersChanged change.sort)

def withContacts (call : RosterCall β) (contacts : Repository) : RosterCall β :=
  { call with repositories := { call.repositories with contacts } }

end RosterCall

namespace Roster

variable {β : Type}

def isReceived (roster : Roster β) : Bool := roster.phase = .received

def listMembers (roster : Roster β) (list : ListName) : List Handle :=
  match roster.lists.find? list with
  | some view => HandleSet.toList view.members
  | none => []

def groupMembers (roster : Roster β) (group : String) : List Handle :=
  match roster.groups.find? group with
  | some view => HandleSet.toList view.members
  | none => []

def groupNames (roster : Roster β) : List String := roster.groups.keys

def channels (roster : Roster β) : List Channel :=
  roster.lists.values.map ListView.channel ++ roster.groups.values.map GroupView.channel

variable [RosterBackend β]

def disjointGroups (roster : Roster β) : Bool :=
  match RosterBackend.groups roster.backend with
  | some source => source.disjoint
  | none => false

def canBlock (roster : Roster β) : Bool :=
  match RosterBackend.blocking roster.backend with
  | some source => source.canBlock
  | none => false

def blocked (roster : Roster β) : List Handle :=
  match RosterBackend.blocking roster.backend with
  | some source => source.blocked
  | none => []

def hasView (roster : Roster β) : ListName → Bool
  | .subscribe | .publish => true
  | .stored => RosterBackend.persists roster.backend
  | .deny => roster.canBlock

def normalizeGroup (roster : Roster β) (name : String) : Option String :=
  match RosterBackend.groups roster.backend with
  | some source => source.normalize name
  | none => plainGroupName name

end Roster

end ConnectionManager
