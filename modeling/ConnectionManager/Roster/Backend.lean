import ConnectionManager.Failure
import ConnectionManager.Handle.Basic

/-!
What a roster is presented from. A backend knows the contacts and their states, and offers as much
writing, blocking and grouping as its service can do.
-/

namespace ConnectionManager

/-- Presence subscription in one direction. -/
inductive SubscriptionState
  | no
  | ask
  | yes
deriving DecidableEq, Repr

structure ContactStates where
  /-- Do we receive their presence? -/
  subscribe : SubscriptionState := .no
  /-- Do they receive ours? -/
  publish : SubscriptionState := .no
  /-- The message that came with their request. -/
  publishRequest : String := ""
deriving DecidableEq, Repr

/-- Reading of blocked contacts. Blocking can be switched off while it is offered. -/
structure BlockingSource where
  canBlock : Bool
  blocked : List Handle

/-- Reading of groups. -/
structure GroupSource where
  names : List String
  ofContact : Handle → List String
  /-- Whether each contact is in at most one group. -/
  disjoint : Bool
  /-- The canonical form of a group name; `none` if the name cannot be used. -/
  normalize : String → Option String

/-- The groups of a service take every name but the empty one as it is. -/
def plainGroupName (name : String) : Option String := if name = "" then none else some name

/-- A change that a client asks for. -/
inductive RosterWrite
  | requestSubscription (contacts : List Handle) (message : String)
  | authorizePublication (contacts : List Handle)
  | storeContacts (contacts : List Handle)
  | removeContacts (contacts : List Handle)
  | unsubscribe (contacts : List Handle)
  | unpublish (contacts : List Handle)
  | blockContacts (contacts : List Handle)
  | unblockContacts (contacts : List Handle)
  | createGroups (names : List String)
  | addToGroup (group : String) (contacts : List Handle)
  | removeFromGroup (group : String) (contacts : List Handle)
  | setGroupMembers (group : String) (contacts : List Handle)
  | removeGroup (group : String)
  | renameGroup (old new : String)
deriving DecidableEq, Repr

class RosterBackend (β : Type) where
  contacts : β → List Handle
  states : β → Handle → Option ContactStates
  canChangeSubscriptions : β → Bool
  /-- Whether requests for subscription carry a message. -/
  usesMessage : β → Bool
  /-- Whether the service stores the roster. -/
  persists : β → Bool
  /-- Whether contacts can be written. -/
  isMutable : β → Bool
  blocking : β → Option BlockingSource
  /-- Whether blocking can be written, and if so whether it is switched on. -/
  blockingEditor : β → Option Bool
  groups : β → Option GroupSource
  /-- Whether groups can be written. -/
  groupsEditable : β → Bool
  write : β → RosterWrite → β × Outcome Unit

end ConnectionManager
