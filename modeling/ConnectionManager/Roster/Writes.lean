import ConnectionManager.Roster.Basic

/-!
Writes of clients. They go to the backend as far as it can do them; what it cannot do succeeds
without effect, so that clients need not tell services apart. Group names are normalized before
the backend sees them. After the end of the connection every write fails.
-/

namespace ConnectionManager

def unusableGroup (name : String) : Failure :=
  ⟨.invalidArgument, Text.quoted name ++ " is not a usable group name"⟩

namespace Roster

variable {β : Type} [RosterBackend β]

/-- The canonical form of a group name that a client gave. -/
def usableGroup (roster : Roster β) (name : String) : Outcome String :=
  match roster.normalizeGroup name with
  | some normal => .ok normal
  | none => .error (unusableGroup name)

def prepareWrite (roster : Roster β) : RosterWrite → Outcome RosterWrite
  | .requestSubscription contacts message =>
      .ok (.requestSubscription contacts
        (if RosterBackend.usesMessage roster.backend then message else ""))
  | .createGroups names => do .ok (.createGroups (← names.mapM roster.usableGroup))
  | .addToGroup group contacts => do .ok (.addToGroup (← roster.usableGroup group) contacts)
  | .removeFromGroup group contacts => do .ok (.removeFromGroup (← roster.usableGroup group) contacts)
  | .setGroupMembers group contacts => do .ok (.setGroupMembers (← roster.usableGroup group) contacts)
  | .removeGroup group => do .ok (.removeGroup (← roster.usableGroup group))
  | .renameGroup old new => do
      let old ← roster.usableGroup old
      .ok (.renameGroup old (← roster.usableGroup new))
  | other => .ok other

def canWrite (roster : Roster β) : RosterWrite → Bool
  | .requestSubscription .. | .authorizePublication _ | .unsubscribe _ | .unpublish _ =>
      RosterBackend.canChangeSubscriptions roster.backend && RosterBackend.isMutable roster.backend
  | .storeContacts _ | .removeContacts _ => RosterBackend.isMutable roster.backend
  | .blockContacts _ | .unblockContacts _ => RosterBackend.blockingEditor roster.backend = some true
  | .createGroups _ | .addToGroup .. | .removeFromGroup .. | .setGroupMembers .. | .removeGroup _
  | .renameGroup .. => RosterBackend.groupsEditable roster.backend

def write (roster : Roster β) (write : RosterWrite) : Outcome Unit × Roster β :=
  if roster.phase = .gone then (.error gone, roster)
  else match roster.prepareWrite write with
    | .error failure => (.error failure, roster)
    | .ok prepared =>
        if roster.canWrite prepared then
          let (backend, outcome) := RosterBackend.write roster.backend prepared
          (outcome, { roster with backend })
        else (.ok (), roster)

end Roster

end ConnectionManager
