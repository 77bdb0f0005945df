import ConnectionManager.Datum.Protocols
import ConnectionManager.Datum.Rosters
import ConnectionManager.Rehearsal.Identifiers
import ConnectionManager.Rehearsal.Script
import ConnectionManager.Rehearsal.Session

/-!
Rehearsals as data: how repositories, transports, factories and plugins are to behave, what a
script says, and what was noticed.
-/

namespace ConnectionManager

open Rehearsal

namespace Datum

def toNormalizer (data : Datum) : String → Outcome String :=
  match data.string with
  | "address" => addressIdentifier
  | "room" => roomIdentifier
  | "reject" => noIdentifier
  | _ => DynamicRepository.plainIdentifier

def toRepository (data : Datum) : Repository :=
  let kind := data.kindAt "kind"
  if data.booleanAt "lists" then .fixed .lists
  else match data.given? "names" with
    | some names => .fixed { kind, names := names.items.map string }
    | none =>
        let repository : DynamicRepository :=
          { kind, normalize := (data.field "normalizer").toNormalizer }
        match data.naturalAt? "fail_hold" with
        | some handle => .guarded repository handle
        | none => .dynamic repository

/-- Repositories by a list of which the first is for contacts; the usual ones without a list. -/
def toRepositories (data : Datum) : Repositories :=
  match data.items with
  | [] => .standard
  | first :: rest => rest.foldl (fun repositories other => repositories.add other.toRepository)
      ⟨first.toRepository, .empty⟩

def toSketch (data : Datum) : ChannelSketch where
  place := match data.given? "elements" with
    | some elements => .elements (elements.items.map string)
    | none => .path (data.stringAt "path")
  channelType := data.stringAt? "type"
  kind := data.kindAt? "kind"
  handle := data.naturalAt? "handle"

def toSketchToken : Datum → SketchToken
  | .number whole => .number whole.toNat
  | .text _ => .current
  | _ => .absent

def toStep (data : Datum) : Step :=
  let token := (data.field "token").toSketchToken
  if let some channel := data.given? "new" then .newChannel channel.toSketch token
  else if let some channel := data.given? "error" then
    .channelError channel.toSketch (data.field "err").toFailure token
  else if let some path := data.stringAt? "closed" then .closed path
  else match data.itemsAt "intern" with
    | [kind, id] => .intern ((HandleKind.ofName? kind.string).getD .none) id.string
    | _ => .peek

def stepsAt (data : Datum) (key : String) : List Step := (data.itemsAt key).map toStep

def toRuleAnswer (data : Datum) : RuleAnswer :=
  match data.string with
  | "not_implemented" => .notImplemented
  | "not_available" => .notAvailable
  | "invalid_handle" => .invalidHandle
  | "existing" => .existing
  | "created" => .created
  | "queued" => .queued
  | "open" => .openOrCreated
  | _ => .failed data.toFailure

def toRule (data : Datum) : Rule where
  channelType := data.stringAt? "type"
  kind := data.kindAt? "kind"
  handle := data.naturalAt? "handle"
  before := data.stepsAt "before"
  answer := (data.field "answer").toRuleAnswer
  channel := (data.field "channel").toSketch

def accessAt (data : Datum) (key : String) (default : Access) : Access :=
  match data.stringAt key with
  | "none" => .none
  | "read" => .read
  | "write" => .write
  | _ => default

def applySettings (data : Datum) (backend : StandInBackend) : StandInBackend :=
  let truthAt (key : String) (default : Bool) : Bool := ((data.given? key).map boolean).getD default
  { backend with
    canChange := truthAt "can_change" backend.canChange
    usesMessage := truthAt "uses_message" backend.usesMessage
    persists := truthAt "persist" backend.persists
    isMutable := truthAt "mutable" backend.isMutable
    blocking := data.accessAt "blockable" backend.blocking
    grouping := data.accessAt "groups" backend.grouping
    canBlock := truthAt "can_block" backend.canBlock
    disjoint := truthAt "disjoint" backend.disjoint
    writeFailure := (data.failureAt? "write_error").or backend.writeFailure }

def toStandIn (data : Datum) : StandIn :=
  match data.stringAt "factory" with
  | "rules" => .rules
      { rules := (data.itemsAt "rules").map toRule
        connecting := data.stepsAt "connecting"
        connected := data.stepsAt "connected"
        disconnected := data.stepsAt "disconnected"
        closing := data.stepsAt "close_all" }
  | "roster" => .roster { backend := data.applySettings { custom := data.booleanAt "custom" } }
  | "minimal_roster" => .roster { backend := .minimal }
  | _ => .inert

def secondsToLeave? (data : Datum) : Option Nat :=
  if data.booleanAt "disconnect_hangs" then none else some (data.naturalAt "disconnect_secs")

def toTransport (data : Datum) : Transport where
  uniqueName := data.stringAt? "unique"
  connecting :=
    if data.booleanAt "connect_hangs" then none
    else match data.failureAt? "connect_error" with
      | some failure => some (.error failure)
      | none => some (.ok ((data.stringAt? "self_id").getD "me"))
  disconnecting := data.secondsToLeave?

def toPlan (data : Datum) : ConnectionPlan where
  base := (data.stringAt? "base").getD BusNames.defaultBase
  manager := (data.stringAt? "manager").getD "cm"
  protocol := (data.stringAt? "protocol").getD "test"
  repositories := (data.field "repos").toRepositories
  interfaces := data.stringsAt "interfaces"

def edit? (data : Datum) (name : String) : Option (StandInBackend → StandInBackend) :=
  let contacts := data.naturalsAt "contacts"
  match name with
  | "set" => some fun backend =>
      contacts.foldl (StandInBackend.setStates data.toContactStates) backend
  | "forget" => some fun backend => backend.forget contacts
  | "set_blocked" => some fun backend => { backend with blocked := contacts }
  | "set_group" => some fun backend => backend.setGroup (data.stringAt "group") contacts
  | "hide_group" => some fun backend => backend.hideGroup (data.stringAt "group")
  | "configure" => some fun backend => backend.configure data.applySettings
  | _ => none

def toPluginSketch (data : Datum) : Outcome PluginSketch := do
  .ok { descriptor := ← (data.field "descriptor").toDescriptor
        refusal := data.failureAt? "new_error"
        connectFailure := data.failureAt? "connect_error"
        disconnecting := data.secondsToLeave? }

def toScriptLine (data : Datum) : ScriptLine where
  second := data.naturalAt "at"
  cue := match data.stringAt "do" with
    | "shutdown" => .shutdown
    | "reload" => .reload
    | "client" => .clientVisit
    | "bus_disconnect" => .clientLeaves (data.stringAt "client")
    | _ => .disconnect (data.stringAt "name")

end Datum

instance : ToDatum FactoryHook where
  datum
    | .connecting => .text "connecting"
    | .connected => .text "connected"
    | .disconnected => .text "disconnected"
    | .closeAll => .text "close_all"

instance : ToDatum LogLine where
  datum
    | .transportConnecting => .text "transport connect"
    | .transportDisconnecting => .text "transport disconnect"
    | .remark factory (.hooked hook) => .list [datum factory, datum hook]
    | .remark factory (.interned outcome) => .list [datum factory, .text "intern", datum outcome]
    | .remark factory (.seen selfHandle status path hasRooms) =>
        .list [datum factory, .text "peek", datum selfHandle, datum status.name, datum path,
          datum hasRooms]

instance : ToDatum Ending where
  datum
    | .finished => .text "finished"
    | .abandoned => .text "timeout"

instance : ToDatum ManagerEvent where
  datum
    | .newConnection names protocol =>
        .list [.text "new", datum names.busName, datum names.objectPath, datum protocol]
    | .noMoreConnections => .list [.text "none_left"]

namespace Datum

def newsFields (news : News) : List (String × Datum) :=
  unlessEmpty "ev" news.events ++ unlessEmpty "replies" news.replies
    ++ unlessEmpty "roster" news.rosterEvents ++ unlessEmpty "writes" news.writes
    ++ unlessEmpty "log" news.log

def stateOf {φ : Type} (connection : Connection φ) : Datum :=
  .list [datum connection.status.visible.name, datum connection.status.name,
    datum connection.reason.number, datum connection.queue.size, datum connection.registered,
    datum connection.finished]

end Datum

end ConnectionManager
