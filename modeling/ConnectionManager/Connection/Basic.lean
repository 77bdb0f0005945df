import ConnectionManager.Bus.Names
import ConnectionManager.Channel.Factory

/-!
A connection of one account to a messaging service. Everything that someone outside can notice is
recorded in order: events, replies, calls of factories and of the transport, and the steps that
end a connection. Observers see the events among the record.
-/

namespace ConnectionManager

/-- The part of a connection that reaches the service. It is asked to connect at most once and to
disconnect at most once, so each of its answers is a value. -/
structure Transport where
  /-- The name of the account, if the service has one. -/
  uniqueName : Option String := none
  /-- The local user's identifier, or why the service was not reached; `none` if the attempt never
  ends. -/
  connecting : Option (Outcome String)
  /-- The seconds that it takes to leave the service; `none` if that never ends. -/
  disconnecting : Option Nat := some 0

inductive ConnectionEvent
  | statusChanged (status : ConnectionStatus) (reason : StatusReason)
  | newChannel (channel : Channel) (suppressHandler : Bool)
  | channelClosed (path : ObjectPath)
  | shutdownFinished
deriving DecidableEq

/-- One thing that a connection did. -/
inductive Act
  | announced (event : ConnectionEvent)
  | replied (reply : Nat) (outcome : Outcome ObjectPath)
  | asked (factory : Nat) (token : Token)
  | hooked (factory : Nat) (hook : FactoryHook)
  | called (factory : Nat)
  | transportConnecting
  | transportDisconnecting
  | selfHandleReleased (handle : Handle)
  | repositoriesInvalidated
  | nameReleased (busName : String)

structure Connection (φ : Type) where
  names : BusNames
  protocol : String
  transport : Transport
  interfaces : List String := []
  repositories : Repositories := .standard
  factories : List φ := []
  registered : Bool := false
  status : ConnectionStatus := .new
  reason : StatusReason := .noneSpecified
  selfHandle : Handle := Handle.none
  queue : RequestQueue := {}
  nextToken : Token := 1
  acts : Journal Act := {}
  /-- Whether the connection has shut down completely. -/
  finished : Bool := false

structure ConnectionPlan where
  base : String := BusNames.defaultBase
  manager : String
  protocol : String
  repositories : Repositories := .standard
  interfaces : List String := []

namespace Connection

variable {φ : Type}

/-- Creates a connection under the names that its transport leads to. -/
def build (plan : ConnectionPlan) (transport : Transport) (factories : List φ)
    (context : Context) : Outcome (Connection φ) × Context :=
  let (names, next) :=
    BusNames.forConnection context plan.base plan.manager plan.protocol transport.uniqueName
  (names.map fun names =>
    { names, transport, factories, protocol := plan.protocol,
      interfaces := plan.interfaces, repositories := plan.repositories }, next)

def record (connection : Connection φ) (act : Act) : Connection φ :=
  { connection with acts := connection.acts.emit act }

def announceEvent (connection : Connection φ) (event : ConnectionEvent) : Connection φ :=
  connection.record (.announced event)

def events (connection : Connection φ) : List ConnectionEvent :=
  connection.acts.entries.filterMap fun
    | .announced event => some event
    | _ => none

def replies (connection : Connection φ) : List (Nat × Outcome ObjectPath) :=
  connection.acts.entries.filterMap fun
    | .replied reply outcome => some (reply, outcome)
    | _ => none

def reply (connection : Connection φ) (outcome : Outcome ObjectPath)
    (requests : List PendingRequest) : Connection φ :=
  requests.foldl (fun current request => current.record (.replied request.reply outcome)) connection

def requireConnected (connection : Connection φ) : Outcome Unit :=
  if connection.status = .connected then .ok ()
  else .error ⟨.notAvailable, s!"connection is {connection.status.visible.name}, not connected"⟩

def getSelfHandle (connection : Connection φ) : Outcome Handle := do
  connection.requireConnected
  .ok connection.selfHandle

def getProtocol (connection : Connection φ) : Outcome String := do
  connection.requireConnected
  .ok connection.protocol

def getInterfaces (connection : Connection φ) : Outcome (List String) := do
  connection.requireConnected
  .ok connection.interfaces

def insertInterfaces (interfaces added : List String) : List String :=
  added.foldl (fun current name => if current.contains name then current else current ++ [name])
    interfaces

/-- Interfaces can be added until the connection is up. -/
def addInterfaces (connection : Connection φ) (added : List String) :
    Outcome (Connection φ) :=
  if connection.status = .new || connection.status = .connecting then
    .ok { connection with interfaces := insertInterfaces connection.interfaces added }
  else .error
    ⟨.notAvailable, "interfaces can only be added before the connection is connected"⟩

def register (connection : Connection φ) (context : Context) :
    Outcome (Connection φ) × Context :=
  if connection.status = .disconnected then
    (.error ⟨.disconnected, "cannot register a disconnected connection"⟩, context)
  else if connection.registered then
    (.error ⟨.notAvailable, s!"{connection.names.busName} is already registered"⟩, context)
  else
    let (outcome, next) := connection.names.claim context
    (outcome.map fun _ => { connection with registered := true }, next)

/-- What becomes of the bus when a connection is gone: a claimed name is given back. -/
def discard (connection : Connection φ) (context : Context) : Context :=
  if connection.registered then connection.names.release context else context

def description (connection : Connection φ) : String :=
  "Connection \x7b bus_name: " ++ Text.quoted connection.names.busName
    ++ ", status: " ++ connection.status.title
    ++ ", self_handle: Handle(" ++ toString connection.selfHandle
    ++ "), factories: " ++ toString connection.factories.length
    ++ ", queued: " ++ toString connection.queue.size ++ ", .. \x7d"

end Connection

end ConnectionManager
