import ConnectionManager.Config.Basic
import ConnectionManager.Connection.Handles
import ConnectionManager.Connection.Lifecycle
import ConnectionManager.Manifest.Writer
import ConnectionManager.Protocol.Validation

/-!
A connection manager: the protocols that it serves and the connections made through it. Every
connection has a watcher that sends the bus name of its connection once, at some time after the
connection has ended; the manager takes what was sent out of its mailbox when it looks, and forgets
the connection that it finds under the name. A connection that it forgets is gone, and a name that
it still claims is given back, unless someone else keeps the connection too.
-/

namespace ConnectionManager

structure Account (φ : Type) where
  /-- The base of its names, if it is not the manager's. -/
  base : Option String := none
  transport : Transport
  factories : List φ := []
  repositories : Repositories := .standard
  interfaces : List String := []

/-- A protocol that a manager can make connections for. The parameters were checked and have their
defaults filled in. -/
structure ProtocolPlugin (φ : Type) where
  descriptor : Descriptor
  account : Dictionary → Outcome (Account φ)

inductive ManagerEvent
  | newConnection (names : BusNames) (protocol : String)
  | noMoreConnections
deriving DecidableEq

/-- One thing that a manager did. -/
inductive ManagerAct
  | announced (event : ManagerEvent)
  | consulted (protocol : String) (parameters : Dictionary)

/-- Waits for the end of one connection. -/
structure Watcher where
  busName : String
  /-- The place of the connection among all that were made. -/
  place : Nat
deriving DecidableEq

structure ManagedConnection (φ : Type) where
  connection : Connection φ
  /-- Whether the manager has forgotten it. -/
  forgotten : Bool := false
  /-- Whether someone else keeps it too. -/
  shared : Bool := false

namespace ManagedConnection

variable {φ : Type}

def isGone (managed : ManagedConnection φ) : Bool := managed.forgotten && !managed.shared

/-- Whether a watcher has nothing more to wait for. -/
def hasEnded (managed : ManagedConnection φ) : Bool :=
  managed.isGone || managed.connection.finished

def update (change : Connection φ → Connection φ) (managed : ManagedConnection φ) :
    ManagedConnection φ :=
  { managed with connection := change managed.connection }

/-- A connection that nobody keeps gives its bus name back. -/
def releaseIfGone (managed : ManagedConnection φ) (context : Context) : ManagedConnection φ × Context :=
  if managed.isGone then
    let (connection, next) := managed.connection.releaseName context
    ({ managed with connection }, next)
  else (managed, context)

def forget (managed : ManagedConnection φ) (context : Context) : ManagedConnection φ × Context :=
  { managed with forgotten := true }.releaseIfGone context

/-- Whoever else kept the connection lets go of it. -/
def unshare (managed : ManagedConnection φ) (context : Context) : ManagedConnection φ × Context :=
  { managed with shared := false }.releaseIfGone context

end ManagedConnection

structure Manager (φ : Type) where
  config : ManagerConfig
  protocols : Catalog String (ProtocolPlugin φ) := .empty
  /-- Every connection that was ever made. -/
  made : List (ManagedConnection φ) := []
  /-- The connections that the manager knows, by bus name. -/
  connections : Catalog String Nat := .empty
  watchers : List Watcher := []
  /-- Bus names that watchers sent and that were not looked at yet. -/
  mailbox : List String := []
  /-- The names that the manager claimed. -/
  names : Option BusNames := none
  acts : Journal ManagerAct := {}

namespace Manager

variable {φ : Type}

structure Call (φ α : Type) where
  answer : α
  manager : Manager φ
  context : Context

def record (manager : Manager φ) (act : ManagerAct) : Manager φ :=
  { manager with acts := manager.acts.emit act }

def announceEvent (manager : Manager φ) (event : ManagerEvent) : Manager φ :=
  manager.record (.announced event)

def events (manager : Manager φ) : List ManagerEvent :=
  manager.acts.entries.filterMap fun
    | .announced event => some event
    | .consulted .. => none

def consultations (manager : Manager φ) : List Dictionary :=
  manager.acts.entries.filterMap fun
    | .consulted _ parameters => some parameters
    | .announced _ => none

/-- Adds a protocol; a later plugin for the same protocol replaces an earlier one. -/
def addProtocol (manager : Manager φ) (plugin : ProtocolPlugin φ) : Manager φ :=
  { manager with protocols := manager.protocols.insert plugin.descriptor.name plugin }

def listProtocols (manager : Manager φ) : List String := manager.protocols.keys

def plugin (manager : Manager φ) (protocol : String) : Outcome (ProtocolPlugin φ) :=
  match manager.protocols.find? protocol with
  | some plugin => .ok plugin
  | none => .error ⟨.notImplemented, "unknown protocol " ++ Text.quoted protocol⟩

def protocol (manager : Manager φ) (name : String) : Outcome Descriptor := do
  .ok (← manager.plugin name).descriptor

def parameters (manager : Manager φ) (name : String) : Outcome (List Parameter) := do
  .ok (← manager.protocol name).parameters

def ownNames (manager : Manager φ) : Outcome BusNames :=
  BusNames.ofManager manager.config.busBase manager.config.name

/-- Claims the bus name of the manager, unless it has claimed it already. -/
def register (manager : Manager φ) (context : Context) : Call φ (Outcome BusNames) :=
  match manager.names with
  | some names => ⟨.ok names, manager, context⟩
  | none =>
      match manager.ownNames with
      | .error failure => ⟨.error failure, manager, context⟩
      | .ok names =>
          match names.claim context with
          | (.error failure, next) => ⟨.error failure, manager, next⟩
          | (.ok (), next) => ⟨.ok names, { manager with names := some names }, next⟩

def changeAt (manager : Manager φ) (context : Context) (place : Nat)
    (change : ManagedConnection φ → Context → ManagedConnection φ × Context) :
    Manager φ × Context :=
  match manager.made[place]? with
  | none => (manager, context)
  | some managed =>
      let (changed, next) := change managed context
      ({ manager with made := manager.made.set place changed }, next)

def letGo (manager : Manager φ) (context : Context) (place : Nat) : Manager φ × Context :=
  manager.changeAt context place ManagedConnection.forget

def reap (manager : Manager φ) (context : Context) (busName : String) : Manager φ × Context :=
  match manager.connections.find? busName with
  | none => (manager, context)
  | some place =>
      let connections := manager.connections.erase busName
      let (reaped, next) := ({ manager with connections }).letGo context place
      (if connections.isEmpty then reaped.announceEvent .noMoreConnections else reaped, next)

def poll (manager : Manager φ) (context : Context) : Manager φ × Context :=
  manager.mailbox.foldl (fun (current, bus) busName => current.reap bus busName)
    ({ manager with mailbox := [] }, context)

def hasEnded (manager : Manager φ) (place : Nat) : Bool :=
  match manager.made[place]? with
  | some managed => managed.hasEnded
  | none => false

def deliver (manager : Manager φ) (index : Nat) : Manager φ :=
  match manager.watchers[index]? with
  | none => manager
  | some watcher =>
      if manager.hasEnded watcher.place then
        { manager with
          watchers := manager.watchers.eraseIdx index
          mailbox := manager.mailbox ++ [watcher.busName] }
      else manager

def deliverAll (manager : Manager φ) : Manager φ :=
  let (ended, waiting) := manager.watchers.partition fun watcher => manager.hasEnded watcher.place
  { manager with
    watchers := waiting
    mailbox := manager.mailbox ++ ended.map Watcher.busName }

/-- Forgets every connection that has ended. The second look is for the watchers of connections
that were let go at the first. -/
def settle (manager : Manager φ) (context : Context) : Manager φ × Context :=
  let (looked, next) := manager.deliverAll.poll context
  looked.deliverAll.poll next

def connection? (manager : Manager φ) (busName : String) : Option (Connection φ) := do
  some (← manager.made[← manager.connections.find? busName]?).connection

def share (manager : Manager φ) (busName : String) : Manager φ :=
  match manager.connections.find? busName with
  | none => manager
  | some place =>
      { manager with
        made := manager.made.modify place fun managed => { managed with shared := true } }

def unshare (manager : Manager φ) (context : Context) (place : Nat) : Manager φ × Context :=
  manager.changeAt context place ManagedConnection.unshare

/-- Takes a registered connection over and announces it. It replaces the one that the manager may
still know under its name. -/
def adopt (manager : Manager φ) (connection : Connection φ) (protocol : String)
    (context : Context) : Manager φ × Context :=
  let place := manager.made.length
  let busName := connection.names.busName
  let adopted : Manager φ := { manager with
    made := manager.made ++ [{ connection }]
    watchers := manager.watchers ++ [⟨busName, place⟩]
    connections := manager.connections.insert busName place }
  let (alone, next) := match manager.connections.find? busName with
    | some replaced => adopted.letGo context replaced
    | none => (adopted, context)
  (alone.announceEvent (.newConnection connection.names protocol), next)

def plan (manager : Manager φ) (protocol : String) (account : Account φ) : ConnectionPlan where
  base := account.base.getD manager.config.busBase
  manager := manager.config.name
  protocol := protocol
  repositories := account.repositories
  interfaces := account.interfaces

def openConnection (manager : Manager φ) (plugin : ProtocolPlugin φ) (protocol : String)
    (parameters : Dictionary) (context : Context) : Call φ (Outcome BusNames) :=
  match plugin.account parameters with
  | .error failure => ⟨.error failure, manager, context⟩
  | .ok account =>
      match Connection.build (manager.plan protocol account) account.transport account.factories
          context with
      | (.error failure, next) => ⟨.error failure, manager, next⟩
      | (.ok connection, next) =>
          match connection.register next with
          | (.error failure, last) => ⟨.error failure, manager, last⟩
          | (.ok registered, last) =>
              let (adopted, bus) := manager.adopt registered protocol last
              ⟨.ok registered.names, adopted, bus⟩

def requestConnection (manager : Manager φ) (protocol : String) (supplied : Dictionary)
    (context : Context) : Call φ (Outcome BusNames) :=
  let (polled, next) := manager.poll context
  match polled.plugin protocol with
  | .error failure => ⟨.error failure, polled, next⟩
  | .ok plugin =>
      match Parameter.validate plugin.descriptor.parameters supplied with
      | .error failure => ⟨.error failure, polled, next⟩
      | .ok parameters =>
          (polled.record (.consulted protocol parameters)).openConnection plugin protocol parameters
            next

/-- What driving a connection led to. There is no result if the transport never came back. -/
structure Drive (φ α : Type) where
  result : Option α
  /-- How long it took. -/
  seconds : Nat
  manager : Manager φ
  context : Context

/-- Drives one connection; `none` if the manager knows none under the name. -/
def drive {α : Type} (manager : Manager φ) (busName : String) (context : Context)
    (call : Connection φ → Context → Connection.Run φ α) : Option (Drive φ α) := do
  let place ← manager.connections.find? busName
  let managed ← manager.made[place]?
  let run := call managed.connection context
  some ⟨run.result, managed.connection.secondsBetween run.connection,
    { manager with made := manager.made.set place { managed with connection := run.connection } },
    run.context⟩

def clientVanished (manager : Manager φ) (client : String) : Manager φ :=
  { manager with
    made := manager.connections.values.foldl
      (fun made place => made.modify place (.update fun connection => connection.clientVanished client))
      manager.made }

def toManifest (manager : Manager φ) : Outcome Manifest := do
  let names ← manager.ownNames
  let described := (Manifest.empty.addManagerEntry "BusName" names.busName).addManagerEntry
    "ObjectPath" names.objectPath.text
  .ok (manager.protocols.values.foldl
    (fun manifest plugin => manifest.addProtocol plugin.descriptor) described)

def isDescribed (installed : Manifest) (plugin : ProtocolPlugin φ) : Bool :=
  match installed.protocol? plugin.descriptor.name with
  | some descriptor => descriptor.same plugin.descriptor
  | none => false

/-- How many protocols an installed manifest lacks, describes differently or has in excess. -/
def differences (manager : Manager φ) (installed : Manifest) : Nat :=
  (manager.protocols.values.countP fun plugin => !isDescribed installed plugin)
    + installed.descriptors.countP fun descriptor => !manager.protocols.contains descriptor.name

def checkManifest (manager : Manager φ) (files : FileTree) (environment : Environment) :
    Except ManifestError (Option Nat) :=
  match Manifest.findIn? files manager.config.name (manager.config.manifestSearch environment) with
  | none => .ok none
  | some path =>
      match Manifest.load files path with
      | .error error => .error error
      | .ok installed => .ok (some (manager.differences installed))

def releaseName (manager : Manager φ) (context : Context) : Call φ Unit :=
  match manager.names with
  | some names => ⟨(), { manager with names := none }, names.release context⟩
  | none => ⟨(), manager, context⟩

/-- What becomes of the bus when the manager and its connections are gone. -/
def discard (manager : Manager φ) (context : Context) : Context :=
  manager.made.foldl (fun current managed => managed.connection.discard current)
    (manager.releaseName context).context

end Manager

end ConnectionManager
