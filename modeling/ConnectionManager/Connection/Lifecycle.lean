import ConnectionManager.Connection.Channels

/-!
The life of a connection: new, connecting, connected, disconnected. Entering the last state runs
the shutdown once, in a fixed order: the status is announced, queued requests fail, the factories
are told and then asked to close their channels, the service is left, the self handle is given
back, the repositories end, the bus name is released, and the end is announced. A connection that
was never asked to connect has told nobody and skips the factories and the service.

The shutdown has two parts, because leaving the service takes time and may never end.
-/

namespace ConnectionManager.Connection

variable {φ : Type}

/-- What a connection and the bus are after a call. There is no result if the transport never
came back and the caller gave up on it. -/
structure Run (φ α : Type) where
  result : Option α
  connection : Connection φ
  context : Context

/-- The seconds that it would take to disconnect now; `none` if it would never end. -/
def timeToLeave? (connection : Connection φ) : Option Nat :=
  match connection.status with
  | .new | .disconnected => some 0
  | .connecting | .connected => connection.transport.disconnecting

def hasLeft (connection : Connection φ) : Bool :=
  connection.acts.entries.any fun
    | .transportDisconnecting => true
    | _ => false

/-- The seconds between two states of a connection. Leaving the service is all that takes time. -/
def secondsBetween (before after : Connection φ) : Nat :=
  if !before.hasLeft && after.hasLeft then after.transport.disconnecting.getD 0 else 0

def hookOf? : ConnectionStatus → Option FactoryHook
  | .connecting => some .connecting
  | .connected => some .connected
  | .disconnected | .new => none

variable [ChannelFactory φ]

def changeStatus (connection : Connection φ) (status : ConnectionStatus) (reason : StatusReason) :
    Connection φ :=
  let changed := ({ connection with status, reason }).announceEvent
    (.statusChanged status.visible reason)
  match hookOf? status with
  | some hook => changed.hookAll hook
  | none => changed

def cancelled : Failure := ⟨.disconnected, "connection was disconnected"⟩

def cancelQueued (connection : Connection φ) : Connection φ :=
  let (requests, queue) := connection.queue.takeAll
  ({ connection with queue }).reply (.error cancelled) requests

/-- The shutdown up to the moment at which the transport is asked to leave. -/
def beginShutdown (connection : Connection φ) (reason : StatusReason) : Connection φ :=
  let cancelled := (({ connection with status := .disconnected, reason }).announceEvent
    (.statusChanged .disconnected reason)).cancelQueued
  if connection.status = .new then cancelled
  else ((cancelled.hookAll .disconnected).hookAll .closeAll).record .transportDisconnecting

def releaseSelf (connection : Connection φ) : Connection φ :=
  if Handle.isNone connection.selfHandle then connection
  else
    let contacts := connection.repositories.contacts
    ({ connection with
      repositories := { connection.repositories with
        contacts := contacts.orUnchanged (contacts.dropReference connection.selfHandle) }
      selfHandle := Handle.none }).record (.selfHandleReleased connection.selfHandle)

def invalidateRepositories (connection : Connection φ) : Connection φ :=
  ({ connection with repositories := connection.repositories.invalidateAll }).record
    .repositoriesInvalidated

def releaseName (connection : Connection φ) (context : Context) : Connection φ × Context :=
  if connection.registered then
    (({ connection with registered := false }).record (.nameReleased connection.names.busName),
      connection.names.release context)
  else (connection, context)

def endShutdown (connection : Connection φ) (context : Context) : Connection φ × Context :=
  let (released, next) := connection.releaseSelf.invalidateRepositories.releaseName context
  (({ released with finished := true }).announceEvent .shutdownFinished, next)

def waitsForTransport (connection : Connection φ) : Bool := connection.status ≠ .new

/-- Shuts down; does nothing the second time. -/
def shutdown (connection : Connection φ) (context : Context) (reason : StatusReason) :
    Run φ Unit :=
  if connection.status = .disconnected then ⟨some (), connection, context⟩
  else
    let begun := connection.beginShutdown reason
    if connection.waitsForTransport && connection.transport.disconnecting.isNone then
      ⟨none, begun, context⟩
    else
      let (ended, next) := begun.endShutdown context
      ⟨some (), ended, next⟩

def abandon (connection : Connection φ) (context : Context) (reason : StatusReason)
    (failure : Failure) : Run φ (Outcome Unit) :=
  let run := connection.shutdown context reason
  ⟨run.result.map fun _ => .error failure, run.connection, run.context⟩

def establish (connection : Connection φ) (context : Context) (selfId : String) :
    Run φ (Outcome Unit) :=
  match connection.repositories.contacts.intern selfId with
  | .error failure => connection.abandon context .noneSpecified failure
  | .ok (handle, contacts) =>
      let known := { connection with
        repositories := { connection.repositories with contacts }
        selfHandle := handle }
      ⟨some (.ok ()), known.changeStatus .connected .requested, context⟩

/-- Connects a new connection. Asking again does nothing until it is disconnected. -/
def connect (connection : Connection φ) (context : Context) : Run φ (Outcome Unit) :=
  match connection.status with
  | .connecting | .connected => ⟨some (.ok ()), connection, context⟩
  | .disconnected =>
      ⟨some (.error ⟨.disconnected, "connection has already been disconnected"⟩), connection,
        context⟩
  | .new =>
      let asked := (connection.changeStatus .connecting .requested).record .transportConnecting
      match connection.transport.connecting with
      | none => ⟨none, asked, context⟩
      | some (.error failure) => asked.abandon context failure.statusReason failure
      | some (.ok selfId) => asked.establish context selfId

def disconnect (connection : Connection φ) (context : Context) : Run φ Unit :=
  connection.shutdown context .requested

def lose (connection : Connection φ) (context : Context) (failure : Failure) : Run φ Unit :=
  connection.shutdown context failure.statusReason

/-- Whether a connection is up, after an attempt to connect if there was none. -/
def prepare (connection : Connection φ) (context : Context) : Run φ (Outcome Unit) :=
  let run := if connection.status = .new then connection.connect context
    else ⟨some (.ok ()), connection, context⟩
  match run.result with
  | some (.ok ()) =>
      let result := match run.connection.status with
        | .connected => .ok ()
        | .disconnected => .error ⟨.disconnected, "connection has been disconnected"⟩
        | other => .error ⟨.notAvailable, s!"connection is {other.name}"⟩
      ⟨some result, run.connection, run.context⟩
  | _ => run

def selfId (connection : Connection φ) : Outcome String := do
  (← connection.repositories.get .contact).inspect connection.selfHandle

end ConnectionManager.Connection
