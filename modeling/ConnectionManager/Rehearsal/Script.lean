import ConnectionManager.Manager.Service
import ConnectionManager.Rehearsal.StandIn
import ConnectionManager.Signals

/-!
A manager in service while a script is played to it: at given seconds clients come and go,
connections are disconnected, and the manager is told to reload or to stop. A cue waits for the one
before it, so a connection that leaves slowly delays what follows. The script goes on while the
manager shuts down, and is broken off when the service is over.
-/

namespace ConnectionManager.Rehearsal

/-- A protocol whose connections are told how to behave. -/
structure PluginSketch where
  descriptor : Descriptor
  /-- Why no connection can be made. -/
  refusal : Option Failure := none
  connectFailure : Option Failure := none
  disconnecting : Option Nat := some 0

/-- The account is known by the parameter of that name, if it is given. -/
def PluginSketch.plugin (sketch : PluginSketch) : ProtocolPlugin StandIn where
  descriptor := sketch.descriptor
  account parameters :=
    match sketch.refusal with
    | some failure => .error failure
    | none =>
        let name := parameters.string? "account"
        let connecting := match sketch.connectFailure with
          | some failure => .error failure
          | none => .ok (name.getD "me")
        .ok { transport :=
          { uniqueName := name, connecting := some connecting, disconnecting := sketch.disconnecting } }

inductive Cue
  | shutdown
  | reload
  | clientVisit
  | clientLeaves (client : String)
  | disconnect (busName : String)

structure ScriptLine where
  second : Nat
  cue : Cue

inductive Ending
  | finished
  /-- The service would go on for ever. -/
  | abandoned
deriving DecidableEq

structure Performance where
  ending : Ending
  seconds : Nat
  manager : Manager StandIn
  context : Context

/-- No script is followed for longer than this. -/
def patience : Nat := 1000000

def abandon (service : Service StandIn) : Performance :=
  ⟨.abandoned, patience, service.manager, service.context⟩

/-- A client comes and goes at once. -/
def visit (bus : Bus) : Bus :=
  let (client, joined) := bus.connectClient
  joined.disconnectClient client

/-- What a cue does to the bus by itself. -/
def Cue.onBus : Cue → Bus → Bus
  | .clientVisit, bus => visit bus
  | .clientLeaves client, bus => bus.disconnectClient client
  | .shutdown, bus | .reload, bus | .disconnect _, bus => bus

structure Closing where
  manager : Manager StandIn
  began : Nat
  ended : Nat

/-- When a cue that comes during the shutdown is over; `none` if it never is. Whoever disconnects a
connection that is leaving already waits until it has left. -/
def Closing.over? (closing : Closing) (second : Nat) : Cue → Option Nat
  | .disconnect busName =>
      match closing.manager.connection? busName with
      | some connection =>
          connection.timeToLeave?.map fun seconds => max second (closing.began + seconds)
      | none => some second
  | .shutdown | .reload | .clientVisit | .clientLeaves _ => some second

/-- Plays the rest of a script until the manager has shut down. The manager looks at nothing any
more, so only the bus changes. -/
def Closing.perform (closing : Closing) (clock previous : Nat) (bus : Bus) : List ScriptLine → Bus
  | [] => bus
  | line :: rest =>
      let second := clock + (line.second - previous)
      if closing.ended ≤ second then bus
      else
        let changed := line.cue.onBus bus
        match closing.over? second line.cue with
        | some moment => closing.perform moment line.second changed rest
        | none => changed

/-- Shuts down at a second while the rest of a script is played, if patience lasts that long. -/
def finishAt (service : Service StandIn) (second previous : Nat) (rest : List ScriptLine) :
    Performance :=
  let call := { service with clock := second }.finish
  let closing : Closing := ⟨service.manager, second, min call.answer patience⟩
  let play (context : Context) : Context :=
    { context with bus := closing.perform second previous context.bus rest }
  if call.answer < patience then ⟨.finished, call.answer, call.manager, play call.context⟩
  else
    let left := service.manager.leave (patience - second) service.context
    ⟨.abandoned, patience, left.manager, play left.context⟩

def waitForEnd (service : Service StandIn) : Performance :=
  match service.idleEnd? with
  | some second =>
      if second < patience then finishAt service second second [] else abandon service
  | none => abandon service

def endsBefore (service : Service StandIn) (second : Nat) : Bool :=
  match service.idleEnd? with
  | some idleEnd => idleEnd < second
  | none => false

/-- Whether a connection leaves before patience is over. -/
def leavesInTime (service : Service StandIn) (connection : Connection StandIn) : Bool :=
  connection.timeToLeave?.any fun seconds => service.clock + seconds < patience

def beginToLeave (connection : Connection StandIn) (context : Context) :
    Connection.Run StandIn Unit :=
  ⟨none, connection.beginShutdown .requested, context⟩

/-- Disconnects a connection and waits for it; the first is none if that takes too long. -/
def disconnectCue (service : Service StandIn) (busName : String) :
    Option (Service StandIn) × Service StandIn :=
  let call (connection : Connection StandIn) : Context → Connection.Run StandIn Unit :=
    if leavesInTime service connection then connection.disconnect else beginToLeave connection
  match service.manager.drive busName service.context call with
  | none => (some service, service)
  | some drive =>
      let driven := { service with manager := drive.manager, context := drive.context }
      (drive.result.map fun _ =>
        { driven with clock := driven.clock + drive.seconds }.settle, driven)

/-- Plays a script from the second of its last cue on. -/
def perform (previous : Nat) (service : Service StandIn) : List ScriptLine → Performance
  | [] => waitForEnd service
  | line :: rest =>
      let second := service.clock + (line.second - previous)
      if endsBefore service second || patience ≤ second then waitForEnd service
      else
        let now := { service with clock := second }
        match line.cue with
        | .shutdown => finishAt now second line.second rest
        | .reload => perform line.second now rest
        | .clientVisit | .clientLeaves _ =>
            perform line.second (now.observe (line.cue.onBus now.context.bus)) rest
        | .disconnect busName =>
            match disconnectCue now busName with
            | (some next, _) => perform line.second next rest
            | (none, stuck) => waitForEnd stuck

def run (manager : Manager StandIn) (context : Context) (signals : Signals)
    (script : List ScriptLine) : Performance :=
  let service := Service.start manager context
  if signals.shuttingDown then finishAt service 0 0 script else perform 0 service script

end ConnectionManager.Rehearsal
