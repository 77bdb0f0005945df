import ConnectionManager.Manager.Basic

/-!
The end of a manager. All connections are disconnected at the same time and get a period of grace;
those that have not ended by then stay as they are. The name of the manager is given back last.
-/

namespace ConnectionManager.Manager

variable {φ : Type} [ChannelFactory φ]

/-- The seconds that a connection takes to end, if it ends before the grace is over. -/
def timeWithin? (grace : Nat) (connection : Connection φ) : Option Nat :=
  connection.timeToLeave?.filter fun seconds => seconds < grace

/-- The connections that end in time, in the order in which they do. -/
def leavingInTime (manager : Manager φ) (grace : Nat) : List (Nat × Nat) :=
  (manager.connections.values.filterMap fun place => do
    let managed ← manager.made[place]?
    some (← timeWithin? grace managed.connection, place)).mergeSort fun left right => left.1 ≤ right.1

def disconnectAt (state : Manager φ × Context) (place : Nat) : Manager φ × Context :=
  match state.1.made[place]? with
  | none => state
  | some managed =>
      let run := managed.connection.disconnect state.2
      ({ state.1 with
        made := state.1.made.set place { managed with connection := run.connection } }, run.context)

def beginAt (grace : Nat) (manager : Manager φ) (place : Nat) : Manager φ :=
  { manager with made := manager.made.modify place (.update fun connection =>
      if (timeWithin? grace connection).isSome || connection.status = .disconnected then connection
      else connection.beginShutdown .requested) }

/-- Disconnects all connections, those that end in time completely. -/
def disconnectAll (manager : Manager φ) (grace : Nat) (context : Context) : Manager φ × Context :=
  let begun := manager.connections.values.foldl (beginAt grace) manager
  (manager.leavingInTime grace).foldl (fun state entry => disconnectAt state entry.2) (begun, context)

/-- Lets all connections leave for at most a period; the answer is how many seconds that takes.
Without any time no connection gets to do anything. -/
def leave (manager : Manager φ) (period : Nat) (context : Context) : Call φ Nat :=
  let (left, next) := if period = 0 then (manager, context) else manager.disconnectAll period context
  let (reaped, after) := left.settle next
  let last := (manager.leavingInTime period).foldl (fun latest entry => max latest entry.1) 0
  ⟨if reaped.connections.isEmpty then last else period, reaped, after⟩

/-- Shuts the manager down; the answer is how many seconds that takes. -/
def shutdown (manager : Manager φ) (context : Context) : Call φ Nat :=
  let left := manager.leave manager.config.shutdownGrace context
  let released := left.manager.releaseName left.context
  ⟨left.answer, released.manager, released.context⟩

end ConnectionManager.Manager
