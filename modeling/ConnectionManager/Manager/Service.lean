import ConnectionManager.Manager.Shutdown

/-!
A manager in service. It runs until it is told to stop, or until it had no connection for as long
as its settings say. The time without connections goes on while the manifest is looked at again
and while clients come and go.
-/

namespace ConnectionManager

structure Service (φ : Type) where
  manager : Manager φ
  context : Context
  /-- Seconds since the service began. -/
  clock : Nat := 0
  /-- Since when the manager has had no connection, if that is to end the service. -/
  idleSince : Option Nat := none

namespace Service

variable {φ : Type}

def watchIdle (service : Service φ) : Service φ :=
  if service.manager.config.idleTimeout.isSome && service.manager.connections.isEmpty then
    { service with idleSince := some (service.idleSince.getD service.clock) }
  else { service with idleSince := none }

def start (manager : Manager φ) (context : Context) : Service φ :=
  watchIdle { manager, context }

/-- When the service ends by itself, if nothing happens before. -/
def idleEnd? (service : Service φ) : Option Nat := do
  some ((← service.idleSince) + (← service.manager.config.idleTimeout))

def settle (service : Service φ) : Service φ :=
  let (manager, context) := service.manager.settle service.context
  { service with manager, context }.watchIdle

/-- The clients that a change of owners says have left the bus. -/
def departures (changes : List OwnerChange) : List String :=
  (changes.filter fun change =>
    change.name.toList.head? = some ':' && change.newOwner = "").map OwnerChange.name

/-- Takes over a bus on which something happened; clients that left lose their holds. -/
def observe (service : Service φ) (bus : Bus) : Service φ :=
  let seen := service.context.bus.changes.entries.length
  { service with
    context := { service.context with bus }
    manager := (departures (bus.changes.entries.drop seen)).foldl Manager.clientVanished
      service.manager }

def finish [ChannelFactory φ] (service : Service φ) : Manager.Call φ Nat :=
  let call := service.manager.shutdown service.context
  { call with answer := service.clock + call.answer }

end Service

end ConnectionManager
