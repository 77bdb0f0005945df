import ConnectionManager.Connection.Basic
import ConnectionManager.Handle.Batch

/-!
Handles that clients hold through a connection. Clients are served while it is connected; their
holds are dropped when they leave the bus.
-/

namespace ConnectionManager.Connection

variable {φ : Type}

def onRepository {α : Type} (connection : Connection φ) (kind : HandleKind)
    (batch : Repository → Repository.Batch α) : Outcome α × Connection φ :=
  match connection.requireConnected, connection.repositories.get kind with
  | .error failure, _ => (.error failure, connection)
  | .ok (), .error failure => (.error failure, connection)
  | .ok (), .ok repository =>
      let result := batch repository
      (result.outcome,
        { connection with repositories := connection.repositories.set kind result.repository })

def holdHandles (connection : Connection φ) (kind : HandleKind) (handles : List Handle)
    (client : String) : Outcome Unit × Connection φ :=
  connection.onRepository kind fun repository => repository.holdAll client handles

def releaseHandles (connection : Connection φ) (kind : HandleKind) (handles : List Handle)
    (client : String) : Outcome Unit × Connection φ :=
  connection.onRepository kind fun repository => repository.releaseAll kind client handles

def inspectHandles (connection : Connection φ) (kind : HandleKind) (handles : List Handle) :
    Outcome (List String) := do
  connection.requireConnected
  (← connection.repositories.get kind).inspectAll handles

def requestHandles (connection : Connection φ) (kind : HandleKind) (ids : List String)
    (client : String) : Outcome (List Handle) × Connection φ :=
  connection.onRepository kind fun repository => repository.requestAll client ids

def clientVanished (connection : Connection φ) (client : String) : Connection φ :=
  if connection.status = .disconnected then connection
  else { connection with repositories := connection.repositories.clientVanished client }

end ConnectionManager.Connection
