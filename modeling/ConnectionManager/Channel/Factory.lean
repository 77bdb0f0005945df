import ConnectionManager.Channel.Queue
import ConnectionManager.Handle.Repository
import ConnectionManager.Text.Identifier

/-!
Factories make channels and keep track of them. A connection asks its factories in turn. A factory
never calls back: during a call it sees its surroundings, may use the repositories and leaves
reports, and the connection acts on the reports afterwards.
-/

namespace ConnectionManager

inductive RequestAnswer
  | notImplemented
  | notAvailable
  | invalidHandle
  | existing (channel : Channel)
  | created (channel : Channel)
  | queued
  | failed (failure : Failure)
deriving DecidableEq

namespace RequestAnswer

/-- The rank of an answer that leaves the request to the next factory. -/
def refusalRank : RequestAnswer → Option Nat
  | .notImplemented => some 0
  | .notAvailable => some 1
  | .invalidHandle => some 2
  | _ => none

def failure : RequestAnswer → Failure
  | .notImplemented => ⟨.notImplemented, "no factory can make channels of this type"⟩
  | .notAvailable => ⟨.notAvailable, "channel is not available"⟩
  | .invalidHandle => ⟨.invalidHandle, "channel target was rejected"⟩
  | .failed failure => failure
  | .existing _ | .created _ | .queued => ⟨.inconsistent, "request was not refused"⟩

/-- The better of the refusals so far and a new one; the earlier of two equal ones stays. -/
def stronger (best : Option RequestAnswer) (declined : RequestAnswer) : RequestAnswer :=
  match best with
  | none => declined
  | some earlier =>
      if earlier.refusalRank.getD 0 < declined.refusalRank.getD 0 then declined else earlier

end RequestAnswer

inductive Report
  | newChannel (channel : Channel) (token : Option Token)
  | channelError (channel : Channel) (failure : Failure) (token : Option Token)
  | channelClosed (path : ObjectPath)
deriving DecidableEq

/-- What a factory sees of its connection. -/
structure Surroundings where
  connectionPath : ObjectPath
  selfHandle : Handle
  status : ConnectionStatus

namespace Surroundings

/-- The path of a channel below the connection, with every element escaped. -/
def channelPath (surroundings : Surroundings) (elements : List String) : Outcome ObjectPath :=
  elements.foldlM (fun path element => path.child (Text.escapeIdentifier element))
    surroundings.connectionPath

end Surroundings

/-- A factory and the repositories after a call, with its reports and its answer. -/
structure FactoryCall (φ α : Type) where
  factory : φ
  repositories : Repositories
  reports : List Report
  answer : α

def FactoryCall.idle {φ α : Type} (factory : φ) (repositories : Repositories) (answer : α) :
    FactoryCall φ α :=
  ⟨factory, repositories, [], answer⟩

inductive FactoryHook
  | connecting
  | connected
  | disconnected
  | closeAll
deriving DecidableEq, Repr

/-- Something that makes channels; the factories of a connection are states of one type. -/
class ChannelFactory (φ : Type) where
  request : φ → ChannelRequest → Token → Surroundings → Repositories → FactoryCall φ RequestAnswer
  /-- Every open channel. -/
  channels : φ → List Channel
  /-- At `closeAll` every channel is to be closed, each with a report. -/
  hook : φ → FactoryHook → Surroundings → Repositories → FactoryCall φ Unit

end ConnectionManager
