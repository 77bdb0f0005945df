import ConnectionManager.Connection.Lifecycle
import ConnectionManager.Rehearsal.Backend
import ConnectionManager.Rehearsal.Rules
import ConnectionManager.Roster.Notifications
import ConnectionManager.Roster.Writes

/-!
The factories of a connection that is tried out without a service, and the log of what its
transport and its stand-ins did, in one order.
-/

namespace ConnectionManager.Rehearsal

inductive StandIn
  | inert
  | rules (factory : RuleFactory)
  | roster (roster : Roster StandInBackend)

namespace StandIn

def lift {φ α : Type} (wrap : φ → StandIn) (call : FactoryCall φ α) : FactoryCall StandIn α :=
  ⟨wrap call.factory, call.repositories, call.reports, call.answer⟩

instance : ChannelFactory StandIn where
  request standIn request token surroundings repositories :=
    match standIn with
    | .inert => .idle .inert repositories .notImplemented
    | .rules scripted => lift .rules (scripted.request request token surroundings repositories)
    | .roster presented =>
        lift .roster (ChannelFactory.request presented request token surroundings repositories)
  channels
    | .inert => []
    | .rules scripted => scripted.opened
    | .roster presented => presented.channels
  hook standIn hook surroundings repositories :=
    match standIn with
    | .inert => .idle .inert repositories ()
    | .rules scripted => lift .rules (scripted.hook hook surroundings repositories)
    | .roster presented =>
        lift .roster (ChannelFactory.hook presented hook surroundings repositories)

def remarks : StandIn → List (List Remark)
  | .rules scripted => scripted.remarks
  | .inert | .roster _ => []

end StandIn

inductive LogLine
  | transportConnecting
  | transportDisconnecting
  | remark (factory : Nat) (remark : Remark)

/-- The remarks that the next call of a factory made, and those of the calls after it. -/
def nextRemarks (unread : List (List (List Remark))) (factory : Nat) :
    List Remark × List (List (List Remark)) :=
  match (unread[factory]?).getD [] with
  | [] => ([], unread)
  | first :: rest => (first, unread.set factory rest)

def logOf (unread : List (List (List Remark))) : List Act → List LogLine
  | [] => []
  | act :: rest =>
      let ofFactory (factory : Nat) : List LogLine :=
        let (remarks, others) := nextRemarks unread factory
        remarks.map (.remark factory) ++ logOf others rest
      match act with
      | .transportConnecting => .transportConnecting :: logOf unread rest
      | .transportDisconnecting => .transportDisconnecting :: logOf unread rest
      | .asked factory _ | .hooked factory _ | .called factory => ofFactory factory
      | _ => logOf unread rest

def log (connection : Connection StandIn) : List LogLine :=
  logOf (connection.factories.map StandIn.remarks) connection.acts.entries

end ConnectionManager.Rehearsal
