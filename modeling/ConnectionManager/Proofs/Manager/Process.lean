import ConnectionManager.Proofs.Manager.Holders
import Mathlib.Algebra.Group.Basic

/-!
A process with any number of connections and managers on one bus, among other clients. Connections
are built, registered, used and dropped in any order, by themselves or in the care of a manager;
managers come, claim their names, shut down and are dropped; other clients come, claim names and
lose them. Nobody else acts under the unique name of the process. At any time a well-known name is
owned by the process just when one connection that is alive has registered it, or one manager has.
-/

namespace ConnectionManager

section Turns

variable {φ : Type} [ChannelFactory φ]

/-- One thing that is done to a connection. A shutdown may be interrupted between its two parts, and
end when much else has happened. -/
inductive Connection.Turn (before : Connection φ) (context : Context) :
    Connection φ → Context → Prop
  | visit {after : Connection φ} {next : Context} (visit : before.Visit context after next) :
      Turn before context after next
  | finish (begun : before.status = .disconnected) :
      Turn before context (before.endShutdown context).1 (before.endShutdown context).2

theorem Connection.Turn.conducted {before after : Connection φ} {context next : Context}
    (turn : before.Turn context after next) : before.Conducted context after next := by
  cases turn with
  | visit visit => exact visit.conducted
  | finish _ => exact before.end_shutdown_conducted context

/-- One thing that is done to a manager or to a connection in its care. What its shutdown consists of
may also happen bit by bit. -/
inductive Manager.Turn (before : Manager φ) (context : Context) : Manager φ → Context → Prop
  | addProtocol (plugin : ProtocolPlugin φ) : Turn before context (before.addProtocol plugin) context
  | register : Turn before context (before.register context).manager (before.register context).context
  | request (protocol : String) (supplied : Dictionary) :
      Turn before context (before.requestConnection protocol supplied context).manager
        (before.requestConnection protocol supplied context).context
  | conduct {place : Nat} {managed : ManagedConnection φ} {connection : Connection φ}
      {next : Context} (found : before.made[place]? = some managed) (kept : managed.isGone = false)
      (turn : managed.connection.Turn context connection next) :
      Turn before context { before with made := before.made.set place { managed with connection } }
        next
  | clientVanished (client : String) : Turn before context (before.clientVanished client) context
  | share (busName : String) : Turn before context (before.share busName) context
  | unshare (place : Nat) :
      Turn before context (before.unshare context place).1 (before.unshare context place).2
  | deliver (index : Nat) : Turn before context (before.deliver index) context
  | reap (busName : String) :
      Turn before context (before.reap context busName).1 (before.reap context busName).2
  | poll : Turn before context (before.poll context).1 (before.poll context).2
  | settle : Turn before context (before.settle context).1 (before.settle context).2
  | releaseName :
      Turn before context (before.releaseName context).manager (before.releaseName context).context
  | shutdown : Turn before context (before.shutdown context).manager (before.shutdown context).context

theorem Manager.Turn.dealt {before after : Manager φ} {context next : Context}
    (turn : before.Turn context after next) : before.Dealt context after next := by
  cases turn with
  | addProtocol plugin => exact dealt_of_same context rfl rfl
  | register => exact before.register_dealt context
  | request protocol supplied => exact before.request_connection_dealt protocol supplied context
  | conduct found _ turn =>
      exact dealt_set found (ManagedConnection.conducted_dealt turn.conducted)
  | clientVanished client => exact before.client_vanished_dealt context client
  | share busName => exact before.share_dealt context busName
  | unshare place => exact before.unshare_dealt context place
  | deliver index => exact before.deliver_dealt context index
  | reap busName => exact before.reap_dealt context busName
  | poll => exact before.poll_dealt context
  | settle => exact before.settle_dealt context
  | releaseName => exact before.release_name_dealt context
  | shutdown => exact before.shutdown_dealt context

end Turns

/-! ### Dropping a manager -/

namespace Manager

variable {φ : Type}

def leftBehind (manager : Manager φ) : List (Connection φ) :=
  (manager.made.filter ManagedConnection.shared).map ManagedConnection.connection

/-- What becomes of the bus when a manager is dropped, and with it the connections that only the
manager keeps. -/
def dropped (manager : Manager φ) (context : Context) : Context :=
  (manager.made.filter fun managed => !managed.shared).foldl
    (fun current managed => managed.connection.discard current)
    (manager.releaseName context).context

theorem discard_each_trades (gone : List (ManagedConnection φ)) (context : Context) :
    context.Trades (heldByAll (fun managed => managed.connection.held) gone)
      (gone.foldl (fun current managed => managed.connection.discard current) context) 0 := by
  induction gone generalizing context with
  | nil => exact .refl context 0
  | cons managed rest induction =>
      have first := (managed.connection.discard_trades context).aside
        (heldByAll (fun managed => managed.connection.held) rest)
      rw [zero_add] at first
      exact first.trans (induction _)

theorem held_by_parts (made : List (ManagedConnection φ)) :
    heldByAll (fun managed => managed.connection.held) made
      = heldByAll Connection.held
          ((made.filter ManagedConnection.shared).map ManagedConnection.connection)
        + heldByAll (fun managed => managed.connection.held)
          (made.filter fun managed => !managed.shared) := by
  induction made with
  | nil => rfl
  | cons managed rest induction =>
      cases kept : managed.shared
      · simp [kept, induction, add_left_comm]
      · simp [kept, induction, add_assoc]

theorem dropped_trades (manager : Manager φ) (context : Context) :
    context.Trades manager.held (manager.dropped context)
      (heldByAll Connection.held manager.leftBehind) := by
  have released := (manager.release_name_dealt context).trades
  have unnamed : (manager.releaseName context).manager = { manager with names := none } := by
    unfold releaseName
    cases unclaimed : manager.names with
    | some names => rfl
    | none =>
        dsimp only
        rw [← unclaimed]
  have others : held { manager with names := none }
      = heldByAll (fun managed => managed.connection.held) manager.made := zero_add _
  rw [unnamed, others, held_by_parts] at released
  have discarded := (discard_each_trades (manager.made.filter fun managed => !managed.shared)
    (manager.releaseName context).context).beside
      (heldByAll Connection.held manager.leftBehind)
  rw [add_zero] at discarded
  exact released.trans discarded

end Manager

/-! ### Processes -/

/-- The bus and everything of this process that may own names on it. -/
structure Process (φ : Type) where
  context : Context
  /-- The connections that no manager takes care of. -/
  connections : List (Connection φ)
  managers : List (Manager φ)

namespace Process

variable {φ : Type} {process before after : Process φ}

def live (process : Process φ) : List (Connection φ) :=
  process.connections ++ process.managers.flatMap fun manager =>
    (manager.made.filter fun managed => !managed.isGone).map ManagedConnection.connection

def registrations (process : Process φ) (name : String) : Nat :=
  process.live.countP fun connection => connection.registered && connection.names.busName = name

def holders (process : Process φ) (name : String) : Nat :=
  process.managers.countP fun manager => manager.names.map BusNames.busName = some name

def held (process : Process φ) : String → Nat :=
  heldByAll Connection.held process.connections + heldByAll Manager.held process.managers

theorem held_by_connections (connections : List (Connection φ)) (name : String) :
    heldByAll Connection.held connections name = connections.countP fun connection =>
      connection.registered && connection.names.busName = name := by
  induction connections with
  | nil => rfl
  | cons connection rest induction =>
      rw [held_by_all_cons, Pi.add_apply, induction, List.countP_cons, add_comm]
      congr 1
      cases registered : connection.registered <;>
        simp [Connection.held, registered, BusNames.held, eq_comm]

/-- Connections of a manager that are gone do not count. -/
theorem held_by_manager {manager : Manager φ} (returned : manager.Returned) (name : String) :
    manager.held name
      = (if manager.names.map BusNames.busName = some name then 1 else 0)
        + ((manager.made.filter fun managed => !managed.isGone).map
            ManagedConnection.connection).countP fun connection =>
              connection.registered && connection.names.busName = name := by
  have own : manager.ownHeld name
      = if manager.names.map BusNames.busName = some name then 1 else 0 := by
    unfold Manager.ownHeld
    cases manager.names with
    | none => rfl
    | some names => simp [BusNames.held, eq_comm]
  rw [Manager.held, Pi.add_apply, own, ← held_by_connections]
  congr 1
  have all := returned
  unfold Manager.Returned at all
  generalize manager.made = made at all ⊢
  induction made with
  | nil => rfl
  | cons managed rest induction =>
      obtain ⟨first, others⟩ := List.forall_mem_cons.1 all
      rw [held_by_all_cons, Pi.add_apply, induction others]
      cases gone : managed.isGone with
      | true => simp [gone, Connection.held_unregistered (first gone)]
      | false => simp [gone]

theorem held_eq (returned : ∀ manager ∈ process.managers, manager.Returned) (name : String) :
    process.held name = process.registrations name + process.holders name := by
  rw [held, Pi.add_apply, held_by_connections, registrations, live, List.countP_append, holders,
    add_assoc]
  congr 1
  generalize process.managers = managers at returned
  induction managers with
  | nil => rfl
  | cons manager rest induction =>
      obtain ⟨first, others⟩ := List.forall_mem_cons.1 returned
      rw [held_by_all_cons, Pi.add_apply, induction others, held_by_manager first,
        List.flatMap_cons, List.countP_append, List.countP_cons]
      simp only [decide_eq_true_eq]
      omega

variable [ChannelFactory φ]

/-- One thing that happens in the process or on the bus. -/
inductive Step : Process φ → Process φ → Prop
  | clientConnects (process : Process φ) : Step process
      { process with
        context := { process.context with bus := process.context.bus.connectClient.2 } }
  | clientLeaves (process : Process φ) {client : String}
      (other : client ≠ process.context.bus.ownName) : Step process
      { process with
        context := { process.context with bus := process.context.bus.disconnectClient client } }
  | clientRequests (process : Process φ) {client : String}
      (other : client ≠ process.context.bus.ownName) (name : String) : Step process
      { process with
        context := { process.context with
          bus := (process.context.bus.requestNameFor client name).2 } }
  | build {process : Process φ} {plan : ConnectionPlan} {transport : Transport} {factories : List φ}
      {connection : Connection φ} {next : Context}
      (built : Connection.build plan transport factories process.context = (.ok connection, next)) :
      Step process { process with
        context := next
        connections := process.connections ++ [connection] }
  | buildFails {process : Process φ} {plan : ConnectionPlan} {transport : Transport}
      {factories : List φ} {failure : Failure} {next : Context}
      (failed : Connection.build plan transport factories process.context = (.error failure, next)) :
      Step process { process with context := next }
  | register {context next : Context} {front back : List (Connection φ)}
      {managers : List (Manager φ)} {connection claimant : Connection φ}
      (done : connection.register context = (.ok claimant, next)) :
      Step ⟨context, front ++ connection :: back, managers⟩
        ⟨next, front ++ claimant :: back, managers⟩
  | registerFails {context next : Context} {front back : List (Connection φ)}
      {managers : List (Manager φ)} {connection : Connection φ} {failure : Failure}
      (failed : connection.register context = (.error failure, next)) :
      Step ⟨context, front ++ connection :: back, managers⟩
        ⟨next, front ++ connection :: back, managers⟩
  | conduct {context next : Context} {front back : List (Connection φ)}
      {managers : List (Manager φ)} {connection changed : Connection φ}
      (turn : connection.Turn context changed next) :
      Step ⟨context, front ++ connection :: back, managers⟩
        ⟨next, front ++ changed :: back, managers⟩
  | drop (context : Context) (front back : List (Connection φ)) (managers : List (Manager φ))
      (connection : Connection φ) :
      Step ⟨context, front ++ connection :: back, managers⟩
        ⟨connection.discard context, front ++ back, managers⟩
  | found (process : Process φ) (config : ManagerConfig) :
      Step process { process with managers := process.managers ++ [{ config }] }
  | manage {context next : Context} {connections : List (Connection φ)}
      {front back : List (Manager φ)} {manager changed : Manager φ}
      (turn : manager.Turn context changed next) :
      Step ⟨context, connections, front ++ manager :: back⟩
        ⟨next, connections, front ++ changed :: back⟩
  /-- A connection that a protocol has already worked on is registered and taken care of. -/
  | handOver {context next : Context} {front back : List (Connection φ)}
      {managers rest : List (Manager φ)} {manager : Manager φ} {connection claimant : Connection φ}
      (done : connection.register context = (.ok claimant, next)) (protocol : String) :
      Step ⟨context, front ++ connection :: back, managers ++ manager :: rest⟩
        ⟨(manager.adopt claimant protocol next).2, front ++ back,
          managers ++ (manager.adopt claimant protocol next).1 :: rest⟩
  | dropManager (context : Context) (connections : List (Connection φ))
      (front back : List (Manager φ)) (manager : Manager φ) :
      Step ⟨context, connections, front ++ manager :: back⟩
        ⟨manager.dropped context, connections ++ manager.leftBehind, front ++ back⟩

/-- Whatever happens from the time at which the process has nothing yet. -/
inductive Reachable : Process φ → Prop
  | start : Reachable ⟨.start, [], []⟩
  | next {before after : Process φ} (reachable : Reachable before) (step : Step before after) :
      Reachable after

omit [ChannelFactory φ] in
theorem connection_trades {context next : Context} {connection changed : Connection φ}
    (trades : context.Trades connection.held next changed.held) (front back : List (Connection φ))
    (managers : List (Manager φ)) :
    context.Trades (held ⟨context, front ++ connection :: back, managers⟩) next
      (held ⟨next, front ++ changed :: back, managers⟩) :=
  (trades_middle Connection.held trades front back).aside _

omit [ChannelFactory φ] in
theorem trades_without {α : Type} {hold : α → String → Nat} {context next : Context} {item : α}
    {kept : String → Nat} (trades : context.Trades (hold item) next kept) (front back : List α)
    (others : String → Nat) :
    context.Trades (others + heldByAll hold (front ++ item :: back)) next
      (others + heldByAll hold (front ++ back) + kept) := by
  rw [held_by_all_middle, ← add_assoc]
  exact trades.beside _

/-- Whatever happens is a trade of the process with the bus. -/
theorem Step.trades (step : Step before after) :
    before.context.Trades before.held after.context after.held := by
  cases step with
  | clientConnects => exact before.context.client_connects_trades before.held
  | clientLeaves _ other => exact before.context.client_leaves_trades before.held other
  | clientRequests _ other name =>
      exact before.context.client_requests_trades before.held other name
  | @build _ _ _ _ connection next built =>
      obtain ⟨numbered, nothing⟩ := Connection.build_trades before.held built
      have same : held { before with
          context := next
          connections := before.connections ++ [connection] } = before.held := by
        rw [held, held, held_by_all_append, held_by_all_cons, nothing connection rfl,
          held_by_all_nil, add_zero, add_zero]
      rw [same]
      exact numbered
  | buildFails failed => exact (Connection.build_trades before.held failed).1
  | register done => exact connection_trades (Connection.register_trades done) _ _ _
  | registerFails failed =>
      rw [Connection.register_refused failed]
      exact .refl _ _
  | conduct turn => exact connection_trades turn.conducted.trades _ _ _
  | drop context front back managers connection =>
      have dropped := trades_without (connection.discard_trades context) front back
        (heldByAll Manager.held managers)
      rw [add_zero, add_comm, add_comm _ (heldByAll Connection.held (front ++ back))] at dropped
      exact dropped
  | found _ config =>
      have same : held { before with managers := before.managers ++ [{ config }] }
          = before.held := by
        rw [held, held, held_by_all_append]
        rfl
      rw [same]
      exact .refl _ _
  | manage turn => exact (trades_middle Manager.held turn.dealt.trades _ _).beside _
  | @handOver context next front back managers rest manager connection claimant done protocol =>
      -- The connection leaves the list with its name and brings it to the manager.
      generalize others : heldByAll Connection.held (front ++ back)
        + heldByAll Manager.held (managers ++ rest) = remaining
      have claimed := (Connection.register_trades done).beside (remaining + manager.held)
      have taken := (manager.adopt_dealt claimant protocol next).1.beside remaining
      rw [add_assoc remaining _ claimant.held] at claimed
      have apart : held ⟨context, front ++ connection :: back, managers ++ manager :: rest⟩
          = remaining + manager.held + connection.held := by
        rw [held, held_by_all_middle, held_by_all_middle, ← others]
        ac_rfl
      have together : held ⟨(manager.adopt claimant protocol next).2, front ++ back,
          managers ++ (manager.adopt claimant protocol next).1 :: rest⟩
            = remaining + (manager.adopt claimant protocol next).1.held := by
        rw [held, held_by_all_middle, ← others]
        ac_rfl
      rw [apart, together]
      exact claimed.trans taken
  | dropManager context connections front back manager =>
      have dropped := trades_without (manager.dropped_trades context) front back
        (heldByAll Connection.held connections)
      have left : held ⟨manager.dropped context, connections ++ manager.leftBehind, front ++ back⟩
          = heldByAll Connection.held connections + heldByAll Manager.held (front ++ back)
            + heldByAll Connection.held manager.leftBehind := by
        rw [held, held_by_all_append, add_right_comm]
      rw [left]
      exact dropped

theorem Step.returned (step : Step before after)
    (returned : ∀ manager ∈ before.managers, manager.Returned) :
    ∀ manager ∈ after.managers, manager.Returned := by
  cases step with
  | clientConnects | clientLeaves | clientRequests | build | buildFails | register | registerFails
  | conduct | drop => exact returned
  | found _ config =>
      intro manager member
      rcases List.mem_append.1 member with old | new
      · exact returned manager old
      · rw [List.mem_singleton.1 new]
        exact fun _ absent => absurd absent List.not_mem_nil
  | manage turn =>
      simp only [List.forall_mem_append, List.forall_mem_cons] at returned ⊢
      exact ⟨returned.1, turn.dealt.returned returned.2.1, returned.2.2⟩
  | handOver _ protocol =>
      simp only [List.forall_mem_append, List.forall_mem_cons] at returned ⊢
      exact ⟨returned.1, (Manager.adopt_dealt _ _ protocol _).2 returned.2.1, returned.2.2⟩
  | dropManager =>
      simp only [List.forall_mem_append, List.forall_mem_cons] at returned ⊢
      exact ⟨returned.1, returned.2.2⟩

/-- What is true at any time. -/
structure Accounted (process : Process φ) : Prop where
  balanced : process.context.Balanced process.held
  returned : ∀ manager ∈ process.managers, manager.Returned

theorem Step.accounted (step : Step before after) (accounted : before.Accounted) :
    after.Accounted := by
  refine ⟨?_, step.returned accounted.returned⟩
  have balanced := step.trades 0
  rw [zero_add, zero_add] at balanced
  exact balanced accounted.balanced

theorem Reachable.accounted (reachable : process.Reachable) : process.Accounted := by
  induction reachable with
  | start =>
      refine ⟨⟨?_, fun name => .inr ⟨nofun, rfl⟩⟩, nofun⟩
      intro client member
      exact ⟨1, List.mem_singleton.1 member⟩
  | next _ step accounted => exact step.accounted accounted

/-- A well-known name is owned by the process just when one connection that is alive has registered
it or one manager has, and never have both, or two of them. A registration that fails changes
nothing. -/
theorem claimed_names_have_one_holder (reachable : process.Reachable) :
    (∀ name, Bus.IsWellKnown name →
      (process.context.bus.nameOwner? name = some process.context.bus.ownName ↔
        process.registrations name = 1 ∨ process.holders name = 1) ∧
      process.registrations name + process.holders name ≤ 1) ∧
    (∀ connection ∈ process.live, ∀ failure next,
      connection.register process.context = (.error failure, next) → next = process.context) ∧
    ∀ manager ∈ process.managers, ∀ failure,
      (manager.register process.context).answer = .error failure →
        (manager.register process.context).context = process.context := by
  obtain ⟨balanced, returned⟩ := reachable.accounted
  refine ⟨fun name known => ?_, ?_, ?_⟩
  · have counted := held_eq returned name
    rw [balanced.name_owner known]
    rcases balanced.owned name with ⟨owned, one⟩ | ⟨foreign, none⟩
    · exact ⟨⟨fun _ => by omega, fun _ => owned⟩, by omega⟩
    · exact ⟨⟨fun owned => absurd owned foreign, fun _ => by omega⟩, by omega⟩
  · exact fun connection _ failure next failed => Connection.register_refused failed
  · exact fun manager _ failure failed => (Manager.register_refused failed).2

def rehearsedClaimant : Connection Connection.Postponer :=
  { Connection.rehearsed with registered := true }

/-- Two connections for the same account, of which the first has registered, and a manager. -/
def rehearsedProcess : Process Connection.Postponer :=
  ⟨(Connection.rehearsed.register .start).2, [rehearsedClaimant, Connection.rehearsed],
    [{ config := {} }]⟩

theorem rehearsed_process_reachable : rehearsedProcess.Reachable := by
  have made : Connection.build { manager := "example", protocol := "example" }
      { uniqueName := some "me", connecting := some (.ok "me@example.com") } [⟨⟩] .start
        = (.ok Connection.rehearsed, .start) := rfl
  have built : Reachable ⟨.start, [Connection.rehearsed, Connection.rehearsed], []⟩ :=
    (Reachable.start.next (.build made)).next (.build made)
  have claimed : Connection.rehearsed.register .start
      = (.ok rehearsedClaimant, (Connection.rehearsed.register .start).2) := rfl
  have registered : Reachable ⟨(Connection.rehearsed.register .start).2,
      [rehearsedClaimant, Connection.rehearsed], []⟩ :=
    built.next (@Step.register _ _ _ _ [] [Connection.rehearsed] [] _ _ claimed)
  exact registered.next (.found _ {})

theorem claimed_names_have_one_holder_rehearsed : rehearsedProcess.Reachable ∧
    rehearsedProcess.registrations Connection.rehearsed.names.busName = 1 ∧
    rehearsedProcess.context.bus.nameOwner? Connection.rehearsed.names.busName
      = some rehearsedProcess.context.bus.ownName := by
  have known : Bus.IsWellKnown Connection.rehearsed.names.busName := by
    unfold Bus.IsWellKnown
    decide +kernel
  have one : rehearsedProcess.registrations Connection.rehearsed.names.busName = 1 := by
    decide +kernel
  obtain ⟨names, _⟩ := claimed_names_have_one_holder rehearsed_process_reachable
  exact ⟨rehearsed_process_reachable, one, (names _ known).1.2 (.inl one)⟩

end Process

end ConnectionManager
