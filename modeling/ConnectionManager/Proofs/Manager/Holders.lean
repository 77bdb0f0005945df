import ConnectionManager.Manager.Shutdown
import ConnectionManager.Proofs.Bus.Changes
import ConnectionManager.Proofs.Manager.Ownership
import Mathlib.Algebra.Group.Pi.Basic
import Mathlib.Algebra.Ring.Nat

/-!
An account of the names that this process owns. Every name that it owns is held once, by a
connection or a manager that claimed it, and no other name is held (`Context.Balanced`). A trade
changes what someone holds and the bus with it, whatever everybody else holds; so trades can be made
one after the other and beside each other, and whatever connections and managers do is a trade.
-/

namespace ConnectionManager

namespace Context

variable {context next last : Context} {held kept later : String → Nat} {name : String}

/-- What is held is what this process owns, every name once. -/
structure Balanced (context : Context) (held : String → Nat) : Prop where
  clients : ∀ client ∈ context.bus.clients, ∃ number, client = Bus.uniqueName number
  owned : ∀ name, context.Owns name ∧ held name = 1 ∨ ¬ context.Owns name ∧ held name = 0

/-- What someone holds changes in step with the bus, whatever the others hold. -/
def Trades (context : Context) (held : String → Nat) (next : Context) (kept : String → Nat) : Prop :=
  ∀ others, context.Balanced (others + held) → next.Balanced (others + kept)

theorem Trades.refl (context : Context) (held : String → Nat) : context.Trades held context held :=
  fun _ balanced => balanced

theorem Trades.trans (first : context.Trades held next kept) (second : next.Trades kept last later) :
    context.Trades held last later :=
  fun others balanced => second others (first others balanced)

theorem Trades.beside (trades : context.Trades held next kept) (more : String → Nat) :
    context.Trades (more + held) next (more + kept) := by
  intro others balanced
  rw [← add_assoc] at balanced ⊢
  exact trades (others + more) balanced

theorem Trades.aside (trades : context.Trades held next kept) (more : String → Nat) :
    context.Trades (held + more) next (kept + more) := by
  rw [add_comm held, add_comm kept]
  exact trades.beside more

theorem trades_of_same_names (held : String → Nat)
    (clients : ∀ client ∈ next.bus.clients, client ∈ context.bus.clients ∨
      ∃ number, client = Bus.uniqueName number)
    (owns : ∀ name, next.Owns name ↔ context.Owns name) : context.Trades held next held := by
  intro others balanced
  constructor
  · intro client member
    rcases clients client member with old | unique
    · exact balanced.clients client old
    · exact unique
  · intro name
    rw [owns name]
    exact balanced.owned name

theorem Balanced.name_owner (balanced : context.Balanced held) (known : Bus.IsWellKnown name) :
    context.bus.nameOwner? name = context.bus.owners.find? name := by
  unfold Bus.nameOwner?
  split
  · rename_i client
    obtain ⟨number, rfl⟩ := balanced.clients name (List.contains_iff_mem.1 client)
    exact absurd (Bus.unique_name_first number) known
  · rfl

/-! ### Other clients -/

theorem client_connects_trades (context : Context) (held : String → Nat) :
    context.Trades held { context with bus := context.bus.connectClient.2 } held := by
  apply trades_of_same_names
  · intro client member
    rcases List.mem_append.1 member with old | new
    · exact .inl old
    · exact .inr ⟨_, List.mem_singleton.1 new⟩
  · exact fun _ => .rfl

theorem client_requests_trades (context : Context) (held : String → Nat) {client : String}
    (other : client ≠ context.bus.ownName) (name : String) :
    context.Trades held { context with bus := (context.bus.requestNameFor client name).2 } held := by
  unfold Bus.requestNameFor
  split
  · exact .refl context held
  · rename_i unowned
    apply trades_of_same_names
    · exact fun client member => .inl member
    · intro owned
      simp only [Owns, Bus.announce, Catalog.find_insert]
      split
      · rename_i same
        simp [same, unowned, other]
      · rfl

theorem client_leaves_trades (context : Context) (held : String → Nat) {client : String}
    (other : client ≠ context.bus.ownName) :
    context.Trades held { context with bus := context.bus.disconnectClient client } held := by
  rw [Bus.disconnectClient]
  by_cases connected : client ∈ context.bus.clients
  · obtain ⟨owners, left, found⟩ := Bus.disconnect_in_eq connected (.refl _)
    rw [left]
    apply trades_of_same_names
    · exact fun other member => .inl (List.mem_of_mem_filter member)
    · intro name
      rw [Owns, Owns]
      dsimp only
      rw [found]
      split
      · rename_i lost
        simp [lost, other]
      · rfl
  · rw [Bus.disconnectIn, if_neg (by rwa [List.contains_iff_mem])]
    exact .refl context held

end Context

/-! ### Claims -/

namespace BusNames

variable {names : BusNames} {context next : Context}

def held (names : BusNames) : String → Nat := fun name => if name = names.busName then 1 else 0

theorem claim_eq_ok (claimed : names.claim context = (.ok (), next)) :
    context.bus.owners.find? names.busName = none ∧
      next.bus.clients = context.bus.clients ∧ next.bus.ownName = context.bus.ownName ∧
      next.bus.owners = context.bus.owners.insert names.busName context.bus.ownName := by
  obtain ⟨bus, anonymous, arbitration⟩ := context
  unfold claim at claimed
  split at claimed
  · cases arbitration with
    | queueing => cases claimed
    | immediate =>
        cases owner : bus.owners.find? names.busName with
        | some other =>
            simp only [Context.requestName, Bus.requestName, Bus.requestNameFor, owner] at claimed
            by_cases own : other = bus.ownName <;> simp [own, claimFailure] at claimed
        | none =>
            simp only [Context.requestName, Bus.requestName, Bus.requestNameFor, owner] at claimed
            cases claimed
            exact ⟨rfl, rfl, rfl, rfl⟩
  · cases claimed

theorem claim_refused {failure : Failure} (refused : names.claim context = (.error failure, next)) :
    next = context := by
  rcases names.claim_cases context with ⟨_, failed⟩ | ⟨_, claimed, _⟩
  · rw [failed] at refused
    exact (Prod.mk.inj refused).2.symm
  · rw [claimed] at refused
    cases refused

theorem held_self (names : BusNames) : names.held names.busName = 1 := if_pos rfl

theorem held_other {name : String} (other : name ≠ names.busName) : names.held name = 0 :=
  if_neg other

theorem claim_trades (claimed : names.claim context = (.ok (), next)) :
    context.Trades 0 next names.held := by
  obtain ⟨unowned, clients, own, owners⟩ := claim_eq_ok claimed
  have owns : ∀ name, next.Owns name ↔ name = names.busName ∨ context.Owns name := by
    intro name
    rw [Context.Owns, own, owners, Catalog.find_insert, Context.Owns]
    by_cases same : name = names.busName <;> simp [same]
  have foreign : ¬ context.Owns names.busName := by
    rw [Context.Owns, unowned]
    exact (Option.some_ne_none _).symm
  intro others balanced
  constructor
  · rw [clients]
    exact balanced.clients
  · intro name
    have before := balanced.owned name
    rw [owns, Pi.add_apply]
    rw [Pi.add_apply, Pi.zero_apply] at before
    by_cases same : name = names.busName
    · rw [same] at before ⊢
      obtain ⟨_, alone⟩ := before.resolve_left fun owned => foreign owned.1
      rw [held_self]
      exact .inl ⟨.inl rfl, by omega⟩
    · simpa [same, held_other same] using before

/-- Who holds a name owns it, so that it is given back. -/
theorem release_trades (names : BusNames) (context : Context) :
    context.Trades names.held (names.release context) 0 := by
  intro others balanced
  have claimed := balanced.owned names.busName
  rw [Pi.add_apply, held_self] at claimed
  -- Whoever gives the name back is its one holder.
  obtain ⟨owns, one⟩ := claimed.resolve_right fun unowned => by omega
  have alone : others names.busName = 0 := by omega
  have released : (names.release context).bus
      = context.bus.dropName context.bus.ownName names.busName := by
    rw [release, Bus.releaseName, if_pos (show _ = _ from owns)]
  have still : ∀ name, (names.release context).Owns name ↔
      name ≠ names.busName ∧ context.Owns name := by
    intro name
    rw [Context.Owns, released]
    simp only [Bus.dropName, Bus.announce, Catalog.find_erase]
    by_cases same : name = names.busName <;> simp [same, Context.Owns]
  constructor
  · rw [released]
    exact balanced.clients
  · intro name
    have before := balanced.owned name
    rw [still, Pi.add_apply, Pi.zero_apply]
    rw [Pi.add_apply] at before
    by_cases same : name = names.busName
    · rw [same, alone]
      exact .inr ⟨fun owned => owned.1 rfl, rfl⟩
    · simpa [same, held_other same] using before

end BusNames

/-! ### Connections -/

namespace Connection

variable {φ : Type} {connection claimant before after : Connection φ} {context next : Context}

/-- The name that a connection has claimed and not given back. -/
def held (connection : Connection φ) : String → Nat :=
  if connection.registered then connection.names.held else 0

theorem held_registered (registered : connection.registered = true) :
    connection.held = connection.names.held := if_pos registered

theorem held_unregistered (unregistered : connection.registered = false) : connection.held = 0 := by
  simp [held, unregistered]

theorem Stays.held (stays : Stays before after) : after.held = before.held := by
  rw [Connection.held, Connection.held, stays.registered, stays.names]

theorem build_trades {plan : ConnectionPlan} {transport : Transport} {factories : List φ}
    {outcome : Outcome (Connection φ)} (held : String → Nat)
    (built : build plan transport factories context = (outcome, next)) :
    context.Trades held next held ∧ ∀ connection, outcome = .ok connection → connection.held = 0 := by
  have bus := build_bus built
  constructor
  · apply Context.trades_of_same_names
    · exact fun client member => .inl (bus ▸ member)
    · intro name
      rw [Context.Owns, Context.Owns, bus]
  · rintro connection rfl
    exact held_unregistered (build_fresh (congrArg Prod.fst built)).2.1

theorem register_eq_ok (done : connection.register context = (.ok claimant, next)) :
    connection.registered = false ∧ claimant = { connection with registered := true } ∧
      connection.names.claim context = (.ok (), next) := by
  unfold register at done
  split at done
  · cases done
  · split at done
    · cases done
    · rename_i unregistered
      obtain ⟨outcome, bus⟩ := Prod.mk.inj done
      obtain ⟨⟨⟩, claimed, same⟩ := Outcome.map_eq_ok.1 outcome
      exact ⟨by simpa using unregistered, same.symm, Prod.ext claimed bus⟩

theorem register_refused {failure : Failure}
    (refused : connection.register context = (.error failure, next)) : next = context := by
  rcases connection.register_cases context with ⟨_, failed⟩ | ⟨_, _, done, _⟩
  · rw [failed] at refused
    exact (Prod.mk.inj refused).2.symm
  · rw [done] at refused
    cases refused

theorem register_trades (done : connection.register context = (.ok claimant, next)) :
    context.Trades connection.held next claimant.held := by
  obtain ⟨unregistered, rfl, claimed⟩ := register_eq_ok done
  rw [held_unregistered unregistered]
  exact BusNames.claim_trades claimed

theorem discard_trades (connection : Connection φ) (context : Context) :
    context.Trades connection.held (connection.discard context) 0 := by
  unfold discard held
  split
  · exact connection.names.release_trades context
  · exact .refl context 0

theorem Conducted.trades (conducted : Conducted before context after next) :
    context.Trades before.held next after.held := by
  rcases conducted.course with ⟨stays, rfl⟩ | ⟨unregistered, _, rfl⟩
  · rw [stays.held]
    exact .refl next before.held
  · rw [held_unregistered unregistered]
    exact before.discard_trades context

theorem Conducted.unregistered (conducted : Conducted before context after next)
    (unregistered : before.registered = false) : after.registered = false := by
  rcases conducted.course with ⟨stays, _⟩ | ⟨returned, _⟩
  · exact stays.registered.trans unregistered
  · exact returned

end Connection

/-! ### Connections of a manager -/

namespace ManagedConnection

variable {φ : Type} {managed changed : ManagedConnection φ} {context next : Context}
  {connection : Connection φ}

def Returned (managed : ManagedConnection φ) : Prop :=
  managed.isGone = true → managed.connection.registered = false

structure Dealt (managed : ManagedConnection φ) (context : Context)
    (changed : ManagedConnection φ) (next : Context) : Prop where
  trades : context.Trades managed.connection.held next changed.connection.held
  returned : managed.Returned → changed.Returned

theorem conducted_dealt (conducted : managed.connection.Conducted context connection next) :
    Dealt managed context { managed with connection } next :=
  ⟨conducted.trades, fun returned gone => conducted.unregistered (returned gone)⟩

theorem release_if_gone_dealt (managed : ManagedConnection φ) (context : Context) :
    context.Trades managed.connection.held (managed.releaseIfGone context).2
        (managed.releaseIfGone context).1.connection.held ∧
      (managed.releaseIfGone context).1.Returned := by
  rcases managed.release_if_gone_cases context with ⟨_, _, unregistered, _, _, bus⟩ | ⟨kept, same⟩
  · rw [bus, Connection.held_unregistered unregistered]
    exact ⟨managed.connection.discard_trades context, fun _ => unregistered⟩
  · rw [same]
    exact ⟨.refl context _, fun gone => absurd gone (by simp [kept])⟩

theorem forget_dealt (managed : ManagedConnection φ) (context : Context) :
    Dealt managed context (managed.forget context).1 (managed.forget context).2 := by
  obtain ⟨trades, returned⟩ := release_if_gone_dealt { managed with forgotten := true } context
  exact ⟨trades, fun _ => returned⟩

theorem unshare_dealt (managed : ManagedConnection φ) (context : Context) :
    Dealt managed context (managed.unshare context).1 (managed.unshare context).2 := by
  obtain ⟨trades, returned⟩ := release_if_gone_dealt { managed with shared := false } context
  exact ⟨trades, fun _ => returned⟩

theorem share_dealt (managed : ManagedConnection φ) (context : Context) :
    Dealt managed context { managed with shared := true } context :=
  ⟨.refl context _, fun _ gone => absurd gone (by simp [isGone])⟩

end ManagedConnection

def heldByAll {α : Type} (held : α → String → Nat) (items : List α) : String → Nat :=
  fun name => (items.map fun item => held item name).sum

section HeldByAll

variable {α : Type} {held : α → String → Nat}

@[simp] theorem held_by_all_nil : heldByAll held [] = 0 := rfl

@[simp] theorem held_by_all_cons (item : α) (rest : List α) :
    heldByAll held (item :: rest) = held item + heldByAll held rest := rfl

theorem held_by_all_append (front back : List α) :
    heldByAll held (front ++ back) = heldByAll held front + heldByAll held back := by
  funext name
  simp [heldByAll]

theorem held_by_all_middle (front back : List α) (item : α) :
    heldByAll held (front ++ item :: back) = heldByAll held (front ++ back) + held item := by
  rw [held_by_all_append, held_by_all_append, held_by_all_cons, add_comm (held item), add_assoc]

theorem trades_middle (held : α → String → Nat) {context next : Context} {item changed : α}
    (trades : context.Trades (held item) next (held changed)) (front back : List α) :
    context.Trades (heldByAll held (front ++ item :: back)) next
      (heldByAll held (front ++ changed :: back)) := by
  rw [held_by_all_middle, held_by_all_middle]
  exact trades.beside _

end HeldByAll

/-! ### Managers -/

namespace Manager

variable {φ : Type} {manager before middle after : Manager φ} {context next last : Context}
  {managed changed : ManagedConnection φ} {place : Nat}

def ownHeld (manager : Manager φ) : String → Nat :=
  match manager.names with
  | some names => names.held
  | none => 0

def held (manager : Manager φ) : String → Nat :=
  manager.ownHeld + heldByAll (fun managed => managed.connection.held) manager.made

def Returned (manager : Manager φ) : Prop := ∀ managed ∈ manager.made, managed.Returned

/-- A manager and the bus change together. -/
structure Dealt (before : Manager φ) (context : Context) (after : Manager φ) (next : Context) :
    Prop where
  trades : context.Trades before.held next after.held
  returned : before.Returned → after.Returned

theorem Dealt.refl (manager : Manager φ) (context : Context) : Dealt manager context manager context :=
  ⟨.refl context manager.held, id⟩

theorem Dealt.trans (first : Dealt before context middle next)
    (second : Dealt middle next after last) : Dealt before context after last :=
  ⟨first.trades.trans second.trades, fun returned => second.returned (first.returned returned)⟩

theorem dealt_of_same (context : Context) (names : after.names = before.names)
    (made : after.made = before.made) : Dealt before context after context := by
  have same : after.held = before.held := by rw [held, held, ownHeld, ownHeld, names, made]
  refine ⟨same ▸ .refl context before.held, fun returned => ?_⟩
  rwa [Returned, made]

theorem dealt_each {α : Type} (step : Manager φ × Context → α → Manager φ × Context)
    (each : ∀ state item, Dealt state.1 state.2 (step state item).1 (step state item).2)
    (items : List α) (manager : Manager φ) (context : Context) :
    Dealt manager context (items.foldl step (manager, context)).1
      (items.foldl step (manager, context)).2 := by
  suffices run : ∀ state : Manager φ × Context,
      Dealt state.1 state.2 (items.foldl step state).1 (items.foldl step state).2 from
    run (manager, context)
  induction items with
  | nil => exact fun state => .refl state.1 state.2
  | cons item rest induction =>
      exact fun state => (each state item).trans (induction (step state item))

theorem dealt_set (found : manager.made[place]? = some managed)
    (dealt : managed.Dealt context changed next) :
    Dealt manager context { manager with made := manager.made.set place changed } next := by
  obtain ⟨below, same⟩ := List.getElem?_eq_some_iff.1 found
  obtain ⟨front, back, split, _, exchanged⟩ := @List.exists_of_set _ place changed _ below
  rw [same] at split
  constructor
  · rw [held, held]
    dsimp only
    rw [exchanged, split]
    exact (trades_middle (fun managed : ManagedConnection φ => managed.connection.held)
      dealt.trades front back).beside _
  · intro returned other member
    rcases List.mem_or_eq_of_mem_set member with old | rfl
    · exact returned other old
    · exact dealt.returned (returned managed (List.mem_of_getElem? found))

theorem change_at_dealt (manager : Manager φ) (context : Context) (place : Nat)
    (change : ManagedConnection φ → Context → ManagedConnection φ × Context)
    (each : ∀ managed : ManagedConnection φ,
      managed.Dealt context (change managed context).1 (change managed context).2) :
    Dealt manager context (manager.changeAt context place change).1
      (manager.changeAt context place change).2 := by
  unfold changeAt
  split
  · exact .refl manager context
  · rename_i managed found
    exact dealt_set found (each managed)

theorem modify_dealt (manager : Manager φ) (context : Context) (place : Nat)
    (change : ManagedConnection φ → ManagedConnection φ)
    (each : ∀ managed : ManagedConnection φ, managed.Dealt context (change managed) context) :
    Dealt manager context { manager with made := manager.made.modify place change } context := by
  rw [List.modify_eq_set_getElem?]
  cases found : manager.made[place]? with
  | none => exact .refl manager context
  | some managed => exact dealt_set found (each managed)

/-! ### Looking at messages -/

theorem let_go_dealt (manager : Manager φ) (context : Context) (place : Nat) :
    Dealt manager context (manager.letGo context place).1 (manager.letGo context place).2 :=
  change_at_dealt manager context place _ fun managed => managed.forget_dealt context

theorem reap_dealt (manager : Manager φ) (context : Context) (busName : String) :
    Dealt manager context (manager.reap context busName).1 (manager.reap context busName).2 := by
  unfold reap
  split
  · exact .refl manager context
  · rename_i place _
    have struck : Dealt manager context
        { manager with connections := manager.connections.erase busName } context :=
      dealt_of_same context rfl rfl
    have reaped := struck.trans (let_go_dealt _ context place)
    dsimp only
    split
    · exact reaped.trans (dealt_of_same _ rfl rfl)
    · exact reaped

theorem poll_dealt (manager : Manager φ) (context : Context) :
    Dealt manager context (manager.poll context).1 (manager.poll context).2 := by
  have emptied : Dealt manager context { manager with mailbox := [] } context :=
    dealt_of_same context rfl rfl
  exact emptied.trans (dealt_each (fun state busName => state.1.reap state.2 busName)
    (fun state busName => reap_dealt state.1 state.2 busName) manager.mailbox _ context)

theorem settle_dealt (manager : Manager φ) (context : Context) :
    Dealt manager context (manager.settle context).1 (manager.settle context).2 := by
  have sent : ∀ (manager : Manager φ) (context : Context),
      Dealt manager context manager.deliverAll context :=
    fun manager context => dealt_of_same context rfl rfl
  have looked := (sent manager context).trans (poll_dealt manager.deliverAll context)
  exact (looked.trans (sent _ _)).trans (poll_dealt _ _)

theorem deliver_dealt (manager : Manager φ) (context : Context) (index : Nat) :
    Dealt manager context (manager.deliver index) context := by
  unfold deliver
  split
  · exact .refl manager context
  · split
    · exact dealt_of_same context rfl rfl
    · exact .refl manager context

/-! ### Making connections -/

/-- A connection that comes to a manager brings its name along. -/
theorem adopt_dealt (manager : Manager φ) (connection : Connection φ) (protocol : String)
    (context : Context) :
    context.Trades (manager.held + connection.held) (manager.adopt connection protocol context).2
        (manager.adopt connection protocol context).1.held ∧
      (manager.Returned → (manager.adopt connection protocol context).1.Returned) := by
  unfold adopt
  dsimp only
  generalize adoption : ({ manager with
    made := manager.made ++ [{ connection }]
    watchers := manager.watchers ++ [⟨connection.names.busName, manager.made.length⟩]
    connections := manager.connections.insert connection.names.busName manager.made.length } :
      Manager φ) = adopted
  have grown : adopted.held = manager.held + connection.held := by
    rw [← adoption, held, held, held_by_all_append, held_by_all_cons, held_by_all_nil, add_zero,
      ← add_assoc]
    rfl
  have returned : manager.Returned → adopted.Returned := by
    intro before managed member
    rw [← adoption] at member
    rcases List.mem_append.1 member with old | new
    · exact before managed old
    · rw [List.mem_singleton.1 new]
      exact fun gone => absurd gone (by simp [ManagedConnection.isGone])
  rw [← grown]
  split
  · rename_i replaced _
    have alone := let_go_dealt adopted context replaced
    exact ⟨alone.trades, fun before => alone.returned (returned before)⟩
  · exact ⟨.refl context adopted.held, returned⟩

theorem open_connection_dealt (manager : Manager φ) (plugin : ProtocolPlugin φ) (protocol : String)
    (parameters : Dictionary) (context : Context) :
    Dealt manager context (manager.openConnection plugin protocol parameters context).manager
      (manager.openConnection plugin protocol parameters context).context := by
  unfold openConnection
  split
  · exact .refl manager context
  · split
    · rename_i failure next built
      exact ⟨(Connection.build_trades manager.held built).1, id⟩
    · rename_i connection next built
      obtain ⟨numbered, nothing⟩ := Connection.build_trades manager.held built
      split
      · rename_i failure last refused
        rw [Connection.register_refused refused]
        exact ⟨numbered, id⟩
      · rename_i registered last done
        have claimed := (Connection.register_trades done).beside manager.held
        rw [nothing connection rfl, add_zero] at claimed
        obtain ⟨adopted, returned⟩ := adopt_dealt manager registered protocol last
        exact ⟨(numbered.trans claimed).trans adopted, returned⟩

theorem request_connection_dealt (manager : Manager φ) (protocol : String) (supplied : Dictionary)
    (context : Context) :
    Dealt manager context (manager.requestConnection protocol supplied context).manager
      (manager.requestConnection protocol supplied context).context := by
  have looked := poll_dealt manager context
  unfold requestConnection
  dsimp only
  split
  · exact looked
  · split
    · exact looked
    · have consulted : ∀ act, Dealt (manager.poll context).1 (manager.poll context).2
          ((manager.poll context).1.record act) (manager.poll context).2 :=
        fun act => dealt_of_same _ rfl rfl
      exact (looked.trans (consulted _)).trans (open_connection_dealt _ _ _ _ _)

theorem client_vanished_dealt (manager : Manager φ) (context : Context) (client : String) :
    Dealt manager context (manager.clientVanished client) context := by
  have gone : ∀ connection : Connection φ,
      connection.Stays (connection.clientVanished client) := by
    intro connection
    unfold Connection.clientVanished
    split <;> exact ⟨rfl, rfl, rfl⟩
  unfold clientVanished
  generalize manager.connections.values = places
  induction places generalizing manager with
  | nil => exact .refl manager context
  | cons place rest induction =>
      have first := manager.modify_dealt context place
        (.update fun connection => connection.clientVanished client)
        fun managed => ManagedConnection.conducted_dealt
          ((gone managed.connection).conducted context)
      exact first.trans (induction { manager with made := manager.made.modify place _ })

theorem share_dealt (manager : Manager φ) (context : Context) (busName : String) :
    Dealt manager context (manager.share busName) context := by
  unfold share
  split
  · exact .refl manager context
  · exact modify_dealt manager context _ _ fun managed => managed.share_dealt context

theorem unshare_dealt (manager : Manager φ) (context : Context) (place : Nat) :
    Dealt manager context (manager.unshare context place).1 (manager.unshare context place).2 :=
  change_at_dealt manager context place _ fun managed => managed.unshare_dealt context

/-! ### The manager's own name -/

theorem register_refused {failure : Failure}
    (refused : (manager.register context).answer = .error failure) :
    (manager.register context).manager = manager ∧
      (manager.register context).context = context := by
  unfold register at refused ⊢
  split at refused
  · cases refused
  · split at refused
    · exact ⟨rfl, rfl⟩
    · split at refused
      · rename_i next failed
        exact ⟨rfl, BusNames.claim_refused failed⟩
      · cases refused

theorem register_dealt (manager : Manager φ) (context : Context) :
    Dealt manager context (manager.register context).manager (manager.register context).context := by
  unfold register
  split
  · exact .refl manager context
  · rename_i unclaimed
    split
    · exact .refl manager context
    · split
      · rename_i failed
        rw [BusNames.claim_refused failed]
        exact .refl manager context
      · rename_i names _ next claimed
        refine ⟨?_, id⟩
        have nothing : manager.ownHeld = 0 := by rw [ownHeld, unclaimed]
        rw [held, nothing]
        exact (BusNames.claim_trades claimed).aside _

theorem release_name_dealt (manager : Manager φ) (context : Context) :
    Dealt manager context (manager.releaseName context).manager
      (manager.releaseName context).context := by
  unfold releaseName
  split
  · rename_i names claimed
    refine ⟨?_, id⟩
    have own : manager.ownHeld = names.held := by rw [ownHeld, claimed]
    rw [held, own]
    exact (names.release_trades context).aside _
  · exact .refl manager context

/-! ### The end of a manager -/

variable [ChannelFactory φ]

theorem disconnect_at_dealt (state : Manager φ × Context) (place : Nat) :
    Dealt state.1 state.2 (disconnectAt state place).1 (disconnectAt state place).2 := by
  unfold disconnectAt
  split
  · exact .refl state.1 state.2
  · rename_i managed found
    exact dealt_set found (ManagedConnection.conducted_dealt
      (Connection.shutdown_conducted managed.connection state.2 .requested))

theorem begin_at_dealt (grace : Nat) (manager : Manager φ) (context : Context) (place : Nat) :
    Dealt manager context (beginAt grace manager place) context := by
  refine modify_dealt manager context place _ fun managed => ?_
  refine ManagedConnection.conducted_dealt (Connection.Stays.conducted ?_ context)
  dsimp only
  split
  · exact .refl managed.connection
  · exact managed.connection.begin_shutdown_stays .requested

theorem disconnect_all_dealt (manager : Manager φ) (grace : Nat) (context : Context) :
    Dealt manager context (manager.disconnectAll grace context).1
      (manager.disconnectAll grace context).2 := by
  have begun : ∀ (places : List Nat) (manager : Manager φ),
      Dealt manager context (places.foldl (beginAt grace) manager) context := by
    intro places
    induction places with
    | nil => exact fun manager => .refl manager context
    | cons place rest induction =>
        exact fun manager => (begin_at_dealt grace manager context place).trans (induction _)
  exact (begun _ manager).trans (dealt_each
    (fun state (entry : Nat × Nat) => disconnectAt state entry.2)
    (fun state entry => disconnect_at_dealt state entry.2) _ _ context)

theorem leave_dealt (manager : Manager φ) (period : Nat) (context : Context) :
    Dealt manager context (manager.leave period context).manager
      (manager.leave period context).context := by
  have left : Dealt manager context
      (if period = 0 then (manager, context) else manager.disconnectAll period context).1
      (if period = 0 then (manager, context) else manager.disconnectAll period context).2 := by
    split
    · exact .refl manager context
    · exact disconnect_all_dealt manager period context
  exact left.trans (settle_dealt _ _)

theorem shutdown_dealt (manager : Manager φ) (context : Context) :
    Dealt manager context (manager.shutdown context).manager (manager.shutdown context).context :=
  (leave_dealt manager _ context).trans (release_name_dealt _ _)

end Manager

end ConnectionManager
