import ConnectionManager.Proofs.Connection.Bookkeeping
import ConnectionManager.Proofs.Roster.Bookkeeping

/-!
The self handle of a connection. The connection takes one reference on it when the service is
reached and gives it back when it shuts down, so in between the handle is live and stands for the
local user, whatever clients, factories and protocol code do (`self_handle_kept`).
-/

namespace ConnectionManager

open Repository (Dealings Secured Tabled)

namespace Connection

variable {φ : Type} {before after connection : Connection φ}

/-- The status, the self handle, the transport and whether the shutdown is over are as before. -/
structure Framed (before after : Connection φ) : Prop where
  status : after.status = before.status
  selfHandle : after.selfHandle = before.selfHandle
  transport : after.transport = before.transport
  finished : after.finished = before.finished

theorem Framed.refl (connection : Connection φ) : Framed connection connection := ⟨rfl, rfl, rfl, rfl⟩

theorem Served.framed {hooks : List (Nat × FactoryHook)} (served : Served hooks before after) :
    Framed before after :=
  ⟨served.status, served.selfHandle, served.transport, served.finished⟩

theorem on_repository_framed {α : Type} (connection : Connection φ) (kind : HandleKind)
    (batch : Repository → Repository.Batch α) :
    Framed connection (connection.onRepository kind batch).2 := by
  unfold onRepository
  split <;> exact ⟨rfl, rfl, rfl, rfl⟩

theorem client_vanished_framed (connection : Connection φ) (client : String) :
    Framed connection (connection.clientVanished client) := by
  unfold clientVanished
  split <;> exact ⟨rfl, rfl, rfl, rfl⟩

variable [ChannelFactory φ]

theorem change_status_framed (connection : Connection φ) {status : ConnectionStatus}
    {hook : FactoryHook} (reason : StatusReason) (told : hookOf? status = some hook) :
    Framed { connection with status } (connection.changeStatus status reason) := by
  have served := change_status_served any_work connection reason told
  exact ⟨served.status, served.selfHandle, served.transport, served.finished⟩

theorem begin_shutdown_unfinished (connection : Connection φ) (reason : StatusReason) :
    (connection.beginShutdown reason).finished = connection.finished := by
  have silenced : (connection.silenced reason).finished = connection.finished := by
    rw [silenced_eq]
  unfold beginShutdown
  dsimp only
  split
  · exact silenced
  · have told := (hook_all_serves any_work (connection.silenced reason) .disconnected).served
    have closed := (hook_all_serves any_work ((connection.silenced reason).hookAll .disconnected)
      .closeAll).served
    exact (closed.finished.trans told.finished).trans silenced

end Connection

structure Holdings (φ : Type) where
  connection : Connection φ
  outside : Handle → Nat

namespace Holdings

open Connection (Framed any_work AnyWork)

variable {φ : Type} [ChannelFactory φ] {books : Bookkeeping φ} {normalize : String → Outcome String}
  {start before after later : Holdings φ}

/-- One call on a connection, which may also be one that is given up because the transport never
comes back. Protocol code may lend references to a factory that it calls and take some over, and it
gives back only those that it has. -/
inductive Step (books : Bookkeeping φ) : Holdings φ → Holdings φ → Prop
  | aside (before : Connection φ) (outside : Handle → Nat) (interfaces : List String)
      (registered : Bool) :
      Step books ⟨before, outside⟩ ⟨{ before with interfaces, registered }, outside⟩
  | connect (before : Connection φ) (outside : Handle → Nat) (context : Context) :
      Step books ⟨before, outside⟩ ⟨(before.connect context).connection, outside⟩
  | prepare (before : Connection φ) (outside : Handle → Nat) (context : Context) :
      Step books ⟨before, outside⟩ ⟨(before.prepare context).connection, outside⟩
  | disconnect (before : Connection φ) (outside : Handle → Nat) (context : Context) :
      Step books ⟨before, outside⟩ ⟨(before.disconnect context).connection, outside⟩
  | lose (before : Connection φ) (outside : Handle → Nat) (context : Context) (failure : Failure) :
      Step books ⟨before, outside⟩ ⟨(before.lose context failure).connection, outside⟩
  | requestChannel {before after : Connection φ} {token : Token} (outside : Handle → Nat)
      (request : ChannelRequest) (sender : String)
      (done : before.requestChannel request sender = .ok (token, after)) :
      Step books ⟨before, outside⟩ ⟨after, outside⟩
  | withFactory {α : Type} {before after : Connection φ} {answer : α}
      {lent handed : Handle → Nat} (index : Nat)
      (call : φ → Surroundings → Repositories → Option (FactoryCall φ α))
      (orderly : ∀ factory result, before.factories[index]? = some factory →
        call factory before.surroundings before.repositories = some result →
          ∀ owned, books.owns factory owned →
            result.Orderly books.owns before.repositories.contacts owned lent handed)
      (done : before.withFactory index call = some (answer, after)) :
      Step books ⟨before, lent⟩ ⟨after, handed⟩
  | holdHandles (before : Connection φ) (outside : Handle → Nat) (kind : HandleKind)
      (handles : List Handle) (client : String) :
      Step books ⟨before, outside⟩ ⟨(before.holdHandles kind handles client).2, outside⟩
  | releaseHandles (before : Connection φ) (outside : Handle → Nat) (kind : HandleKind)
      (handles : List Handle) (client : String) :
      Step books ⟨before, outside⟩ ⟨(before.releaseHandles kind handles client).2, outside⟩
  | requestHandles (before : Connection φ) (outside : Handle → Nat) (kind : HandleKind)
      (ids : List String) (client : String) :
      Step books ⟨before, outside⟩ ⟨(before.requestHandles kind ids client).2, outside⟩
  | clientVanished (before : Connection φ) (outside : Handle → Nat) (client : String) :
      Step books ⟨before, outside⟩ ⟨before.clientVanished client, outside⟩
  | work (before : Connection φ) {outside left : Handle → Nat} (repositories : Repositories)
      (dealings : Dealings outside before.repositories.contacts left repositories.contacts) :
      Step books ⟨before, outside⟩ ⟨{ before with repositories }, left⟩

abbrev Run (books : Bookkeeping φ) : Holdings φ → Holdings φ → Prop :=
  Relation.ReflTransGen (Step books)

/-- A connection that was built and not used yet, with contacts in a table. Factories and protocol
code may have taken references before. -/
structure Fresh (books : Bookkeeping φ) (normalize : String → Outcome String)
    (holdings : Holdings φ) : Prop where
  built : Connection.Fresh holdings.connection
  tabled : holdings.connection.repositories.contacts.Tabled normalize
  covered : ∃ total, books.Owning holdings.connection.factories total ∧
    holdings.connection.repositories.contacts.Covers fun key => total key + holdings.outside key

/-- What a step amounts to: a way to connect, a shutdown, or what leaves the life of the connection
and the references that it keeps alone. -/
theorem Step.sort (step : Step books before after) :
    (Framed before.connection after.connection ∧ ∀ own id normalize,
      books.Bears own id normalize before.outside before.connection →
        books.Bears own id normalize after.outside after.connection) ∨
    (before.connection.status = .new ∧
      ∃ context, after = ⟨(before.connection.connect context).connection, before.outside⟩) ∨
    (before.connection.status ≠ .disconnected ∧ ∃ context reason,
      after = ⟨(before.connection.shutdown context reason).connection, before.outside⟩) := by
  -- To connect too late and to shut down again change nothing.
  have connecting : ∀ (connection : Connection φ) (context : Context),
      connection.status = .new ∨ (connection.connect context).connection = connection := by
    intro connection context
    have attempt := connection.connect_attempt context
    generalize connection.connect context = run at attempt ⊢
    cases attempt with
    | again answer old => exact .inr rfl
    | waiting fresh | abandoned fresh reason failure | established fresh => exact .inl fresh
  have leaving : ∀ (connection : Connection φ) (context : Context) (reason : StatusReason),
      connection.status ≠ .disconnected ∨
        (connection.shutdown context reason).connection = connection := by
    intro connection context reason
    by_cases gone : connection.status = .disconnected
    · exact .inr (by rw [Connection.shutdown, if_pos gone])
    · exact .inl gone
  cases step with
  | aside before outside interfaces registered =>
      exact .inl ⟨⟨rfl, rfl, rfl, rfl⟩, fun _ _ _ bears => bears⟩
  | connect before outside context =>
      rcases connecting before context with fresh | same
      · exact .inr (.inl ⟨fresh, context, rfl⟩)
      · rw [same]
        exact .inl ⟨.refl before, fun _ _ _ bears => bears⟩
  | prepare before outside context =>
      rw [(before.prepare_as_connect context).1]
      rcases connecting before context with fresh | same
      · exact .inr (.inl ⟨fresh, context, rfl⟩)
      · rw [same]
        exact .inl ⟨.refl before, fun _ _ _ bears => bears⟩
  | disconnect before outside context =>
      rcases leaving before context .requested with usable | same
      · exact .inr (.inr ⟨usable, context, .requested, rfl⟩)
      · rw [Connection.disconnect, same]
        exact .inl ⟨.refl before, fun _ _ _ bears => bears⟩
  | lose before outside context failure =>
      rcases leaving before context failure.statusReason with usable | same
      · exact .inr (.inr ⟨usable, context, failure.statusReason, rfl⟩)
      · rw [Connection.lose, same]
        exact .inl ⟨.refl before, fun _ _ _ bears => bears⟩
  | requestChannel outside request sender done =>
      have served := (Connection.request_channel_serves any_work done).served
      exact .inl ⟨⟨served.status, served.selfHandle, served.transport, served.finished⟩,
        fun _ _ _ bears => bears.request_channel done⟩
  | withFactory index call orderly done =>
      have serves : Connection.Serves AnyWork [] _ _ :=
        Connection.with_factory_serves (fun _ _ _ => .single trivial) done
      exact .inl ⟨serves.served.framed, fun _ _ _ bears => bears.with_factory done orderly⟩
  | holdHandles before outside kind handles client =>
      exact .inl ⟨before.on_repository_framed kind _,
        fun _ _ _ bears => bears.hold_handles kind handles client⟩
  | releaseHandles before outside kind handles client =>
      exact .inl ⟨before.on_repository_framed kind _,
        fun _ _ _ bears => bears.release_handles kind handles client⟩
  | requestHandles before outside kind ids client =>
      exact .inl ⟨before.on_repository_framed kind _,
        fun _ _ _ bears => bears.request_handles kind ids client⟩
  | clientVanished before outside client =>
      exact .inl ⟨before.client_vanished_framed client, fun _ _ _ bears => bears.client_vanished client⟩
  | work before repositories dealings =>
      exact .inl ⟨⟨rfl, rfl, rfl, rfl⟩, fun _ _ _ bears => bears.work dealings⟩

/-- How the self handle stands while the connection is usable: there is none and nothing is kept
until the connection is up, and then the connection keeps one reference on it. -/
inductive Footing (normalize : String → Outcome String) (connection : Connection φ) :
    (Handle → Nat) → String → Prop
  | rising (id : String) (below : connection.status ≠ .connected)
      (unset : connection.selfHandle = Handle.none) : Footing normalize connection (fun _ => 0) id
  | up {selfId id : String} (connected : connection.status = .connected)
      (set : connection.selfHandle ≠ Handle.none)
      (reached : connection.transport.connecting = some (.ok selfId))
      (normalized : normalize selfId = .ok id) :
      Footing normalize connection (single connection.selfHandle) id

omit [ChannelFactory φ] in
theorem Footing.framed {before after : Connection φ} {own : Handle → Nat} {id : String}
    (footing : Footing normalize before own id) (framed : Framed before after) :
    Footing normalize after own id := by
  cases footing with
  | rising id below unset =>
      exact .rising id (framed.status ▸ below) (framed.selfHandle.trans unset)
  | up connected set reached normalized =>
      rw [← framed.selfHandle] at set ⊢
      exact .up (framed.status.trans connected) set (framed.transport ▸ reached) normalized

structure Upheld (books : Bookkeeping φ) (normalize : String → Outcome String)
    (transport : Transport) (holdings : Holdings φ) : Prop where
  usable : holdings.connection.status ≠ .disconnected →
    holdings.connection.finished = false ∧ holdings.connection.transport = transport ∧
      ∃ own id, Footing normalize holdings.connection own id ∧
        books.Bears own id normalize holdings.outside holdings.connection
  ended : holdings.connection.finished = true → holdings.connection.selfHandle = Handle.none

variable {transport : Transport}

theorem Fresh.upheld (fresh : start.Fresh books normalize) :
    start.Upheld books normalize start.connection.transport := by
  obtain ⟨connection, outside⟩ := start
  obtain ⟨⟨plan, transport, factories, context, built⟩, tabled, total, owning, covers⟩ := fresh
  obtain ⟨names, _, rfl⟩ := Outcome.map_eq_ok.1 built
  have below : ConnectionStatus.new ≠ .connected := by decide
  refine ⟨fun _ => ⟨rfl, rfl, fun _ => 0, "", .rising "" below rfl, total, owning, ?_⟩, nofun⟩
  refine ⟨?_, tabled, fun key kept => absurd kept (Nat.lt_irrefl 0)⟩
  simpa only [Nat.zero_add] using covers

theorem shutdown_upheld (connection : Connection φ) (outside : Handle → Nat)
    (usable : connection.status ≠ .disconnected) (unfinished : connection.finished = false)
    (context : Context) (reason : StatusReason) :
    Upheld books normalize transport
      ⟨(connection.shutdown context reason).connection, outside⟩ := by
  have gone := Connection.shutdown_disconnected any_work connection context reason
  refine ⟨fun usable => absurd gone usable, ?_⟩
  have going := connection.begin_shutdown_unfinished reason
  obtain ⟨closing, released, _, _, same⟩ :=
    (connection.beginShutdown reason).end_shutdown_last context
  unfold Connection.shutdown
  rw [if_neg usable]
  dsimp only
  split
  · intro finished
    rw [going, unfinished] at finished
    cases finished
  · exact fun _ => same ▸ released

theorem attempting_upheld {connection : Connection φ} {outside : Handle → Nat}
    (upheld : Upheld books normalize transport ⟨connection, outside⟩)
    (fresh : connection.status = .new) :
    connection.attempting.status = .connecting ∧ connection.attempting.finished = false ∧
      connection.attempting.transport = transport ∧
      connection.attempting.selfHandle = Handle.none ∧
      ∃ id, books.Bears (fun _ => 0) id normalize outside connection.attempting := by
  have told := connection.change_status_framed .requested
    (show Connection.hookOf? .connecting = some _ from rfl)
  obtain ⟨unfinished, same, own, id, footing, bears⟩ := upheld.usable (by simp [fresh])
  cases footing with
  | rising id _ unset =>
      exact ⟨told.status, told.finished.trans unfinished, told.transport.trans same,
        told.selfHandle.trans unset, id, bears.change_status .connecting .requested⟩
  | up connected =>
      cases fresh.symm.trans connected

theorem connect_upheld {connection : Connection φ} {outside : Handle → Nat}
    (upheld : Upheld books normalize transport ⟨connection, outside⟩)
    (fresh : connection.status = .new) (context : Context) :
    Upheld books normalize transport ⟨(connection.connect context).connection, outside⟩ := by
  obtain ⟨connecting, unfinished, same, unset, id, bears⟩ := attempting_upheld upheld fresh
  obtain ⟨_, started, _⟩ := upheld.usable (by simp [fresh])
  have usable : connection.attempting.status ≠ .disconnected := by simp [connecting]
  have attempt := connection.connect_attempt context
  generalize connection.connect context = run at attempt ⊢
  cases attempt with
  | again answer old => exact absurd fresh old
  | waiting fresh =>
      refine ⟨fun _ => ⟨unfinished, same, _, id, .rising id ?_ unset, bears⟩, fun _ => unset⟩
      change connection.attempting.status ≠ .connected
      simp [connecting]
  | abandoned fresh reason failure =>
      exact shutdown_upheld connection.attempting outside usable unfinished context reason
  | @established selfId handle contacts fresh reached interned =>
      obtain ⟨total, owning, secured⟩ := bears
      obtain ⟨normal, normalized, positive, kept⟩ :=
        Repository.secured_intern secured.covers secured.tabled interned
      -- The reference taken here is the one that all later steps leave in place.
      let known := { connection.attempting with
        repositories := { connection.attempting.repositories with contacts }
        selfHandle := handle }
      have told := known.change_status_framed .requested
        (show Connection.hookOf? .connected = some _ from rfl)
      have borne : books.Bears (single handle) normal normalize outside known := by
        refine ⟨total, owning, ?_⟩
        simpa only [Nat.zero_add] using kept
      have through : connection.attempting.transport.connecting = some (.ok selfId) := by
        rw [same, ← started]
        exact reached
      have footing : Footing normalize { known with status := .connected } (single handle) normal :=
        .up rfl positive through normalized
      refine ⟨fun _ => ⟨told.finished.trans unfinished, told.transport.trans same, _, normal,
        footing.framed told, borne.change_status .connected .requested⟩, fun finished => ?_⟩
      cases (told.finished.trans unfinished).symm.trans finished

theorem Step.upheld (step : Step books before after)
    (upheld : before.Upheld books normalize transport) :
    after.Upheld books normalize transport := by
  rcases step.sort with ⟨framed, bears⟩ | ⟨fresh, context, rfl⟩ | ⟨usable, context, reason, rfl⟩
  · refine ⟨fun usable => ?_, fun finished => ?_⟩
    · rw [framed.status] at usable
      obtain ⟨unfinished, same, own, id, footing, borne⟩ := upheld.usable usable
      exact ⟨framed.finished.trans unfinished, framed.transport.trans same, own, id,
        footing.framed framed, bears own id normalize borne⟩
    · rw [framed.finished] at finished
      exact framed.selfHandle.trans (upheld.ended finished)
  · exact connect_upheld upheld fresh context
  · have unfinished := (upheld.usable usable).1
    exact shutdown_upheld before.connection before.outside usable unfinished context reason

theorem Run.upheld (run : Run books start after) (fresh : start.Fresh books normalize) :
    after.Upheld books normalize start.connection.transport := by
  induction run with
  | refl => exact fresh.upheld
  | tail _ step induction => exact step.upheld induction

/-- A connection that is up keeps its self handle as long as it stays up, and once it is disconnected
it is so for good. -/
theorem Run.onward (run : Run books start after) (connected : start.connection.status = .connected) :
    after.connection.status = .disconnected ∨
      (after.connection.status = .connected ∧
        after.connection.selfHandle = start.connection.selfHandle) := by
  induction run with
  | refl => exact .inr ⟨connected, rfl⟩
  | tail _ step induction =>
      rcases step.sort with ⟨framed, _⟩ | ⟨fresh, _⟩ | ⟨_, context, reason, rfl⟩
      · rw [framed.status, framed.selfHandle]
        exact induction
      · rw [fresh] at induction
        rcases induction with gone | ⟨up, _⟩
        · cases gone
        · cases up
      · exact .inl (Connection.shutdown_disconnected any_work _ context reason)

/-! ### A connection with a roster -/

section Rehearsed

variable {β : Type} [RosterBackend β]

def told (place : Nat) (use : RosterUse β) (connection : Connection (Roster β)) :
    Connection (Roster β) :=
  ((connection.withFactory place (Lodging.own.visit use)).map Prod.snd).getD connection

/-- Whatever a roster is told, it gives back only references of its own. -/
theorem told_run (place : Nat) (use : RosterUse β) (connection : Connection (Roster β))
    (outside : Handle → Nat) :
    Run Roster.books ⟨connection, outside⟩ ⟨told place use connection, outside⟩ := by
  unfold told
  cases done : connection.withFactory place (Lodging.own.visit use) with
  | none => exact .refl
  | some result =>
      have orderly := fun factory result (_ : connection.factories[place]? = some factory)
          (called : Lodging.own.visit use factory connection.surroundings connection.repositories
            = some result) owned (owns : factory.Owns owned) =>
        Roster.visit_orderly called owns outside
      exact .single (.withFactory place _ orderly done)

open Rehearsal (StandInBackend)

/-- The local user is on its own roster. -/
def rehearsedStart : Holdings (Roster StandInBackend) where
  connection := ((Connection.build { manager := "example", protocol := "example" }
    { uniqueName := some "me", connecting := some (.ok "me@example.com") }
    [{ backend := { contacts := [1], states := [(1, { subscribe := .yes, publish := .ask })] } }]
    .start).1.toOption).get (by decide)
  outside := fun _ => 0

/-- The connection is up, its roster has arrived with the local user on three of its lists, and a
client has asked for the self handle. -/
def rehearsedBusy : Connection (Roster StandInBackend) :=
  ((told 0 .listReceived (rehearsedStart.connection.connect .start).connection).requestHandles
    .contact ["me@example.com"] ":1.2").2

/-- The client has given the handle back and has left, and the roster has lost its contact. -/
def rehearsedAfter : Holdings (Roster StandInBackend) where
  connection := told 0 (.contactsChanged [] [1]) (told 0 (.backendChanged {})
    ((rehearsedBusy.releaseHandles .contact [1] ":1.2").2.clientVanished ":1.2"))
  outside := fun _ => 0

theorem rehearsed_start_fresh :
    rehearsedStart.Fresh Roster.books DynamicRepository.plainIdentifier where
  built := ⟨{ manager := "example", protocol := "example" },
    { uniqueName := some "me", connecting := some (.ok "me@example.com") }, _, .start, rfl⟩
  tabled := ⟨_, rfl, rfl⟩
  covered := ⟨_, .cons (Roster.new_owns _) .nil,
    .inr ⟨DynamicRepository.settled_new .contact _, fun _ => Nat.zero_le _⟩⟩

theorem rehearsed_run : Run Roster.books rehearsedStart rehearsedAfter := by
  have connected : Run Roster.books rehearsedStart
      ⟨(rehearsedStart.connection.connect .start).connection, fun _ => 0⟩ :=
    .single (.connect rehearsedStart.connection _ .start)
  have arrived := connected.trans (told_run 0 .listReceived _ _)
  have asked : Run Roster.books rehearsedStart ⟨rehearsedBusy, fun _ => 0⟩ :=
    arrived.tail (.requestHandles _ _ .contact ["me@example.com"] ":1.2")
  have released := asked.tail (.releaseHandles _ _ .contact [1] ":1.2")
  have left := released.tail (.clientVanished _ _ ":1.2")
  have changed := left.trans (told_run 0 (.backendChanged {}) _ _)
  exact changed.trans (told_run 0 (.contactsChanged [] [1]) _ _)

end Rehearsed

/-! ### The self handle -/

/-- As long as factories and protocol code give back only references that they took: in every state
that a run leads to and in which the connection is up, the self handle is not zero, it is live and
stands for the normal form of what the transport reported, and it stays the same as long as the
connection is up. After a shutdown it is zero. -/
theorem self_handle_kept (fresh : start.Fresh books normalize) (run : Run books start after) :
    (after.connection.status = .connected →
      ∃ selfId id table,
        start.connection.transport.connecting = some (.ok selfId) ∧ normalize selfId = .ok id ∧
        after.connection.repositories.contacts = .dynamic table ∧ table.normalize = normalize ∧
        after.connection.selfHandle ≠ Handle.none ∧
        table.isValid after.connection.selfHandle = true ∧
        table.inspect after.connection.selfHandle = .ok id ∧
        ∀ later, Run books after later → later.connection.status = .connected →
          later.connection.selfHandle = after.connection.selfHandle) ∧
    (after.connection.finished = true → after.connection.selfHandle = Handle.none) ∧
    ∀ context reason, after.connection.status ≠ .disconnected →
      (after.connection.shutdown context reason).result.isSome = true →
        (after.connection.shutdown context reason).connection.finished = true ∧
          (after.connection.shutdown context reason).connection.selfHandle = Handle.none := by
  have upheld := run.upheld fresh
  refine ⟨fun connected => ?_, upheld.ended, fun context reason usable completed => ?_⟩
  · obtain ⟨_, same, own, id, footing, total, _, secured⟩ := upheld.usable (by simp [connected])
    cases footing with
    | rising id below => exact absurd connected below
    | @up selfId _ _ set reached normalized =>
        have kept : 0 < single after.connection.selfHandle after.connection.selfHandle := by
          simp [single]
        have named := secured.named _ kept
        have valid := secured.valid kept
        obtain ⟨table, contacts, stored⟩ := secured.tabled
        rw [contacts] at named valid
        refine ⟨selfId, id, table, same ▸ reached, normalized, contacts, stored, set, valid, named,
          fun later further up => ?_⟩
        rcases Run.onward further connected with gone | ⟨_, stable⟩
        · rw [gone] at up
          cases up
        · exact stable
  · have ended := Connection.shutdown_ended any_work _ context reason usable completed
    exact ⟨ended.finished, ended.selfHandle⟩

theorem self_handle_kept_rehearsed :
    rehearsedStart.Fresh Roster.books DynamicRepository.plainIdentifier ∧
      Run Roster.books rehearsedStart rehearsedAfter ∧
      rehearsedBusy.repositories.contacts.references 1 = 4 ∧
      rehearsedAfter.connection.repositories.contacts.references 1 = 1 ∧
      rehearsedAfter.connection.status = .connected ∧ rehearsedAfter.connection.selfHandle = 1 ∧
      ∃ table, rehearsedAfter.connection.repositories.contacts = .dynamic table ∧
        table.isValid 1 = true ∧ table.inspect 1 = .ok "me@example.com" := by
  have reckoned : rehearsedBusy.repositories.contacts.references 1 = 4 ∧
      rehearsedAfter.connection.repositories.contacts.references 1 = 1 ∧
      rehearsedAfter.connection.status = .connected ∧
      rehearsedAfter.connection.selfHandle = 1 := by decide +kernel
  obtain ⟨busy, quiet, up, first⟩ := reckoned
  obtain ⟨selfId, id, table, reached, normalized, contacts, _, _, valid, named, _⟩ :=
    (self_handle_kept rehearsed_start_fresh rehearsed_run).1 up
  cases reached
  cases normalized
  rw [first] at valid named
  exact ⟨rehearsed_start_fresh, rehearsed_run, busy, quiet, up, first, table, contacts, valid, named⟩

end Holdings

end ConnectionManager
