import ConnectionManager.Proofs.Manager.Process
import ConnectionManager.Proofs.Manager.Reaping

/-!
What a request for a connection does. It begins with a look at the messages of watchers, which strikes
the connections that they name off the list (`Cleared`). If it is refused after that, nothing has
changed but for the counter behind the names of connections without a name of their own
(`Untouched`). Otherwise one connection has been made from the checked parameters, which is listed
under its name, watched and announced (`Granted`).

It owns its name, with one exception. A connection that is still listed under this name, though it
has lost it on the bus, is replaced after the name was claimed again, and takes it along. Where the
bus takes no names away from the process this does not happen (`Process.granted_names_owned`).
-/

namespace ConnectionManager

namespace ManagedConnection

variable {φ : Type} {managed : ManagedConnection φ} {context : Context} {name : String}

theorem forget_context (managed : ManagedConnection φ) (context : Context) :
    (managed.forget context).2 = if managed.shared then context
      else managed.connection.discard context := by
  rcases release_if_gone_cases { managed with forgotten := true } context with
    ⟨gone, _, _, _, _, next⟩ | ⟨kept, same⟩
  · have alone : managed.shared = false := by simpa [isGone] using gone
    simpa [forget, alone] using next
  · have shared : managed.shared = true := by simpa [isGone] using kept
    rw [forget, same, if_pos shared]

theorem forget_elsewhere (other : name ≠ managed.busName) :
    (managed.forget context).2.bus.owners.find? name = context.bus.owners.find? name := by
  rw [forget_context]
  split
  · rfl
  · exact Connection.discard_elsewhere other

theorem forget_changes_bus (managed : ManagedConnection φ) (context : Context) :
    (managed.forget context).2 = { context with bus := (managed.forget context).2.bus } := by
  rw [forget_context]
  split
  · rfl
  · exact managed.connection.discard_context context

end ManagedConnection

namespace Manager

variable {φ : Type} {manager before middle after : Manager φ} {context next last : Context}
  {managed : ManagedConnection φ} {place : Nat} {name : String} {messages : List String}

/-! ### Events and consultations -/

@[simp]
theorem events_announce (manager : Manager φ) (event : ManagerEvent) :
    (manager.announceEvent event).events = manager.events ++ [event] := by
  simp [events, announceEvent, record, Journal.emit]

@[simp]
theorem events_consult (manager : Manager φ) (protocol : String) (parameters : Dictionary) :
    (manager.record (.consulted protocol parameters)).events = manager.events := by
  simp [events, record, Journal.emit]

@[simp]
theorem consultations_announce (manager : Manager φ) (event : ManagerEvent) :
    (manager.announceEvent event).consultations = manager.consultations := by
  simp [consultations, announceEvent, record, Journal.emit]

@[simp]
theorem consultations_consult (manager : Manager φ) (protocol : String) (parameters : Dictionary) :
    (manager.record (.consulted protocol parameters)).consultations
      = manager.consultations ++ [parameters] := by
  simp [consultations, record, Journal.emit]

/-! ### The list of connections at any time -/

namespace Listed

theorem modify (listed : manager.Listed) (place : Nat)
    {change : ManagedConnection φ → ManagedConnection φ}
    (busName : ∀ managed, (change managed).busName = managed.busName)
    (forgotten : ∀ managed, (change managed).forgotten = managed.forgotten) :
    Listed { manager with made := manager.made.modify place change } := by
  rw [List.modify_eq_set_getElem?]
  cases found : manager.made[place]? with
  | none => exact listed
  | some managed => exact listed.set found (busName managed) (forgotten managed)

theorem reap (listed : manager.Listed) (context : Context) (name : String) :
    (manager.reap context name).1.Listed := by
  unfold Manager.reap
  split
  · exact listed
  · rename_i place known
    have gone := (listed.erase name).letGo context (listed.erased known)
    dsimp only
    split <;> exact gone

theorem poll (listed : manager.Listed) (context : Context) : (manager.poll context).1.Listed :=
  List.foldlRecOn manager.mailbox _ (motive := fun state : Manager φ × Context => state.1.Listed)
    listed fun state kept name _ => Listed.reap kept state.2 name

theorem settle (listed : manager.Listed) (context : Context) :
    (manager.settle context).1.Listed := by
  have sent : ∀ {manager : Manager φ}, manager.Listed → manager.deliverAll.Listed := id
  exact (sent ((sent listed).poll context)).poll _

theorem adopt (listed : manager.Listed) (connection : Connection φ) (protocol : String)
    (context : Context) : (manager.adopt connection protocol context).1.Listed := by
  have inserted := listed.insert connection
    (manager.watchers ++ [⟨connection.names.busName, manager.made.length⟩])
  unfold Manager.adopt
  dsimp only
  split
  · rename_i replaced known
    exact inserted.letGo context (listed.replaced known)
  · exact inserted

theorem openConnection (listed : manager.Listed) (plugin : ProtocolPlugin φ) (protocol : String)
    (parameters : Dictionary) (context : Context) :
    (manager.openConnection plugin protocol parameters context).manager.Listed := by
  unfold Manager.openConnection
  split
  · exact listed
  · split
    · exact listed
    · split
      · exact listed
      · exact listed.adopt _ protocol _

theorem requestConnection (listed : manager.Listed) (protocol : String) (supplied : Dictionary)
    (context : Context) : (manager.requestConnection protocol supplied context).manager.Listed := by
  have looked := listed.poll context
  unfold Manager.requestConnection
  dsimp only
  split
  · exact looked
  · split
    · exact looked
    · have consulted : ∀ act, Listed ((manager.poll context).1.record act) := fun _ => looked
      exact (consulted _).openConnection _ protocol _ _

theorem clientVanished (listed : manager.Listed) (client : String) :
    (manager.clientVanished client).Listed :=
  List.foldlRecOn manager.connections.values _
    (motive := fun made => Listed { manager with made }) listed fun _ kept place _ =>
      kept.modify place (fun managed => by
        unfold ManagedConnection.busName ManagedConnection.update Connection.clientVanished
        dsimp only
        split <;> rfl) fun _ => rfl

variable [ChannelFactory φ]

theorem disconnectAll (listed : manager.Listed) (grace : Nat) (context : Context) :
    (manager.disconnectAll grace context).1.Listed := by
  have begun : (manager.connections.values.foldl (beginAt grace) manager).Listed := by
    refine List.foldlRecOn manager.connections.values _ (motive := Listed) listed
      fun _ kept place _ => kept.modify place (fun managed => ?_) fun _ => rfl
    unfold ManagedConnection.busName ManagedConnection.update
    dsimp only
    split
    · rfl
    · exact congrArg BusNames.busName (managed.connection.begin_shutdown_stays .requested).names
  refine List.foldlRecOn _ _ (motive := fun state : Manager φ × Context => state.1.Listed) begun
    fun state kept entry _ => ?_
  unfold disconnectAt
  split
  · exact kept
  · rename_i managed found
    exact kept.set found (congrArg BusNames.busName
      (Connection.shutdown_conducted managed.connection state.2 .requested).names) rfl

theorem shutdown (listed : manager.Listed) (context : Context) :
    (manager.shutdown context).manager.Listed := by
  have left : (manager.leave manager.config.shutdownGrace context).manager.Listed := by
    unfold leave
    dsimp only
    split
    · exact listed.settle context
    · exact (listed.disconnectAll _ context).settle _
  unfold Manager.shutdown releaseName
  dsimp only
  split <;> exact left

end Listed

section Reached

variable [ChannelFactory φ]

/-- Whatever may have become of a manager, on whatever bus. -/
inductive Reached : Manager φ → Prop
  | start (config : ManagerConfig) : Reached { config }
  | turn {before after : Manager φ} {context next : Context} (reached : Reached before)
      (turn : before.Turn context after next) : Reached after
  | adopt {manager : Manager φ} (reached : Reached manager) (connection : Connection φ)
      (protocol : String) (context : Context) :
      Reached (manager.adopt connection protocol context).1

theorem Turn.listed (turn : before.Turn context after next) (listed : before.Listed) :
    after.Listed := by
  cases turn with
  | addProtocol => exact listed
  | register =>
      unfold Manager.register
      split
      · exact listed
      · split
        · exact listed
        · split <;> exact listed
  | request protocol supplied => exact listed.requestConnection protocol supplied context
  | conduct found _ turn => exact listed.set found (congrArg BusNames.busName turn.conducted.names) rfl
  | clientVanished client => exact listed.clientVanished client
  | share busName =>
      unfold Manager.share
      split
      · exact listed
      · exact listed.modify _ (fun _ => rfl) fun _ => rfl
  | unshare place =>
      unfold Manager.unshare changeAt
      split
      · exact listed
      · rename_i managed found
        obtain ⟨change, _, forgotten⟩ := managed.unshare_changed context
        exact listed.set found change.busName forgotten
  | deliver index =>
      unfold Manager.deliver
      split
      · exact listed
      · split <;> exact listed
  | reap busName => exact listed.reap context busName
  | poll => exact listed.poll context
  | settle => exact listed.settle context
  | releaseName =>
      unfold Manager.releaseName
      split <;> exact listed
  | shutdown => exact listed.shutdown context

theorem Reached.listed (reached : manager.Reached) : manager.Listed := by
  induction reached with
  | start => exact fun _ _ known => absurd known (by simp)
  | turn _ turn listed => exact turn.listed listed
  | adopt _ connection protocol context listed => exact listed.adopt connection protocol context

end Reached

/-! ### Looking at messages -/

/-- What a look at messages does. What they name is struck off the list, and only the names of what
is struck off can be given back. That there are no more connections is said once, if nothing is left. -/
structure Cleared (messages : List String) (before : Manager φ) (context : Context)
    (after : Manager φ) (next : Context) : Prop where
  connections : ∀ name, after.connections.find? name
    = if name ∈ messages then none else before.connections.find? name
  events : after.events = before.events ∨
    before.connections.isEmpty = false ∧ after.connections.isEmpty = true ∧
      after.events = before.events ++ [.noMoreConnections]
  rest : after = { before with
    connections := after.connections, made := after.made, acts := after.acts }
  consultations : after.consultations = before.consultations
  owners : ∀ name, name ∉ messages → next.bus.owners.find? name = context.bus.owners.find? name
  context : next = { context with bus := next.bus }

theorem Cleared.refl (manager : Manager φ) (context : Context) :
    Cleared [] manager context manager context :=
  ⟨fun _ => by simp, .inl rfl, rfl, rfl, fun _ _ => rfl, rfl⟩

theorem Cleared.emptied (cleared : Cleared messages before context after next)
    (nothing : before.connections.isEmpty = true) : after.connections.isEmpty = true := by
  rw [Catalog.is_empty_iff] at nothing ⊢
  intro name
  rw [cleared.connections]
  split
  · rfl
  · exact nothing name

theorem Cleared.trans {more : List String} (first : Cleared messages before context middle next)
    (second : Cleared more middle next after last) :
    Cleared (messages ++ more) before context after last := by
  constructor
  · intro name
    rw [second.connections, first.connections]
    by_cases early : name ∈ messages <;> by_cases late : name ∈ more <;> simp [early, late]
  · rcases second.events with quiet | ⟨listed, nothing, told⟩
    · rcases first.events with silent | ⟨listed, nothing, told⟩
      · exact .inl (quiet.trans silent)
      · exact .inr ⟨listed, second.emptied nothing, quiet.trans told⟩
    · -- Nothing was left after the first messages if that was said.
      rcases first.events with silent | ⟨_, early, _⟩
      · refine .inr ⟨?_, nothing, silent ▸ told⟩
        by_contra empty
        rw [first.emptied (by simpa using empty)] at listed
        cases listed
      · rw [early] at listed
        cases listed
  · rw [second.rest, first.rest]
  · exact second.consultations.trans first.consultations
  · intro name neither
    obtain ⟨early, late⟩ := not_or.1 (mt List.mem_append.2 neither)
    exact (second.owners name late).trans (first.owners name early)
  · exact second.context.trans (by rw [first.context])

theorem let_go_context (manager : Manager φ) (context : Context)
    (found : manager.made[place]? = some managed) :
    (manager.letGo context place).2 = (managed.forget context).2 := by
  unfold letGo changeAt
  rw [found]

theorem reap_cleared (listed : manager.Listed) (context : Context) (name : String) :
    Cleared [name] manager context (manager.reap context name).1 (manager.reap context name).2 := by
  unfold reap
  split
  · rename_i unknown
    refine ⟨fun other => ?_, .inl rfl, rfl, rfl, fun _ _ => rfl, rfl⟩
    split
    · rename_i same
      rwa [List.mem_singleton.1 same]
    · rfl
  · rename_i place known
    obtain ⟨managed, found, called, _⟩ := listed known
    obtain ⟨made, gone, _⟩ :=
      let_go_eq { manager with connections := manager.connections.erase name } context place
    have bus := let_go_context { manager with connections := manager.connections.erase name }
      context found
    have nonempty : manager.connections.isEmpty = false := by
      by_contra empty
      rw [(Catalog.is_empty_iff _).1 (by simpa using empty)] at known
      cases known
    dsimp only
    rw [gone, bus]
    refine ⟨?_, ?_, ?_, ?_, fun other apart => ?_, managed.forget_changes_bus context⟩
    · intro other
      split <;> simp [announceEvent, record, Catalog.find_erase]
    · split
      · rename_i nothing
        exact .inr ⟨nonempty, nothing, events_announce _ _⟩
      · exact .inl rfl
    · split <;> rfl
    · split
      · exact consultations_announce _ _
      · rfl
    · refine ManagedConnection.forget_elsewhere fun same => apart ?_
      rw [same, called]
      exact List.mem_singleton_self name

theorem reap_each_cleared (messages : List String) (listed : manager.Listed) (context : Context) :
    let looked := messages.foldl (fun state name => state.1.reap state.2 name) (manager, context)
    Cleared messages manager context looked.1 looked.2 := by
  induction messages generalizing manager context with
  | nil => exact .refl manager context
  | cons name rest induction =>
      have first := reap_cleared listed context name
      exact first.trans (induction (listed.reap context name) (manager.reap context name).2)

theorem poll_cleared (listed : manager.Listed) (context : Context) :
    Cleared manager.mailbox { manager with mailbox := [] } context (manager.poll context).1
      (manager.poll context).2 :=
  @reap_each_cleared _ { manager with mailbox := [] } manager.mailbox listed context

/-! ### Taking a connection over -/

def listed? (manager : Manager φ) (name : String) : Option (ManagedConnection φ) :=
  (manager.connections.find? name).bind fun place => manager.made[place]?

/-- The connection that is listed under a name would give the name back if it went away, and would go
away if it were replaced. -/
def Clings (manager : Manager φ) (name : String) : Prop :=
  ∃ managed, manager.listed? name = some managed ∧ managed.connection.registered = true ∧
    managed.shared = false

/-- What becomes of the manager when it takes a connection over. -/
theorem adopt_eq (listed : manager.Listed) (connection : Connection φ) (protocol : String)
    (context : Context) : ∃ made,
      (manager.adopt connection protocol context).1 = ({ manager with
          made
          watchers := manager.watchers ++ [⟨connection.names.busName, manager.made.length⟩]
          connections := manager.connections.insert connection.names.busName manager.made.length } :
        Manager φ).announceEvent (.newConnection connection.names protocol) ∧
      made[manager.made.length]? = some { connection } := by
  have last : (manager.made ++ [{ connection : ManagedConnection φ }])[manager.made.length]?
      = some { connection } := List.getElem?_concat_length
  unfold adopt
  dsimp only
  split
  · rename_i replaced known
    obtain ⟨managed, found, _⟩ := listed known
    have below := (List.getElem?_eq_some_iff.1 found).1
    unfold letGo changeAt
    dsimp only
    rw [List.getElem?_append_left below, found]
    exact ⟨_, rfl, by rw [List.getElem?_set_ne (by omega), last]⟩
  · exact ⟨_, rfl, last⟩

theorem adopt_context (listed : manager.Listed) (connection : Connection φ) (protocol : String)
    (context : Context) :
    (manager.listed? connection.names.busName = none ∧
      (manager.adopt connection protocol context).2 = context) ∨
    ∃ managed, manager.listed? connection.names.busName = some managed ∧
      managed.busName = connection.names.busName ∧
      (manager.adopt connection protocol context).2 = (managed.forget context).2 := by
  unfold adopt listed?
  dsimp only
  cases known : manager.connections.find? connection.names.busName with
  | none => exact .inl ⟨rfl, rfl⟩
  | some replaced =>
      obtain ⟨managed, found, called, _⟩ := listed known
      have below := (List.getElem?_eq_some_iff.1 found).1
      refine .inr ⟨managed, found, called, let_go_context _ context ?_⟩
      rw [List.getElem?_append_left below, found]

theorem adopt_elsewhere (listed : manager.Listed) (connection : Connection φ) (protocol : String)
    (context : Context) (other : name ≠ connection.names.busName) :
    (manager.adopt connection protocol context).2.bus.owners.find? name
      = context.bus.owners.find? name := by
  rcases manager.adopt_context listed connection protocol context with
    ⟨_, same⟩ | ⟨managed, _, called, same⟩
  · rw [same]
  · rw [same, ManagedConnection.forget_elsewhere (called.symm ▸ other)]

theorem adopt_owns (listed : manager.Listed) (connection : Connection φ) (protocol : String)
    (owned : context.Owns connection.names.busName) :
    (manager.adopt connection protocol context).2.Owns connection.names.busName
      ↔ ¬ manager.Clings connection.names.busName := by
  rcases manager.adopt_context listed connection protocol context with
    ⟨nothing, same⟩ | ⟨managed, standing, called, same⟩
  · rw [same]
    refine ⟨fun _ ⟨managed, standing, _⟩ => ?_, fun _ => owned⟩
    rw [nothing] at standing
    cases standing
  · have clings : manager.Clings connection.names.busName ↔
        managed.connection.registered = true ∧ managed.shared = false := by
      simp [Clings, standing]
    rw [same, clings, ManagedConnection.forget_context, Connection.discard]
    cases shared : managed.shared with
    | true => simpa using owned
    | false =>
        cases registered : managed.connection.registered with
        | false => simpa using owned
        | true =>
            have mine : context.Owns managed.busName := called.symm ▸ owned
            have released := managed.connection.names.find_release context managed.busName
            rw [if_pos ⟨rfl, mine⟩, called] at released
            simp [Context.Owns, released]

theorem Listed.clings_held (listed : manager.Listed) (clings : manager.Clings name) :
    0 < manager.held name := by
  obtain ⟨managed, standing, registered, _⟩ := clings
  obtain ⟨place, known, found⟩ := Option.bind_eq_some_iff.1 standing
  obtain ⟨_, present, called, _⟩ := listed known
  rw [found] at present
  cases present
  obtain ⟨front, back, parts⟩ := List.append_of_mem (List.mem_of_getElem? found)
  have one : managed.connection.held name = 1 := by
    rw [Connection.held_registered registered, ← called]
    exact managed.connection.names.held_self
  rw [held, parts, held_by_all_middle]
  simp only [Pi.add_apply, one]
  omega

/-! ### Requests -/

/-- Nothing has changed but for the counter of connections without a name of their own, and for the
protocols that have been consulted. -/
structure Untouched (before : Manager φ) (context : Context) (after : Manager φ) (next : Context) :
    Prop where
  manager : after = { before with acts := after.acts }
  events : after.events = before.events
  context : next = context ∨ next = context.nextAnonymous.2

/-- A connection has been made from the parameters as they were checked, and taken care of. -/
structure Granted (before : Manager φ) (context : Context) (protocol : String)
    (supplied : Dictionary) (names : BusNames) (after : Manager φ) (next : Context) : Prop where
  connection : ∃ plugin parameters account connection counted,
    before.protocols.find? protocol = some plugin ∧
    Parameter.validate plugin.descriptor.parameters supplied = .ok parameters ∧
    after.consultations = before.consultations ++ [parameters] ∧
    plugin.account parameters = .ok account ∧
    Connection.build (before.plan protocol account) account.transport account.factories context
      = (.ok connection, counted) ∧
    connection.names = names ∧ connection.status = .new ∧
    after.made[before.made.length]? = some { connection := { connection with registered := true } }
  connections : after.connections = before.connections.insert names.busName before.made.length
  watchers : after.watchers = before.watchers ++ [⟨names.busName, before.made.length⟩]
  events : after.events = before.events ++ [.newConnection names protocol]
  unowned : context.bus.owners.find? names.busName = none
  owned : next.Owns names.busName ↔ ¬ before.Clings names.busName
  others : ∀ name, name ≠ names.busName →
    next.bus.owners.find? name = context.bus.owners.find? name

/-- A connection is opened completely or not at all. -/
theorem open_connection_cases (manager : Manager φ) (plugin : ProtocolPlugin φ) (protocol : String)
    (parameters : Dictionary) (context : Context) :
    let call := manager.openConnection plugin protocol parameters context
    (∃ failure, call.answer = .error failure ∧ call.manager = manager ∧
      (call.context = context ∨ call.context = context.nextAnonymous.2)) ∨
    ∃ account connection counted claimed, plugin.account parameters = .ok account ∧
      Connection.build (manager.plan protocol account) account.transport account.factories context
        = (.ok connection, counted) ∧
      connection.names.claim counted = (.ok (), claimed) ∧
      call.answer = .ok connection.names ∧
      call.manager = (manager.adopt { connection with registered := true } protocol claimed).1 ∧
      call.context = (manager.adopt { connection with registered := true } protocol claimed).2 := by
  unfold openConnection
  split
  · exact .inl ⟨_, rfl, rfl, .inl rfl⟩
  · rename_i account asked
    split
    · rename_i failure next failed
      exact .inl ⟨failure, rfl, rfl, Connection.build_counts failed⟩
    · rename_i connection counted built
      split
      · rename_i failure last refused
        rw [Connection.register_refused refused]
        exact .inl ⟨failure, rfl, rfl, Connection.build_counts built⟩
      · rename_i registered claimed done
        obtain ⟨_, rfl, taken⟩ := Connection.register_eq_ok done
        exact .inr ⟨account, connection, counted, claimed, asked, built, taken, rfl, rfl, rfl⟩

theorem Granted.of_adopted (listed : manager.Listed) {protocol : String}
    {plugin : ProtocolPlugin φ} {supplied parameters : Dictionary} {account : Account φ}
    {connection : Connection φ} {counted claimed : Context}
    (served : manager.protocols.find? protocol = some plugin)
    (checked : Parameter.validate plugin.descriptor.parameters supplied = .ok parameters)
    (asked : plugin.account parameters = .ok account)
    (built : Connection.build (manager.plan protocol account) account.transport account.factories
      context = (.ok connection, counted))
    (taken : connection.names.claim counted = (.ok (), claimed)) :
    Granted manager context protocol supplied connection.names
      ((manager.record (.consulted protocol parameters)).adopt { connection with registered := true }
        protocol claimed).1
      ((manager.record (.consulted protocol parameters)).adopt { connection with registered := true }
        protocol claimed).2 := by
  have known : (manager.record (.consulted protocol parameters)).Listed := listed
  have bus := Connection.build_bus built
  obtain ⟨unowned, _, own, owners⟩ := BusNames.claim_eq_ok taken
  rw [bus] at unowned own owners
  have owned : claimed.Owns connection.names.busName := by
    simp [Context.Owns, own, owners, Catalog.find_insert]
  obtain ⟨made, adopted, last⟩ :=
    adopt_eq known { connection with registered := true } protocol claimed
  have fresh := (Connection.build_fresh (congrArg Prod.fst built)).1
  constructor
  · refine ⟨plugin, parameters, account, connection, counted, served, checked, ?_, asked, built, rfl,
      fresh, ?_⟩
    · rw [adopted, consultations_announce]
      exact consultations_consult manager protocol parameters
    · rw [adopted]
      exact last
  · rw [adopted]
    rfl
  · rw [adopted]
    rfl
  · rw [adopted, events_announce]
    exact congrArg (· ++ _) (events_consult manager protocol parameters)
  · exact unowned
  · exact adopt_owns known _ protocol owned
  · intro name other
    rw [adopt_elsewhere known { connection with registered := true } protocol claimed other, owners,
      Catalog.find_insert, if_neg other]

/-- A request is refused and nothing has changed since the look at the messages, or it is granted. -/
theorem request_connection_cases (listed : manager.Listed) (protocol : String)
    (supplied : Dictionary) (context : Context) :
    let polled := manager.poll context
    let call := manager.requestConnection protocol supplied context
    (∃ failure, call.answer = .error failure ∧
      Untouched polled.1 polled.2 call.manager call.context) ∨
    ∃ names, call.answer = .ok names ∧
      Granted polled.1 polled.2 protocol supplied names call.manager call.context := by
  dsimp only
  unfold requestConnection
  dsimp only
  split
  · exact .inl ⟨_, rfl, rfl, rfl, .inl rfl⟩
  · rename_i plugin served
    split
    · exact .inl ⟨_, rfl, rfl, rfl, .inl rfl⟩
    · rename_i parameters checked
      rcases open_connection_cases ((manager.poll context).1.record (.consulted protocol parameters))
          plugin protocol parameters (manager.poll context).2 with
        ⟨failure, refused, same, counts⟩ |
        ⟨account, connection, counted, claimed, asked, built, taken, answer, after, bus⟩
      · refine .inl ⟨failure, refused, ?_, ?_, counts⟩
        · rw [same]
          rfl
        · rw [same]
          exact events_consult _ protocol parameters
      · have found : (manager.poll context).1.protocols.find? protocol = some plugin := by
          unfold Manager.plugin at served
          split at served
          · rename_i known
            cases served
            exact known
          · cases served
        rw [answer, after, bus]
        exact .inr ⟨connection.names, rfl,
          .of_adopted (listed.poll context) found checked asked built taken⟩

/-- A request for a connection that fails has changed nothing since the look at the messages, except
that a number may have been taken. One that succeeds has made one new connection from the checked
parameters, which is listed, watched and announced once, and which owns the name that is returned
unless the connection that was listed under it before takes the name along. -/
theorem request_all_or_nothing [ChannelFactory φ] (reached : manager.Reached) (protocol : String)
    (supplied : Dictionary) (context : Context) :
    let polled := manager.poll context
    let call := manager.requestConnection protocol supplied context
    Cleared manager.mailbox { manager with mailbox := [] } context polled.1 polled.2 ∧
      (∀ failure, call.answer = .error failure →
        Untouched polled.1 polled.2 call.manager call.context) ∧
      ∀ names, call.answer = .ok names →
        Granted polled.1 polled.2 protocol supplied names call.manager call.context := by
  have cleared := poll_cleared reached.listed context
  rcases request_connection_cases reached.listed protocol supplied context with
    ⟨_, answer, untouched⟩ | ⟨_, answer, granted⟩
  · refine ⟨cleared, fun _ _ => untouched, fun names done => ?_⟩
    rw [answer] at done
    cases done
  · refine ⟨cleared, fun failure refused => ?_, fun names done => ?_⟩
    · rw [answer] at refused
      cases refused
    · rw [answer] at done
      cases done
      exact granted

def rehearsedManager : Manager Connection.Postponer :=
  addProtocol { config := {} } ManagerScene.rehearsedPlugin

theorem rehearsed_manager_reached : rehearsedManager.Reached :=
  (Reached.start {}).turn (.addProtocol ManagerScene.rehearsedPlugin : Turn _ .start _ .start)

/-- The first request for an account leads to a connection that owns its name, one for a protocol that
the manager does not serve leads to nothing. -/
theorem request_all_or_nothing_rehearsed : rehearsedManager.Reached ∧
    (∃ failure, (rehearsedManager.requestConnection "other" .empty .start).answer = .error failure ∧
      (rehearsedManager.requestConnection "other" .empty .start).manager.events
        = (rehearsedManager.poll .start).1.events) ∧
    ∃ names, (rehearsedManager.requestConnection "echo" .empty .start).answer = .ok names ∧
      (rehearsedManager.requestConnection "echo" .empty .start).context.Owns names.busName := by
  have nothing : ¬ (rehearsedManager.poll .start).1.Clings
      "org.freedesktop.Telepathy.Connection.example.echo.a" := by
    rintro ⟨managed, standing, _⟩
    cases standing
  refine ⟨rehearsed_manager_reached, ?_, ?_⟩
  · obtain ⟨_, refused, _⟩ := request_all_or_nothing rehearsed_manager_reached "other" .empty .start
    have answer : (rehearsedManager.requestConnection "other" .empty .start).answer
      = .error ⟨.notImplemented, "unknown protocol \"other\""⟩ := by decide +kernel
    exact ⟨_, answer, (refused _ answer).events⟩
  · obtain ⟨_, _, granted⟩ := request_all_or_nothing rehearsed_manager_reached "echo" .empty .start
    have called : (rehearsedManager.requestConnection "echo" .empty .start).answer.map BusNames.busName
      = .ok "org.freedesktop.Telepathy.Connection.example.echo.a" := by decide +kernel
    obtain ⟨names, answer, same⟩ := Outcome.map_eq_ok.1 called
    exact ⟨names, answer, (granted names answer).owned.2 (same ▸ nothing)⟩

/-- A connection has been made, and then the process has lost its names on the bus. -/
def rehearsedLoss : Context :=
  let context := ManagerScene.rehearsedFirst.context
  { context with bus := context.bus.disconnectClient context.bus.ownName }

/-- The account is requested again. The name is claimed for the new connection, and given back by the
one that it replaces, so that the name that is returned has no owner. -/
theorem replaced_connection_takes_name : ManagerScene.rehearsedFirst.manager.Reached ∧
    ∃ names,
      (ManagerScene.rehearsedFirst.manager.requestConnection "echo" .empty rehearsedLoss).answer
        = .ok names ∧
      ¬ (ManagerScene.rehearsedFirst.manager.requestConnection "echo" .empty
        rehearsedLoss).context.Owns names.busName := by
  have called : (ManagerScene.rehearsedFirst.manager.requestConnection "echo" .empty
      rehearsedLoss).answer.map BusNames.busName
    = .ok "org.freedesktop.Telepathy.Connection.example.echo.a" := by decide +kernel
  have foreign : ¬ (ManagerScene.rehearsedFirst.manager.requestConnection "echo" .empty
      rehearsedLoss).context.Owns "org.freedesktop.Telepathy.Connection.example.echo.a" := by
    decide +kernel
  obtain ⟨names, answer, same⟩ := Outcome.map_eq_ok.1 called
  exact ⟨rehearsed_manager_reached.turn (.request "echo" .empty : Turn _ .start _ _), names, answer,
    same ▸ foreign⟩

end Manager

namespace Process

variable {φ : Type} [ChannelFactory φ] {process before after : Process φ} {manager : Manager φ}
  {protocol : String} {supplied : Dictionary} {names : BusNames}

theorem Step.reached (step : Step before after)
    (reached : ∀ manager ∈ before.managers, manager.Reached) :
    ∀ manager ∈ after.managers, manager.Reached := by
  cases step with
  | clientConnects | clientLeaves | clientRequests | build | buildFails | register | registerFails
  | conduct | drop => exact reached
  | found _ config =>
      intro manager member
      rcases List.mem_append.1 member with old | new
      · exact reached manager old
      · rw [List.mem_singleton.1 new]
        exact .start config
  | manage turn =>
      simp only [List.forall_mem_append, List.forall_mem_cons] at reached ⊢
      exact ⟨reached.1, reached.2.1.turn turn, reached.2.2⟩
  | handOver _ protocol =>
      simp only [List.forall_mem_append, List.forall_mem_cons] at reached ⊢
      exact ⟨reached.1, reached.2.1.adopt _ protocol _, reached.2.2⟩
  | dropManager =>
      simp only [List.forall_mem_append, List.forall_mem_cons] at reached ⊢
      exact ⟨reached.1, reached.2.2⟩

theorem Reachable.reached (reachable : process.Reachable) :
    ∀ manager ∈ process.managers, manager.Reached := by
  induction reachable with
  | start => exact nofun
  | next _ step reached => exact step.reached reached

/-- As long as the bus takes no names away from the process, whoever requests a connection gets the
name of one that owns it. -/
theorem granted_names_owned (reachable : process.Reachable) (member : manager ∈ process.managers)
    (done : (manager.requestConnection protocol supplied process.context).answer = .ok names) :
    (manager.requestConnection protocol supplied process.context).context.Owns names.busName := by
  have listed := (reachable.reached manager member).listed
  rcases Manager.request_connection_cases listed protocol supplied process.context with
    ⟨_, answer, _⟩ | ⟨_, answer, granted⟩
  · rw [done] at answer
    cases answer
  rw [done] at answer
  cases answer
  refine granted.owned.2 fun clings => ?_
  obtain ⟨front, back, parts⟩ := List.append_of_mem member
  obtain ⟨context, connections, managers⟩ := process
  cases parts
  -- After the look at the messages what clings to the name would still hold it.
  have holds := (listed.poll context).clings_held clings
  rcases (reachable.next (.manage .poll)).accounted.balanced.owned names.busName with
    ⟨owned, _⟩ | ⟨_, nothing⟩
  · rw [Context.Owns, granted.unowned] at owned
    cases owned
  · rw [held, held_by_all_middle] at nothing
    simp only [Pi.add_apply] at nothing
    omega

end Process

end ConnectionManager
