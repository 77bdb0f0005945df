import ConnectionManager.Manager.Basic
import ConnectionManager.Proofs.Connection.Replies

/-!
Who owns the names of connections. A connection gives its name back when it has shut down or when
nobody keeps it any more, and at no other time. So the connections of a manager that still go on own
their names, no two of them the same (`NamesOwned`).
-/

namespace ConnectionManager

namespace Connection

variable {φ : Type} {before middle after : Connection φ} {context next : Context}

/-- What a connection is known by stays as it is. -/
structure Stays (before after : Connection φ) : Prop where
  names : after.names = before.names
  registered : after.registered = before.registered
  finished : after.finished = before.finished

theorem Stays.refl (connection : Connection φ) : Stays connection connection := ⟨rfl, rfl, rfl⟩

theorem Stays.trans (first : Stays before middle) (second : Stays middle after) :
    Stays before after :=
  ⟨second.names.trans first.names, second.registered.trans first.registered,
    second.finished.trans first.finished⟩

theorem Served.stays {hooks : List (Nat × FactoryHook)} (served : Served hooks before after) :
    Stays before after :=
  ⟨served.names, served.registered, served.finished⟩

theorem build_fresh {plan : ConnectionPlan} {transport : Transport} {factories : List φ}
    {connection : Connection φ}
    (built : (build plan transport factories context).1 = .ok connection) :
    connection.status = .new ∧ connection.registered = false ∧ connection.finished = false := by
  obtain ⟨names, _, same⟩ := Outcome.map_eq_ok.1 built
  cases same
  exact ⟨rfl, rfl, rfl⟩

theorem build_counts {plan : ConnectionPlan} {transport : Transport} {factories : List φ}
    {outcome : Outcome (Connection φ)}
    (built : build plan transport factories context = (outcome, next)) :
    next = context ∨ next = context.nextAnonymous.2 := by
  have counts := BusNames.for_connection_counts context plan.base plan.manager plan.protocol
    transport.uniqueName
  rwa [show (BusNames.forConnection context plan.base plan.manager plan.protocol
    transport.uniqueName).2 = next from congrArg Prod.snd built] at counts

theorem build_bus {plan : ConnectionPlan} {transport : Transport} {factories : List φ}
    {outcome : Outcome (Connection φ)}
    (built : build plan transport factories context = (outcome, next)) : next.bus = context.bus := by
  rcases build_counts built with rfl | rfl <;> rfl

theorem register_cases (connection : Connection φ) (context : Context) :
    (∃ failure, connection.register context = (.error failure, context)) ∨
      ∃ claimant next, connection.register context = (.ok claimant, next) ∧
        claimant.names.Claimed context next ∧ claimant.registered = true ∧
        claimant.finished = connection.finished := by
  unfold register
  split
  · exact .inl ⟨_, rfl⟩
  · split
    · exact .inl ⟨_, rfl⟩
    · rcases connection.names.claim_cases context with ⟨failure, failed⟩ | ⟨next, claimed, taken⟩
      · rw [failed]
        exact .inl ⟨failure, rfl⟩
      · rw [claimed]
        exact .inr ⟨_, next, rfl, taken, rfl, rfl⟩

/-- A connection goes on as it was, or it ends and its name is given back. -/
structure Conducted (before : Connection φ) (context : Context) (after : Connection φ)
    (next : Context) : Prop where
  names : after.names = before.names
  course : (Stays before after ∧ next = context) ∨
    (after.registered = false ∧ after.finished = true ∧ next = before.discard context)

theorem Stays.conducted (stays : Stays before after) (context : Context) :
    Conducted before context after context :=
  ⟨stays.names, .inl ⟨stays, rfl⟩⟩

/-- What happens before makes no difference if the connection goes on through it. -/
theorem Stays.then_conducted (stays : Stays before middle)
    (conducted : Conducted middle context after next) : Conducted before context after next := by
  refine ⟨conducted.names.trans stays.names, ?_⟩
  rcases conducted.course with ⟨later, same⟩ | ⟨registered, finished, same⟩
  · exact .inl ⟨stays.trans later, same⟩
  · refine .inr ⟨registered, finished, ?_⟩
    rw [same, discard, discard, stays.registered, stays.names]

variable [ChannelFactory φ]

theorem hook_all_stays (connection : Connection φ) (hook : FactoryHook) :
    Stays connection (connection.hookAll hook) :=
  (hook_all_serves any_work connection hook).served.stays

theorem change_status_stays (connection : Connection φ) (status : ConnectionStatus)
    (reason : StatusReason) : Stays connection (connection.changeStatus status reason) := by
  have told : Stays connection (({ connection with status, reason }).announceEvent
      (.statusChanged status.visible reason)) := ⟨rfl, rfl, rfl⟩
  unfold changeStatus
  dsimp only
  split
  · exact told.trans (hook_all_stays _ _)
  · exact told

theorem begin_shutdown_stays (connection : Connection φ) (reason : StatusReason) :
    Stays connection (connection.beginShutdown reason) := by
  have silenced : Stays connection (connection.silenced reason) := by
    rw [silenced_eq]
    exact ⟨rfl, rfl, rfl⟩
  unfold beginShutdown
  dsimp only
  split
  · exact silenced
  · have told := hook_all_stays (connection.silenced reason) .disconnected
    exact ((silenced.trans told).trans (hook_all_stays _ .closeAll)).trans ⟨rfl, rfl, rfl⟩

omit [ChannelFactory φ] in
theorem end_shutdown_conducted (connection : Connection φ) (context : Context) :
    Conducted connection context (connection.endShutdown context).1
      (connection.endShutdown context).2 := by
  obtain ⟨_, _, _, finished, bus, _⟩ := connection.end_shutdown_ended context
  obtain ⟨closing, _, _, registered, same⟩ := connection.end_shutdown_last context
  refine ⟨?_, .inr ⟨same ▸ registered, finished, bus⟩⟩
  obtain ⟨_, _, _, _, names, _⟩ := connection.release_self_released
  have released : (connection.releaseSelf.invalidateRepositories.releaseName context).1.names
      = connection.releaseSelf.names := by
    unfold releaseName
    split <;> rfl
  exact released.trans names

theorem shutdown_conducted (connection : Connection φ) (context : Context) (reason : StatusReason) :
    Conducted connection context (connection.shutdown context reason).connection
      (connection.shutdown context reason).context := by
  have begun := connection.begin_shutdown_stays reason
  unfold shutdown
  split
  · exact (Stays.refl connection).conducted context
  · dsimp only
    split
    · exact begun.conducted context
    · exact begun.then_conducted (end_shutdown_conducted _ context)

theorem connect_conducted (connection : Connection φ) (context : Context) :
    Conducted connection context (connection.connect context).connection
      (connection.connect context).context := by
  have asked : Stays connection connection.attempting :=
    (connection.change_status_stays .connecting .requested).trans ⟨rfl, rfl, rfl⟩
  have attempt := connection.connect_attempt context
  generalize connection.connect context = run at attempt ⊢
  cases attempt with
  | again answer old => exact (Stays.refl connection).conducted context
  | waiting fresh => exact asked.conducted context
  | abandoned fresh reason failure =>
      exact asked.then_conducted (shutdown_conducted connection.attempting context reason)
  | @established _ handle contacts fresh reached interned =>
      have known : Stays connection.attempting { connection.attempting with
          repositories := { connection.attempting.repositories with contacts }
          selfHandle := handle } := ⟨rfl, rfl, rfl⟩
      exact ((asked.trans known).trans
        (change_status_stays _ .connected .requested)).conducted context

theorem prepare_conducted (connection : Connection φ) (context : Context) :
    Conducted connection context (connection.prepare context).connection
      (connection.prepare context).context := by
  obtain ⟨same, follows, _⟩ := connection.prepare_as_connect context
  rw [same, follows]
  exact connect_conducted connection context

/-- What is done to a connection. Besides what leads through its life there is much else, like
channel requests and batches of handles, which leaves alone what it is known by. -/
inductive Visit (before : Connection φ) (context : Context) : Connection φ → Context → Prop
  | connect : Visit before context (before.connect context).connection
      (before.connect context).context
  | prepare : Visit before context (before.prepare context).connection
      (before.prepare context).context
  | disconnect : Visit before context (before.disconnect context).connection
      (before.disconnect context).context
  | lose (failure : Failure) : Visit before context (before.lose context failure).connection
      (before.lose context failure).context
  | other {after : Connection φ} (stays : Stays before after) : Visit before context after context

theorem Visit.conducted (visit : Visit before context after next) :
    Conducted before context after next := by
  cases visit with
  | connect => exact connect_conducted before context
  | prepare => exact prepare_conducted before context
  | disconnect => exact shutdown_conducted before context _
  | lose failure => exact shutdown_conducted before context _
  | other stays => exact stays.conducted context

end Connection

namespace ManagedConnection

variable {φ : Type} {managed changed : ManagedConnection φ} {context next : Context}

def busName (managed : ManagedConnection φ) : String := managed.connection.names.busName

def mark (managed : ManagedConnection φ) : String × Bool :=
  (managed.busName, managed.connection.finished)

/-- A connection goes on as it was, or its watcher has nothing more to wait for and its name is
given back. -/
structure Changed (managed : ManagedConnection φ) (context : Context)
    (changed : ManagedConnection φ) (next : Context) : Prop where
  busName : changed.busName = managed.busName
  course : (changed.hasEnded = managed.hasEnded ∧
      changed.connection.registered = managed.connection.registered ∧ next = context) ∨
    (changed.hasEnded = true ∧ changed.connection.registered = false ∧
      next = managed.connection.discard context)

theorem visit_changed [ChannelFactory φ] {after : Connection φ}
    (visit : managed.connection.Visit context after next) :
    Changed managed context { managed with connection := after } next := by
  obtain ⟨names, ⟨stays, same⟩ | ⟨registered, finished, same⟩⟩ := visit.conducted
  · refine ⟨congrArg BusNames.busName names, .inl ⟨?_, stays.registered, same⟩⟩
    simp [hasEnded, isGone, stays.finished]
  · refine ⟨congrArg BusNames.busName names, .inr ⟨?_, registered, same⟩⟩
    simp [hasEnded, finished]

theorem release_if_gone_cases (managed : ManagedConnection φ) (context : Context) :
    (managed.isGone = true ∧ (managed.releaseIfGone context).1.hasEnded = true ∧
        (managed.releaseIfGone context).1.connection.registered = false ∧
        (managed.releaseIfGone context).1.mark = managed.mark ∧
        (managed.releaseIfGone context).1.forgotten = managed.forgotten ∧
        (managed.releaseIfGone context).2 = managed.connection.discard context) ∨
      (managed.isGone = false ∧ managed.releaseIfGone context = (managed, context)) := by
  unfold releaseIfGone
  by_cases gone : managed.isGone = true
  · left
    rw [if_pos gone]
    have ended : ∀ connection, ({ managed with connection } : ManagedConnection φ).hasEnded = true := by
      intro connection
      exact Bool.or_eq_true_iff.2 (.inl gone)
    by_cases registered : managed.connection.registered = true
    · simp [Connection.releaseName, registered, gone, ended, mark, busName, Connection.discard,
        Connection.record]
    · simp [Connection.releaseName, registered, gone, ended, mark, busName, Connection.discard]
  · exact .inr ⟨by simpa using gone, if_neg gone⟩

theorem forget_changed (managed : ManagedConnection φ) (context : Context) :
    Changed managed context (managed.forget context).1 (managed.forget context).2 ∧
      (managed.forget context).1.mark = managed.mark := by
  unfold forget
  rcases release_if_gone_cases { managed with forgotten := true } context with
    ⟨_, ended, registered, mark, _, next⟩ | ⟨kept, same⟩
  · exact ⟨⟨congrArg Prod.fst mark, .inr ⟨ended, registered, next⟩⟩, mark⟩
  · have shared : managed.shared = true := by simpa [isGone] using kept
    rw [same]
    exact ⟨⟨rfl, .inl ⟨by simp [hasEnded, isGone, shared], rfl, rfl⟩⟩, rfl⟩

theorem unshare_changed (managed : ManagedConnection φ) (context : Context) :
    Changed managed context (managed.unshare context).1 (managed.unshare context).2 ∧
      (managed.unshare context).1.mark = managed.mark ∧
      (managed.unshare context).1.forgotten = managed.forgotten := by
  unfold unshare
  rcases release_if_gone_cases { managed with shared := false } context with
    ⟨_, ended, registered, mark, forgotten, next⟩ | ⟨kept, same⟩
  · exact ⟨⟨congrArg Prod.fst mark, .inr ⟨ended, registered, next⟩⟩, mark, forgotten⟩
  · have known : managed.forgotten = false := by simpa [isGone] using kept
    rw [same]
    exact ⟨⟨rfl, .inl ⟨by simp [hasEnded, isGone, known], rfl, rfl⟩⟩, rfl, rfl⟩

end ManagedConnection

/-- The names of connections on the bus. A connection whose watcher still waits owns its name, and no
other such connection has the same; one whose watcher has nothing to wait for has given it back. -/
structure NamesOwned {φ : Type} (made : List (ManagedConnection φ)) (context : Context) : Prop where
  claimed : ∀ managed ∈ made, managed.hasEnded = false →
    managed.connection.registered = true ∧ context.Owns managed.busName
  returned : ∀ managed ∈ made, managed.hasEnded = true → managed.connection.registered = false
  alone : ∀ {place other : Nat} {first second : ManagedConnection φ}, made[place]? = some first →
    made[other]? = some second → first.hasEnded = false → second.hasEnded = false →
    first.busName = second.busName → place = other

namespace NamesOwned

variable {φ : Type} {made : List (ManagedConnection φ)} {context next : Context}
  {place other : Nat} {managed changed second : ManagedConnection φ}

theorem set_cases (present : (made.set place changed)[other]? = some second) :
    (other = place ∧ second = changed) ∨ (other ≠ place ∧ made[other]? = some second) := by
  rw [List.getElem?_set] at present
  split at present
  · rename_i same
    split at present
    · exact .inl ⟨same.symm, (Option.some.inj present).symm⟩
    · cases present
  · rename_i different
    exact .inr ⟨Ne.symm different, present⟩

theorem append_cases (present : (made ++ [changed])[other]? = some second) :
    (other = made.length ∧ second = changed) ∨ (other < made.length ∧ made[other]? = some second) := by
  rw [List.getElem?_append] at present
  split at present
  · rename_i below
    exact .inr ⟨below, present⟩
  · rw [List.getElem?_singleton] at present
    split at present
    · exact .inl ⟨by omega, (Option.some.inj present).symm⟩
    · cases present

theorem registered_waits (owned : NamesOwned made context) (member : managed ∈ made)
    (registered : managed.connection.registered = true) : managed.hasEnded = false := by
  by_contra ended
  have returned := owned.returned managed member (by simpa using ended)
  rw [registered] at returned
  cases returned

/-- What happens to one connection leaves the others their names. -/
theorem changed_others (owned : NamesOwned made context) (found : made[place]? = some managed)
    (change : managed.Changed context changed next) (different : other ≠ place)
    (present : made[other]? = some second) (waits : second.hasEnded = false) :
    next.Owns second.busName := by
  have keeps := (owned.claimed second (List.mem_of_getElem? present) waits).2
  rcases change.course with ⟨_, _, same⟩ | ⟨_, _, same⟩
  · rwa [same]
  · rw [same]
    unfold Connection.discard
    split
    · rename_i registered
      have waiting := owned.registered_waits (List.mem_of_getElem? found) registered
      refine BusNames.release_owns (fun equal => different ?_) keeps
      exact owned.alone present found waits waiting equal
    · exact keeps

theorem change (owned : NamesOwned made context) (found : made[place]? = some managed)
    (change : managed.Changed context changed next) : NamesOwned (made.set place changed) next := by
  have member := List.mem_of_getElem? found
  have still : changed.hasEnded = false → managed.hasEnded = false ∧
      changed.connection.registered = managed.connection.registered ∧ next = context := by
    intro waits
    rcases change.course with ⟨same, registered, bus⟩ | ⟨ended, _⟩
    · exact ⟨same ▸ waits, registered, bus⟩
    · rw [ended] at waits
      cases waits
  have back : ∀ {other : Nat} {second : ManagedConnection φ},
      (made.set place changed)[other]? = some second → second.hasEnded = false →
        ∃ first, made[other]? = some first ∧ first.hasEnded = false ∧
          first.busName = second.busName := by
    intro other second present waits
    rcases set_cases present with ⟨rfl, rfl⟩ | ⟨_, old⟩
    · exact ⟨managed, found, (still waits).1, change.busName.symm⟩
    · exact ⟨second, old, waits, rfl⟩
  constructor
  · intro second inside waits
    obtain ⟨other, present⟩ := List.mem_iff_getElem?.1 inside
    rcases set_cases present with ⟨rfl, rfl⟩ | ⟨different, old⟩
    · obtain ⟨waited, registered, same⟩ := still waits
      rw [registered, change.busName, same]
      exact owned.claimed managed member waited
    · exact ⟨(owned.claimed second (List.mem_of_getElem? old) waits).1,
        owned.changed_others found change different old waits⟩
  · intro second inside ended
    rcases List.mem_or_eq_of_mem_set inside with old | rfl
    · exact owned.returned second old ended
    · rcases change.course with ⟨alike, registered, _⟩ | ⟨_, registered, _⟩
      · rw [registered]
        exact owned.returned managed member (alike ▸ ended)
      · exact registered
  · intro one other first second here there waits waitsToo equal
    obtain ⟨before, known, waited, name⟩ := back here waits
    obtain ⟨beforeToo, knownToo, waitedToo, nameToo⟩ := back there waitsToo
    exact owned.alone known knownToo waited waitedToo (name.trans (equal.trans nameToo.symm))

theorem claimed_apart {names : BusNames} (owned : NamesOwned made context)
    (claimed : names.Claimed context next) (member : managed ∈ made)
    (waits : managed.hasEnded = false) : managed.busName ≠ names.busName := by
  intro same
  have owner := (owned.claimed managed member waits).2
  rw [same, Context.Owns, claimed.unowned] at owner
  cases owner

theorem append (owned : NamesOwned made context)
    (claimed : managed.connection.names.Claimed context next)
    (registered : managed.connection.registered = true) (waits : managed.hasEnded = false) :
    NamesOwned (made ++ [managed]) next := by
  constructor
  · intro other member waiting
    rcases List.mem_append.1 member with old | new
    · obtain ⟨known, owns⟩ := owned.claimed other old waiting
      exact ⟨known, claimed.others _ owns⟩
    · rw [List.mem_singleton.1 new]
      exact ⟨registered, claimed.owned⟩
  · intro other member ended
    rcases List.mem_append.1 member with old | new
    · exact owned.returned other old ended
    · rw [List.mem_singleton.1 new, waits] at ended
      cases ended
  · intro place other first second here there waiting waitingToo equal
    rcases append_cases here with ⟨last, rfl⟩ | ⟨_, old⟩ <;>
      rcases append_cases there with ⟨lastToo, rfl⟩ | ⟨_, oldToo⟩
    · rw [last, lastToo]
    · exact absurd equal.symm
        (owned.claimed_apart claimed (List.mem_of_getElem? oldToo) waitingToo)
    · exact absurd equal (owned.claimed_apart claimed (List.mem_of_getElem? old) waiting)
    · exact owned.alone old oldToo waiting waitingToo equal

end NamesOwned

end ConnectionManager
