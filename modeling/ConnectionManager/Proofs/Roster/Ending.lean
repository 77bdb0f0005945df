import ConnectionManager.Proofs.Connection.Shutdown
import ConnectionManager.Proofs.Roster.Deeds

/-!
The end of a connection with a roster. A shutdown tells the factories only if the connection has ever
begun to connect; the roster that hears of it is gone, whatever it was before, and from then on it
refuses every write and tells nothing more (`inert_after_shutdown`). The roster of a connection that
was never asked to connect does not hear of the end, and takes writes as before.
-/

namespace ConnectionManager

/-- What the backend tells a roster, its arrival included. -/
def RosterUse.IsNotice {β : Type} : RosterUse β → Prop
  | .write _ | .backendChanged _ => False
  | _ => True

namespace Roster

variable {β : Type} [RosterBackend β] {roster : Roster β}

/-- Every write is refused before the backend sees it, and nothing that the backend tells makes a
difference. -/
structure Inert (roster : Roster β) : Prop where
  writes : ∀ write, roster.write write = (.error gone, roster)
  notices : ∀ use : RosterUse β, use.IsNotice → ∀ surroundings repositories,
    ({ roster, repositories } : RosterCall β).perform surroundings use = { roster, repositories }

theorem inert_of_gone (ended : roster.phase = .gone) : roster.Inert where
  writes write := if_pos ended
  notices use told surroundings repositories := by
    have unreceived : ¬ roster.phase = .received := by
      rw [ended]
      decide
    have arrived : roster.phase ≠ .waiting := by
      rw [ended]
      decide
    cases use with
    | write write => exact told.elim
    | backendChanged backend => exact told.elim
    | listReceived => exact if_pos arrived
    | _ => exact if_neg unreceived

end Roster

namespace Connection

theorem end_shutdown_factories {φ : Type} (connection : Connection φ) (context : Context) :
    (connection.endShutdown context).1.factories = connection.factories := by
  have released : connection.releaseSelf.factories = connection.factories := by
    unfold releaseSelf
    split <;> rfl
  unfold endShutdown releaseName
  by_cases claimed : connection.releaseSelf.invalidateRepositories.registered = true
  · rw [if_pos claimed]
    exact released
  · rw [if_neg claimed]
    exact released

variable {β φ : Type} [RosterBackend β] [ChannelFactory φ]

/-- One call on a connection with a roster at a place, also one that ends the connection or never
comes back. What concerns no factory is `aside`: the registration, and all that clients and protocol
code do with handles. -/
inductive LifeStep (lodging : Lodging β φ) (place : Nat) : Connection φ → Connection φ → Prop
  | aside (before : Connection φ) (interfaces : List String) (registered : Bool)
      (repositories : Repositories) :
      LifeStep lodging place before { before with interfaces, registered, repositories }
  | connect (before : Connection φ) (context : Context) :
      LifeStep lodging place before (before.connect context).connection
  | prepare (before : Connection φ) (context : Context) :
      LifeStep lodging place before (before.prepare context).connection
  | disconnect (before : Connection φ) (context : Context) :
      LifeStep lodging place before (before.disconnect context).connection
  | lose (before : Connection φ) (context : Context) (failure : Failure) :
      LifeStep lodging place before (before.lose context failure).connection
  | request {before after : Connection φ} {token : Token} (request : ChannelRequest)
      (sender : String) (done : before.requestChannel request sender = .ok (token, after)) :
      LifeStep lodging place before after
  | attend {before after : Connection φ} (deed : RosterDeed β)
      (done : before.withFactory place (lodging.attend deed) = some ((), after)) :
      LifeStep lodging place before after
  | other {α : Type} {before after : Connection φ} {answer : α} (index : Nat)
      (elsewhere : index ≠ place)
      (call : φ → Surroundings → Repositories → Option (FactoryCall φ α))
      (done : before.withFactory index call = some (answer, after)) :
      LifeStep lodging place before after

abbrev Life (lodging : Lodging β φ) (place : Nat) : Connection φ → Connection φ → Prop :=
  Relation.ReflTransGen (LifeStep lodging place)

abbrev RosterGone (lodging : Lodging β φ) (place : Nat) : Connection φ → Prop :=
  Lodged lodging place fun roster => roster.phase = .gone

variable {lodging : Lodging β φ} {place : Nat} {kept : Roster β → Prop}
  {connection before after : Connection φ}

/-! ### What every call keeps -/

theorem Lodged.silenced (reason : StatusReason) (lodged : Lodged lodging place kept before) :
    Lodged lodging place kept (before.silenced reason) :=
  lodged.of_factories (by rw [silenced_eq])

theorem Lodged.begin_shutdown (lasting : Roster.Lasting kept) (reason : StatusReason)
    (lodged : Lodged lodging place kept before) :
    Lodged lodging place kept (before.beginShutdown reason) := by
  have silenced := lodged.silenced reason
  unfold beginShutdown
  split
  · exact silenced
  · exact ((silenced.hook_all lasting .disconnected).hook_all lasting .closeAll).of_factories rfl

theorem shutdown_factories (before : Connection φ) (context : Context) (reason : StatusReason)
    (usable : before.status ≠ .disconnected) :
    (before.shutdown context reason).connection.factories
      = (before.beginShutdown reason).factories := by
  unfold shutdown
  rw [if_neg usable]
  dsimp only
  split
  · rfl
  · exact end_shutdown_factories _ context

theorem Lodged.shutdown (lasting : Roster.Lasting kept) (context : Context) (reason : StatusReason)
    (lodged : Lodged lodging place kept before) :
    Lodged lodging place kept (before.shutdown context reason).connection := by
  by_cases already : before.status = .disconnected
  · have same : before.shutdown context reason = ⟨some (), before, context⟩ := if_pos already
    rw [same]
    exact lodged
  · exact (lodged.begin_shutdown lasting reason).of_factories
      (before.shutdown_factories context reason already)

theorem Lodged.connect (lasting : Roster.Lasting kept) (context : Context)
    (lodged : Lodged lodging place kept before) :
    Lodged lodging place kept (before.connect context).connection := by
  have asked : Lodged lodging place kept before.attempting :=
    (lodged.change_status lasting .connecting .requested).of_factories rfl
  have attempt := before.connect_attempt context
  generalize before.connect context = run at attempt ⊢
  cases attempt with
  | again answer old => exact lodged
  | waiting fresh => exact asked
  | abandoned fresh reason failure => exact asked.shutdown lasting context reason
  | @established _ handle contacts fresh reached interned =>
      have known : Lodged lodging place kept { before.attempting with
          repositories := { before.attempting.repositories with contacts }
          selfHandle := handle } := asked.of_factories rfl
      exact known.change_status lasting .connected .requested

theorem Lodged.prepare (lasting : Roster.Lasting kept) (context : Context)
    (lodged : Lodged lodging place kept before) :
    Lodged lodging place kept (before.prepare context).connection := by
  rw [(before.prepare_as_connect context).1]
  exact lodged.connect lasting context

theorem LifeStep.lodged (lasting : Roster.Lasting kept) (step : LifeStep lodging place before after)
    (lodged : Lodged lodging place kept before) : Lodged lodging place kept after := by
  cases step with
  | aside _ interfaces registered repositories => exact lodged.of_factories rfl
  | connect _ context => exact lodged.connect lasting context
  | prepare _ context => exact lodged.prepare lasting context
  | disconnect _ context => exact lodged.shutdown lasting context .requested
  | lose _ context failure => exact lodged.shutdown lasting context failure.statusReason
  | request request sender done => exact lodged.request lasting done
  | attend deed done => exact lodged.attend lasting done
  | other index elsewhere call done => exact lodged.other elsewhere done

theorem Life.lodged (lasting : Roster.Lasting kept) (life : Life lodging place before after)
    (lodged : Lodged lodging place kept before) : Lodged lodging place kept after := by
  induction life with
  | refl => exact lodged
  | tail _ step induction => exact step.lodged lasting induction

/-! ### The end -/

theorem Lodged.hook_factory (lasting : Roster.Lasting kept) (hook : FactoryHook) (index : Nat)
    (lodged : Lodged lodging place kept connection) :
    Lodged lodging place kept (hookFactory hook connection index) := by
  unfold hookFactory
  split
  · exact lodged
  · rename_i factory present
    have recorded : Lodged lodging place kept (connection.record (.hooked index hook)) :=
      lodged.of_factories rfl
    exact Lodged.eased _ _ (apply_call_eased _ index _) (recorded.hooking lasting present)

theorem hook_factory_gone (lodged : Lodged lodging place (fun _ => True) connection) :
    RosterGone lodging place (hookFactory .disconnected connection place) := by
  obtain ⟨roster, present, _⟩ := lodged
  unfold hookFactory
  rw [present]
  refine Lodged.eased _ _ (apply_call_eased _ place _) ?_
  have recorded : (connection.record (.hooked place .disconnected)).factories[place]?
      = some (lodging.lodge roster) := present
  have left : (ChannelFactory.hook (lodging.lodge roster) .disconnected connection.surroundings
      connection.repositories).factory = lodging.lodge { roster with phase := .gone } := by
    rw [lodging.hook]
    rfl
  exact lodged_taking recorded left rfl

theorem hook_all_gone (lodged : Lodged lodging place (fun _ => True) connection) :
    RosterGone lodging place (connection.hookAll .disconnected) := by
  have along : ∀ (indices : List Nat) (current : Connection φ),
      Lodged lodging place (fun _ => True) current →
        place ∈ indices ∨ RosterGone lodging place current →
          RosterGone lodging place (indices.foldl (hookFactory .disconnected) current) := by
    intro indices
    induction indices with
    | nil => exact fun current _ reached => reached.resolve_left List.not_mem_nil
    | cons index rest induction =>
        intro current lodged reached
        refine induction _ (lodged.hook_factory Roster.lasting_true .disconnected index) ?_
        rcases reached with member | gone
        · rcases List.mem_cons.1 member with rfl | later
          · exact .inr (hook_factory_gone lodged)
          · exact .inl later
        · exact .inr (gone.hook_factory Roster.lasting_gone .disconnected index)
  have bound : place < connection.factories.length := by
    obtain ⟨roster, present, _⟩ := lodged
    exact (List.getElem?_eq_some_iff.1 present).1
  exact along _ connection lodged (.inl (List.mem_range.2 bound))

theorem shutdown_gone (context : Context) (reason : StatusReason)
    (lodged : Lodged lodging place (fun _ => True) before) (begun : before.status ≠ .new)
    (usable : before.status ≠ .disconnected) :
    RosterGone lodging place (before.shutdown context reason).connection := by
  have same : before.beginShutdown reason
      = (((before.silenced reason).hookAll .disconnected).hookAll .closeAll).record
        .transportDisconnecting := if_neg begun
  have told : RosterGone lodging place ((before.silenced reason).hookAll .disconnected) :=
    hook_all_gone (lodged.silenced reason)
  have closed : RosterGone lodging place (before.beginShutdown reason) := by
    rw [same]
    exact (told.hook_all Roster.lasting_gone .closeAll).of_factories rfl
  exact closed.of_factories (before.shutdown_factories context reason usable)

/-- A connection that has not begun ends at once, and no factory hears of it. -/
theorem shutdown_new (context : Context) (reason : StatusReason) (fresh : before.status = .new) :
    (before.shutdown context reason).result = some () ∧
      (before.shutdown context reason).connection.factories = before.factories := by
  have usable : before.status ≠ .disconnected := by
    rw [fresh]
    decide
  have same : before.beginShutdown reason = before.silenced reason := if_pos fresh
  constructor
  · have waitless : before.waitsForTransport = false := by
      rw [waitsForTransport, fresh]
      rfl
    unfold shutdown
    rw [if_neg usable]
    dsimp only
    rw [waitless]
    rfl
  · rw [before.shutdown_factories context reason usable, same, silenced_eq]

/-- Once a connection that had begun to connect has been shut down, the roster among its factories
is inert, whatever was done to both before and whatever is done to them later. A connection that has
not begun ends at once, and its factories are left as they were. -/
theorem inert_after_shutdown {roster : Roster β}
    (present : before.factories[place]? = some (lodging.lodge roster)) (context : Context)
    (reason : StatusReason)
    (life : Life lodging place (before.shutdown context reason).connection after) :
    (before.status = .connecting ∨ before.status = .connected →
        ∃ left, after.factories[place]? = some (lodging.lodge left) ∧ left.Inert) ∧
      (before.status = .new → (before.shutdown context reason).result = some () ∧
        (before.shutdown context reason).connection.factories = before.factories) := by
  constructor
  · intro rising
    have begun : before.status ≠ .new := by
      rcases rising with status | status <;> rw [status] <;> decide
    have usable : before.status ≠ .disconnected := by
      rcases rising with status | status <;> rw [status] <;> decide
    have ended : RosterGone lodging place (before.shutdown context reason).connection :=
      shutdown_gone context reason ⟨roster, present, trivial⟩ begun usable
    obtain ⟨left, known, gone⟩ := Life.lodged Roster.lasting_gone life ended
    exact ⟨left, known, Roster.inert_of_gone gone⟩
  · exact shutdown_new context reason

/-- The service is lost, and the client asks in vain to be connected again. -/
theorem inert_after_shutdown_rehearsed :
    let lost := (rehearsedRosterUp.shutdown .start .networkError).connection
    rehearsedRosterUp.status = .connected ∧
      ∃ left, (lost.connect .start).connection.factories[0]? = some left ∧ left.Inert := by
  intro lost
  have present : rehearsedRosterUp.factories[0]?
      = some (Lodging.own.lodge { backend := smallLetters }) := rfl
  have life : Life Lodging.own 0 lost (lost.connect .start).connection :=
    .single (.connect lost .start)
  have connected : rehearsedRosterUp.status = .connected := rfl
  obtain ⟨inert, _⟩ := inert_after_shutdown present .start .networkError life
  exact ⟨connected, inert (.inr connected)⟩

/-- The connection was never asked to connect: the end does not keep a client from having the
backend create a group. -/
theorem unheard_end_lets_write :
    rehearsedRoster.status = .new ∧
    (rehearsedRoster.disconnect .start).connection.finished = true ∧
      ∃ roster, (rehearsedRoster.disconnect .start).connection.factories[0]? = some roster ∧
        (roster.write (.createGroups ["friends"])).1 = .ok () ∧
        (roster.write (.createGroups ["friends"])).2.backend.writes
          = roster.backend.writes ++ [.createGroups ["friends"]] := by
  exact ⟨rfl, rfl, { backend := smallLetters }, rfl, rfl, rfl⟩

end Connection

end ConnectionManager
