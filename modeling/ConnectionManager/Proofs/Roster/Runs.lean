import ConnectionManager.Proofs.Connection.Easing
import ConnectionManager.Proofs.Roster.Arrival
import ConnectionManager.Rehearsal.Backend

/-!
Runs of a connection one of whose factories is a roster. The roster is used through its own
operations, the other factories as they like. As long as the connection is not ended, the roster
stays at its place and what it keeps to itself is kept (`Roster.Kept`): nothing is open before it
arrives, every view has the channel that its name says, and what was put off is not forgotten.
-/

namespace ConnectionManager

/-- What protocol code does with a roster. -/
inductive RosterUse (β : Type)
  | listReceived
  | contactsChanged (changed removed : List Handle)
  | blockingChanged (changed : List Handle)
  | groupsCreated (names : List String)
  | groupsRemoved (names : List String)
  | groupRenamed (old new : String)
  | groupsChanged (contacts : List Handle) (added removed : List String)
  | write (write : RosterWrite)
  /-- The service told the backend something. -/
  | backendChanged (backend : β)

def FactoryCall.wrap {φ ψ α : Type} (wrapped : φ → ψ) (call : FactoryCall φ α) : FactoryCall ψ α :=
  ⟨wrapped call.factory, call.repositories, call.reports, call.answer⟩

namespace RosterCall

variable {β : Type}

def backed (call : RosterCall β) (backend : β) : RosterCall β :=
  { call with roster := { call.roster with backend } }

variable [RosterBackend β]

def perform (surroundings : Surroundings) (call : RosterCall β) : RosterUse β → RosterCall β
  | .listReceived => call.listReceived surroundings
  | .contactsChanged changed removed => call.contactsChanged changed removed
  | .blockingChanged changed => call.blockingChanged changed
  | .groupsCreated names => call.groupsCreated surroundings names
  | .groupsRemoved names => call.groupsRemoved names
  | .groupRenamed old new => call.groupRenamed surroundings old new
  | .groupsChanged contacts added removed => call.groupsChanged surroundings contacts added removed
  | .write write => { call with roster := (call.roster.write write).2 }
  | .backendChanged backend => call.backed backend

theorem write_backed (call : RosterCall β) (write : RosterWrite) :
    ∃ backend, { call with roster := (call.roster.write write).2 } = call.backed backend := by
  unfold Roster.write
  split
  · exact ⟨call.roster.backend, rfl⟩
  · split
    · exact ⟨call.roster.backend, rfl⟩
    · split
      · exact ⟨_, rfl⟩
      · exact ⟨call.roster.backend, rfl⟩

theorem perform_waiting (surroundings : Surroundings) {call : RosterCall β}
    (waiting : call.roster.phase = .waiting) (use : RosterUse β) :
    use = .listReceived ∨ ∃ backend, call.perform surroundings use = call.backed backend := by
  have other : ¬ call.roster.phase = .received := by
    rw [waiting]
    decide
  cases use with
  | listReceived => exact .inl rfl
  | write write => exact .inr (call.write_backed write)
  | backendChanged backend => exact .inr ⟨backend, rfl⟩
  | _ => exact .inr ⟨call.roster.backend, if_neg other⟩

/-- Before the roster arrives, only its arrival is more than a change of the backend; after that,
every use is a chain of moves. -/
theorem perform_cases (surroundings : Surroundings) (call : RosterCall β) (use : RosterUse β) :
    (call.roster.phase = .waiting ∧
        call.perform surroundings use = call.listReceived surroundings) ∨
      (∃ backend, call.perform surroundings use = call.backed backend) ∨
      (call.roster.phase ≠ .waiting ∧ Moves surroundings call (call.perform surroundings use)) := by
  by_cases waiting : call.roster.phase = .waiting
  · rcases perform_waiting surroundings waiting use with rfl | idle
    · exact .inl ⟨waiting, rfl⟩
    · exact .inr (.inl idle)
  · cases use with
    | listReceived =>
        have late : call.listReceived surroundings = call := if_pos waiting
        exact .inr (.inl ⟨call.roster.backend, late⟩)
    | contactsChanged changed removed =>
        exact .inr (.inr ⟨waiting, contacts_changed_moves changed removed call⟩)
    | blockingChanged changed => exact .inr (.inr ⟨waiting, blocking_changed_moves changed call⟩)
    | groupsCreated names => exact .inr (.inr ⟨waiting, groups_created_moves names call⟩)
    | groupsRemoved names => exact .inr (.inr ⟨waiting, groups_removed_moves names call⟩)
    | groupRenamed old new => exact .inr (.inr ⟨waiting, group_renamed_moves old new call⟩)
    | groupsChanged contacts added removed =>
        exact .inr (.inr ⟨waiting, groups_changed_moves contacts added removed call⟩)
    | write write => exact .inr (.inl (call.write_backed write))
    | backendChanged backend => exact .inr (.inl ⟨backend, rfl⟩)

theorem perform_steps (surroundings : Surroundings) (call : RosterCall β) (use : RosterUse β) :
    call.repositories.Steps (call.perform surroundings use).repositories := by
  rcases call.perform_cases surroundings use with ⟨_, same⟩ | ⟨backend, same⟩ | ⟨_, moves⟩
  · rw [same]
    exact list_received_steps surroundings call
  · rw [same]
    exact .refl
  · exact moves.steps

end RosterCall

namespace Roster

variable {β : Type} {surroundings : Surroundings} {owed : List (Token × ChannelRequest)}

/-- What a roster keeps to itself, `owed` being requests that it put off. -/
structure Kept (surroundings : Surroundings) (owed : List (Token × ChannelRequest))
    (roster : Roster β) : Prop where
  shaped : roster.Shaped surroundings
  unopened : roster.phase = .waiting → roster.Unopened
  owed : roster.phase = .waiting → ∀ entry ∈ owed, entry ∈ roster.queued
  queued : ∀ entry ∈ roster.queued, entry.2.channelType = contactListType

theorem Shaped.elsewhere {other : Surroundings} {roster : Roster β}
    (shaped : roster.Shaped surroundings)
    (same : other.connectionPath = surroundings.connectionPath) : roster.Shaped other := by
  obtain ⟨path, self, status⟩ := surroundings
  obtain ⟨otherPath, otherSelf, otherStatus⟩ := other
  change otherPath = path at same
  subst same
  exact ⟨shaped.lists, shaped.groups⟩

theorem Kept.elsewhere {other : Surroundings} {roster : Roster β}
    (kept : roster.Kept surroundings owed)
    (same : other.connectionPath = surroundings.connectionPath) : roster.Kept other owed :=
  { kept with shaped := kept.shaped.elsewhere same }

theorem new_kept (surroundings : Surroundings) (backend : β) :
    ({ backend } : Roster β).Kept surroundings [] := by
  have unopened : ({ backend } : Roster β).Unopened := ⟨fun _ => rfl, fun _ => rfl⟩
  exact {
    shaped := unopened.shaped surroundings
    unopened := fun _ => unopened
    owed := fun _ entry member => absurd member List.not_mem_nil
    queued := fun entry member => absurd member List.not_mem_nil }

theorem Kept.moves {call next : RosterCall β} (kept : call.roster.Kept surroundings owed)
    (late : call.roster.phase ≠ .waiting) (moves : RosterCall.Moves surroundings call next) :
    next.roster.Kept surroundings owed := by
  obtain ⟨phase, _, queued⟩ := moves.frame
  have still : next.roster.phase ≠ .waiting := phase ▸ late
  exact {
    shaped := moves.shaped kept.shaped
    unopened := fun waiting => absurd waiting still
    owed := fun waiting => absurd waiting still
    queued := queued ▸ kept.queued }

variable [RosterBackend β]

theorem Kept.request {call : RosterCall β} (kept : call.roster.Kept surroundings owed)
    (request : ChannelRequest) (token : Token) :
    (call.request surroundings request token).2.roster.Kept surroundings owed := by
  rcases call.request_cases surroundings request token with
    ⟨same, _, sort, _⟩ | ⟨same, received, _⟩ | ⟨refusal, same, _⟩
  · rw [same]
    exact {
      shaped := ⟨kept.shaped.lists, kept.shaped.groups⟩
      unopened := fun waiting => ⟨(kept.unopened waiting).lists, (kept.unopened waiting).groups⟩
      owed := fun waiting entry member => List.mem_append_left _ (kept.owed waiting entry member)
      queued := by
        intro entry member
        rcases List.mem_append.1 member with earlier | last
        · exact kept.queued entry earlier
        · rw [List.mem_singleton.1 last]
          exact sort }
  · rw [same]
    have answered : RosterCall.Openings surroundings call _ := call.answer_openings request
    have late : call.roster.phase ≠ .waiting := by
      rw [received]
      decide
    exact kept.moves late (RosterCall.Openings.moves answered)
  · rw [same]
    exact kept

theorem Kept.perform {call : RosterCall β} (kept : call.roster.Kept surroundings owed)
    (silent : call.reports = []) (use : RosterUse β) :
    (call.perform surroundings use).roster.Kept surroundings owed := by
  rcases call.perform_cases surroundings use with ⟨waiting, same⟩ | ⟨backend, same⟩ | ⟨late, moves⟩
  · obtain ⟨_, shaped, received, queued⟩ :=
      RosterCall.list_received_balanced surroundings call waiting (kept.unopened waiting) silent
    have arrived : (call.listReceived surroundings).roster.phase ≠ .waiting := by
      rw [received]
      decide
    rw [same]
    exact {
      shaped := shaped
      unopened := fun waiting => absurd waiting arrived
      owed := fun waiting => absurd waiting arrived
      queued := by
        rw [queued]
        exact fun entry member => absurd member List.not_mem_nil }
  · rw [same]
    exact {
      shaped := ⟨kept.shaped.lists, kept.shaped.groups⟩
      unopened := fun waiting => ⟨(kept.unopened waiting).lists, (kept.unopened waiting).groups⟩
      owed := kept.owed
      queued := kept.queued }
  · exact kept.moves late moves

end Roster

/-- How rosters stand among the factories of a connection. -/
structure Lodging (β φ : Type) [RosterBackend β] [ChannelFactory φ] where
  lodge : Roster β → φ
  find : φ → Option (Roster β)
  found : ∀ roster, find (lodge roster) = some roster
  request : ∀ roster request token surroundings repositories,
    ChannelFactory.request (lodge roster) request token surroundings repositories
      = (ChannelFactory.request roster request token surroundings repositories).wrap lodge
  hook : ∀ roster hook surroundings repositories,
    ChannelFactory.hook (lodge roster) hook surroundings repositories
      = (ChannelFactory.hook roster hook surroundings repositories).wrap lodge

namespace Lodging

variable {β φ : Type} [RosterBackend β] [ChannelFactory φ]

def own : Lodging β (Roster β) where
  lodge := id
  find := some
  found _ := rfl
  request _ _ _ _ _ := rfl
  hook _ _ _ _ := rfl

def visit (lodging : Lodging β φ) (use : RosterUse β) (factory : φ) (surroundings : Surroundings)
    (repositories : Repositories) : Option (FactoryCall φ Unit) :=
  (lodging.find factory).map fun roster =>
    (roster.run repositories fun call => ((), call.perform surroundings use)).wrap lodging.lodge

theorem visit_steps (lodging : Lodging β φ) (use : RosterUse β) (factory : φ)
    (surroundings : Surroundings) (repositories : Repositories) (result : FactoryCall φ Unit)
    (called : lodging.visit use factory surroundings repositories = some result) :
    repositories.Steps result.repositories := by
  obtain ⟨roster, _, same⟩ := Option.map_eq_some_iff.1 called
  subst same
  exact RosterCall.perform_steps surroundings { roster, repositories } use

end Lodging

namespace Connection

variable {β φ : Type} [RosterBackend β] [ChannelFactory φ]

/-- One call on a connection with a roster at a place, with the connection that accepted a request
for a channel and the request, if it is such a call. What concerns no factory is `aside`: the
registration, and all that clients and protocol code do with handles. Calls that end the connection
are left out. -/
inductive RosterStep (lodging : Lodging β φ) (place : Nat) :
    List (Connection φ × ChannelRequest) → Connection φ → Connection φ → Prop
  | aside (before : Connection φ) (interfaces : List String) (registered : Bool)
      (repositories : Repositories) (worked : before.repositories.Steps repositories)
      (ended : before.status = .disconnected → registered = before.registered) :
      RosterStep lodging place [] before { before with interfaces, registered, repositories }
  | connect (before : Connection φ) (context : Context)
      (usable : (before.connect context).connection.status ≠ .disconnected) :
      RosterStep lodging place [] before (before.connect context).connection
  | request {before after : Connection φ} {token : Token} (request : ChannelRequest)
      (sender : String) (done : before.requestChannel request sender = .ok (token, after)) :
      RosterStep lodging place [(before, request)] before after
  | use {before after : Connection φ} (use : RosterUse β)
      (done : before.withFactory place (lodging.visit use) = some ((), after)) :
      RosterStep lodging place [] before after
  | other {α : Type} {before after : Connection φ} {answer : α} (index : Nat)
      (elsewhere : index ≠ place)
      (call : φ → Surroundings → Repositories → Option (FactoryCall φ α))
      (worked : ∀ factory result, call factory before.surroundings before.repositories
        = some result → before.repositories.Steps result.repositories)
      (done : before.withFactory index call = some (answer, after)) :
      RosterStep lodging place [] before after

/-- A run of such calls, with the requests that were accepted on the way. -/
inductive RosterRun (lodging : Lodging β φ) (place : Nat) :
    List (Connection φ × ChannelRequest) → Connection φ → Connection φ → Prop
  | refl (connection : Connection φ) : RosterRun lodging place [] connection connection
  | next {made more : List (Connection φ × ChannelRequest)} {before middle after : Connection φ}
      (run : RosterRun lodging place made before middle)
      (step : RosterStep lodging place more middle after) :
      RosterRun lodging place (made ++ more) before after

variable {lodging : Lodging β φ} {place : Nat} {made : List (Connection φ × ChannelRequest)}
  {before after : Connection φ}

def tokensOf (made : List (Connection φ × ChannelRequest)) : List Token :=
  made.map fun entry => entry.1.nextToken

/-- Connecting a connection does not end it only if there is nothing to do, if the attempt does not
end, or if it leads to a connection that is up. -/
theorem connect_cases (works : FactoriesWork Repositories.Step φ) (before : Connection φ)
    (context : Context) (usable : (before.connect context).connection.status ≠ .disconnected) :
    (before.connect context).connection = before ∨
      (before.status = .new ∧ ((before.connect context).connection = before.attempting ∨
        ∃ handle contacts,
          before.attempting.repositories.Step { before.attempting.repositories with contacts } ∧
            (before.connect context).connection
              = ({ before.attempting with
                  repositories := { before.attempting.repositories with contacts }
                  selfHandle := handle }).changeStatus .connected .requested)) := by
  have attempt := before.connect_attempt context
  generalize before.connect context = run at attempt usable ⊢
  cases attempt with
  | again answer old => exact .inl rfl
  | waiting fresh => exact .inr ⟨fresh, .inl rfl⟩
  | abandoned fresh reason failure =>
      exact absurd (shutdown_disconnected works before.attempting context reason) usable
  | @established _ handle contacts fresh _ interned =>
      have found : before.attempting.repositories.get .contact
          = .ok before.attempting.repositories.contacts := rfl
      exact .inr ⟨fresh, .inr ⟨handle, contacts, .on found (.interned interned), rfl⟩⟩

theorem RosterStep.phases (works : FactoriesWork Repositories.Step φ)
    (step : RosterStep lodging place made before after) :
    Phases Repositories.Step (tokensOf made) before after := by
  cases step with
  | aside _ interfaces registered repositories worked ended =>
      exact (Phase.aside before interfaces registered repositories worked ended).phases
  | connect _ context usable =>
      have refl : Phases Repositories.Step [] before before := .refl before
      rcases before.connect_cases works context usable with
        same | ⟨fresh, same | ⟨handle, contacts, worked, same⟩⟩
      · rw [same]
        exact refl
      · rw [same]
        exact refl.next (.attempt before fresh)
      · have asked : Phases Repositories.Step [] before before.attempting :=
          refl.next (.attempt before fresh)
        rw [same]
        exact asked.next (.establish before.attempting handle _ (attempting_status works before)
          (.single worked))
  | request request sender done =>
      obtain ⟨given, _⟩ := request_channel_eq_ok done
      have phases := request_phases works done
      rwa [given] at phases
  | use use done =>
      exact (Phase.serve (with_factory_serves (fun factory result called =>
        lodging.visit_steps use factory _ _ result called) done)).phases
  | other index elsewhere call worked done =>
      exact (Phase.serve (with_factory_serves worked done)).phases

theorem RosterRun.phases (works : FactoriesWork Repositories.Step φ)
    (run : RosterRun lodging place made before after) :
    Phases Repositories.Step (tokensOf made) before after := by
  induction run with
  | refl => exact .refl _
  | next run step induction =>
      rw [tokensOf, List.map_append]
      exact induction.trans (step.phases works)

theorem on_repository_step {α : Type} (before : Connection φ) (kind : HandleKind)
    (batch : Repository → Repository.Batch α)
    (steps : ∀ repository : Repository, repository.Steps (batch repository).repository) :
    RosterStep lodging place [] before (before.onRepository kind batch).2 := by
  unfold onRepository
  split
  · exact .aside before _ _ before.repositories .refl fun _ => rfl
  · exact .aside before _ _ before.repositories .refl fun _ => rfl
  · rename_i repository _ found
    exact .aside before _ _ _ (Repositories.steps_on found (steps repository)) fun _ => rfl

section Places

variable {kept : Roster β → Prop} {connection : Connection φ}

/-- At a place among the factories stands a roster of a kind. -/
def Lodged (lodging : Lodging β φ) (place : Nat) (kept : Roster β → Prop)
    (connection : Connection φ) : Prop :=
  ∃ roster, connection.factories[place]? = some (lodging.lodge roster) ∧ kept roster

theorem Lodged.of_factories (lodged : Lodged lodging place kept connection)
    (same : after.factories = connection.factories) : Lodged lodging place kept after := by
  obtain ⟨roster, present, fits⟩ := lodged
  exact ⟨roster, same ▸ present, fits⟩

theorem Lodged.eased (before after : Connection φ) (eased : Eased before after)
    (lodged : Lodged lodging place kept before) : Lodged lodging place kept after := by
  obtain ⟨pending, acts, _, rfl⟩ := eased
  exact lodged

theorem Lodged.taking_other {α : Type} {index : Nat} (lodged : Lodged lodging place kept connection)
    (elsewhere : index ≠ place) (call : FactoryCall φ α) :
    Lodged lodging place kept (connection.taking index call) := by
  obtain ⟨roster, present, fits⟩ := lodged
  refine ⟨roster, ?_, fits⟩
  rw [taking, List.getElem?_set_ne elsewhere, present]

theorem lodged_taking {α : Type} {factory : φ} {next : Roster β} {call : FactoryCall φ α}
    (present : connection.factories[place]? = some factory)
    (left : call.factory = lodging.lodge next) (fits : kept next) :
    Lodged lodging place kept (connection.taking place call) := by
  obtain ⟨bound, _⟩ := List.getElem?_eq_some_iff.1 present
  refine ⟨next, ?_, fits⟩
  rw [taking, List.getElem?_set_self bound, left]

end Places

/-- A roster that keeps to itself what it should stands at a place. -/
def Standing (lodging : Lodging β φ) (place : Nat) (owed : List (Token × ChannelRequest))
    (connection : Connection φ) : Prop :=
  ∃ roster, connection.factories[place]? = some (lodging.lodge roster) ∧
    roster.Kept connection.surroundings owed

variable {owed : List (Token × ChannelRequest)}

theorem Standing.eased (before after : Connection φ) (eased : Eased before after)
    (standing : Standing lodging place owed before) : Standing lodging place owed after := by
  obtain ⟨pending, acts, _, same⟩ := eased
  subst same
  exact standing

theorem Standing.taking_other {α : Type} {connection : Connection φ} {index : Nat}
    (standing : Standing lodging place owed connection) (elsewhere : index ≠ place)
    (call : FactoryCall φ α) : Standing lodging place owed (connection.taking index call) :=
  Lodged.taking_other standing elsewhere call

theorem Standing.taking_own {α : Type} {connection : Connection φ} {roster next : Roster β}
    {call : FactoryCall φ α} (present : connection.factories[place]? = some (lodging.lodge roster))
    (left : call.factory = lodging.lodge next) (kept : next.Kept connection.surroundings owed) :
    Standing lodging place owed (connection.taking place call) :=
  lodged_taking present left kept

theorem Standing.hook_all {hook : FactoryHook}
    (rising : hook = .connecting ∨ hook = .connected) (connection : Connection φ)
    (standing : Standing lodging place owed connection) :
    Standing lodging place owed (connection.hookAll hook) := by
  have eased : ∀ before after : Connection φ, Eased before after →
      Standing lodging place owed before → Standing lodging place owed after := Standing.eased
  refine hook_all_kept eased ?_ connection standing
  intro current index factory present standing
  by_cases here : index = place
  · obtain ⟨roster, known, kept⟩ := standing
    subst here
    rw [known] at present
    cases present
    refine Standing.taking_own known ?_ kept
    rw [lodging.hook]
    rcases rising with same | same <;> rw [same] <;> rfl
  · exact standing.taking_other here _

theorem Standing.change_status {status : ConnectionStatus} {hook : FactoryHook}
    (told : hookOf? status = some hook) (rising : hook = .connecting ∨ hook = .connected)
    (connection : Connection φ) (reason : StatusReason)
    (standing : Standing lodging place owed connection) :
    Standing lodging place owed (connection.changeStatus status reason) := by
  obtain ⟨roster, present, kept⟩ := standing
  have announced : Standing lodging place owed
      (({ connection with status, reason }).announceEvent
        (.statusChanged status.visible reason)) :=
    ⟨roster, present, kept.elsewhere rfl⟩
  unfold changeStatus
  rw [told]
  exact announced.hook_all rising

theorem RosterStep.standing (works : FactoriesWork Repositories.Step φ)
    (step : RosterStep lodging place made before after) (usable : after.status ≠ .disconnected)
    (standing : Standing lodging place owed before) : Standing lodging place owed after := by
  cases step with
  | aside _ interfaces registered repositories worked ended => exact standing
  | connect _ context usable =>
      have attempted : Standing lodging place owed before.attempting :=
        Standing.eased _ _ (record_eased _ _)
          (standing.change_status rfl (.inl rfl) before .requested)
      rcases before.connect_cases works context usable with
        same | ⟨_, same | ⟨handle, contacts, _, same⟩⟩
      · rw [same]
        exact standing
      · rw [same]
        exact attempted
      · obtain ⟨roster, present, kept⟩ := attempted
        have known : Standing lodging place owed { before.attempting with
            repositories := { before.attempting.repositories with contacts }
            selfHandle := handle } := ⟨roster, present, kept.elsewhere rfl⟩
        rw [same]
        exact known.change_status rfl (.inr rfl) _ .requested
  | request request sender done =>
      obtain ⟨_, _, _, same⟩ := request_channel_eq_ok done
      have accepted : Standing lodging place owed (before.accepting request sender) := standing
      have eased : ∀ before after : Connection φ, Eased before after →
          Standing lodging place owed before → Standing lodging place owed after := Standing.eased
      rw [same]
      refine ask_factories_kept eased ?_ _ none _ accepted
      intro current index factory present standing
      by_cases here : index = place
      · obtain ⟨roster, known, kept⟩ := standing
        subst here
        rw [known] at present
        cases present
        let call : RosterCall β := { roster, repositories := current.repositories }
        have left : call.roster.Kept current.surroundings owed := kept
        refine Standing.taking_own known ?_ (left.request request before.nextToken)
        rw [lodging.request]
        rfl
      · exact standing.taking_other here _
  | use use done =>
      obtain ⟨factory, result, present, called, same⟩ := with_factory_taken done
      obtain ⟨roster, known, kept⟩ := standing
      rw [known] at present
      cases present
      unfold Lodging.visit at called
      rw [lodging.found] at called
      cases called
      let call : RosterCall β := { roster, repositories := before.repositories }
      have left : call.roster.Kept before.surroundings owed := kept
      rw [same]
      refine Standing.eased _ _ (apply_call_eased _ place _) ?_
      have recorded : (before.record (.called place)).factories[place]?
          = some (lodging.lodge roster) := known
      exact Standing.taking_own recorded rfl (left.perform rfl use)
  | other index elsewhere call worked done =>
      obtain ⟨factory, result, _, _, same⟩ := with_factory_taken done
      have recorded : Standing lodging place owed (before.record (.called index)) := standing
      rw [same]
      exact Standing.eased _ _ (apply_call_eased _ index _) (recorded.taking_other elsewhere result)

theorem RosterRun.standing (works : FactoriesWork Repositories.Step φ)
    (run : RosterRun lodging place made before after) (usable : after.status ≠ .disconnected)
    (standing : Standing lodging place owed before) : Standing lodging place owed after := by
  induction run with
  | refl => exact standing
  | next run step induction =>
      have open_ : _ ≠ ConnectionStatus.disconnected :=
        fun gone => usable ((step.phases works).disconnected gone)
      exact step.standing works usable (induction open_ standing)

/-- A roster with two lists and with groups that have names in small letters. -/
def smallLetters : Rehearsal.StandInBackend :=
  { custom := true, persists := false, blocking := .none }

def rehearsedRoster : Connection (Roster Rehearsal.StandInBackend) :=
  ((build { base := "im", manager := "m", protocol := "p" }
    { uniqueName := some "me", connecting := some (.ok "me") } [{ backend := smallLetters }]
    .start).1.toOption).get (by decide)

theorem rehearsed_roster_fresh : Fresh rehearsedRoster :=
  ⟨{ base := "im", manager := "m", protocol := "p" },
    { uniqueName := some "me", connecting := some (.ok "me") }, [{ backend := smallLetters }],
    .start, rfl⟩

def rehearsedRosterUp : Connection (Roster Rehearsal.StandInBackend) :=
  (rehearsedRoster.connect .start).connection

theorem rehearsed_roster_up_run : RosterRun Lodging.own 0 [] rehearsedRoster rehearsedRosterUp :=
  .next (.refl rehearsedRoster) (.connect rehearsedRoster .start
    fun gone => ConnectionStatus.noConfusion gone)

def groupRequest : ChannelRequest := ⟨contactListType, .group, 1, false⟩

end Connection

end ConnectionManager
