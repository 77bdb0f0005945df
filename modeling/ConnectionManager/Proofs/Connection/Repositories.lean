import ConnectionManager.Proofs.Connection.Shutdown

/-!
What becomes of the repositories of a connection. From one moment of a run to the next they are left
alone, take one step, or end.
-/

namespace ConnectionManager.Connection

variable {φ : Type}

/-- From one moment to the next a connection leaves its repositories alone, takes one step on them
or ends them. -/
inductive Move : Connection φ → Connection φ → Prop
  | keep {before after : Connection φ} (same : after.repositories = before.repositories) :
      Move before after
  | step {before after : Connection φ}
      (taken : Repositories.Step before.repositories after.repositories) : Move before after
  | invalidate {before after : Connection φ}
      (ended : after.repositories = before.repositories.invalidateAll) : Move before after

abbrev Moves : Connection φ → Connection φ → Prop := Relation.ReflTransGen Move

variable {before after : Connection φ}

/-- What steps keep, and the end brings about, is kept. -/
theorem Move.keeps {property : Repositories → Prop}
    (steps : ∀ {repositories next : Repositories}, repositories.Step next →
      property repositories → property next)
    (ends : ∀ repositories : Repositories, property repositories.invalidateAll)
    (move : Move before after) (kept : property before.repositories) :
    property after.repositories := by
  cases move with
  | keep same => exact same ▸ kept
  | step taken => exact steps taken kept
  | invalidate ended =>
      rw [ended]
      exact ends before.repositories

theorem Moves.keeps {property : Repositories → Prop}
    (steps : ∀ {repositories next : Repositories}, repositories.Step next →
      property repositories → property next)
    (ends : ∀ repositories : Repositories, property repositories.invalidateAll)
    (moves : Moves before after) (kept : property before.repositories) :
    property after.repositories := by
  induction moves with
  | refl => exact kept
  | tail _ move induction => exact move.keeps steps ends induction

theorem Move.sound (move : Move before after) (sound : before.repositories.Sound) :
    after.repositories.Sound :=
  move.keeps Repositories.Step.sound (fun _ => Repositories.invalidate_all_sound) sound

theorem Moves.sound (moves : Moves before after) (sound : before.repositories.Sound) :
    after.repositories.Sound :=
  moves.keeps Repositories.Step.sound (fun _ => Repositories.invalidate_all_sound) sound

/-- There is no way back from the end. -/
theorem Moves.unusable (moves : Moves before after) (unusable : before.repositories.Unusable) :
    after.repositories.Unusable :=
  moves.keeps Repositories.Step.unusable (fun _ => Repositories.invalidate_all_unusable) unusable

theorem reply_repositories (connection : Connection φ) (outcome : Outcome ObjectPath)
    (requests : List PendingRequest) :
    (connection.reply outcome requests).repositories = connection.repositories := by
  rw [reply_eq]

theorem Service.move (service : Service Repositories.Step before after) : Move before after := by
  cases service with
  | work repositories worked => exact .step worked
  | keep index factory => exact .keep rfl
  | note act quiet => exact .keep rfl
  | announce channel token usable => exact .keep (reply_repositories _ _ _)
  | answer channel token outcome own => exact .keep (reply_repositories _ _ _)
  | settle token failure =>
      unfold answerToken
      split
      · exact .keep (reply_repositories _ _ _)
      · exact .keep rfl

theorem Serves.moves {hooks : List (Nat × FactoryHook)}
    (serves : Serves Repositories.Step hooks before after) : Moves before after := by
  induction serves with
  | refl => exact .refl
  | next serves service induction => exact induction.tail service.move
  | hook index hook serves induction => exact induction.tail (.keep rfl)

theorem worked_moves {repositories : Repositories} (start : before.repositories.Steps repositories)
    (same : after.repositories = repositories) : Moves before after := by
  have steps : ∀ reached, before.repositories.Steps reached →
      Moves before { before with repositories := reached } := by
    intro reached steps
    induction steps with
    | refl => exact .refl
    | tail _ step induction => exact induction.tail (.step step)
  exact (steps repositories start).tail (.keep same)

theorem end_shutdown_moves (connection : Connection φ) (context : Context) :
    Moves connection (connection.endShutdown context).1 := by
  have released : Moves connection connection.releaseSelf := by
    unfold releaseSelf
    split
    · exact .refl
    · have found : connection.repositories.get .contact = .ok connection.repositories.contacts := rfl
      have dropped : connection.repositories.contacts.Steps
          (connection.repositories.contacts.orUnchanged
            (connection.repositories.contacts.dropReference connection.selfHandle)) :=
        connection.repositories.contacts.or_unchanged_steps fun _ done => .dropped done
      exact worked_moves (Repositories.steps_on found dropped) rfl
  have ended : Moves connection connection.releaseSelf.invalidateRepositories :=
    released.tail (.invalidate rfl)
  have same : (connection.endShutdown context).1.repositories
      = connection.releaseSelf.invalidateRepositories.repositories := by
    unfold endShutdown releaseName
    by_cases claimed : connection.releaseSelf.invalidateRepositories.registered = true
    · rw [if_pos claimed]
      rfl
    · rw [if_neg claimed]
      rfl
  exact ended.tail (.keep same)

variable [ChannelFactory φ] {tokens : List Token}

theorem begin_shutdown_moves (works : FactoriesWork Repositories.Step φ) (before : Connection φ)
    (reason : StatusReason) : Moves before (before.beginShutdown reason) := by
  have silenced : Moves before (before.silenced reason) := by
    rw [silenced_eq]
    exact .single (.keep rfl)
  unfold beginShutdown
  split
  · exact silenced
  · have told := (hook_all_serves works (before.silenced reason) .disconnected).moves
    have closed := (hook_all_serves works ((before.silenced reason).hookAll .disconnected)
      .closeAll).moves
    exact ((silenced.trans told).trans closed).tail (.keep rfl)

theorem change_status_moves (works : FactoriesWork Repositories.Step φ) (before : Connection φ)
    {status : ConnectionStatus} {hook : FactoryHook} (reason : StatusReason)
    (told : hookOf? status = some hook) : Moves before (before.changeStatus status reason) := by
  let announced := ({ before with status, reason }).announceEvent
    (.statusChanged status.visible reason)
  have same : before.changeStatus status reason = announced.hookAll hook := by
    unfold changeStatus
    rw [told]
  have first : Moves before announced := .single (.keep rfl)
  rw [same]
  exact first.trans (hook_all_serves works announced hook).moves

theorem Phase.moves (works : FactoriesWork Repositories.Step φ)
    (phase : Phase Repositories.Step tokens before after) : Moves before after := by
  cases phase with
  | serve serves => exact serves.moves
  | aside _ interfaces registered repositories worked ended => exact worked_moves worked rfl
  | accept _ request sender connected allowed => exact .single (.keep rfl)
  | attempt _ fresh =>
      have rising : Moves before (before.changeStatus .connecting .requested) :=
        change_status_moves works before .requested rfl
      exact rising.tail (.keep rfl)
  | establish _ selfHandle repositories connecting worked =>
      have known : Moves before { before with repositories, selfHandle } := worked_moves worked rfl
      exact known.trans (change_status_moves works _ .requested rfl)
  | shutdown _ context reason usable completed =>
      rw [shutdown_eq before context reason usable completed]
      exact (begin_shutdown_moves works before reason).trans (end_shutdown_moves _ context)

theorem Phases.moves (works : FactoriesWork Repositories.Step φ)
    (phases : Phases Repositories.Step tokens before after) : Moves before after := by
  induction phases with
  | refl => exact .refl
  | next phases phase induction => exact induction.trans (phase.moves works)

theorem calls_moves (works : FactoriesWork Repositories.Step φ)
    (calls : Calls Repositories.Step tokens before after) : Moves before after :=
  (calls_phases works (fun _ _ step => step) calls).moves works

end ConnectionManager.Connection
