import ConnectionManager.Proofs.Handle.Repositories

/-!
Repositories after their end. Whatever is asked of a repository that has ended is refused, because
its connection is gone (`Repository.Unusable`), and it stays so whatever is tried
(`Repositories.Steps.unusable`).
-/

namespace ConnectionManager

namespace Repository

/-- No handle is valid, and every operation says that the repository can be used no more. A guard
speaks before the repository behind it does. -/
structure Unusable (repository : Repository) : Prop where
  dead : ∀ handle, repository.isValid handle = false
  inspect : ∀ handle,
    repository.inspect handle = .error (HandleFailure.unusable repository.kind)
  lookup : ∀ id, repository.lookup id = .error (HandleFailure.unusable repository.kind)
  intern : ∀ id, repository.intern id = .error (HandleFailure.unusable repository.kind)
  addReference : ∀ handle,
    repository.addReference handle = .error (HandleFailure.unusable repository.kind)
  dropReference : ∀ handle,
    repository.dropReference handle = .error (HandleFailure.unusable repository.kind)
  hold : ∀ handle client,
    repository.hold handle client = .error (HandleFailure.unusable repository.kind) ∨
      ∃ table, repository = .guarded table handle ∧
        repository.hold handle client = .error ⟨.inconsistent, "hold refused"⟩
  release : ∀ handle client,
    repository.release handle client = .error (HandleFailure.unusable repository.kind)

def isOver : Repository → Bool
  | .dynamic table | .guarded table _ => table.invalid
  | .fixed list => list.invalid

variable {repository next : Repository}

theorem Unusable.dynamic {table : DynamicRepository} (ended : table.invalid = true) :
    (Repository.dynamic table).Unusable := by
  have entry : ∀ handle, table.entry handle = .error (HandleFailure.unusable table.kind) :=
    fun _ => if_pos ended
  exact {
    dead := fun handle => by simp [isValid, DynamicRepository.isValid, ended]
    inspect := fun handle => by rw [Repository.inspect, DynamicRepository.inspect, entry]; rfl
    lookup := fun id => if_pos ended
    intern := fun id => by
      have refused : table.intern id = .error (HandleFailure.unusable table.kind) := if_pos ended
      rw [Repository.intern, refused]
      rfl
    addReference := fun handle => by
      rw [Repository.addReference, DynamicRepository.addReference, entry]
      rfl
    dropReference := fun handle => by
      rw [Repository.dropReference, DynamicRepository.dropReference, entry]
      rfl
    hold := fun handle client => by
      left
      rw [Repository.hold, DynamicRepository.hold, entry]
      rfl
    release := fun handle client => by
      rw [Repository.release, DynamicRepository.release, entry]
      rfl }

theorem Unusable.guarded {table : DynamicRepository} (refused : Handle)
    (unusable : (Repository.dynamic table).Unusable) :
    (Repository.guarded table refused).Unusable := by
  have behind : ∀ {α β γ : Type} {outcome : Outcome α} {failure : Failure} {seen : α → β}
      {guarded : α → γ}, outcome.map seen = .error failure → outcome.map guarded = .error failure := by
    intro α β γ outcome failure seen guarded failed
    exact Outcome.map_eq_error.2 (Outcome.map_eq_error.1 failed)
  exact {
    dead := unusable.dead
    inspect := unusable.inspect
    lookup := unusable.lookup
    intern := fun id => behind (unusable.intern id)
    addReference := fun handle => behind (unusable.addReference handle)
    dropReference := fun handle => behind (unusable.dropReference handle)
    hold := fun handle client => by
      by_cases same : handle = refused
      · subst same
        exact .inr ⟨table, rfl, if_pos rfl⟩
      · rcases unusable.hold handle client with failed | ⟨_, other, _⟩
        · exact .inl ((if_neg same).trans (behind failed))
        · cases other
    release := fun handle client => behind (unusable.release handle client) }

theorem Unusable.fixed {list : FixedRepository} (ended : list.invalid = true) :
    (Repository.fixed list).Unusable := by
  have check : ∀ handle, list.check handle = .error (HandleFailure.unusable list.kind) :=
    fun _ => if_pos ended
  have lookup : ∀ id, list.lookup id = .error (HandleFailure.unusable list.kind) :=
    fun _ => if_pos ended
  exact {
    dead := fun handle => by simp [isValid, FixedRepository.isValid, ended]
    inspect := fun handle => by rw [Repository.inspect, FixedRepository.inspect, check]; rfl
    lookup
    intern := fun id => by rw [Repository.intern, FixedRepository.intern, lookup]; rfl
    addReference := fun handle => by rw [Repository.addReference, check]; rfl
    dropReference := fun handle => by rw [Repository.dropReference, check]; rfl
    hold := fun handle client => by
      left
      rw [Repository.hold, FixedRepository.hold, check]
      rfl
    release := fun handle client => by
      rw [Repository.release, FixedRepository.release, check]
      rfl }

theorem unusable_of_over (ended : repository.isOver = true) : repository.Unusable := by
  cases repository with
  | dynamic table => exact .dynamic ended
  | guarded table refused => exact (Unusable.dynamic ended).guarded refused
  | fixed list => exact .fixed ended

/-- What can be used looks up an empty text at least. -/
theorem Unusable.is_over (unusable : repository.Unusable) : repository.isOver = true := by
  have refused := unusable.lookup ""
  cases repository with
  | dynamic table | guarded table _ =>
      change table.lookup "" = _ at refused
      unfold DynamicRepository.lookup at refused
      split at refused
      · assumption
      · split at refused <;> cases refused
  | fixed list =>
      change list.lookup "" = _ at refused
      unfold FixedRepository.lookup at refused
      split at refused
      · assumption
      · split at refused <;> cases refused

theorem invalidate_over (repository : Repository) : repository.invalidate.isOver = true := by
  cases repository <;> rfl

theorem Step.is_over (step : repository.Step next) (ended : repository.isOver = true) :
    next.isOver = true := by
  cases step.shift with
  | dynamic table operation | guarded table refused operation =>
      change (table.perform operation).invalid = true
      rw [DynamicRepository.perform_invalid ended]
      exact ended
  | fixed list changed alike => exact alike.invalid.trans ended

end Repository

namespace Repositories

variable {repositories next : Repositories}

def Unusable (repositories : Repositories) : Prop :=
  ∀ kind repository, repositories.get kind = .ok repository → repository.Unusable

theorem invalidate_all_unusable : repositories.invalidateAll.Unusable := by
  intro kind changed found
  rw [get_invalidate_all] at found
  obtain ⟨repository, _, rfl⟩ := Outcome.map_eq_ok.1 found
  exact Repository.unusable_of_over repository.invalidate_over

theorem Step.unusable (step : repositories.Step next) (unusable : repositories.Unusable) :
    next.Unusable := by
  intro kind changed found
  obtain ⟨repository, known, rfl | taken⟩ := step.at_kind found
  · exact unusable kind changed known
  · exact Repository.unusable_of_over (taken.is_over (unusable kind repository known).is_over)

theorem Steps.unusable (steps : repositories.Steps next) (unusable : repositories.Unusable) :
    next.Unusable := by
  induction steps with
  | refl => exact unusable
  | tail _ step induction => exact step.unusable induction

end Repositories

end ConnectionManager
