import ConnectionManager.Proofs.Handle.Claims
import ConnectionManager.Proofs.Handle.Repositories

/-!
Clients of a repository. What is done for one client takes no hold from another one and gives it
none (`StepFor.holds`), and whatever a client holds is valid (`Honest`). So a handle that a client
holds outlasts all that is done for others, and stands for the same identifier all the time
(`StepsFor.undisturbed`).
-/

namespace ConnectionManager

namespace FixedRepository

variable {repository next : FixedRepository} {handle : Handle} {client : String}

theorem release_fewer (done : repository.release handle client = .ok next) (sought : Handle)
    (name : String) : next.holds sought name ≤ repository.holds sought name := by
  by_cases here : (⟨sought, name⟩ : HoldKey) = ⟨handle, client⟩
  · obtain ⟨count, found, rfl⟩ := release_eq_ok done
    dsimp only [holds]
    rw [here, found]
    split
    · rw [Catalog.find_erase, if_pos rfl]
      exact Nat.zero_le _
    · rw [Catalog.find_insert, if_pos rfl]
      exact Nat.sub_le _ _
  · exact Nat.le_of_eq (release_elsewhere done here)

end FixedRepository

namespace Repository

variable {repository next : Repository} {handle key : Handle} {client other : String}

theorem StepFor.holds (step : repository.StepFor client next) (sound : repository.Sound)
    (apart : other ≠ client) : next.holds key other = repository.holds key other := by
  have spared : Keeper.client other ≠ .client client := fun same => apart (Keeper.client.inj same)
  cases step with
  | interned done => exact (intern_spares done).holds sound (service_apart _).symm
  | dropped done => exact (drop_spares done).holds sound (service_apart _).symm
  | held done => exact (hold_spares done).holds sound spared
  | released done => exact (release_spares done).holds sound spared
  | vanished => exact (repository.vanished_spares client).holds sound spared

def Honest (repository : Repository) : Prop :=
  ∀ handle client, 0 < repository.holds handle client → repository.isValid handle = true

theorem settled_honest {repository : DynamicRepository} (settled : repository.Settled)
    {handle : Handle} {client : String} (held : 0 < repository.holds handle client) :
    repository.isValid handle = true :=
  settled.valid_iff.2 ⟨.client client, dynamic_holds repository handle client ▸ held⟩

theorem perform_honest {repository : DynamicRepository}
    (sound : repository.invalid = true ∨ repository.Settled)
    (honest : ∀ handle client, 0 < repository.holds handle client → repository.isValid handle = true)
    (operation : DynamicRepository.Operation) {handle : Handle} {client : String}
    (held : 0 < (repository.perform operation).holds handle client) :
    (repository.perform operation).isValid handle = true := by
  rcases sound with invalid | settled
  · rw [DynamicRepository.perform_invalid invalid] at held ⊢
    exact honest handle client held
  · exact settled_honest (settled.perform operation) held

/-- A client comes to hold a name of a fixed list only where the list has the name. -/
theorem fixed_honest {repository next : FixedRepository} (alike : repository.Alike next)
    (step : (Repository.fixed repository).Step (.fixed next))
    (honest : (Repository.fixed repository).Honest) : (Repository.fixed next).Honest := by
  intro sought name held
  have same : next.isValid sought = repository.isValid sought := by
    rw [FixedRepository.isValid, FixedRepository.isValid, alike.names, alike.invalid]
  have before : 0 < repository.holds sought name → next.isValid sought = true :=
    fun held => same.trans (honest sought name held)
  change 0 < next.holds sought name at held
  change next.isValid sought = true
  cases step with
  | interned done =>
      cases intern_by_form done with
      | fixed kept => exact before (kept.1 ▸ held)
  | referenced done =>
      cases reference_by_form done with
      | fixed kept => exact before (kept.1 ▸ held)
  | dropped done =>
      cases drop_by_form done with
      | fixed kept => exact before (kept.1 ▸ held)
  | @held _ handle client done =>
      cases hold_by_form done with
      | fixed outcome =>
          by_cases here : (⟨sought, name⟩ : HoldKey) = ⟨handle, client⟩
          · cases here
            exact same.trans (FixedRepository.hold_eq_ok outcome).1
          · exact before (FixedRepository.hold_elsewhere outcome here ▸ held)
  | released done =>
      cases release_by_form done with
      | fixed outcome =>
          exact before (Nat.lt_of_lt_of_le held (FixedRepository.release_fewer outcome sought name))
  | vanished client =>
      rw [FixedRepository.vanished_holds] at held
      split at held
      · cases held
      · exact before held

theorem Step.honest (step : repository.Step next) (sound : repository.Sound)
    (honest : repository.Honest) : next.Honest := by
  cases step.shift with
  | dynamic repository operation =>
      exact fun handle client held => perform_honest sound honest operation held
  | guarded repository refused operation =>
      exact fun handle client held => perform_honest sound honest operation held
  | fixed repository next alike => exact fixed_honest alike step honest

theorem invalidate_honest (repository : Repository) : repository.invalidate.Honest := by
  intro handle client held
  cases repository <;> exact absurd held (Nat.lt_irrefl 0)

/-- A client has the holds that it had, and what it holds is valid and stands for what it stood
for. -/
structure Undisturbed (client : String) (before after : Repository) : Prop where
  holds : ∀ handle, after.holds handle client = before.holds handle client
  kept : ∀ handle, 0 < after.holds handle client → after.isValid handle = true ∧
    ∃ id, before.inspect handle = .ok id ∧ after.inspect handle = .ok id

theorem undisturbed_self (honest : repository.Honest) (client : String) :
    repository.Undisturbed client repository where
  holds _ := rfl
  kept handle held := by
    have valid := honest handle client held
    obtain ⟨id, named⟩ := inspect_of_valid valid
    exact ⟨valid, id, named, named⟩

theorem StepFor.undisturbed (step : repository.StepFor client next) (sound : repository.Sound)
    (honest : repository.Honest) (apart : other ≠ client) : repository.Undisturbed other next where
  holds _ := step.holds sound apart
  kept handle held := by
    have valid := step.step.honest sound honest handle other held
    obtain ⟨id, named⟩ := inspect_of_valid
      (honest handle other (step.holds sound apart ▸ held))
    exact ⟨valid, id, named, step.step.keeps sound named valid⟩

theorem Undisturbed.trans {middle : Repository} (first : repository.Undisturbed client middle)
    (second : middle.Undisturbed client next) : repository.Undisturbed client next where
  holds handle := (second.holds handle).trans (first.holds handle)
  kept handle held := by
    obtain ⟨valid, id, named, after⟩ := second.kept handle held
    obtain ⟨_, earlier, before, again⟩ := first.kept handle (second.holds handle ▸ held)
    rw [named] at again
    cases again
    exact ⟨valid, id, before, after⟩

/-- All that is done for one client leaves the others alone. -/
theorem StepsFor.undisturbed (steps : repository.StepsFor client next) (sound : repository.Sound)
    (honest : repository.Honest) (apart : other ≠ client) :
    repository.Undisturbed other next ∧ next.Sound ∧ next.Honest := by
  induction steps with
  | refl => exact ⟨undisturbed_self honest other, sound, honest⟩
  | tail _ step induction =>
      obtain ⟨undisturbed, sound, honest⟩ := induction
      exact ⟨undisturbed.trans (step.undisturbed sound honest apart), step.step.sound sound,
        step.step.honest sound honest⟩

end Repository

namespace Repositories

variable {repositories next : Repositories} {kind : HandleKind} {repository changed : Repository}
  {client other : String}

def Honest (repositories : Repositories) : Prop :=
  ∀ kind repository, repositories.get kind = .ok repository → repository.Honest

/-- No repository of any kind is taken away, and in none a client notices what was done. -/
def Undisturbed (client : String) (before after : Repositories) : Prop :=
  ∀ kind repository, before.get kind = .ok repository →
    ∃ next, after.get kind = .ok next ∧ repository.Undisturbed client next

theorem Step.honest (step : repositories.Step next) (sound : repositories.Sound)
    (honest : repositories.Honest) : next.Honest := by
  intro kind changed found
  obtain ⟨repository, known, rfl | taken⟩ := step.at_kind found
  · exact honest kind changed known
  · exact taken.honest (sound kind repository known) (honest kind repository known)

theorem invalidate_all_honest : repositories.invalidateAll.Honest := by
  intro kind changed found
  rw [get_invalidate_all] at found
  obtain ⟨repository, _, same⟩ := Outcome.map_eq_ok.1 found
  rw [← same]
  exact repository.invalidate_honest

theorem standard_honest : standard.Honest := by
  intro kind repository found handle client held
  rcases get_eq_ok.1 found with ⟨_, same⟩ | ⟨_, known⟩
  · rw [← same] at held
    exact absurd held (Nat.lt_irrefl 0)
  · have others : standard.others
        = (Catalog.empty.insert .list (.fixed .lists)).insert .group (.dynamic (.plain .group)) := rfl
    rw [others, Catalog.find_insert, Catalog.find_insert] at known
    split at known
    · cases known
      exact absurd held (Nat.lt_irrefl 0)
    · split at known
      · cases known
        exact absurd held (Nat.lt_irrefl 0)
      · cases known

theorem undisturbed_self (honest : repositories.Honest) (client : String) :
    repositories.Undisturbed client repositories :=
  fun kind repository found =>
    ⟨repository, found, Repository.undisturbed_self (honest kind repository found) client⟩

theorem undisturbed_set (honest : repositories.Honest)
    (found : repositories.get kind = .ok repository) (spared : repository.Undisturbed client changed) :
    repositories.Undisturbed client (repositories.set kind changed) := by
  intro sought known present
  by_cases same : sought = kind
  · subst same
    rw [found] at present
    cases present
    exact ⟨changed, get_set found, spared⟩
  · exact ⟨known, by rw [get_set_other same, present],
      Repository.undisturbed_self (honest sought known present) client⟩

theorem undisturbed_vanished (sound : repositories.Sound) (honest : repositories.Honest)
    (apart : other ≠ client) :
    repositories.Undisturbed other (repositories.clientVanished client) := by
  intro kind repository found
  have step : repository.StepFor client (repository.clientVanished client) := .vanished repository
  refine ⟨repository.clientVanished client, by rw [get_client_vanished, found]; rfl, ?_⟩
  exact step.undisturbed (sound kind repository found) (honest kind repository found) apart

end Repositories

end ConnectionManager
