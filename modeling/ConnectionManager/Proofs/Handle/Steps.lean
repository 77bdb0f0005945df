import ConnectionManager.Handle.Batch
import ConnectionManager.Proofs.Handle.Forms
import ConnectionManager.Proofs.Handle.History
import Mathlib.Logic.Relation

/-!
Steps of a repository of any form. Batches are chains of steps for one client, also where they fail
on the way and put back what they did. As long as a handle stays valid it keeps its identifier
(`Step.keeps`).
-/

namespace ConnectionManager

namespace DynamicRepository

variable {repository : DynamicRepository} {handle : Nat} {old entry : HandleEntry}

theorem set_entry_keeps {changed : Nat} {present inserted : HandleEntry}
    (found : repository.entries.find? handle = some old)
    (known : repository.entries.find? changed = some present)
    (left : (repository.setEntry changed inserted).entries.find? handle = some entry)
    (sameId : inserted.id = present.id) : entry.id = old.id := by
  rw [find_set_entry] at left
  split at left
  · rename_i same
    rw [← same, found] at known
    cases known
    cases left
    exact sameId
  · rw [found] at left
    cases left
    rfl

/-- An operation that leaves a handle live does not change what it stands for. -/
theorem Settled.perform_keeps (settled : repository.Settled) (operation : Operation)
    (found : repository.entries.find? handle = some old)
    (left : (repository.perform operation).entries.find? handle = some entry) :
    entry.id = old.id := by
  refine @perform_induction repository
    (fun next => ∀ entry, next.entries.find? handle = some entry → entry.id = old.id)
    operation ?_ ?_ ?_ ?_ ?_ ?_ ?_ entry left
  · intro entry left
    rw [found] at left
    cases left
    rfl
  · intro id interned next done entry left
    obtain ⟨_, normal, _, ⟨present, _, known, same⟩ | ⟨_, allocated, taken, same⟩⟩ :=
      intern_eq_ok done
    · rw [same] at left
      exact set_entry_keeps found known left rfl
    · rw [same, Catalog.find_insert, allocate_rest taken] at left
      split at left
      · rename_i fresh
        rw [fresh, settled.allocate_dead taken] at found
        cases found
      · rw [found] at left
        cases left
        rfl
  · intro referenced next done entry left
    obtain ⟨present, known, same⟩ := add_reference_eq_ok done
    rw [same] at left
    exact set_entry_keeps found known left rfl
  · intro dropped next done entry left
    obtain ⟨present, known, _, same⟩ := drop_reference_eq_ok done
    rw [same, find_release_if_unused] at left
    exact set_entry_keeps found known left.1 rfl
  · intro held client next done entry left
    obtain ⟨present, known, same⟩ := hold_eq_ok done
    rw [same] at left
    exact set_entry_keeps found known left rfl
  · intro released client next done entry left
    obtain ⟨present, count, known, _, same⟩ := release_eq_ok done
    rw [same, find_release_if_unused] at left
    exact set_entry_keeps found known left.1 rfl
  · intro client entry left
    rw [client_vanished_eq client settled.usable, find_release_list, withoutHolder,
      Catalog.find_map_values, found] at left
    cases left.1
    rfl

theorem perform_invalid (invalid : repository.invalid = true) (operation : Operation) :
    repository.perform operation = repository := by
  have unusable : ∀ handle, repository.entry handle
      = .error (HandleFailure.unusable repository.kind) := fun _ => if_pos invalid
  refine @perform_induction repository (fun next => next = repository) operation rfl
    ?_ ?_ ?_ ?_ ?_ ?_
  · intro id handle next done
    have usable := (intern_eq_ok done).1
    rw [invalid] at usable
    cases usable
  · intro handle next done
    rw [addReference, unusable] at done
    cases done
  · intro handle next done
    rw [dropReference, unusable] at done
    cases done
  · intro handle client next done
    rw [DynamicRepository.hold, unusable] at done
    cases done
  · intro handle client next done
    rw [release, unusable] at done
    cases done
  · intro client
    exact if_pos invalid

end DynamicRepository

namespace Repository

/-- A successful operation of a repository, or the leaving of a client. -/
inductive Step : Repository → Repository → Prop
  | interned {repository next : Repository} {id : String} {handle : Handle}
      (done : repository.intern id = .ok (handle, next)) : Step repository next
  | referenced {repository next : Repository} {handle : Handle}
      (done : repository.addReference handle = .ok next) : Step repository next
  | dropped {repository next : Repository} {handle : Handle}
      (done : repository.dropReference handle = .ok next) : Step repository next
  | held {repository next : Repository} {handle : Handle} {client : String}
      (done : repository.hold handle client = .ok next) : Step repository next
  | released {repository next : Repository} {handle : Handle} {client : String}
      (done : repository.release handle client = .ok next) : Step repository next
  | vanished (repository : Repository) (client : String) :
      Step repository (repository.clientVanished client)

abbrev Steps : Repository → Repository → Prop := Relation.ReflTransGen Step

/-- A successful operation on behalf of one client, or the leaving of this client. -/
inductive StepFor (client : String) : Repository → Repository → Prop
  | interned {repository next : Repository} {id : String} {handle : Handle}
      (done : repository.intern id = .ok (handle, next)) : StepFor client repository next
  | dropped {repository next : Repository} {handle : Handle}
      (done : repository.dropReference handle = .ok next) : StepFor client repository next
  | held {repository next : Repository} {handle : Handle}
      (done : repository.hold handle client = .ok next) : StepFor client repository next
  | released {repository next : Repository} {handle : Handle}
      (done : repository.release handle client = .ok next) : StepFor client repository next
  | vanished (repository : Repository) :
      StepFor client repository (repository.clientVanished client)

abbrev StepsFor (client : String) : Repository → Repository → Prop :=
  Relation.ReflTransGen (StepFor client)

variable {repository next : Repository} {client : String}

theorem StepFor.step (step : repository.StepFor client next) : repository.Step next := by
  cases step with
  | interned done => exact .interned done
  | dropped done => exact .dropped done
  | held done => exact .held done
  | released done => exact .released done
  | vanished => exact .vanished repository client

theorem StepsFor.steps (steps : repository.StepsFor client next) : repository.Steps next :=
  Relation.ReflTransGen.mono (fun _ _ step => StepFor.step step) _ _ steps

theorem or_unchanged_steps {move : Repository → Repository → Prop} (repository : Repository)
    {outcome : Outcome Repository} (step : ∀ next, outcome = .ok next → move repository next) :
    Relation.ReflTransGen move repository (repository.orUnchanged outcome) := by
  cases outcome with
  | ok next => exact .single (step next rfl)
  | error failure => exact .refl

section InTurn

variable {move : Repository → Repository → Prop}
  (operation : Repository → Handle → Outcome Repository)

theorem try_each_chain (moves : ∀ {repository next : Repository} {handle : Handle},
      operation repository handle = .ok next → move repository next)
    (repository : Repository) (handles : List Handle) :
    Relation.ReflTransGen move repository (repository.tryEach operation handles) := by
  induction handles generalizing repository with
  | nil => exact .refl
  | cons handle rest induction =>
      exact (repository.or_unchanged_steps fun _ done => moves done).trans (induction _)

theorem in_turn_chain (moves : ∀ {repository next : Repository} {handle : Handle},
      operation repository handle = .ok next → move repository next)
    (repository : Repository) (handles : List Handle) :
    Relation.ReflTransGen move repository (repository.inTurn operation handles).repository := by
  induction handles generalizing repository with
  | nil => exact .refl
  | cons handle rest induction =>
      unfold inTurn
      split
      · rename_i next done
        exact .head (moves done) (induction next)
      · exact .refl

end InTurn

theorem hold_from_for (repository : Repository) (client : String) (held handles : List Handle) :
    repository.StepsFor client (repository.holdFrom client held handles).repository := by
  induction handles generalizing repository held with
  | nil => exact .refl
  | cons handle rest induction =>
      unfold holdFrom
      split
      · rename_i next done
        exact .head (.held done) (induction next _)
      · exact try_each_chain (·.release · client) .released repository held

theorem hold_all_for (repository : Repository) (client : String) (handles : List Handle) :
    repository.StepsFor client (repository.holdAll client handles).repository := by
  unfold holdAll
  split
  · exact .refl
  · exact repository.hold_from_for client [] handles

theorem release_all_for (repository : Repository) (kind : HandleKind) (client : String)
    (handles : List Handle) :
    repository.StepsFor client (repository.releaseAll kind client handles).repository := by
  unfold releaseAll
  split
  · exact .refl
  · split
    · exact .refl
    · exact in_turn_chain (·.release · client) .released repository handles

theorem intern_from_for (repository : Repository) (client : String) (interned : List Handle)
    (ids : List String) :
    repository.StepsFor client (repository.internFrom interned ids).repository := by
  induction ids generalizing repository interned with
  | nil => exact .refl
  | cons id rest induction =>
      unfold internFrom
      split
      · rename_i handle next done
        exact .head (.interned done) (induction next _)
      · exact try_each_chain (·.dropReference ·) .dropped repository interned

/-- Handles are interned, then held, then no longer referenced; each part can be the last. -/
theorem request_all_for (repository : Repository) (client : String) (ids : List String) :
    repository.StepsFor client (repository.requestAll client ids).repository := by
  have interning := repository.intern_from_for client [] ids
  unfold requestAll
  split
  · rename_i failure next interned
    rw [interned] at interning
    exact interning
  · rename_i handles taken interned
    rw [interned] at interning
    have keeping := interning.trans (in_turn_chain (·.hold · client) .held taken handles)
    split
    · rename_i failure next kept
      rw [kept] at keeping
      exact keeping
    · rename_i held kept
      rw [kept] at keeping
      have dropping := keeping.trans (in_turn_chain (·.dropReference ·) .dropped held handles)
      split
      · rename_i failure next dropped
        rw [dropped] at dropping
        exact dropping
      · rename_i next dropped
        rw [dropped] at dropping
        exact dropping

theorem hold_all_steps (repository : Repository) (client : String) (handles : List Handle) :
    repository.Steps (repository.holdAll client handles).repository :=
  (repository.hold_all_for client handles).steps

theorem release_all_steps (repository : Repository) (kind : HandleKind) (client : String)
    (handles : List Handle) :
    repository.Steps (repository.releaseAll kind client handles).repository :=
  (repository.release_all_for kind client handles).steps

theorem request_all_steps (repository : Repository) (client : String) (ids : List String) :
    repository.Steps (repository.requestAll client ids).repository :=
  (repository.request_all_for client ids).steps

inductive Shift : Repository → Repository → Prop
  | dynamic (repository : DynamicRepository) (operation : DynamicRepository.Operation) :
      Shift (.dynamic repository) (.dynamic (repository.perform operation))
  | guarded (repository : DynamicRepository) (refused : Handle)
      (operation : DynamicRepository.Operation) :
      Shift (.guarded repository refused) (.guarded (repository.perform operation) refused)
  | fixed (repository next : FixedRepository) (alike : repository.Alike next) :
      Shift (.fixed repository) (.fixed next)

theorem ByForm.shift {onTable : DynamicRepository → DynamicRepository → Prop}
    {onList : FixedRepository → FixedRepository → Prop} {repository next : Repository}
    (form : ByForm onTable onList repository next) (operation : DynamicRepository.Operation)
    (tables : ∀ {table changed}, onTable table changed → table.perform operation = changed)
    (lists : ∀ {list changed}, onList list changed → list.Alike changed) :
    repository.Shift next := by
  cases form with
  | dynamic done => exact tables done ▸ .dynamic _ operation
  | guarded refused done => exact tables done ▸ .guarded _ refused operation
  | fixed done => exact .fixed _ _ (lists done)

theorem Step.shift {repository next : Repository} (step : repository.Step next) :
    repository.Shift next := by
  have unchanged : ∀ {list same : FixedRepository} {valid : Prop}, same = list ∧ valid →
      list.Alike same := by
    rintro list _ valid ⟨rfl, _⟩
    exact ⟨rfl, rfl, rfl⟩
  cases step with
  | @interned _ id handle done =>
      exact (intern_by_form done).shift (.intern id) DynamicRepository.perform_intern unchanged
  | @referenced next handle done =>
      exact (reference_by_form done).shift (.addReference handle)
        DynamicRepository.perform_reference unchanged
  | @dropped next handle done =>
      exact (drop_by_form done).shift (.dropReference handle) DynamicRepository.perform_drop
        unchanged
  | @held next handle client done =>
      exact (hold_by_form done).shift (.hold handle client) DynamicRepository.perform_hold
        FixedRepository.hold_alike
  | @released next handle client done =>
      exact (release_by_form done).shift (.release handle client)
        DynamicRepository.perform_release FixedRepository.release_alike
  | vanished client =>
      cases repository with
      | dynamic repository => exact .dynamic repository (.clientVanished client)
      | guarded repository refused => exact .guarded repository refused (.clientVanished client)
      | fixed repository => exact .fixed repository _ ⟨rfl, rfl, rfl⟩

/-- The tables of a repository belong together, as after any history, or it has ended. -/
def Sound : Repository → Prop
  | .dynamic repository | .guarded repository _ => repository.invalid = true ∨ repository.Settled
  | .fixed _ => True

theorem perform_sound {repository : DynamicRepository}
    (sound : repository.invalid = true ∨ repository.Settled)
    (operation : DynamicRepository.Operation) :
    (repository.perform operation).invalid = true ∨ (repository.perform operation).Settled := by
  rcases sound with invalid | settled
  · rw [DynamicRepository.perform_invalid invalid]
    exact .inl invalid
  · exact .inr (settled.perform operation)

theorem Step.sound {repository next : Repository} (step : repository.Step next)
    (sound : repository.Sound) : next.Sound := by
  cases step.shift with
  | dynamic repository operation => exact perform_sound sound operation
  | guarded repository refused operation => exact perform_sound sound operation
  | fixed repository next alike => trivial

theorem perform_inspect {repository : DynamicRepository}
    (sound : repository.invalid = true ∨ repository.Settled)
    (operation : DynamicRepository.Operation) {handle : Handle} {id : String}
    (named : repository.inspect handle = .ok id)
    (valid : (repository.perform operation).isValid handle = true) :
    (repository.perform operation).inspect handle = .ok id := by
  obtain ⟨usable, old, found, same⟩ := DynamicRepository.inspect_eq_ok.1 named
  rcases sound with invalid | settled
  · rw [invalid] at usable
    cases usable
  · obtain ⟨still, live⟩ := Bool.and_eq_true_iff.1 valid
    obtain ⟨entry, left⟩ := Option.isSome_iff_exists.1 live
    have kept := settled.perform_keeps operation found left
    exact DynamicRepository.inspect_eq_ok.2 ⟨by simpa using still, entry, left, kept.trans same⟩

/-- A handle that is valid after a step stands for what it stood for. -/
theorem Step.keeps {repository next : Repository} (step : repository.Step next)
    (sound : repository.Sound) {handle : Handle} {id : String}
    (named : repository.inspect handle = .ok id) (valid : next.isValid handle = true) :
    next.inspect handle = .ok id := by
  cases step.shift with
  | dynamic repository operation => exact perform_inspect sound operation named valid
  | guarded repository refused operation => exact perform_inspect sound operation named valid
  | fixed repository next alike =>
      exact (alike.inspect_eq handle).trans named

end Repository

end ConnectionManager
