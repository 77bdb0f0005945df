import ConnectionManager.Handle.Repository
import ConnectionManager.Proofs.Failure

/-!
Operations of a repository of any form. An operation that succeeds is one of the table within, or of
the list of names, and keeps the form (`ByForm`). A list of names changes in its holds alone
(`FixedRepository.Alike`).
-/

namespace ConnectionManager

namespace FixedRepository

variable {repository next : FixedRepository} {handle : Handle} {client id : String}

theorem valid_iff : repository.isValid handle = true ↔
    repository.invalid = false ∧ 1 ≤ handle ∧ handle ≤ repository.names.length := by
  simp only [isValid, Bool.and_eq_true, decide_eq_true_eq, Bool.not_eq_true', and_assoc]

theorem check_eq_ok : repository.check handle = .ok () ↔ repository.isValid handle = true := by
  unfold check
  split
  · rename_i invalid
    simp [valid_iff, invalid]
  · split <;> simp [*]

theorem intern_valid (done : repository.intern id = .ok handle) :
    repository.isValid handle = true := by
  obtain ⟨known, found, done⟩ := Outcome.bind_eq_ok.1 done
  split at done
  · cases done
  · rename_i proper
    cases done
    unfold lookup at found
    split at found
    · cases found
    · rename_i usable
      split at found
      · rename_i index there
        cases found
        have within := (List.findIdx?_eq_some_iff_findIdx_eq.1 there).1
        exact valid_iff.2 ⟨by simpa using usable, Nat.le_add_left 1 index, within⟩
      · cases found
        exact absurd rfl proper

theorem hold_eq_ok (done : repository.hold handle client = .ok next) :
    repository.isValid handle = true ∧ next = { repository with
      holders := repository.holders.insert ⟨handle, client⟩ (repository.holds handle client + 1) } := by
  obtain ⟨⟨⟩, checked, done⟩ := Outcome.bind_eq_ok.1 done
  cases done
  exact ⟨check_eq_ok.1 checked, rfl⟩

theorem release_eq_ok (done : repository.release handle client = .ok next) :
    ∃ count, repository.holders.find? ⟨handle, client⟩ = some count ∧
      next = { repository with
        holders := if count ≤ 1 then repository.holders.erase ⟨handle, client⟩
          else repository.holders.insert ⟨handle, client⟩ (count - 1) } := by
  obtain ⟨⟨⟩, checked, done⟩ := Outcome.bind_eq_ok.1 done
  split at done
  · cases done
  · rename_i count found
    cases done
    exact ⟨count, found, rfl⟩

/-- A fixed repository changes in its holds alone. -/
structure Alike (repository next : FixedRepository) : Prop where
  names : next.names = repository.names
  kinds : next.kind = repository.kind
  invalid : next.invalid = repository.invalid

theorem hold_alike (done : repository.hold handle client = .ok next) : repository.Alike next := by
  obtain ⟨_, rfl⟩ := hold_eq_ok done
  exact ⟨rfl, rfl, rfl⟩

theorem release_alike (done : repository.release handle client = .ok next) :
    repository.Alike next := by
  obtain ⟨_, _, rfl⟩ := release_eq_ok done
  exact ⟨rfl, rfl, rfl⟩

theorem Alike.inspect_eq (alike : repository.Alike next) (handle : Handle) :
    next.inspect handle = repository.inspect handle := by
  unfold inspect check isValid
  rw [alike.names, alike.kinds, alike.invalid]

end FixedRepository

namespace Repository

/-- The form of a repository is kept, and the table or the list within changes as is told. -/
inductive ByForm (onTable : DynamicRepository → DynamicRepository → Prop)
    (onList : FixedRepository → FixedRepository → Prop) : Repository → Repository → Prop
  | dynamic {table changed : DynamicRepository} (done : onTable table changed) :
      ByForm onTable onList (.dynamic table) (.dynamic changed)
  | guarded {table changed : DynamicRepository} (refused : Handle) (done : onTable table changed) :
      ByForm onTable onList (.guarded table refused) (.guarded changed refused)
  | fixed {list changed : FixedRepository} (done : onList list changed) :
      ByForm onTable onList (.fixed list) (.fixed changed)

variable {repository next : Repository} {handle : Handle} {client id : String}

/-- The names of a list have their handles already. -/
theorem intern_by_form (done : repository.intern id = .ok (handle, next)) :
    ByForm (fun table changed => table.intern id = .ok (handle, changed))
      (fun list same => same = list ∧ list.isValid handle = true) repository next := by
  cases repository with
  | dynamic table =>
      obtain ⟨⟨_, changed⟩, outcome, same⟩ := Outcome.map_eq_ok.1 done
      cases same
      exact .dynamic outcome
  | guarded table refused =>
      obtain ⟨⟨_, changed⟩, outcome, same⟩ := Outcome.map_eq_ok.1 done
      cases same
      exact .guarded refused outcome
  | fixed list =>
      obtain ⟨_, outcome, same⟩ := Outcome.map_eq_ok.1 done
      cases same
      exact .fixed ⟨rfl, FixedRepository.intern_valid outcome⟩

theorem ByForm.mono {onTable table : DynamicRepository → DynamicRepository → Prop}
    {onList list : FixedRepository → FixedRepository → Prop}
    (form : ByForm onTable onList repository next)
    (tables : ∀ {before after}, onTable before after → table before after)
    (lists : ∀ {before after}, onList before after → list before after) :
    ByForm table list repository next := by
  cases form with
  | dynamic done => exact .dynamic (tables done)
  | guarded refused done => exact .guarded refused (tables done)
  | fixed done => exact .fixed (lists done)

/-- An operation that is one of the table or of the list within has succeeded there. -/
theorem operation_by_form (operation : Repository → Outcome Repository)
    {onTable : DynamicRepository → Outcome DynamicRepository}
    {onList : FixedRepository → Outcome FixedRepository}
    (tables : ∀ table, operation (.dynamic table) = (onTable table).map .dynamic)
    (guards : ∀ table refused, operation (.guarded table refused) = .ok next →
      (onTable table).map (fun changed => .guarded changed refused) = .ok next)
    (lists : ∀ list, operation (.fixed list) = (onList list).map .fixed)
    (done : operation repository = .ok next) :
    ByForm (fun table changed => onTable table = .ok changed)
      (fun list changed => onList list = .ok changed) repository next := by
  cases repository with
  | dynamic table =>
      obtain ⟨changed, outcome, rfl⟩ := Outcome.map_eq_ok.1 ((tables table).symm.trans done)
      exact .dynamic outcome
  | guarded table refused =>
      obtain ⟨changed, outcome, rfl⟩ := Outcome.map_eq_ok.1 (guards table refused done)
      exact .guarded refused outcome
  | fixed list =>
      obtain ⟨changed, outcome, rfl⟩ := Outcome.map_eq_ok.1 ((lists list).symm.trans done)
      exact .fixed outcome

/-- An operation that counts on a table and only checks the handle on a list of names. -/
theorem counting_by_form (operation : Repository → Outcome Repository)
    {onTable : DynamicRepository → Outcome DynamicRepository}
    (tables : ∀ table, operation (.dynamic table) = (onTable table).map .dynamic)
    (guards : ∀ table refused, operation (.guarded table refused)
      = (onTable table).map fun changed => .guarded changed refused)
    (lists : ∀ list, operation (.fixed list) = (list.check handle).map fun _ => .fixed list)
    (done : operation repository = .ok next) :
    ByForm (fun table changed => onTable table = .ok changed)
      (fun list same => same = list ∧ list.isValid handle = true) repository next := by
  have checked : ∀ list : FixedRepository,
      operation (.fixed list) = ((list.check handle).map fun _ => list).map .fixed := by
    intro list
    rw [lists]
    cases list.check handle <;> rfl
  refine (operation_by_form operation tables (fun table refused => (guards table refused).symm.trans)
    checked done).mono id fun outcome => ?_
  obtain ⟨⟨⟩, valid, same⟩ := Outcome.map_eq_ok.1 outcome
  exact ⟨same.symm, FixedRepository.check_eq_ok.1 valid⟩

theorem reference_by_form (done : repository.addReference handle = .ok next) :
    ByForm (fun table changed => table.addReference handle = .ok changed)
      (fun list same => same = list ∧ list.isValid handle = true) repository next :=
  counting_by_form (·.addReference handle) (fun _ => rfl) (fun _ _ => rfl) (fun _ => rfl) done

theorem drop_by_form (done : repository.dropReference handle = .ok next) :
    ByForm (fun table changed => table.dropReference handle = .ok changed)
      (fun list same => same = list ∧ list.isValid handle = true) repository next :=
  counting_by_form (·.dropReference handle) (fun _ => rfl) (fun _ _ => rfl) (fun _ => rfl) done

theorem hold_by_form (done : repository.hold handle client = .ok next) :
    ByForm (fun table changed => table.hold handle client = .ok changed)
      (fun list changed => list.hold handle client = .ok changed) repository next := by
  refine operation_by_form (·.hold handle client) (fun _ => rfl)
    (fun table refused outcome => ?_) (fun _ => rfl) done
  by_cases same : handle = refused
  · rw [hold, if_pos same] at outcome
    cases outcome
  · rwa [hold, if_neg same] at outcome

theorem release_by_form (done : repository.release handle client = .ok next) :
    ByForm (fun table changed => table.release handle client = .ok changed)
      (fun list changed => list.release handle client = .ok changed) repository next :=
  operation_by_form (·.release handle client) (fun _ => rfl) (fun _ _ => id) (fun _ => rfl) done

end Repository

end ConnectionManager
