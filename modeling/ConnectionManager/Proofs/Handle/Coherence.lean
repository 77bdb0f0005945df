import ConnectionManager.Proofs.Handle.Operations

/-!
The tables of a repository belong together after every history: identifiers and handles name each
other, every entry is kept alive by something, and the numbers in use are numbered without gaps.
So the next handle is always the least one that is not live, and the free numbers and the cursor
are a function of the live handles (`history_settled`).
-/

namespace ConnectionManager.DynamicRepository

def IsLive (repository : DynamicRepository) (handle : Nat) : Prop :=
  (repository.entries.find? handle).isSome = true

/-- The tables of a repository agree with each other, whether or not every entry is still used. -/
structure Coherent (repository : DynamicRepository) : Prop where
  usable : repository.invalid = false
  indexed : ∀ (handle : Nat) entry, repository.entries.find? handle = some entry →
    repository.byId.find? entry.id = some handle
  named : ∀ id (handle : Nat), repository.byId.find? id = some handle →
    ∃ entry, repository.entries.find? handle = some entry ∧ entry.id = id
  counted : ∀ (handle : Nat) entry, repository.entries.find? handle = some entry → entry.Counted
  numbered : Numbering repository.IsLive repository.free repository.next

/-- A coherent repository in which every entry has an internal reference or a holder. -/
structure Settled (repository : DynamicRepository) : Prop extends Coherent repository where
  kept : ∀ (handle : Nat) entry, repository.entries.find? handle = some entry →
    0 < entry.references ∨ ∃ client count, entry.holders.find? client = some count

variable {repository next : DynamicRepository} {handle : Nat}

theorem used_iff (entry : HandleEntry) :
    entry.isUnused = false ↔
      0 < entry.references ∨ ∃ client count, entry.holders.find? client = some count := by
  rw [Bool.eq_false_iff, ne_eq, HandleEntry.is_unused_iff, not_and_or]
  have references : ¬ entry.references = 0 ↔ 0 < entry.references := by omega
  rw [references, not_forall]
  simp only [Option.ne_none_iff_exists']

theorem Coherent.settled (coherent : repository.Coherent)
    (used : ∀ (handle : Nat) entry, repository.entries.find? handle = some entry →
      entry.isUnused = false) : repository.Settled :=
  { coherent with
    kept := fun handle entry found => (used_iff entry).1 (used handle entry found) }

theorem Settled.used (settled : repository.Settled) {entry : HandleEntry}
    (found : repository.entries.find? handle = some entry) : entry.isUnused = false :=
  (used_iff entry).2 (settled.kept handle entry found)

theorem Coherent.with_entries (coherent : repository.Coherent)
    (entries : Catalog Handle HandleEntry)
    (same : ∀ handle : Nat, (entries.find? handle).map HandleEntry.id
      = (repository.entries.find? handle).map HandleEntry.id)
    (counted : ∀ (handle : Nat) entry, entries.find? handle = some entry → entry.Counted) :
    Coherent { repository with entries } where
  usable := coherent.usable
  indexed := by
    intro handle entry found
    have ids := same handle
    rw [found, Option.map_some] at ids
    obtain ⟨old, present, sameId⟩ := Option.map_eq_some_iff.1 ids.symm
    have known := coherent.indexed handle old present
    rw [sameId] at known
    exact known
  named := by
    intro id handle known
    obtain ⟨old, present, sameId⟩ := coherent.named id handle known
    have ids := same handle
    rw [present, Option.map_some] at ids
    obtain ⟨entry, found, equal⟩ := Option.map_eq_some_iff.1 ids
    exact ⟨entry, found, equal.trans sameId⟩
  counted := counted
  numbered := by
    apply coherent.numbered.of_live_iff
    intro handle
    have ids := congrArg Option.isSome (same handle)
    rw [Option.isSome_map, Option.isSome_map] at ids
    change _ = true ↔ _ = true
    rw [ids]

theorem Coherent.set_entry (coherent : repository.Coherent) {old entry : HandleEntry}
    (found : repository.entries.find? handle = some old) (sameId : entry.id = old.id)
    (counted : entry.Counted) : (repository.setEntry handle entry).Coherent := by
  apply coherent.with_entries
  · intro other
    rw [Catalog.find_insert]
    by_cases same : other = handle
    · subst same
      rw [if_pos rfl, found, Option.map_some, Option.map_some, sameId]
    · exact congrArg (Option.map HandleEntry.id) (if_neg same)
  · intro other present inserted
    rw [Catalog.find_insert] at inserted
    split at inserted
    · cases inserted
      exact counted
    · exact coherent.counted other present inserted

theorem Coherent.without_holder (coherent : repository.Coherent) (client : String) :
    (repository.withoutHolder client).Coherent := by
  apply coherent.with_entries
  · intro other
    rw [Catalog.find_map_values, Option.map_map]
    rfl
  · intro other changed found
    rw [Catalog.find_map_values] at found
    obtain ⟨entry, present, equal⟩ := Option.map_eq_some_iff.1 found
    subst equal
    exact HandleEntry.counted_without_holder (coherent.counted other entry present) client

theorem Coherent.release_if_unused (coherent : repository.Coherent) (handle : Nat) :
    (repository.releaseIfUnused handle).Coherent := by
  unfold releaseIfUnused
  split
  · rename_i entry found
    split
    · have known := coherent.indexed handle entry found
      have alive : repository.IsLive handle := by simp [IsLive, found]
      refine ⟨?_, ?_, ?_, ?_, ?_⟩
      · rw [give_back_invalid]
        exact coherent.usable
      · intro other present
        rw [give_back_entries, give_back_by_id, Catalog.find_erase, Catalog.find_erase]
        intro left
        split at left
        · cases left
        · rename_i different
          have other := coherent.indexed other present left
          rw [if_neg, other]
          intro sameId
          rw [sameId, known] at other
          exact different (Option.some.inj other).symm
      · intro id other
        rw [give_back_entries, give_back_by_id, Catalog.find_erase]
        intro left
        split at left
        · cases left
        · rename_i differentId
          obtain ⟨present, foundOther, sameId⟩ := coherent.named id other left
          refine ⟨present, ?_, sameId⟩
          rw [Catalog.find_erase, if_neg, foundOther]
          intro same
          subst same
          rw [found] at foundOther
          cases foundOther
          exact differentId sameId.symm
      · intro other present left
        rw [give_back_entries, Catalog.find_erase] at left
        split at left
        · cases left
        · exact coherent.counted other present left
      · have freed := @give_back_numbering repository.IsLive { repository with
            entries := repository.entries.erase handle
            byId := repository.byId.erase entry.id } handle coherent.numbered alive
        apply freed.of_live_iff
        intro other
        rw [IsLive, IsLive, give_back_entries, Catalog.find_erase]
        by_cases same : other = handle <;> simp [same]
    · exact coherent
  · exact coherent

theorem Coherent.release_list (coherent : repository.Coherent) (handles : List Handle) :
    (handles.foldl releaseIfUnused repository).Coherent := by
  induction handles generalizing repository with
  | nil => exact coherent
  | cons handle rest induction => exact induction (coherent.release_if_unused handle)

theorem Coherent.allocate_dead (coherent : repository.Coherent) {allocated : DynamicRepository}
    (taken : repository.allocate = .ok (handle, allocated)) :
    repository.entries.find? handle = none := by
  have unused := (allocate_least coherent.numbered taken).1.unused
  rwa [IsLive, Bool.not_eq_true, Option.isSome_eq_false_iff, Option.isNone_iff_eq_none] at unused

theorem Coherent.unknown_apart (coherent : repository.Coherent) {id : String}
    (unknown : repository.byId.find? id = none) {other : Nat} {entry : HandleEntry}
    (found : repository.entries.find? other = some entry) : entry.id ≠ id := by
  rintro rfl
  have known := coherent.indexed other entry found
  rw [unknown] at known
  cases known

theorem Coherent.insert_fresh (coherent : repository.Coherent) {allocated : DynamicRepository}
    {normal : String} (unknown : repository.byId.find? normal = none)
    (taken : repository.allocate = .ok (handle, allocated)) :
    Coherent { allocated with
      entries := allocated.entries.insert handle ⟨normal, 1, .empty⟩
      byId := allocated.byId.insert normal handle } := by
  have numbered := (allocate_least coherent.numbered taken).2
  have dead := coherent.allocate_dead taken
  rw [allocate_rest taken]
  refine ⟨coherent.usable, ?_, ?_, ?_, ?_⟩
  · intro other entry
    rw [Catalog.find_insert, Catalog.find_insert]
    intro found
    split at found
    · rename_i sameHandle
      cases found
      rw [if_pos rfl, sameHandle]
    · rw [if_neg (coherent.unknown_apart unknown found), coherent.indexed other entry found]
  · intro id other
    rw [Catalog.find_insert]
    intro known
    split at known
    · rename_i sameId
      cases known
      exact ⟨⟨normal, 1, .empty⟩, by rw [Catalog.find_insert, if_pos rfl], sameId.symm⟩
    · obtain ⟨entry, found, sameId⟩ := coherent.named id other known
      refine ⟨entry, ?_, sameId⟩
      rw [Catalog.find_insert, if_neg, found]
      intro sameHandle
      rw [sameHandle, dead] at found
      cases found
  · intro other entry
    rw [Catalog.find_insert]
    intro found
    split at found
    · cases found
      intro client count held
      cases held
    · exact coherent.counted other entry found
  · apply numbered.of_live_iff
    intro other
    rw [IsLive, IsLive, Catalog.find_insert]
    by_cases sameHandle : other = handle <;> simp [sameHandle]

end ConnectionManager.DynamicRepository
