import ConnectionManager.Proofs.Failure
import ConnectionManager.Proofs.Handle.Numbering

/-!
What each operation of a repository does when it succeeds. Every one changes the entry of a live
handle, or adds the entry of a fresh one; what is unused afterwards is freed
(`find_release_if_unused`).
-/

namespace ConnectionManager

namespace HandleEntry

theorem is_unused_iff (entry : HandleEntry) :
    entry.isUnused = true ↔
      entry.references = 0 ∧ ∀ client, entry.holders.find? client = none := by
  rw [isUnused, Bool.and_eq_true, beq_iff_eq, Catalog.is_empty_iff]

def heldOnce (entry : HandleEntry) (client : String) : HandleEntry :=
  { entry with holders := entry.holders.insert client (entry.holds client + 1) }

def releasedOnce (entry : HandleEntry) (client : String) (count : Nat) : HandleEntry :=
  { entry with holders := DynamicRepository.lessHeld entry.holders client count }

def withoutHolder (entry : HandleEntry) (client : String) : HandleEntry :=
  { entry with holders := entry.holders.erase client }

def Counted (entry : HandleEntry) : Prop :=
  ∀ client count, entry.holders.find? client = some count → 1 ≤ count

theorem counted_held_once {entry : HandleEntry} (counted : entry.Counted) (client : String) :
    (entry.heldOnce client).Counted := by
  intro other count found
  rw [heldOnce, Catalog.find_insert] at found
  split at found
  · cases found
    omega
  · exact counted other count found

theorem counted_without_holder {entry : HandleEntry} (counted : entry.Counted)
    (client : String) : (entry.withoutHolder client).Counted := by
  intro other count found
  rw [withoutHolder, Catalog.find_erase] at found
  split at found
  · cases found
  · exact counted other count found

theorem find_less_held (holders : Catalog String Nat) (client other : String) (count : Nat) :
    (DynamicRepository.lessHeld holders client count).find? other
      = if other = client then (if count ≤ 1 then none else some (count - 1))
        else holders.find? other := by
  unfold DynamicRepository.lessHeld
  split
  · rw [Catalog.find_erase]
  · rw [Catalog.find_insert]

theorem counted_released_once {entry : HandleEntry} (counted : entry.Counted) (client : String)
    (count : Nat) : (entry.releasedOnce client count).Counted := by
  intro other left found
  rw [releasedOnce, find_less_held] at found
  split at found
  · split at found
    · cases found
    · cases found
      omega
  · exact counted other left found

end HandleEntry

namespace DynamicRepository

variable {repository next : DynamicRepository} {handle : Nat}

theorem entry_eq_ok {entry : HandleEntry} :
    repository.entry handle = .ok entry ↔
      repository.invalid = false ∧ repository.entries.find? handle = some entry := by
  unfold DynamicRepository.entry
  cases repository.invalid <;> cases repository.entries.find? handle <;> simp

theorem is_valid_iff :
    repository.isValid handle = true ↔ ∃ entry, repository.entry handle = .ok entry := by
  simp only [isValid, Catalog.contains, entry_eq_ok, Bool.and_eq_true, Option.isSome_iff_exists,
    Bool.not_eq_true']
  constructor
  · rintro ⟨usable, entry, found⟩
    exact ⟨entry, usable, found⟩
  · rintro ⟨entry, usable, found⟩
    exact ⟨usable, entry, found⟩

theorem inspect_eq_ok {id : String} :
    repository.inspect handle = .ok id ↔ repository.invalid = false ∧
      ∃ entry, repository.entries.find? handle = some entry ∧ entry.id = id := by
  rw [inspect, Outcome.map_eq_ok]
  simp only [entry_eq_ok, and_assoc, exists_and_left]

theorem valid_of_inspect {id : String} (named : repository.inspect handle = .ok id) :
    repository.isValid handle = true := by
  obtain ⟨entry, present, _⟩ := Outcome.map_eq_ok.1 named
  exact is_valid_iff.2 ⟨entry, present⟩

theorem inspect_of_valid (valid : repository.isValid handle = true) :
    ∃ id, repository.inspect handle = .ok id := by
  obtain ⟨entry, present⟩ := is_valid_iff.1 valid
  exact ⟨entry.id, Outcome.map_eq_ok.2 ⟨entry, present, rfl⟩⟩

theorem intern_eq_ok {id : String} (done : repository.intern id = .ok (handle, next)) :
    repository.invalid = false ∧ ∃ normal, repository.normalize id = .ok normal ∧
      ((∃ entry, repository.byId.find? normal = some handle ∧
          repository.entries.find? handle = some entry ∧
          next = repository.setEntry handle { entry with references := entry.references + 1 }) ∨
        (repository.byId.find? normal = none ∧
          ∃ allocated, repository.allocate = .ok (handle, allocated) ∧
            next = { allocated with
              entries := allocated.entries.insert handle ⟨normal, 1, .empty⟩
              byId := allocated.byId.insert normal handle })) := by
  unfold intern at done
  split at done
  · cases done
  · rename_i usable
    obtain ⟨normal, normalized, done⟩ := Outcome.bind_eq_ok.1 done
    refine ⟨by simpa using usable, normal, normalized, ?_⟩
    split at done
    · rename_i known found
      obtain ⟨entry, present, done⟩ := Outcome.bind_eq_ok.1 done
      cases done
      exact .inl ⟨entry, found, (entry_eq_ok.1 present).2, rfl⟩
    · rename_i unknown
      obtain ⟨⟨number, allocated⟩, taken, done⟩ := Outcome.bind_eq_ok.1 done
      cases done
      exact .inr ⟨unknown, allocated, taken, rfl⟩

theorem intern_unknown {id normal : String} (usable : repository.invalid = false)
    (normalized : repository.normalize id = .ok normal)
    (unknown : repository.byId.find? normal = none) :
    repository.intern id = repository.allocate.map fun fresh =>
      (fresh.1, { fresh.2 with
        entries := fresh.2.entries.insert fresh.1 ⟨normal, 1, .empty⟩
        byId := fresh.2.byId.insert normal fresh.1 }) := by
  unfold intern
  rw [if_neg (by simp [usable]), normalized]
  dsimp only [bind, Except.bind]
  rw [unknown]
  cases repository.allocate <;> rfl

theorem intern_invalid {id : String} (done : repository.intern id = .ok (handle, next)) :
    next.invalid = repository.invalid := by
  obtain ⟨_, _, _, ⟨_, _, _, same⟩ | ⟨_, allocated, taken, same⟩⟩ := intern_eq_ok done
  · rw [same]
    rfl
  · rw [same, allocate_rest taken]

theorem add_reference_eq_ok (done : repository.addReference handle = .ok next) :
    ∃ entry, repository.entries.find? handle = some entry ∧
      next = repository.setEntry handle { entry with references := entry.references + 1 } := by
  obtain ⟨entry, present, done⟩ := Outcome.bind_eq_ok.1 done
  cases done
  exact ⟨entry, (entry_eq_ok.1 present).2, rfl⟩

theorem drop_reference_eq_ok (done : repository.dropReference handle = .ok next) :
    ∃ entry, repository.entries.find? handle = some entry ∧ 0 < entry.references ∧
      next = (repository.setEntry handle
        { entry with references := entry.references - 1 }).releaseIfUnused handle := by
  obtain ⟨entry, present, done⟩ := Outcome.bind_eq_ok.1 done
  split at done
  · cases done
  · cases done
    exact ⟨entry, (entry_eq_ok.1 present).2, by omega, rfl⟩

theorem hold_eq_ok {client : String} (done : repository.hold handle client = .ok next) :
    ∃ entry, repository.entries.find? handle = some entry ∧
      next = repository.setEntry handle (entry.heldOnce client) := by
  obtain ⟨entry, present, done⟩ := Outcome.bind_eq_ok.1 done
  cases done
  exact ⟨entry, (entry_eq_ok.1 present).2, rfl⟩

theorem release_eq_ok {client : String} (done : repository.release handle client = .ok next) :
    ∃ entry count, repository.entries.find? handle = some entry ∧
      entry.holders.find? client = some count ∧
      next = (repository.setEntry handle
        (entry.releasedOnce client count)).releaseIfUnused handle := by
  obtain ⟨entry, present, done⟩ := Outcome.bind_eq_ok.1 done
  split at done
  · cases done
  · rename_i count found
    cases done
    exact ⟨entry, count, (entry_eq_ok.1 present).2, found, rfl⟩

theorem find_set_entry (repository : DynamicRepository) (handle sought : Nat)
    (entry : HandleEntry) :
    (repository.setEntry handle entry).entries.find? sought
      = if sought = handle then some entry else repository.entries.find? sought :=
  Catalog.find_insert repository.entries handle sought entry

/-- Freeing takes out one entry, if it is unused, and leaves the others alone. -/
theorem find_release_if_unused (repository : DynamicRepository) (handle sought : Nat)
    (entry : HandleEntry) :
    (repository.releaseIfUnused handle).entries.find? sought = some entry ↔
      repository.entries.find? sought = some entry ∧
        (sought = handle → entry.isUnused = false) := by
  unfold releaseIfUnused
  cases found : repository.entries.find? handle with
  | none =>
      by_cases same : sought = handle
      · simp [same, found]
      · simp [same]
  | some present =>
      dsimp only
      by_cases same : sought = handle
      · subst same
        cases unused : present.isUnused
        · simp only [Bool.false_eq_true, if_false, found, forall_const]
          constructor
          · intro equal
            cases equal
            exact ⟨rfl, unused⟩
          · exact And.left
        · simp only [if_true, give_back_entries, Catalog.find_erase, found, forall_const]
          constructor
          · intro equal
            cases equal
          · rintro ⟨equal, used⟩
            cases equal
            rw [unused] at used
            cases used
      · cases unused : present.isUnused <;> simp [same, Catalog.find_erase]

@[simp]
theorem release_if_unused_kind (repository : DynamicRepository) (handle : Nat) :
    (repository.releaseIfUnused handle).kind = repository.kind := by
  unfold releaseIfUnused
  split
  · split
    · rw [give_back_kind]
    · rfl
  · rfl

@[simp]
theorem release_if_unused_normalize (repository : DynamicRepository) (handle : Nat) :
    (repository.releaseIfUnused handle).normalize = repository.normalize := by
  unfold releaseIfUnused
  split
  · split
    · rw [give_back_normalize]
    · rfl
  · rfl

theorem release_list_identity (handles : List Handle) (repository : DynamicRepository) :
    (handles.foldl releaseIfUnused repository).kind = repository.kind ∧
      (handles.foldl releaseIfUnused repository).normalize = repository.normalize := by
  induction handles generalizing repository with
  | nil => exact ⟨rfl, rfl⟩
  | cons handle rest induction =>
      have later := induction (repository.releaseIfUnused handle)
      rw [release_if_unused_kind, release_if_unused_normalize] at later
      exact later

def heldBy (repository : DynamicRepository) (client : String) : List Handle :=
  (repository.entries.filter fun _ entry => entry.holders.contains client).keys

def withoutHolder (repository : DynamicRepository) (client : String) : DynamicRepository :=
  { repository with entries := repository.entries.mapValues fun _ entry =>
      entry.withoutHolder client }

theorem client_vanished_eq (client : String) (usable : repository.invalid = false) :
    repository.clientVanished client
      = (repository.heldBy client).foldl releaseIfUnused (repository.withoutHolder client) := by
  unfold clientVanished
  rw [if_neg (by simp [usable])]
  rfl

theorem mem_held_by (repository : DynamicRepository) (client : String) (handle : Nat) :
    handle ∈ repository.heldBy client ↔ ∃ entry, repository.entries.find? handle = some entry ∧
      entry.holders.contains client = true := by
  unfold heldBy
  rw [Catalog.mem_keys, Catalog.find_filter]
  cases repository.entries.find? handle <;> simp [Option.filter_some]

theorem find_release_list (handles : List Handle) (repository : DynamicRepository)
    (sought : Nat) (entry : HandleEntry) :
    (handles.foldl releaseIfUnused repository).entries.find? sought = some entry ↔
      repository.entries.find? sought = some entry ∧
        (sought ∈ handles → entry.isUnused = false) := by
  induction handles generalizing repository with
  | nil => simp
  | cons handle rest induction =>
      rw [List.foldl_cons, induction, find_release_if_unused, List.mem_cons, or_imp, and_assoc]

end DynamicRepository

end ConnectionManager
