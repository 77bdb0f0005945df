import ConnectionManager.Proofs.Handle.Coherence

/-!
Histories of a repository from its creation on, with operations that succeed and operations that
fail. Every history leaves a settled repository, so the numbers in use are a function of the live
handles alone: how they came to be live, and in which order others were freed, makes no difference.
-/

namespace ConnectionManager.DynamicRepository

inductive Operation
  | intern (id : String)
  | lookup (id : String)
  | addReference (handle : Handle)
  | dropReference (handle : Handle)
  | hold (handle : Handle) (client : String)
  | release (handle : Handle) (client : String)
  | clientVanished (client : String)

def orUnchanged (repository : DynamicRepository) (outcome : Outcome DynamicRepository) :
    DynamicRepository :=
  match outcome with
  | .ok next => next
  | .error _ => repository

/-- The repository after an operation; one that fails or only looks leaves it as it was. -/
def perform (repository : DynamicRepository) : Operation → DynamicRepository
  | .intern id => repository.orUnchanged ((repository.intern id).map Prod.snd)
  | .lookup _ => repository
  | .addReference handle => repository.orUnchanged (repository.addReference handle)
  | .dropReference handle => repository.orUnchanged (repository.dropReference handle)
  | .hold handle client => repository.orUnchanged (repository.hold handle client)
  | .release handle client => repository.orUnchanged (repository.release handle client)
  | .clientVanished client => repository.clientVanished client

def history (kind : HandleKind) (normalize : String → Outcome String)
    (operations : List Operation) : DynamicRepository :=
  operations.foldl perform { kind, normalize }

theorem or_unchanged_induction {repository : DynamicRepository}
    {property : DynamicRepository → Prop} {outcome : Outcome DynamicRepository}
    (unchanged : property repository) (changed : ∀ next, outcome = .ok next → property next) :
    property (repository.orUnchanged outcome) := by
  cases outcome with
  | ok next => exact changed next rfl
  | error failure => exact unchanged

/-- What successful operations and the leaving of clients keep is kept by every operation. -/
theorem perform_induction {repository : DynamicRepository} {property : DynamicRepository → Prop}
    (operation : Operation) (unchanged : property repository)
    (interned : ∀ id handle next, repository.intern id = .ok (handle, next) → property next)
    (referenced : ∀ handle next, repository.addReference handle = .ok next → property next)
    (dropped : ∀ handle next, repository.dropReference handle = .ok next → property next)
    (held : ∀ handle client next, repository.hold handle client = .ok next → property next)
    (released : ∀ handle client next, repository.release handle client = .ok next → property next)
    (vanished : ∀ client, property (repository.clientVanished client)) :
    property (repository.perform operation) := by
  cases operation with
  | intern id =>
      apply or_unchanged_induction unchanged
      intro next done
      obtain ⟨⟨handle, changed⟩, outcome, rfl⟩ := Outcome.map_eq_ok.1 done
      exact interned id handle changed outcome
  | lookup id => exact unchanged
  | addReference handle => exact or_unchanged_induction unchanged (referenced handle)
  | dropReference handle => exact or_unchanged_induction unchanged (dropped handle)
  | hold handle client => exact or_unchanged_induction unchanged (held handle client)
  | release handle client => exact or_unchanged_induction unchanged (released handle client)
  | clientVanished client => exact vanished client

variable {repository next : DynamicRepository} {handle : Nat}

theorem perform_intern {id : String} (done : repository.intern id = .ok (handle, next)) :
    repository.perform (.intern id) = next := by
  rw [perform, done]
  rfl

theorem perform_reference (done : repository.addReference handle = .ok next) :
    repository.perform (.addReference handle) = next := by
  rw [perform, done]
  rfl

theorem perform_drop (done : repository.dropReference handle = .ok next) :
    repository.perform (.dropReference handle) = next := by
  rw [perform, done]
  rfl

theorem perform_hold {client : String} (done : repository.hold handle client = .ok next) :
    repository.perform (.hold handle client) = next := by
  rw [perform, done]
  rfl

theorem perform_release {client : String} (done : repository.release handle client = .ok next) :
    repository.perform (.release handle client) = next := by
  rw [perform, done]
  rfl

theorem Settled.set_entry (settled : repository.Settled) {old entry : HandleEntry}
    (found : repository.entries.find? handle = some old) (sameId : entry.id = old.id)
    (counted : entry.Counted) (used : entry.isUnused = false) :
    (repository.setEntry handle entry).Settled := by
  apply (settled.toCoherent.set_entry found sameId counted).settled
  intro other present inserted
  rw [find_set_entry] at inserted
  split at inserted
  · cases inserted
    exact used
  · exact settled.used inserted

theorem Settled.change_entry (settled : repository.Settled) {old entry : HandleEntry}
    (found : repository.entries.find? handle = some old) (sameId : entry.id = old.id)
    (counted : entry.Counted) :
    ((repository.setEntry handle entry).releaseIfUnused handle).Settled := by
  apply ((settled.toCoherent.set_entry found sameId counted).release_if_unused handle).settled
  intro other present left
  rw [find_release_if_unused, find_set_entry] at left
  obtain ⟨inserted, used⟩ := left
  by_cases same : other = handle
  · exact used same
  · rw [if_neg same] at inserted
    exact settled.used inserted

theorem Settled.intern (settled : repository.Settled) {id : String}
    (done : repository.intern id = .ok (handle, next)) : next.Settled := by
  obtain ⟨_, normal, _, ⟨entry, _, found, same⟩ | ⟨unknown, allocated, taken, same⟩⟩ :=
    intern_eq_ok done
  · rw [same]
    exact settled.set_entry found rfl (settled.counted handle entry found)
      (by simp [HandleEntry.isUnused])
  · rw [same]
    apply (settled.toCoherent.insert_fresh unknown taken).settled
    intro other present inserted
    rw [Catalog.find_insert, allocate_rest taken] at inserted
    split at inserted
    · cases inserted
      rfl
    · exact settled.used inserted

theorem Settled.hold (settled : repository.Settled) {client : String}
    (done : repository.hold handle client = .ok next) : next.Settled := by
  obtain ⟨entry, found, same⟩ := hold_eq_ok done
  have sameId : (entry.heldOnce client).id = entry.id := rfl
  rw [same]
  apply settled.set_entry found sameId
  · exact HandleEntry.counted_held_once (settled.counted handle entry found) client
  · apply (used_iff _).2
    right
    exact ⟨client, entry.holds client + 1, by rw [HandleEntry.heldOnce, Catalog.find_insert, if_pos rfl]⟩

/-- Freeing, in any order, the handles that a client held leaves the repository settled. -/
theorem Settled.release_vanished (settled : repository.Settled) {client : String}
    {order : List Handle} (complete : ∀ handle ∈ repository.heldBy client, handle ∈ order) :
    (order.foldl releaseIfUnused (repository.withoutHolder client)).Settled := by
  apply ((settled.toCoherent.without_holder client).release_list order).settled
  intro other changed left
  obtain ⟨remaining, used⟩ := (find_release_list order _ other changed).1 left
  by_cases listed : other ∈ order
  · exact used listed
  · rw [withoutHolder, Catalog.find_map_values] at remaining
    obtain ⟨entry, found, same⟩ := Option.map_eq_some_iff.1 remaining
    subst same
    rcases settled.kept other entry found with referenced | ⟨holder, count, held⟩
    · exact (used_iff _).2 (.inl referenced)
    · have different : holder ≠ client := by
        intro same
        subst same
        apply listed
        apply complete
        apply (mem_held_by _ _ _).2
        exact ⟨entry, found, by simp [Catalog.contains, held]⟩
      apply (used_iff _).2
      right
      refine ⟨holder, count, ?_⟩
      rw [HandleEntry.withoutHolder, Catalog.find_erase, if_neg different, held]

theorem Settled.client_vanished (settled : repository.Settled) (client : String) :
    (repository.clientVanished client).Settled := by
  rw [client_vanished_eq client settled.usable]
  exact settled.release_vanished fun _ => id

theorem Settled.perform (settled : repository.Settled) (operation : Operation) :
    (repository.perform operation).Settled := by
  apply perform_induction operation settled
  · intro id handle next done
    exact settled.intern done
  · intro handle next done
    obtain ⟨entry, found, same⟩ := add_reference_eq_ok done
    rw [same]
    exact settled.set_entry found rfl (settled.counted handle entry found)
      (by simp [HandleEntry.isUnused])
  · intro handle next done
    obtain ⟨entry, found, _, same⟩ := drop_reference_eq_ok done
    rw [same]
    exact settled.change_entry found rfl (settled.counted handle entry found)
  · intro handle client next done
    exact settled.hold done
  · intro handle client next done
    obtain ⟨entry, count, found, _, same⟩ := release_eq_ok done
    rw [same]
    exact settled.change_entry found rfl
      (HandleEntry.counted_released_once (settled.counted handle entry found) client count)
  · intro client
    exact settled.client_vanished client

theorem settled_new (kind : HandleKind) (normalize : String → Outcome String) :
    Settled { kind, normalize } where
  usable := rfl
  indexed := by
    intro handle entry found
    cases found
  named := by
    intro id handle known
    cases known
  counted := by
    intro handle entry found
    cases found
  numbered := Numbering.empty.of_live_iff fun handle => by simp [IsLive]
  kept := by
    intro handle entry found
    cases found

theorem Settled.perform_all (settled : repository.Settled) (operations : List Operation) :
    (operations.foldl DynamicRepository.perform repository).Settled := by
  induction operations generalizing repository with
  | nil => exact settled
  | cons operation rest induction => exact induction (settled.perform operation)

theorem history_settled (kind : HandleKind) (normalize : String → Outcome String)
    (operations : List Operation) : (history kind normalize operations).Settled :=
  (settled_new kind normalize).perform_all operations

theorem perform_identity (repository : DynamicRepository) (operation : Operation) :
    (repository.perform operation).kind = repository.kind ∧
      (repository.perform operation).normalize = repository.normalize := by
  apply @perform_induction repository
    (fun next => next.kind = repository.kind ∧ next.normalize = repository.normalize)
  · exact ⟨rfl, rfl⟩
  · intro id handle next done
    obtain ⟨_, normal, _, ⟨entry, _, _, same⟩ | ⟨_, allocated, taken, same⟩⟩ := intern_eq_ok done
    · exact same ▸ ⟨rfl, rfl⟩
    · rw [same, allocate_rest taken]
      exact ⟨rfl, rfl⟩
  · intro handle next done
    obtain ⟨entry, _, same⟩ := add_reference_eq_ok done
    exact same ▸ ⟨rfl, rfl⟩
  · intro handle next done
    obtain ⟨entry, _, _, same⟩ := drop_reference_eq_ok done
    rw [same, release_if_unused_kind, release_if_unused_normalize]
    exact ⟨rfl, rfl⟩
  · intro handle client next done
    obtain ⟨entry, _, same⟩ := hold_eq_ok done
    exact same ▸ ⟨rfl, rfl⟩
  · intro handle client next done
    obtain ⟨entry, count, _, _, same⟩ := release_eq_ok done
    rw [same, release_if_unused_kind, release_if_unused_normalize]
    exact ⟨rfl, rfl⟩
  · intro client
    unfold clientVanished
    split
    · exact ⟨rfl, rfl⟩
    · exact release_list_identity _ _

theorem history_identity (kind : HandleKind) (normalize : String → Outcome String)
    (operations : List Operation) :
    (history kind normalize operations).kind = kind ∧
      (history kind normalize operations).normalize = normalize := by
  have general : ∀ start : DynamicRepository,
      (operations.foldl perform start).kind = start.kind ∧
        (operations.foldl perform start).normalize = start.normalize := by
    induction operations with
    | nil => exact fun start => ⟨rfl, rfl⟩
    | cons operation rest induction =>
        intro start
        have first := start.perform_identity operation
        have later := induction (start.perform operation)
        exact ⟨later.1.trans first.1, later.2.trans first.2⟩
  exact general { kind, normalize }

theorem Settled.numbers_unique {other : DynamicRepository} (settled : repository.Settled)
    (otherSettled : other.Settled)
    (same : ∀ handle : Nat, other.IsLive handle ↔ repository.IsLive handle) :
    other.free = repository.free ∧ other.next = repository.next :=
  (otherSettled.numbered.of_live_iff same).unique settled.numbered

/-- A coherent repository is known by its entries. -/
theorem Settled.eq_of_entries {other : DynamicRepository} (settled : repository.Settled)
    (otherSettled : other.Settled) (kinds : other.kind = repository.kind)
    (normalizers : other.normalize = repository.normalize)
    (entries : other.entries = repository.entries) : other = repository := by
  have numbers := settled.numbers_unique otherSettled fun handle => by rw [IsLive, IsLive, entries]
  have usable := otherSettled.usable.trans settled.usable.symm
  have within : ∀ {left right : DynamicRepository}, left.Settled → right.Settled →
      left.entries = right.entries → ∀ id handle, left.byId.find? id = some handle →
        right.byId.find? id = some handle := by
    intro left right leftSettled rightSettled sameEntries id handle known
    obtain ⟨entry, found, sameId⟩ := leftSettled.named id handle known
    rw [sameEntries] at found
    rw [← sameId]
    exact rightSettled.indexed handle entry found
  have indexes : other.byId = repository.byId := by
    apply Catalog.ext_find
    intro id
    apply Option.ext
    intro handle
    exact ⟨within otherSettled settled entries id handle,
      within settled otherSettled entries.symm id handle⟩
  obtain ⟨free, next⟩ := numbers
  cases repository
  cases other
  dsimp only at kinds normalizers entries indexes free next usable
  subst kinds normalizers entries indexes free next usable
  rfl

/-- The handles that a vanished client alone kept alive can be freed in any order. -/
theorem Settled.vanished_order (settled : repository.Settled) {client : String}
    {order : List Handle} (permuted : order.Perm (repository.heldBy client)) :
    order.foldl releaseIfUnused (repository.withoutHolder client)
      = repository.clientVanished client := by
  have complete : ∀ handle ∈ repository.heldBy client, handle ∈ order :=
    fun handle member => permuted.symm.subset member
  have identity := release_list_identity order (repository.withoutHolder client)
  have kept := release_list_identity (repository.heldBy client) (repository.withoutHolder client)
  rw [client_vanished_eq client settled.usable]
  apply (settled.release_vanished fun _ => id).eq_of_entries (settled.release_vanished complete)
  · exact identity.1.trans kept.1.symm
  · exact identity.2.trans kept.2.symm
  · apply Catalog.ext_find
    intro handle
    apply Option.ext
    intro entry
    rw [find_release_list, find_release_list, permuted.mem_iff]

/-- Interning what has no live handle takes the least unused number, and fails only if that does
not fit a handle. -/
theorem Settled.intern_least (settled : repository.Settled) {id normal : String}
    (normalized : repository.normalize id = .ok normal)
    (fresh : ∀ (handle : Nat) entry, repository.entries.find? handle = some entry →
      entry.id ≠ normal) :
    ∃ least, LeastUnused repository.IsLive least ∧
      if least + 1 < Handle.limit then ∃ next, repository.intern id = .ok (least, next)
      else repository.intern id = .error (HandleFailure.exhausted repository.kind) := by
  obtain ⟨least, unused⟩ := exists_least_unused settled.numbered
  refine ⟨least, unused, ?_⟩
  have unknown : repository.byId.find? normal = none := by
    apply Option.eq_none_iff_forall_ne_some.2
    intro handle known
    obtain ⟨entry, found, sameId⟩ := settled.named normal handle known
    exact fresh handle entry found sameId
  have allocation := allocate_of_least settled.numbered unused
  rw [intern_unknown settled.usable normalized unknown]
  by_cases fits : least + 1 < Handle.limit
  · rw [if_pos fits] at allocation ⊢
    obtain ⟨allocated, taken⟩ := allocation
    rw [taken]
    exact ⟨_, rfl⟩
  · rw [if_neg fits] at allocation ⊢
    rw [allocation]
    rfl

/-- Whatever is done with a repository before its end, its tables belong together, the next handle
is the least one that is not live, and the free numbers and the cursor follow from the live handles
alone: neither the history nor the order in which a vanished client's handles are freed matters. -/
theorem history_invariant (kind : HandleKind) (normalize : String → Outcome String)
    (operations : List Operation) :
    let repository := history kind normalize operations
    repository.Settled ∧
      (∀ id normal, normalize id = .ok normal →
        (∀ (handle : Nat) entry, repository.entries.find? handle = some entry →
          entry.id ≠ normal) →
        ∃ least, LeastUnused repository.IsLive least ∧
          if least + 1 < Handle.limit then ∃ next, repository.intern id = .ok (least, next)
          else repository.intern id = .error (HandleFailure.exhausted kind)) ∧
      (∀ otherKind otherNormalize otherOperations,
        let other := history otherKind otherNormalize otherOperations
        (∀ handle : Nat, other.IsLive handle ↔ repository.IsLive handle) →
          other.free = repository.free ∧ other.next = repository.next) ∧
      ∀ client (order : List Handle), order.Perm (repository.heldBy client) →
        order.foldl releaseIfUnused (repository.withoutHolder client)
          = repository.clientVanished client := by
  intro repository
  have settled : repository.Settled := history_settled kind normalize operations
  obtain ⟨kinds, normalizers⟩ := history_identity kind normalize operations
  refine ⟨settled, ?_, ?_, ?_⟩
  · intro id normal normalized fresh
    have least := settled.intern_least (by rw [normalizers, normalized]) fresh
    rw [kinds] at least
    exact least
  · intro otherKind otherNormalize otherOperations other same
    exact settled.numbers_unique (history_settled _ _ _) same
  · intro client order permuted
    exact settled.vanished_order permuted

end ConnectionManager.DynamicRepository
