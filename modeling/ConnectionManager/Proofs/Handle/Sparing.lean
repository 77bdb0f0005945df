import ConnectionManager.Proofs.Handle.Batches

/-!
Whom an operation of a repository spares. Interning and dropping move references alone, and what is
done for a client moves its holds alone. So the shares of all other keepers are as before
(`Repository.Spares`), and what is reckoned by shares needs no word on single operations.
-/

namespace ConnectionManager

namespace FixedRepository

variable {repository next : FixedRepository} {handle : Handle} {client : String}

theorem hold_elsewhere {sought : Handle} {name : String}
    (done : repository.hold handle client = .ok next)
    (elsewhere : (⟨sought, name⟩ : HoldKey) ≠ ⟨handle, client⟩) :
    next.holds sought name = repository.holds sought name := by
  obtain ⟨_, rfl⟩ := hold_eq_ok done
  dsimp only [holds]
  rw [Catalog.find_insert, if_neg elsewhere]

theorem release_elsewhere {sought : Handle} {name : String}
    (done : repository.release handle client = .ok next)
    (elsewhere : (⟨sought, name⟩ : HoldKey) ≠ ⟨handle, client⟩) :
    next.holds sought name = repository.holds sought name := by
  obtain ⟨count, _, rfl⟩ := release_eq_ok done
  dsimp only [holds]
  split
  · rw [Catalog.find_erase, if_neg elsewhere]
  · rw [Catalog.find_insert, if_neg elsewhere]

theorem vanished_holds (repository : FixedRepository) (client : String) (sought : Handle)
    (name : String) : (repository.clientVanished client).holds sought name
      = if name = client then 0 else repository.holds sought name := by
  rw [holds, holds, clientVanished, Catalog.find_filter]
  cases repository.holders.find? ⟨sought, name⟩ with
  | none => simp
  | some count => by_cases same : name = client <;> simp [Option.filter_some, same]

/-- A list of names keeps its names, and the holds of the clients that are spared. -/
def Spares (spared : Keeper → Prop) (repository next : FixedRepository) : Prop :=
  repository.Alike next ∧
    ∀ key name, spared (.client name) → next.holds key name = repository.holds key name

end FixedRepository

namespace DynamicRepository

variable {repository next : DynamicRepository} {handle : Handle} {client : String} {owner : Keeper}

theorem reference_shares (settled : repository.Settled)
    (done : repository.addReference handle = .ok next) : next.Settled ∧
      ∀ key keeper, next.share key keeper
        = repository.share key keeper + occurrences [handle] .service key keeper := by
  have performed := perform_reference done
  refine ⟨performed ▸ settled.perform (.addReference handle), fun key keeper => ?_⟩
  obtain ⟨known, found, same⟩ := add_reference_eq_ok done
  rw [same]
  apply share_set_entry found
  intro owner
  cases owner <;> simp [HandleEntry.share, HandleEntry.holds]

theorem intern_shares {id : String} (settled : repository.Settled)
    (done : repository.intern id = .ok (handle, next)) : next.Settled ∧
      ∀ key keeper, next.share key keeper
        = repository.share key keeper + occurrences [handle] .service key keeper := by
  obtain ⟨afterwards, extended⟩ := Repository.settled_intern settled done
  exact ⟨afterwards, extended.table_shares⟩

theorem drop_shares (settled : repository.Settled)
    (done : repository.dropReference handle = .ok next) : next.Settled ∧
      ∀ key keeper, repository.share key keeper
        = next.share key keeper + occurrences [handle] .service key keeper := by
  obtain ⟨entry, found, referenced, _⟩ := drop_reference_eq_ok done
  obtain ⟨other, again, afterwards, extended⟩ :=
    Repository.settled_drop settled (by rw [share_live found]; exact referenced)
  rw [done] at again
  cases again
  exact ⟨afterwards, extended.table_shares⟩

theorem hold_shares (settled : repository.Settled)
    (done : repository.hold handle client = .ok next) (key : Handle) (keeper : Keeper) :
    next.share key keeper
      = repository.share key keeper + occurrences [handle] (.client client) key keeper := by
  obtain ⟨entry, found, _⟩ := hold_eq_ok done
  have live : repository.IsLive handle := by
    rw [IsLive, found]
    rfl
  obtain ⟨other, again, _, extended⟩ :=
    Repository.settled_hold settled (settled.valid_iff.2 (settled.live_iff.1 live)) client
  rw [done] at again
  cases again
  exact extended.table_shares key keeper

theorem release_shares (settled : repository.Settled)
    (done : repository.release handle client = .ok next) (key : Handle) (keeper : Keeper) :
    repository.share key keeper
      = next.share key keeper + occurrences [handle] (.client client) key keeper := by
  obtain ⟨entry, count, found, held, _⟩ := release_eq_ok done
  have positive : 0 < repository.share handle (.client client) := by
    rw [share_live found, HandleEntry.share, HandleEntry.holds, held]
    exact settled.counted handle entry found client count held
  obtain ⟨other, again, _, extended⟩ := Repository.settled_release settled positive
  rw [done] at again
  cases again
  exact extended.table_shares key keeper

theorem share_client_vanished (settled : repository.Settled) (client : String) (key : Handle)
    {keeper : Keeper} (apart : keeper ≠ .client client) :
    (repository.clientVanished client).share key keeper = repository.share key keeper := by
  rw [client_vanished_eq client settled.usable]
  cases found : repository.entries.find? key with
  | none =>
      have dead : ((repository.heldBy client).foldl releaseIfUnused
          (repository.withoutHolder client)).entries.find? key = none := by
        apply Option.eq_none_iff_forall_ne_some.2
        intro entry left
        have remaining := ((find_release_list _ _ key entry).1 left).1
        rw [withoutHolder, Catalog.find_map_values, found] at remaining
        cases remaining
      rw [share, share, dead, found]
  | some entry =>
      have changed : (repository.withoutHolder client).entries.find? key
          = some (entry.withoutHolder client) := by
        rw [withoutHolder, Catalog.find_map_values, found]
        rfl
      have same : (entry.withoutHolder client).share keeper = entry.share keeper := by
        refine HandleEntry.share_of_holders apart rfl fun name other => ?_
        rw [HandleEntry.withoutHolder, Catalog.find_erase, if_neg other]
      rw [share_live found, ← same]
      cases left : ((repository.heldBy client).foldl releaseIfUnused
          (repository.withoutHolder client)).entries.find? key with
      | some other =>
          have remaining := ((find_release_list _ _ key other).1 left).1
          rw [changed] at remaining
          cases remaining
          rw [share_live left]
      | none =>
          -- The entry was freed because nothing was left of it, so nobody else had a share in it.
          have unused : (entry.withoutHolder client).isUnused = true := by
            by_contra used
            have kept := (find_release_list (repository.heldBy client) _ key
              (entry.withoutHolder client)).2 ⟨changed, fun _ => by simpa using used⟩
            rw [left] at kept
            cases kept
          have none := unused_share unused keeper
          rw [share, left]
          exact none.symm

/-- One operation that leaves the shares of the spared keepers alone. -/
def Spares (spared : Keeper → Prop) (repository next : DynamicRepository) : Prop :=
  ∃ operation, repository.perform operation = next ∧ (repository.Settled →
    ∀ key keeper, spared keeper → next.share key keeper = repository.share key keeper)

/-- What gives one keeper a share spares the others. -/
theorem spares_of_given (operation : Operation) (performed : repository.perform operation = next)
    (given : repository.Settled → ∀ key keeper, next.share key keeper
      = repository.share key keeper + occurrences [handle] owner key keeper) :
    repository.Spares (· ≠ owner) next := by
  refine ⟨operation, performed, fun settled key keeper apart => ?_⟩
  rw [given settled, occurrences_single, if_neg fun both => apart both.2, Nat.add_zero]

theorem spares_of_taken (operation : Operation) (performed : repository.perform operation = next)
    (taken : repository.Settled → ∀ key keeper, repository.share key keeper
      = next.share key keeper + occurrences [handle] owner key keeper) :
    repository.Spares (· ≠ owner) next := by
  refine ⟨operation, performed, fun settled key keeper apart => ?_⟩
  rw [taken settled, occurrences_single, if_neg fun both => apart both.2, Nat.add_zero]

end DynamicRepository

namespace Repository

variable {repository next : Repository} {handle key : Handle} {client name : String}

theorem dynamic_holds (repository : DynamicRepository) (handle : Handle) (client : String) :
    repository.holds handle client = repository.share handle (.client client) :=
  dynamic_share repository handle (.client client)

def Spares (spared : Keeper → Prop) : Repository → Repository → Prop :=
  ByForm (DynamicRepository.Spares spared) (FixedRepository.Spares spared)

theorem service_apart (client : String) : Keeper.service ≠ .client client := nofun

theorem hold_key_apart (apart : Keeper.client name ≠ .client client) :
    (⟨key, name⟩ : HoldKey) ≠ ⟨handle, client⟩ :=
  fun same => apart (congrArg Keeper.client (congrArg HoldKey.client same))

theorem unchanged_spares {list same : FixedRepository} {spared : Keeper → Prop} {valid : Prop}
    (unchanged : same = list ∧ valid) : list.Spares spared same := by
  obtain ⟨rfl, _⟩ := unchanged
  exact ⟨⟨rfl, rfl, rfl⟩, fun _ _ _ => rfl⟩

theorem intern_spares {id : String} (done : repository.intern id = .ok (handle, next)) :
    repository.Spares (· ≠ .service) next :=
  (intern_by_form done).mono (fun outcome => DynamicRepository.spares_of_given (.intern id)
    (DynamicRepository.perform_intern outcome)
    fun settled => (DynamicRepository.intern_shares settled outcome).2) unchanged_spares

theorem drop_spares (done : repository.dropReference handle = .ok next) :
    repository.Spares (· ≠ .service) next :=
  (drop_by_form done).mono (fun outcome => DynamicRepository.spares_of_taken (.dropReference handle)
    (DynamicRepository.perform_drop outcome)
    fun settled => (DynamicRepository.drop_shares settled outcome).2) unchanged_spares

theorem hold_spares (done : repository.hold handle client = .ok next) :
    repository.Spares (· ≠ .client client) next :=
  (hold_by_form done).mono
    (fun outcome => DynamicRepository.spares_of_given (.hold handle client)
      (DynamicRepository.perform_hold outcome)
      fun settled => DynamicRepository.hold_shares settled outcome)
    fun outcome => ⟨FixedRepository.hold_alike outcome, fun _ _ apart =>
      FixedRepository.hold_elsewhere outcome (hold_key_apart apart)⟩

theorem release_spares (done : repository.release handle client = .ok next) :
    repository.Spares (· ≠ .client client) next :=
  (release_by_form done).mono
    (fun outcome => DynamicRepository.spares_of_taken (.release handle client)
      (DynamicRepository.perform_release outcome)
      fun settled => DynamicRepository.release_shares settled outcome)
    fun outcome => ⟨FixedRepository.release_alike outcome, fun _ _ apart =>
      FixedRepository.release_elsewhere outcome (hold_key_apart apart)⟩

theorem vanished_spares (repository : Repository) (client : String) :
    repository.Spares (· ≠ .client client) (repository.clientVanished client) := by
  have inner : ∀ repository : DynamicRepository,
      repository.Spares (· ≠ .client client) (repository.clientVanished client) :=
    fun repository => ⟨.clientVanished client, rfl, fun settled key _ apart =>
      DynamicRepository.share_client_vanished settled client key apart⟩
  cases repository with
  | dynamic repository => exact .dynamic (inner repository)
  | guarded repository refused => exact .guarded refused (inner repository)
  | fixed repository =>
      refine .fixed ⟨⟨rfl, rfl, rfl⟩, fun key name apart => ?_⟩
      rw [FixedRepository.vanished_holds, if_neg fun same => apart (congrArg Keeper.client same)]

theorem Spares.holds {spared : Keeper → Prop} (spares : repository.Spares spared next)
    (sound : repository.Sound) (apart : spared (.client name)) :
    next.holds key name = repository.holds key name := by
  have inner : ∀ {repository next : DynamicRepository}, repository.Spares spared next →
      repository.invalid = true ∨ repository.Settled →
        next.holds key name = repository.holds key name := by
    rintro repository _ ⟨operation, rfl, same⟩ (invalid | settled)
    · rw [DynamicRepository.perform_invalid invalid]
    · rw [dynamic_holds, dynamic_holds, same settled key _ apart]
  cases spares with
  | dynamic done => exact inner done sound
  | guarded refused done => exact inner done sound
  | fixed done => exact done.2 key name apart

end Repository

end ConnectionManager
