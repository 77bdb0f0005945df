import ConnectionManager.Handle.Members
import ConnectionManager.Proofs.Handle.Sparing
import Mathlib.Data.List.Nodup

/-!
References that are spoken for. A set keeps a reference on each of its members, and other code keeps
references of its own. A repository covers such claims if it counts at least the references that are
claimed. Then a handle with a claim on it is valid and a claimed reference can be given back, until
the repository ends. A set and its repository change together, so that what is covered stays covered.
-/

namespace ConnectionManager

def single (handle key : Handle) : Nat := if key = handle then 1 else 0

theorem occurrences_service (handle key : Handle) :
    occurrences [handle] .service key .service = single handle key := by
  rw [occurrences_single]
  simp [single]

namespace DynamicRepository

variable {repository next : DynamicRepository} {claims : Handle → Nat} {handle : Handle}

/-- The references that are claimed are counted, unless the repository has ended. -/
def Covers (repository : DynamicRepository) (claims : Handle → Nat) : Prop :=
  repository.invalid = true ∨
    (repository.Settled ∧ ∀ key, claims key ≤ repository.share key .service)

theorem release_if_unused_invalid (repository : DynamicRepository) (handle : Handle) :
    (repository.releaseIfUnused handle).invalid = repository.invalid := by
  unfold releaseIfUnused
  split
  · split
    · rw [give_back_invalid]
    · rfl
  · rfl

theorem Covers.counted (covers : repository.Covers claims) (usable : repository.invalid = false) :
    repository.Settled ∧ ∀ key, claims key ≤ repository.share key .service := by
  rcases covers with invalid | counted
  · rw [invalid] at usable
    cases usable
  · exact counted

theorem Covers.valid (covers : repository.Covers claims) (usable : repository.invalid = false)
    (claimed : 0 < claims handle) : repository.isValid handle = true := by
  obtain ⟨settled, counted⟩ := covers.counted usable
  exact settled.valid_iff.2 ⟨.service, Nat.lt_of_lt_of_le claimed (counted handle)⟩

theorem add_reference_ok (valid : repository.isValid handle = true) :
    ∃ next, repository.addReference handle = .ok next := by
  obtain ⟨entry, present⟩ := is_valid_iff.1 valid
  exact ⟨_, by rw [addReference, present]; rfl⟩

theorem valid_of_reference (done : repository.addReference handle = .ok next) :
    repository.isValid handle = true ∧ next.isValid handle = true ∧
      next.invalid = repository.invalid := by
  obtain ⟨entry, present, done⟩ := Outcome.bind_eq_ok.1 done
  cases done
  refine ⟨is_valid_iff.2 ⟨entry, present⟩, ?_, rfl⟩
  have still : (repository.setEntry handle
      { entry with references := entry.references + 1 }).invalid = false :=
    (entry_eq_ok.1 present).1
  rw [isValid, still, Catalog.contains, find_set_entry, if_pos rfl]
  rfl

theorem reference_elsewhere (done : repository.addReference handle = .ok next) {key : Nat}
    (other : key ≠ handle) : next.isValid key = repository.isValid key := by
  obtain ⟨entry, _, same⟩ := add_reference_eq_ok done
  rw [same, isValid, isValid, Catalog.contains, find_set_entry, if_neg other]
  rfl

theorem usable_of_drop (done : repository.dropReference handle = .ok next) :
    repository.invalid = false := by
  obtain ⟨entry, present, _⟩ := Outcome.bind_eq_ok.1 done
  exact (entry_eq_ok.1 present).1

theorem Covers.reference (covers : repository.Covers claims)
    (done : repository.addReference handle = .ok next) :
    next.Covers fun key => claims key + single handle key := by
  obtain ⟨valid, _, _⟩ := valid_of_reference done
  obtain ⟨entry, present⟩ := is_valid_iff.1 valid
  obtain ⟨settled, counted⟩ := covers.counted (entry_eq_ok.1 present).1
  obtain ⟨afterwards, shares⟩ := reference_shares settled done
  refine .inr ⟨afterwards, fun key => ?_⟩
  have before := counted key
  simp only [shares, occurrences_service]
  omega

theorem Covers.drop (covers : repository.Covers fun key => claims key + single handle key)
    (done : repository.dropReference handle = .ok next) : next.Covers claims := by
  obtain ⟨settled, counted⟩ := covers.counted (usable_of_drop done)
  obtain ⟨afterwards, shares⟩ := drop_shares settled done
  refine .inr ⟨afterwards, fun key => ?_⟩
  have before := counted key
  rw [shares, occurrences_service] at before
  omega

theorem drop_invalid (done : repository.dropReference handle = .ok next) :
    next.invalid = repository.invalid := by
  obtain ⟨entry, _, _, same⟩ := drop_reference_eq_ok done
  rw [same, release_if_unused_invalid]
  rfl

theorem drop_elsewhere (done : repository.dropReference handle = .ok next) {key : Nat}
    (other : key ≠ handle) : next.isValid key = repository.isValid key := by
  obtain ⟨entry, _, _, same⟩ := drop_reference_eq_ok done
  have found : next.entries.find? key = repository.entries.find? key := by
    apply Option.ext
    intro present
    rw [same, find_release_if_unused, find_set_entry, if_neg other]
    simp [other]
  rw [isValid, isValid, drop_invalid done, Catalog.contains, Catalog.contains, found]

theorem Covers.drop_ok (covers : repository.Covers claims) (usable : repository.invalid = false)
    (claimed : 0 < claims handle) : ∃ next, repository.dropReference handle = .ok next := by
  obtain ⟨settled, counted⟩ := covers.counted usable
  obtain ⟨next, done, _⟩ :=
    Repository.settled_drop settled (Nat.lt_of_lt_of_le claimed (counted handle))
  exact ⟨next, done⟩

/-- An operation that changes no reference leaves the claims covered. -/
theorem Covers.keep (covers : repository.Covers claims) (operation : Operation)
    (same : repository.Settled →
      ∀ key, (repository.perform operation).share key .service = repository.share key .service) :
    (repository.perform operation).Covers claims := by
  rcases covers with invalid | ⟨settled, counted⟩
  · rw [perform_invalid invalid]
    exact .inl invalid
  · refine .inr ⟨settled.perform operation, fun key => ?_⟩
    rw [same settled]
    exact counted key

end DynamicRepository

namespace Repository

variable {repository next : Repository} {claims : Handle → Nat} {handle : Handle}

/-- The references that are claimed are counted, unless the repository has ended. A list of names
keeps its names alive anyway. -/
def Covers (repository : Repository) (claims : Handle → Nat) : Prop :=
  match repository with
  | .dynamic repository | .guarded repository _ => repository.Covers claims
  | .fixed repository =>
      ∀ handle, 0 < claims handle → 1 ≤ handle ∧ handle ≤ repository.names.length

def isUsable : Repository → Bool
  | .dynamic repository | .guarded repository _ => !repository.invalid
  | .fixed repository => !repository.invalid

theorem Covers.fewer {less : Handle → Nat} (covers : repository.Covers claims)
    (fewer : ∀ key, less key ≤ claims key) : repository.Covers less := by
  have inner : ∀ repository : DynamicRepository, repository.Covers claims →
      repository.Covers less := by
    rintro repository (invalid | ⟨settled, counted⟩)
    · exact .inl invalid
    · exact .inr ⟨settled, fun key => Nat.le_trans (fewer key) (counted key)⟩
  cases repository with
  | dynamic repository => exact inner repository covers
  | guarded repository refused => exact inner repository covers
  | fixed repository => exact fun key claimed => covers key (Nat.lt_of_lt_of_le claimed (fewer key))

theorem Covers.valid (covers : repository.Covers claims) (usable : repository.isUsable = true)
    (claimed : 0 < claims handle) : repository.isValid handle = true := by
  cases repository with
  | dynamic repository =>
      exact DynamicRepository.Covers.valid covers (by simpa [isUsable] using usable) claimed
  | guarded repository refused =>
      exact DynamicRepository.Covers.valid covers (by simpa [isUsable] using usable) claimed
  | fixed repository =>
      exact FixedRepository.valid_iff.2 ⟨by simpa [isUsable] using usable, covers handle claimed⟩

theorem usable_of_valid (valid : repository.isValid handle = true) : repository.isUsable = true := by
  cases repository with
  | dynamic repository => exact (Bool.and_eq_true_iff.1 valid).1
  | guarded repository refused => exact (Bool.and_eq_true_iff.1 valid).1
  | fixed repository => simp [isUsable, (FixedRepository.valid_iff.1 valid).1]

structure Taken (repository next : Repository) (handle : Handle) : Prop where
  valid : repository.isValid handle = true
  still : next.isValid handle = true
  usable : next.isUsable = repository.isUsable
  elsewhere : ∀ key, key ≠ handle → next.isValid key = repository.isValid key
  covers : ∀ claims, repository.Covers claims → next.Covers fun key => claims key + single handle key

structure Returned (repository next : Repository) (handle : Handle) : Prop where
  usable : next.isUsable = repository.isUsable
  elsewhere : ∀ key, key ≠ handle → next.isValid key = repository.isValid key
  covers : ∀ claims, (repository.Covers fun key => claims key + single handle key) → next.Covers claims

theorem fixed_covers {repository : FixedRepository} (covers : (fixed repository).Covers claims)
    (valid : repository.isValid handle = true) :
    (fixed repository).Covers fun key => claims key + single handle key := by
  intro key claimed
  by_cases same : key = handle
  · rw [same]
    exact (FixedRepository.valid_iff.1 valid).2
  · apply covers key
    simpa [single, same] using claimed

theorem dynamic_taken {repository next : DynamicRepository}
    (done : repository.addReference handle = .ok next) :
    Taken (.dynamic repository) (.dynamic next) handle := by
  obtain ⟨valid, still, usable⟩ := DynamicRepository.valid_of_reference done
  exact {
    valid := valid
    still := still
    usable := congrArg (! ·) usable
    elsewhere := fun key other => DynamicRepository.reference_elsewhere done other
    covers := fun claims covers => DynamicRepository.Covers.reference covers done }

theorem add_reference_taken (done : repository.addReference handle = .ok next) :
    repository.Taken next handle := by
  cases reference_by_form done with
  | dynamic outcome => exact dynamic_taken outcome
  | guarded refused outcome =>
      have taken := dynamic_taken outcome
      exact ⟨taken.valid, taken.still, taken.usable, taken.elsewhere, taken.covers⟩
  | fixed outcome =>
      obtain ⟨rfl, valid⟩ := outcome
      exact {
        valid := valid
        still := valid
        usable := rfl
        elsewhere := fun _ _ => rfl
        covers := fun claims covers => fixed_covers covers valid }

theorem add_reference_ok (valid : repository.isValid handle = true) :
    ∃ next, repository.addReference handle = .ok next := by
  cases repository with
  | dynamic repository =>
      obtain ⟨next, done⟩ := DynamicRepository.add_reference_ok valid
      exact ⟨.dynamic next, by rw [addReference, done]; rfl⟩
  | guarded repository refused =>
      obtain ⟨next, done⟩ := DynamicRepository.add_reference_ok valid
      exact ⟨.guarded next refused, by rw [addReference, done]; rfl⟩
  | fixed repository =>
      exact ⟨.fixed repository, by rw [addReference, FixedRepository.check_eq_ok.2 valid]; rfl⟩

theorem dynamic_returned {repository next : DynamicRepository}
    (done : repository.dropReference handle = .ok next) :
    Returned (.dynamic repository) (.dynamic next) handle where
  usable := congrArg (! ·) (DynamicRepository.drop_invalid done)
  elsewhere _ other := DynamicRepository.drop_elsewhere done other
  covers _ covers := DynamicRepository.Covers.drop covers done

theorem drop_reference_returned (done : repository.dropReference handle = .ok next) :
    repository.Returned next handle := by
  cases drop_by_form done with
  | dynamic outcome => exact dynamic_returned outcome
  | guarded refused outcome =>
      have returned := dynamic_returned outcome
      exact ⟨returned.usable, returned.elsewhere, returned.covers⟩
  | fixed outcome =>
      obtain ⟨rfl, _⟩ := outcome
      exact ⟨rfl, fun _ _ => rfl,
        fun claims covers => Covers.fewer covers fun key => Nat.le_add_right _ _⟩

theorem Covers.drop_ok (covers : repository.Covers claims) (usable : repository.isUsable = true)
    (claimed : 0 < claims handle) : ∃ next, repository.dropReference handle = .ok next := by
  cases repository with
  | dynamic repository =>
      obtain ⟨next, done⟩ :=
        DynamicRepository.Covers.drop_ok covers (by simpa [isUsable] using usable) claimed
      exact ⟨.dynamic next, by rw [dropReference, done]; rfl⟩
  | guarded repository refused =>
      obtain ⟨next, done⟩ :=
        DynamicRepository.Covers.drop_ok covers (by simpa [isUsable] using usable) claimed
      exact ⟨.guarded next refused, by rw [dropReference, done]; rfl⟩
  | fixed repository =>
      have valid : repository.isValid handle = true :=
        FixedRepository.valid_iff.2 ⟨by simpa [isUsable] using usable, covers handle claimed⟩
      exact ⟨.fixed repository, by rw [dropReference, FixedRepository.check_eq_ok.2 valid]; rfl⟩

/-- What other code does with a repository, with the references on each handle that it has taken and
not given back. Orderly code gives back only what it took. -/
inductive Dealing (orderly : Prop) :
    (Handle → Nat) → Repository → (Handle → Nat) → Repository → Prop
  | idle (owned : Handle → Nat) (repository : Repository) :
      Dealing orderly owned repository owned repository
  | interned {owned : Handle → Nat} {repository next : Repository} {id : String} {handle : Handle}
      (done : repository.intern id = .ok (handle, next)) :
      Dealing orderly owned repository (fun key => owned key + single handle key) next
  | referenced {owned : Handle → Nat} {repository next : Repository} {handle : Handle}
      (done : repository.addReference handle = .ok next) :
      Dealing orderly owned repository (fun key => owned key + single handle key) next
  | dropped {owned : Handle → Nat} {repository next : Repository} {handle : Handle}
      (took : orderly → 0 < owned handle) (done : repository.dropReference handle = .ok next) :
      Dealing orderly owned repository (fun key => owned key - single handle key) next
  | held {owned : Handle → Nat} {repository next : Repository} {handle : Handle} {client : String}
      (done : repository.hold handle client = .ok next) :
      Dealing orderly owned repository owned next
  | released {owned : Handle → Nat} {repository next : Repository} {handle : Handle}
      {client : String} (done : repository.release handle client = .ok next) :
      Dealing orderly owned repository owned next
  | vanished (owned : Handle → Nat) (repository : Repository) (client : String) :
      Dealing orderly owned repository owned (repository.clientVanished client)
  | ended (owned : Handle → Nat) (repository : Repository) :
      Dealing orderly owned repository owned repository.invalidate

theorem dynamic_intern_covers {repository next : DynamicRepository} {id : String}
    (covers : repository.Covers claims) (done : repository.intern id = .ok (handle, next)) :
    next.Covers fun key => claims key + single handle key := by
  have usable : repository.invalid = false := (DynamicRepository.intern_eq_ok done).1
  obtain ⟨settled, counted⟩ := covers.counted usable
  obtain ⟨afterwards, shares⟩ := DynamicRepository.intern_shares settled done
  refine .inr ⟨afterwards, fun key => ?_⟩
  have before := counted key
  simp only [shares, occurrences_service]
  omega

theorem intern_covers {id : String} (covers : repository.Covers claims)
    (done : repository.intern id = .ok (handle, next)) :
    next.Covers fun key => claims key + single handle key := by
  cases intern_by_form done with
  | dynamic outcome => exact dynamic_intern_covers covers outcome
  | guarded refused outcome => exact dynamic_intern_covers covers outcome
  | fixed outcome =>
      obtain ⟨rfl, valid⟩ := outcome
      exact fixed_covers covers valid

/-- A way to keep account of claims. A reference that is taken can be claimed; a claim that is given
up with its reference leaves the others as they are, and so does one whose reference the repository
does not take back. -/
structure Reckoning (keeps : Repository → (Handle → Nat) → Prop) : Prop where
  taken : ∀ {repository next : Repository} {handle : Handle} {claims : Handle → Nat},
    repository.addReference handle = .ok next → keeps repository claims →
      keeps next fun key => claims key + single handle key
  interned : ∀ {repository next : Repository} {id : String} {handle : Handle}
    {claims : Handle → Nat}, repository.intern id = .ok (handle, next) → keeps repository claims →
      keeps next fun key => claims key + single handle key
  returned : ∀ {repository next : Repository} {handle : Handle} {claims : Handle → Nat},
    repository.dropReference handle = .ok next →
      (keeps repository fun key => claims key + single handle key) → keeps next claims
  refused : ∀ {repository : Repository} {handle : Handle} {claims : Handle → Nat}
    {failure : Failure}, repository.dropReference handle = .error failure →
      (keeps repository fun key => claims key + single handle key) → keeps repository claims

theorem covers_reckoning : Reckoning Covers where
  taken done covers := (add_reference_taken done).covers _ covers
  interned done covers := intern_covers covers done
  returned done covers := (drop_reference_returned done).covers _ covers
  refused _ covers := covers.fewer fun _ => Nat.le_add_right _ _

theorem Spares.covers {spared : Keeper → Prop} (spares : repository.Spares spared next)
    (referenced : spared .service) (covers : repository.Covers claims) : next.Covers claims := by
  have inner : ∀ {repository next : DynamicRepository}, repository.Spares spared next →
      repository.Covers claims → next.Covers claims := by
    rintro repository _ ⟨operation, rfl, same⟩ covers
    exact covers.keep operation fun settled key => same settled key _ referenced
  cases spares with
  | dynamic done => exact inner done covers
  | guarded refused done => exact inner done covers
  | fixed done =>
      intro key claimed
      rw [done.1.names]
      exact covers key claimed

theorem invalidate_covers (covers : repository.Covers claims) :
    repository.invalidate.Covers claims := by
  cases repository with
  | dynamic repository => exact .inl rfl
  | guarded repository refused => exact .inl rfl
  | fixed repository => exact covers

/-- Orderly code leaves covered what others claim. -/
theorem Dealing.covers {orderly : Prop} {own owned left : Handle → Nat}
    (dealing : Dealing orderly owned repository left next) (sound : orderly)
    (covers : repository.Covers fun key => own key + owned key) :
    next.Covers fun key => own key + left key := by
  cases dealing with
  | idle => exact covers
  | interned done => simpa only [Nat.add_assoc] using intern_covers covers done
  | referenced done => simpa only [Nat.add_assoc] using (add_reference_taken done).covers _ covers
  | @dropped _ handle took done =>
      apply (drop_reference_returned done).covers
      apply covers.fewer
      intro key
      have positive := took sound
      simp only [single]
      split
      · rename_i same
        rw [same]
        omega
      · omega
  | held done => exact (hold_spares done).covers (service_apart _) covers
  | released done => exact (release_spares done).covers (service_apart _) covers
  | vanished client => exact (repository.vanished_spares _).covers (service_apart _) covers
  | ended => exact invalidate_covers covers

theorem Step.usable (step : repository.Step next) (usable : next.isUsable = true) :
    repository.isUsable = true := by
  have lasting : ∀ (repository : DynamicRepository) operation,
      (repository.perform operation).invalid = false → repository.invalid = false := by
    intro repository operation left
    by_contra ended
    have invalid : repository.invalid = true := by simpa using ended
    rw [DynamicRepository.perform_invalid invalid, invalid] at left
    cases left
  cases step.shift with
  | dynamic repository operation =>
      simp only [isUsable, Bool.not_eq_true'] at usable ⊢
      exact lasting repository operation usable
  | guarded repository refused operation =>
      simp only [isUsable, Bool.not_eq_true'] at usable ⊢
      exact lasting repository operation usable
  | fixed repository next alike =>
      simp only [isUsable, Bool.not_eq_true'] at usable ⊢
      exact alike.invalid.symm.trans usable

theorem Dealing.usable {orderly : Prop} {owned left : Handle → Nat}
    (dealing : Dealing orderly owned repository left next) (usable : next.isUsable = true) :
    repository.isUsable = true := by
  cases dealing with
  | idle => exact usable
  | interned done => exact (Step.interned done).usable usable
  | referenced done => exact (Step.referenced done).usable usable
  | dropped took done => exact (Step.dropped done).usable usable
  | held done => exact (Step.held done).usable usable
  | released done => exact (Step.released done).usable usable
  | vanished client => exact (Step.vanished repository _).usable usable
  | ended => cases repository <;> cases usable

end Repository

namespace HandleSet

variable {set : HandleSet} {repository : Repository} {handle key : Handle} {others : Handle → Nat}

def claim (set : HandleSet) (handle : Handle) : Nat :=
  if Catalog.contains set handle then 1 else 0

theorem claim_insert (absent : Catalog.contains set handle = false) (key : Handle) :
    claim (Catalog.insert set handle ()) key = claim set key + single handle key := by
  simp only [claim, contains_insert, single]
  by_cases same : key = handle
  · simp [same, absent]
  · simp [same]

theorem claim_erase (present : Catalog.contains set handle = true) (key : Handle) :
    claim set key = claim (Catalog.erase set handle) key + single handle key := by
  simp only [claim, contains_erase, single]
  by_cases same : key = handle
  · simp [same, present]
  · simp [same]

theorem claim_pos : 0 < claim set handle ↔ Catalog.contains set handle = true := by
  unfold claim
  split <;> simp_all

/-- A handle is a member already, or it becomes one with a reference, or it cannot be referenced. -/
theorem add_cases (set : HandleSet) (repository : Repository) (handle : Handle) :
    (Catalog.contains set handle = true ∧
        set.add repository handle = ⟨.ok false, set, repository⟩) ∨
      (Catalog.contains set handle = false ∧ ∃ next, repository.addReference handle = .ok next ∧
        set.add repository handle = ⟨.ok true, Catalog.insert set handle (), next⟩) ∨
      (Catalog.contains set handle = false ∧ repository.isValid handle = false ∧
        ∃ failure, set.add repository handle = ⟨.error failure, set, repository⟩) := by
  unfold add
  by_cases present : Catalog.contains set handle = true
  · exact .inl ⟨present, if_pos present⟩
  · rw [if_neg present]
    have absent : Catalog.contains set handle = false := by simpa using present
    cases done : repository.addReference handle with
    | ok next => exact .inr (.inl ⟨absent, next, rfl, rfl⟩)
    | error failure =>
        refine .inr (.inr ⟨absent, ?_, failure, rfl⟩)
        by_contra valid
        obtain ⟨next, again⟩ := Repository.add_reference_ok (by simpa using valid)
        rw [done] at again
        cases again

/-- A handle is no member, or it leaves, whether its reference is given back or not. -/
theorem remove_cases (set : HandleSet) (repository : Repository) (handle : Handle) :
    (Catalog.contains set handle = false ∧
        set.remove repository handle = ⟨.ok false, set, repository⟩) ∨
      (Catalog.contains set handle = true ∧ ∃ next, repository.dropReference handle = .ok next ∧
        set.remove repository handle = ⟨.ok true, Catalog.erase set handle, next⟩) ∨
      (Catalog.contains set handle = true ∧ ∃ failure,
        repository.dropReference handle = .error failure ∧
          set.remove repository handle
            = ⟨.error failure, Catalog.erase set handle, repository⟩) := by
  unfold remove
  by_cases present : Catalog.contains set handle = true
  · rw [if_pos present]
    cases done : repository.dropReference handle with
    | ok next => exact .inr (.inl ⟨present, next, rfl, rfl⟩)
    | error failure => exact .inr (.inr ⟨present, failure, rfl, rfl⟩)
  · exact .inl ⟨by simpa using present, if_neg present⟩

variable {keeps : Repository → (Handle → Nat) → Prop}

theorem add_keeps (reckoning : Repository.Reckoning keeps) (handle : Handle)
    (kept : keeps repository fun key => others key + set.claim key) :
    keeps (set.add repository handle).repository
      fun key => others key + (set.add repository handle).set.claim key := by
  rcases set.add_cases repository handle with ⟨_, same⟩ | ⟨absent, next, done, same⟩ |
    ⟨_, _, failure, same⟩
  · rw [same]
    exact kept
  · rw [same]
    have more := reckoning.taken done kept
    simpa only [claim_insert absent, Nat.add_assoc] using more
  · rw [same]
    exact kept

theorem remove_keeps (reckoning : Repository.Reckoning keeps) (handle : Handle)
    (kept : keeps repository fun key => others key + set.claim key) :
    keeps (set.remove repository handle).repository
      fun key => others key + (set.remove repository handle).set.claim key := by
  rcases set.remove_cases repository handle with ⟨_, same⟩ | ⟨present, next, done, same⟩ |
    ⟨present, failure, done, same⟩
  · rw [same]
    exact kept
  · rw [same]
    apply reckoning.returned done
    simpa only [claim_erase present, Nat.add_assoc] using kept
  · rw [same]
    apply reckoning.refused done
    simpa only [claim_erase present, Nat.add_assoc] using kept

theorem mem_to_list (set : HandleSet) (key : Handle) :
    key ∈ toList set ↔ Catalog.contains set key = true :=
  Catalog.mem_keys set key

theorem to_list_nodup (set : HandleSet) : (toList set).Nodup := Catalog.keys_nodup set

theorem count_to_list (set : HandleSet) (key : Handle) : (toList set).count key = claim set key := by
  unfold claim
  split
  · rename_i present
    exact List.count_eq_one_of_mem (to_list_nodup set) ((mem_to_list set key).2 present)
  · rename_i absent
    exact List.count_eq_zero_of_not_mem fun member => absent ((mem_to_list set key).1 member)

theorem clear_keeps (reckoning : Repository.Reckoning keeps)
    (kept : keeps repository fun key => others key + set.claim key) :
    keeps (set.clear repository) others := by
  have along : ∀ (handles : List Handle) (current : Repository),
      (keeps current fun key => others key + handles.count key) →
        keeps (current.tryEach (·.dropReference ·) handles) others := by
    intro handles
    induction handles with
    | nil =>
        intro current kept
        simpa [Repository.tryEach] using kept
    | cons handle rest induction =>
        intro current kept
        apply induction
        have first : keeps current fun key => others key + rest.count key + single handle key := by
          refine cast (congrArg (keeps current) (funext fun key => ?_)) kept
          rw [List.count_cons, single, beq_eq_decide]
          by_cases same : key = handle
          · simp [same, Nat.add_assoc]
          · simp [same, Ne.symm same]
        change keeps (current.orUnchanged (current.dropReference handle)) _
        cases done : current.dropReference handle with
        | ok next => exact reckoning.returned done first
        | error failure => exact reckoning.refused done first
  apply along
  simpa only [count_to_list] using kept

end HandleSet

end ConnectionManager
