import ConnectionManager.Proofs.Handle.Claims

/-!
References counted one by one. Where a repository covers claims it has enough references; here it has
those that are claimed and no others, and clients have the holds that they were given. The account
stays exact as long as nobody drops what others claim.
-/

namespace ConnectionManager

/-- The shares that come of the references claimed and of the holds of clients. -/
def sharesOf (claims : Handle → Nat) (held : Handle → String → Nat) (key : Handle) : Keeper → Nat
  | .service => claims key
  | .client name => held key name

theorem shares_of_more (claims : Handle → Nat) (held : Handle → String → Nat) (handle key : Handle)
    (keeper : Keeper) : sharesOf (fun key => claims key + single handle key) held key keeper
      = sharesOf claims held key keeper + occurrences [handle] .service key keeper := by
  cases keeper with
  | service => rw [occurrences_service]; rfl
  | client name => simp [sharesOf, occurrences_single]

namespace DynamicRepository

variable {lax : Prop} {repository next : DynamicRepository} {claims : Handle → Nat}
  {held : Handle → String → Nat} {handle : Handle}

/-- Every share is a reference that is claimed or a hold of a client. A lax account passes over a
repository that has ended. -/
def Counts (lax : Prop) (held : Handle → String → Nat) (repository : DynamicRepository)
    (claims : Handle → Nat) : Prop :=
  (lax ∧ repository.invalid = true) ∨ (repository.Settled ∧
    ∀ key keeper, repository.share key keeper = sharesOf claims held key keeper)

theorem Counts.exact (counts : repository.Counts lax held claims)
    (usable : repository.invalid = false) : repository.Settled ∧
      ∀ key keeper, repository.share key keeper = sharesOf claims held key keeper := by
  rcases counts with ⟨_, invalid⟩ | exact
  · rw [invalid] at usable
    cases usable
  · exact exact

theorem Counts.strict (counts : repository.Counts lax held claims)
    (usable : repository.invalid = false) : repository.Counts False held claims :=
  .inr (counts.exact usable)

theorem Counts.more (counts : repository.Counts lax held claims) (usable : repository.invalid = false)
    (given : repository.Settled → next.Settled ∧ ∀ key keeper, next.share key keeper
      = repository.share key keeper + occurrences [handle] .service key keeper) :
    next.Counts lax held fun key => claims key + single handle key := by
  obtain ⟨settled, exact⟩ := counts.exact usable
  obtain ⟨afterwards, shares⟩ := given settled
  refine .inr ⟨afterwards, fun key keeper => ?_⟩
  rw [shares, exact, shares_of_more]

theorem Counts.reference (counts : repository.Counts lax held claims)
    (done : repository.addReference handle = .ok next) :
    next.Counts lax held fun key => claims key + single handle key := by
  obtain ⟨entry, present⟩ := is_valid_iff.1 (valid_of_reference done).1
  exact counts.more (entry_eq_ok.1 present).1 fun settled => reference_shares settled done

theorem Counts.intern {id : String} (counts : repository.Counts lax held claims)
    (done : repository.intern id = .ok (handle, next)) :
    next.Counts lax held fun key => claims key + single handle key :=
  counts.more (intern_eq_ok done).1 fun settled => intern_shares settled done

theorem Counts.drop (counts : repository.Counts lax held fun key => claims key + single handle key)
    (done : repository.dropReference handle = .ok next) : next.Counts lax held claims := by
  obtain ⟨settled, exact⟩ := counts.exact (usable_of_drop done)
  obtain ⟨afterwards, shares⟩ := drop_shares settled done
  refine .inr ⟨afterwards, fun key keeper => ?_⟩
  have before := exact key keeper
  rw [shares, shares_of_more] at before
  exact Nat.add_right_cancel before

/-- A reference that is counted is given back, unless the repository has ended. -/
theorem Counts.drop_refused {failure : Failure}
    (counts : repository.Counts lax held fun key => claims key + single handle key)
    (refused : repository.dropReference handle = .error failure) :
    repository.Counts lax held claims := by
  rcases counts with ended | ⟨settled, exact⟩
  · exact .inl ended
  · have referenced : 0 < repository.share handle .service := by
      rw [exact]
      simp [sharesOf, single]
    obtain ⟨next, done, _⟩ := Repository.settled_drop settled referenced
    rw [refused] at done
    cases done

theorem Counts.keep (counts : repository.Counts lax held claims) (operation : Operation)
    (same : repository.Settled →
      ∀ key, (repository.perform operation).share key .service = repository.share key .service) :
    ∃ held, (repository.perform operation).Counts lax held claims := by
  rcases counts with ⟨excused, invalid⟩ | ⟨settled, exact⟩
  · rw [perform_invalid invalid]
    exact ⟨held, .inl ⟨excused, invalid⟩⟩
  · refine ⟨fun key client => (repository.perform operation).share key (.client client),
      .inr ⟨settled.perform operation, fun key keeper => ?_⟩⟩
    cases keeper with
    | service => exact (same settled key).trans (exact key .service)
    | client name => rfl

end DynamicRepository

namespace Repository

variable {lax : Prop} {repository next : Repository} {claims : Handle → Nat}
  {held : Handle → String → Nat} {handle : Handle}

/-- Every share is a reference that is claimed or a hold of a client. A lax account passes over a
repository that has ended and over a list of names, which counts nothing. -/
def Counts (lax : Prop) (held : Handle → String → Nat) (repository : Repository)
    (claims : Handle → Nat) : Prop :=
  match repository with
  | .dynamic repository | .guarded repository _ => repository.Counts lax held claims
  | .fixed _ => lax

def table : Repository → Option DynamicRepository
  | .dynamic repository | .guarded repository _ => some repository
  | .fixed _ => none

theorem counts_table {table : DynamicRepository} (tabled : repository.table = some table) :
    repository.Counts lax held claims ↔ table.Counts lax held claims := by
  cases repository <;> cases tabled <;> exact Iff.rfl

theorem Counts.table (counts : repository.Counts False held claims) :
    ∃ table, repository.table = some table ∧ table.Settled ∧
      ∀ key keeper, table.share key keeper = sharesOf claims held key keeper := by
  cases repository with
  | dynamic repository => exact ⟨repository, rfl, counts.resolve_left And.left⟩
  | guarded repository refused => exact ⟨repository, rfl, counts.resolve_left And.left⟩
  | fixed repository => exact counts.elim

theorem counts_reckoning (lax : Prop) (held : Handle → String → Nat) :
    Reckoning (Counts lax held) where
  taken := by
    intro repository next handle claims done counts
    cases reference_by_form done with
    | dynamic outcome => exact DynamicRepository.Counts.reference counts outcome
    | guarded refused outcome => exact DynamicRepository.Counts.reference counts outcome
    | fixed outcome =>
        obtain ⟨rfl, _⟩ := outcome
        exact counts
  interned := by
    intro repository next id handle claims done counts
    cases intern_by_form done with
    | dynamic outcome => exact DynamicRepository.Counts.intern counts outcome
    | guarded refused outcome => exact DynamicRepository.Counts.intern counts outcome
    | fixed outcome =>
        obtain ⟨rfl, _⟩ := outcome
        exact counts
  returned := by
    intro repository next handle claims done counts
    cases drop_by_form done with
    | dynamic outcome => exact DynamicRepository.Counts.drop counts outcome
    | guarded refused outcome => exact DynamicRepository.Counts.drop counts outcome
    | fixed outcome =>
        obtain ⟨rfl, _⟩ := outcome
        exact counts
  refused := by
    intro repository handle claims failure refused counts
    cases repository with
    | dynamic repository =>
        exact DynamicRepository.Counts.drop_refused counts (Outcome.map_eq_error.1 refused)
    | guarded repository _ =>
        exact DynamicRepository.Counts.drop_refused counts (Outcome.map_eq_error.1 refused)
    | fixed repository => exact counts

theorem Spares.counts {spared : Keeper → Prop} (spares : repository.Spares spared next)
    (referenced : spared .service) (counts : repository.Counts lax held claims) :
    ∃ held, next.Counts lax held claims := by
  have inner : ∀ {repository next : DynamicRepository}, repository.Spares spared next →
      repository.Counts lax held claims → ∃ held, next.Counts lax held claims := by
    rintro repository _ ⟨operation, rfl, same⟩ counts
    exact counts.keep operation fun settled key => same settled key _ referenced
  cases spares with
  | dynamic done => exact inner done counts
  | guarded refused done => exact inner done counts
  | fixed done => exact ⟨held, counts⟩

theorem invalidate_counts (repository : Repository) (held : Handle → String → Nat)
    (claims : Handle → Nat) : repository.invalidate.Counts True held claims := by
  cases repository with
  | dynamic repository => exact .inl ⟨trivial, rfl⟩
  | guarded repository refused => exact .inl ⟨trivial, rfl⟩
  | fixed repository => trivial

/-- Orderly code leaves an exact account exact. -/
theorem Dealing.counts {orderly : Prop} {own owned left : Handle → Nat}
    (dealing : Dealing orderly owned repository left next) (sound : orderly)
    (counts : repository.Counts True held fun key => own key + owned key) :
    ∃ held, next.Counts True held fun key => own key + left key := by
  cases dealing with
  | idle => exact ⟨held, counts⟩
  | interned done =>
      exact ⟨held, by simpa only [Nat.add_assoc] using (counts_reckoning True held).interned done counts⟩
  | referenced done =>
      exact ⟨held, by simpa only [Nat.add_assoc] using (counts_reckoning True held).taken done counts⟩
  | @dropped _ handle took done =>
      refine ⟨held, (counts_reckoning True held).returned done ?_⟩
      refine cast (congrArg (repository.Counts True held) (funext fun key => ?_)) counts
      have positive := took sound
      simp only [single]
      split
      · rename_i same
        rw [same]
        omega
      · rfl
  | held done => exact (hold_spares done).counts (service_apart _) counts
  | released done => exact (release_spares done).counts (service_apart _) counts
  | vanished client => exact (repository.vanished_spares _).counts (service_apart _) counts
  | ended => exact ⟨held, invalidate_counts repository held _⟩

end Repository

end ConnectionManager
