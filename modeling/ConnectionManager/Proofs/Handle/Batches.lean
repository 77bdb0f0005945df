import ConnectionManager.Proofs.Handle.Shares

/-!
Batches are done completely or not at all. What a batch does in turn is what the single operations
give or take; where interning fails on the way, dropping the references that were taken leads back
to the repository of the beginning, its free numbers and its cursor included.
-/

namespace ConnectionManager.Repository

variable {repository before after : Repository} {handle : Handle} {client : String}

/-- A batch that failed left the repository as it was; one that succeeded did what it should. -/
def Batch.Atomic {α : Type} (batch : Batch α) (before : Repository)
    (done : α → Repository → Prop) : Prop :=
  match batch.outcome with
  | .error _ => batch.repository = before
  | .ok value => done value batch.repository

/-- A handle that was valid is valid as long as someone has a share in it, and stands for what it
stood for. -/
structure Lasting (before after : Repository) : Prop where
  valid_iff : ∀ handle, before.isValid handle = true →
    (after.isValid handle = true ↔ ∃ keeper, 0 < after.share handle keeper)
  inspect_eq : ∀ handle, before.isValid handle = true → after.isValid handle = true →
    after.inspect handle = before.inspect handle

theorem Extends.valid {lower upper : Repository} {more : Handle → Keeper → Nat}
    (extended : lower.Extends upper more) (lowAccountable : lower.Accountable)
    (accountable : upper.Accountable) (valid : lower.isValid handle = true) :
    upper.isValid handle = true := by
  obtain ⟨id, named⟩ := inspect_of_valid valid
  have still := extended.names handle id named
  cases extended.alike with
  | dynamic _ _ => exact DynamicRepository.valid_of_inspect still
  | @fixed lower upper alike =>
      change lower.isValid handle = true at valid
      change upper.isValid handle = true
      rw [← valid, FixedRepository.isValid, FixedRepository.isValid, alike.names, alike.invalid]

theorem Extends.lasting {lower upper : Repository} {more : Handle → Keeper → Nat}
    (extended : lower.Extends upper more) (lowAccountable : lower.Accountable)
    (accountable : upper.Accountable) : lower.Lasting upper ∧ upper.Lasting lower := by
  have named : ∀ handle, lower.isValid handle = true →
      upper.inspect handle = lower.inspect handle := by
    intro handle valid
    obtain ⟨id, stood⟩ := inspect_of_valid valid
    rw [stood, extended.names handle id stood]
  refine ⟨⟨?_, ?_⟩, ⟨?_, ?_⟩⟩
  · intro handle valid
    exact accountable.valid_iff extended.alike valid
  · intro handle valid _
    exact named handle valid
  · intro handle valid
    exact lowAccountable.valid_iff extended.alike.symm valid
  · intro handle _ valid
    exact (named handle valid).symm

/-- What is left of a larger repository when a part of the excess is taken back. -/
theorem Extends.subtract {lower upper again : Repository} {kept taken both : Handle → Keeper → Nat}
    (given : lower.Extends upper both) (back : again.Extends upper taken)
    (lowAccountable : lower.Accountable) (accountable : again.Accountable)
    (sum : ∀ handle keeper, both handle keeper = kept handle keeper + taken handle keeper) :
    lower.Extends again kept := by
  have alike := given.alike.trans back.alike.symm
  have shares : ∀ handle keeper,
      again.share handle keeper = lower.share handle keeper + kept handle keeper := by
    intro handle keeper
    have low := given.shares handle keeper
    have high := back.shares handle keeper
    have parts := sum handle keeper
    omega
  refine ⟨alike, shares, ?_⟩
  intro handle id named
  cases alike with
  | @dynamic lower again _ _ =>
      have settled : lower.Settled := lowAccountable
      have againSettled : again.Settled := accountable
      obtain ⟨keeper, positive⟩ := settled.valid_iff.1 (DynamicRepository.valid_of_inspect named)
      have still : again.isValid handle = true := by
        refine againSettled.valid_iff.2 ⟨keeper, ?_⟩
        rw [← dynamic_share, shares, dynamic_share]
        omega
      obtain ⟨other, stands⟩ := DynamicRepository.inspect_of_valid still
      have above := back.names handle other stands
      rw [given.names handle id named] at above
      rw [Except.ok.inj above]
      exact stands
  | @fixed lower again alike => exact (alike.inspect_eq handle).trans named

theorem Accountable.hold_list (accountable : repository.Accountable) (handles : List Handle)
    (valid : ∀ handle ∈ handles, repository.isValid handle = true) (held : List Handle) :
    ∃ next, repository.inTurn (·.hold · client) handles = ⟨.ok (), next⟩ ∧
      repository.holdFrom client held handles = ⟨.ok (), next⟩ ∧ next.Accountable ∧
      repository.Extends next (occurrences handles (.client client)) := by
  induction handles generalizing repository held with
  | nil => exact ⟨repository, rfl, rfl, accountable, accountable.extends_self (occurrences_nil _)⟩
  | cons handle rest induction =>
      obtain ⟨next, done, nextAccountable, first⟩ :=
        accountable.hold (valid handle List.mem_cons_self) client
      have still : ∀ other ∈ rest, next.isValid other = true := fun other later =>
        first.valid accountable nextAccountable (valid other (List.mem_cons_of_mem _ later))
      obtain ⟨last, kept, holding, lastAccountable, others⟩ :=
        induction nextAccountable still (held ++ [handle])
      refine ⟨last, ?_, ?_, lastAccountable, first.trans others (occurrences_cons handle rest _)⟩
      · rw [inTurn, done]
        exact kept
      · rw [holdFrom, done]
        exact holding

theorem Accountable.release_list (accountable : repository.Accountable) (handles : List Handle)
    (valid : ∀ handle ∈ handles, repository.isValid handle = true)
    (held : ∀ handle, handles.count handle ≤ repository.share handle (.client client)) :
    ∃ next, repository.inTurn (·.release · client) handles = ⟨.ok (), next⟩ ∧ next.Accountable ∧
      next.Extends repository (occurrences handles (.client client)) := by
  induction handles generalizing repository with
  | nil => exact ⟨repository, rfl, accountable, accountable.extends_self (occurrences_nil _)⟩
  | cons handle rest induction =>
      have some := held handle
      rw [List.count_cons_self] at some
      obtain ⟨next, done, nextAccountable, first⟩ :=
        accountable.release (valid handle List.mem_cons_self)
          (Nat.lt_of_lt_of_le (Nat.succ_pos _) some)
      have left : ∀ other, rest.count other ≤ next.share other (.client client) := by
        intro other
        have before := held other
        have change := first.shares other (.client client)
        rw [occurrences, if_pos rfl] at change
        rw [← List.singleton_append, List.count_append] at before
        omega
      have still : ∀ other ∈ rest, next.isValid other = true := by
        intro other later
        have positive := List.count_pos_iff.2 later
        have share := left other
        exact (nextAccountable.valid_iff first.alike.symm
          (valid other (List.mem_cons_of_mem _ later))).2 ⟨.client client, by omega⟩
      obtain ⟨last, released, lastAccountable, others⟩ := induction nextAccountable still left
      refine ⟨last, ?_, lastAccountable, others.trans first ?_⟩
      · rw [inTurn, done]
        exact released
      · intro other keeper
        rw [occurrences_cons, Nat.add_comm]

/-! Interning and dropping, in a repository that counts references. -/

theorem settled_drop_list {repository : DynamicRepository} (settled : repository.Settled)
    (handles : List Handle)
    (referenced : ∀ handle, handles.count handle ≤ repository.share handle .service) :
    ∃ next, (Repository.dynamic repository).inTurn (·.dropReference ·) handles
        = ⟨.ok (), .dynamic next⟩ ∧
      (Repository.dynamic repository).tryEach (·.dropReference ·) handles = .dynamic next ∧
      next.Settled ∧
      Extends (.dynamic next) (.dynamic repository) (occurrences handles .service) := by
  induction handles generalizing repository with
  | nil =>
      have accountable : (Repository.dynamic repository).Accountable := settled
      exact ⟨repository, rfl, rfl, settled, accountable.extends_self (occurrences_nil _)⟩
  | cons handle rest induction =>
      have some := referenced handle
      rw [List.count_cons_self] at some
      obtain ⟨next, done, nextSettled, first⟩ :=
        settled_drop settled (Nat.lt_of_lt_of_le (Nat.succ_pos _) some)
      have dropped : (Repository.dynamic repository).dropReference handle = .ok (.dynamic next) := by
        rw [dropReference, done]
        rfl
      have left : ∀ other, rest.count other ≤ next.share other .service := by
        intro other
        have before := referenced other
        have change := first.table_shares other .service
        rw [occurrences, if_pos rfl] at change
        rw [← List.singleton_append, List.count_append] at before
        omega
      obtain ⟨last, through, each, lastSettled, others⟩ := induction nextSettled left
      refine ⟨last, ?_, ?_, lastSettled, others.trans first ?_⟩
      · rw [inTurn, dropped]
        exact through
      · rw [tryEach, List.foldl_cons, dropped]
        exact each
      · intro other keeper
        rw [occurrences_cons, Nat.add_comm]

/-- Interning that fails on the way is undone: the references dropped are those taken since `base`. -/
theorem settled_intern_from {base repository : DynamicRepository} (baseSettled : base.Settled)
    (settled : repository.Settled) (interned : List Handle)
    (taken : Extends (.dynamic base) (.dynamic repository) (occurrences interned .service))
    (ids : List String) :
    ((Repository.dynamic repository).internFrom interned ids).Atomic (.dynamic base)
      fun handles after => ∃ upper, after = .dynamic upper ∧ upper.Settled ∧
        Extends (.dynamic base) (.dynamic upper) (occurrences handles .service) := by
  induction ids generalizing repository interned with
  | nil => exact ⟨repository, rfl, settled, taken⟩
  | cons id rest induction =>
      cases done : repository.intern id with
      | ok result =>
          obtain ⟨handle, next⟩ := result
          have given : (Repository.dynamic repository).intern id = .ok (handle, .dynamic next) := by
            rw [intern, done]
            rfl
          obtain ⟨nextSettled, more⟩ := settled_intern settled done
          rw [internFrom, given]
          exact induction nextSettled (interned ++ [handle])
            (taken.trans more (occurrences_append interned [handle] _))
      | error failure =>
          have refused : (Repository.dynamic repository).intern id = .error failure := by
            rw [intern, done]
            rfl
          have referenced : ∀ handle, interned.count handle ≤ repository.share handle .service := by
            intro handle
            have counts := taken.table_shares handle .service
            rw [occurrences, if_pos rfl] at counts
            omega
          obtain ⟨again, _, dropped, againSettled, back⟩ :=
            settled_drop_list settled interned referenced
          rw [internFrom, refused]
          change (Repository.dynamic repository).tryEach (·.dropReference ·) interned = .dynamic base
          rw [dropped, taken.cancel back baseSettled againSettled]

/-! The batches. -/

theorem settled_request_all {repository : DynamicRepository} (settled : repository.Settled)
    (client : String) (ids : List String) :
    ((Repository.dynamic repository).requestAll client ids).Atomic (.dynamic repository)
      fun handles next => next.Accountable ∧
        (Repository.dynamic repository).Extends next (occurrences handles (.client client)) := by
  have accountable : (Repository.dynamic repository).Accountable := settled
  have interning := settled_intern_from settled settled []
    (accountable.extends_self (occurrences_nil _)) ids
  unfold requestAll
  cases result : (Repository.dynamic repository).internFrom [] ids with
  | mk outcome interned =>
  rw [result] at interning
  cases outcome with
  | error failure => exact interning
  | ok handles =>
      obtain ⟨upper, rfl, upperSettled, taken⟩ := interning
      have upperAccountable : (Repository.dynamic upper).Accountable := upperSettled
      have referenced : ∀ handle, handles.count handle ≤ upper.share handle .service := by
        intro handle
        have counts := taken.table_shares handle .service
        rw [occurrences, if_pos rfl] at counts
        omega
      have valid : ∀ handle ∈ handles, upper.isValid handle = true := by
        intro handle listed
        have positive := List.count_pos_iff.2 listed
        exact upperSettled.valid_iff.2 ⟨.service, Nat.lt_of_lt_of_le positive (referenced handle)⟩
      obtain ⟨held, kept, _, heldAccountable, more⟩ :=
        upperAccountable.hold_list handles valid []
      cases more.alike with
      | @dynamic _ held _ _ =>
      have heldReferenced : ∀ handle, handles.count handle ≤ held.share handle .service := by
        intro handle
        have counts := more.table_shares handle .service
        have before := referenced handle
        omega
      obtain ⟨next, dropped, _, nextSettled, back⟩ :=
        settled_drop_list heldAccountable handles heldReferenced
      have nextAccountable : (Repository.dynamic next).Accountable := nextSettled
      have both : (Repository.dynamic repository).Extends (.dynamic held) fun handle keeper =>
          occurrences handles (.client client) handle keeper
            + occurrences handles .service handle keeper :=
        taken.trans more fun _ _ => Nat.add_comm _ _
      dsimp only
      rw [kept]
      dsimp only
      rw [dropped]
      exact ⟨nextAccountable, both.subtract back accountable nextAccountable fun _ _ => rfl⟩

/-- The names of a fixed repository are not counted when they are interned. -/
theorem fixed_intern_from (repository : FixedRepository) (interned : List Handle)
    (valid : ∀ handle ∈ interned, repository.isValid handle = true) (ids : List String) :
    ((Repository.fixed repository).internFrom interned ids).Atomic (.fixed repository)
      fun handles after => after = .fixed repository ∧
        ∀ handle ∈ handles, repository.isValid handle = true := by
  have unchanged : ∀ handles,
      (Repository.fixed repository).tryEach (·.dropReference ·) handles = .fixed repository := by
    intro handles
    induction handles with
    | nil => rfl
    | cons handle rest induction =>
        rw [tryEach, List.foldl_cons, dropReference]
        cases repository.check handle <;> exact induction
  induction ids generalizing interned with
  | nil => exact ⟨rfl, valid⟩
  | cons id rest induction =>
      cases done : repository.intern id with
      | error failure =>
          have refused : (Repository.fixed repository).intern id = .error failure := by
            rw [intern, done]
            rfl
          rw [internFrom, refused]
          exact unchanged interned
      | ok handle =>
          have given : (Repository.fixed repository).intern id = .ok (handle, .fixed repository) := by
            rw [intern, done]
            rfl
          rw [internFrom, given]
          apply induction
          intro other listed
          rcases List.mem_append.1 listed with earlier | fresh
          · exact valid other earlier
          · rw [List.mem_singleton.1 fresh]
            exact FixedRepository.intern_valid done

theorem fixed_drop_from (repository : FixedRepository) (handles : List Handle)
    (valid : ∀ handle ∈ handles, repository.isValid handle = true) :
    (Repository.fixed repository).inTurn (·.dropReference ·) handles = ⟨.ok (), .fixed repository⟩ := by
  induction handles with
  | nil => rfl
  | cons handle rest induction =>
      have dropped : (Repository.fixed repository).dropReference handle = .ok (.fixed repository) := by
        rw [dropReference, FixedRepository.check_eq_ok.2 (valid handle List.mem_cons_self)]
        rfl
      rw [inTurn, dropped]
      exact induction fun other later => valid other (List.mem_cons_of_mem _ later)

theorem fixed_request_all (repository : FixedRepository) (client : String) (ids : List String) :
    ((Repository.fixed repository).requestAll client ids).Atomic (.fixed repository)
      fun handles next => next.Accountable ∧
        (Repository.fixed repository).Extends next (occurrences handles (.client client)) := by
  have accountable : (Repository.fixed repository).Accountable := trivial
  have interning := fixed_intern_from repository [] (fun _ none => absurd none List.not_mem_nil) ids
  unfold requestAll
  cases result : (Repository.fixed repository).internFrom [] ids with
  | mk outcome interned =>
  rw [result] at interning
  cases outcome with
  | error failure => exact interning
  | ok handles =>
      obtain ⟨rfl, valid⟩ := interning
      obtain ⟨held, kept, _, heldAccountable, more⟩ := accountable.hold_list handles valid []
      have still : ∀ handle ∈ handles, held.isValid handle = true := fun handle listed =>
        more.valid accountable heldAccountable (valid handle listed)
      cases more.alike with
      | @fixed _ held _ =>
      dsimp only
      rw [kept]
      dsimp only
      rw [fixed_drop_from held handles still]
      exact ⟨heldAccountable, more⟩

theorem Accountable.request_all (accountable : repository.Accountable) (client : String)
    (ids : List String) :
    (repository.requestAll client ids).Atomic repository fun handles next =>
      next.Accountable ∧ repository.Extends next (occurrences handles (.client client)) := by
  cases repository with
  | dynamic repository => exact settled_request_all accountable client ids
  | fixed repository => exact fixed_request_all repository client ids
  | guarded repository refused => exact accountable.elim

theorem valid_of_validate {handles : List Handle} (checked : repository.validate false handles = .ok ()) :
    ∀ handle ∈ handles, repository.isValid handle = true := by
  induction handles with
  | nil =>
      intro handle listed
      cases listed
  | cons first rest induction =>
      rw [validate, Bool.false_and, Bool.false_or] at checked
      split at checked
      · rename_i valid
        intro handle listed
        rcases List.mem_cons.1 listed with rfl | later
        · exact valid
        · exact induction checked handle later
      · cases checked

theorem Accountable.hold_all (accountable : repository.Accountable) (client : String)
    (handles : List Handle) :
    (repository.holdAll client handles).Atomic repository fun _ next =>
      next.Accountable ∧ repository.Extends next (occurrences handles (.client client)) := by
  unfold holdAll
  split
  · rfl
  · rename_i checked
    obtain ⟨next, _, held, nextAccountable, more⟩ :=
      accountable.hold_list handles (valid_of_validate checked) []
    rw [held]
    exact ⟨nextAccountable, more⟩

theorem Accountable.release_all (accountable : repository.Accountable) (kind : HandleKind)
    (client : String) (handles : List Handle) :
    (repository.releaseAll kind client handles).Atomic repository fun _ next =>
      next.Accountable ∧ next.Extends repository (occurrences handles (.client client)) := by
  unfold releaseAll
  split
  · rfl
  · rename_i checked
    split
    · rfl
    · rename_i covered
      have held : ∀ handle, handles.count handle ≤ repository.share handle (.client client) := by
        intro handle
        by_cases listed : handle ∈ handles
        · have enough := List.find?_eq_none.1 covered handle listed
          simpa [share] using enough
        · rw [List.count_eq_zero.2 listed]
          exact Nat.zero_le _
      obtain ⟨next, released, nextAccountable, less⟩ :=
        accountable.release_list handles (valid_of_validate checked) held
      rw [released]
      exact ⟨nextAccountable, less⟩

/-- A repository of arbitrary or of fixed names, with nothing in the way of holding its handles. -/
def Plain : Repository → Prop
  | .dynamic _ | .fixed _ => True
  | .guarded _ _ => False

/-- A repository after its end does nothing, and a batch of nothing succeeds. -/
def Ended (repository : Repository) : Prop :=
  ∃ inner : DynamicRepository, repository = .dynamic inner ∧ inner.invalid = true

theorem Sound.accountable (sound : repository.Sound) (plain : repository.Plain) :
    repository.Accountable ∨ repository.Ended := by
  cases repository with
  | dynamic repository =>
      rcases sound with invalid | settled
      · exact .inr ⟨repository, rfl, invalid⟩
      · exact .inl settled
  | fixed repository => exact .inl trivial
  | guarded repository refused => exact plain.elim

theorem Ended.dead (ended : repository.Ended) (handle : Handle) :
    repository.isValid handle = false := by
  obtain ⟨inner, rfl, invalid⟩ := ended
  change inner.isValid handle = false
  rw [DynamicRepository.isValid, invalid]
  rfl

theorem Ended.validate (ended : repository.Ended) {handles : List Handle}
    (checked : repository.validate false handles = .ok ()) : handles = [] := by
  cases handles with
  | nil => rfl
  | cons handle rest =>
      have valid := valid_of_validate checked handle List.mem_cons_self
      rw [ended.dead] at valid
      cases valid

theorem Ended.lasting (ended : repository.Ended) : repository.Lasting repository where
  valid_iff handle valid := by
    rw [ended.dead] at valid
    cases valid
  inspect_eq _ _ _ := rfl

theorem Ended.untouched (ended : repository.Ended) (owner : Keeper) :
    repository.Lasting repository ∧ ∀ handle keeper, repository.share handle keeper
      = repository.share handle keeper + occurrences [] owner handle keeper :=
  ⟨ended.lasting, fun handle keeper => by rw [occurrences_nil, Nat.add_zero]⟩

theorem Batch.Atomic.mono {α : Type} {batch : Batch α} {first second : α → Repository → Prop}
    (atomic : batch.Atomic before first) (weaker : ∀ value next, first value next → second value next) :
    batch.Atomic before second := by
  obtain ⟨outcome, next⟩ := batch
  cases outcome with
  | error failure => exact atomic
  | ok value => exact weaker value next atomic

theorem Sound.hold_all (sound : repository.Sound) (plain : repository.Plain) (client : String)
    (handles : List Handle) :
    (repository.holdAll client handles).Atomic repository fun _ next =>
      repository.Lasting next ∧ ∀ handle keeper, next.share handle keeper
        = repository.share handle keeper + occurrences handles (.client client) handle keeper := by
  rcases sound.accountable plain with accountable | ended
  · apply (accountable.hold_all client handles).mono
    rintro _ next ⟨nextAccountable, more⟩
    exact ⟨(more.lasting accountable nextAccountable).1, more.shares⟩
  · unfold holdAll
    split
    · rfl
    · rename_i checked
      rw [ended.validate checked]
      exact ended.untouched (.client client)

theorem Sound.release_all (sound : repository.Sound) (plain : repository.Plain) (kind : HandleKind)
    (client : String) (handles : List Handle) :
    (repository.releaseAll kind client handles).Atomic repository fun _ next =>
      repository.Lasting next ∧ ∀ handle keeper, repository.share handle keeper
        = next.share handle keeper + occurrences handles (.client client) handle keeper := by
  rcases sound.accountable plain with accountable | ended
  · apply (accountable.release_all kind client handles).mono
    rintro _ next ⟨nextAccountable, less⟩
    exact ⟨(less.lasting nextAccountable accountable).2, less.shares⟩
  · unfold releaseAll
    split
    · rfl
    · rename_i checked
      rw [ended.validate checked]
      exact ended.untouched (.client client)

/-- A client's shares after requesting handles: one more for every occurrence of a handle that was
returned. Nobody else has more shares than before. -/
theorem Sound.request_all (sound : repository.Sound) (plain : repository.Plain) (client : String)
    (ids : List String) :
    (repository.requestAll client ids).Atomic repository fun handles next =>
      repository.Lasting next ∧ ∀ handle keeper, next.share handle keeper
        = repository.share handle keeper + occurrences handles (.client client) handle keeper := by
  rcases sound.accountable plain with accountable | ended
  · apply (accountable.request_all client ids).mono
    rintro handles next ⟨nextAccountable, more⟩
    exact ⟨(more.lasting accountable nextAccountable).1, more.shares⟩
  · cases ids with
    | nil => exact ended.untouched (.client client)
    | cons id rest =>
        obtain ⟨inner, rfl, invalid⟩ := ended
        have refused : (Repository.dynamic inner).intern id
            = .error (HandleFailure.unusable inner.kind) := by
          rw [intern, DynamicRepository.intern, if_pos invalid]
          rfl
        have stopped : (Repository.dynamic inner).internFrom [] (id :: rest)
            = ⟨.error (HandleFailure.unusable inner.kind), .dynamic inner⟩ := by
          rw [internFrom, refused]
          rfl
        rw [requestAll, stopped]
        rfl

end ConnectionManager.Repository
