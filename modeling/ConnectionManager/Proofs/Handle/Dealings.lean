import ConnectionManager.Proofs.Handle.Claims

/-!
Orderly code at work for a while. It takes references and gives back only those that it took, so a
reference that someone else keeps stays, and with it the handle and what the handle stands for
(`Secured`). Neither do batches of clients take such a reference away, nor clients that leave.
-/

namespace ConnectionManager

namespace DynamicRepository

variable {repository next : DynamicRepository} {handle : Handle} {id : String}

theorem intern_inspect (settled : repository.Settled)
    (done : repository.intern id = .ok (handle, next)) :
    ∃ normal, repository.normalize id = .ok normal ∧ next.inspect handle = .ok normal ∧
      next.normalize = repository.normalize := by
  have usable := (settled.intern done).usable
  have performed := perform_intern done
  obtain ⟨_, normal, normalized, interned⟩ := intern_eq_ok done
  have stored : ∃ entry, next.entries.find? handle = some entry ∧ entry.id = normal := by
    rcases interned with ⟨entry, known, found, same⟩ | ⟨_, allocated, _, same⟩
    · obtain ⟨other, again, named⟩ := settled.named normal handle known
      rw [found] at again
      cases again
      rw [same]
      refine ⟨{ entry with references := entry.references + 1 }, ?_, named⟩
      rw [find_set_entry, if_pos rfl]
    · rw [same]
      exact ⟨_, by rw [Catalog.find_insert, if_pos rfl], rfl⟩
  exact ⟨normal, normalized, inspect_eq_ok.2 ⟨usable, stored⟩,
    performed ▸ (repository.perform_identity (.intern id)).2⟩

theorem Settled.valid_nonzero (settled : repository.Settled)
    (valid : repository.isValid handle = true) : handle ≠ Handle.none := by
  have live := (Bool.and_eq_true_iff.1 valid).2
  have bounds := settled.numbered.live_below live
  exact Nat.ne_of_gt bounds.1

end DynamicRepository

namespace Repository

variable {repository next : Repository} {handle : Handle} {id : String}
  {normalize : String → Outcome String} {own owned left claims : Handle → Nat}

/-- Orderly dealings, one after the other, none of which ends the repository. -/
inductive Dealings : (Handle → Nat) → Repository → (Handle → Nat) → Repository → Prop
  | refl (owned : Handle → Nat) (repository : Repository) :
      Dealings owned repository owned repository
  | next {owned left last : Handle → Nat} {repository middle after : Repository}
      (dealings : Dealings owned repository left middle)
      (dealing : Dealing True left middle last after)
      (usable : after.isUsable = middle.isUsable) : Dealings owned repository last after

/-- What a dealing amounts to that does not end the repository. -/
theorem Dealing.step {orderly : Prop} (dealing : Dealing orderly owned repository left next)
    (usable : next.isUsable = repository.isUsable) :
    next = repository ∨ repository.Step next ∨
      (repository.isUsable = false ∧ next = repository.invalidate) := by
  cases dealing with
  | idle => exact .inl rfl
  | interned done => exact .inr (.inl (.interned done))
  | referenced done => exact .inr (.inl (.referenced done))
  | dropped took done => exact .inr (.inl (.dropped done))
  | held done => exact .inr (.inl (.held done))
  | released done => exact .inr (.inl (.released done))
  | vanished client => exact .inr (.inl (.vanished repository _))
  | ended =>
      refine .inr (.inr ⟨?_, rfl⟩)
      rw [← usable]
      cases repository <;> rfl

theorem Step.usable_eq (step : repository.Step next) (sound : repository.Sound) :
    next.isUsable = repository.isUsable := by
  have performed : ∀ {table : DynamicRepository} (operation : DynamicRepository.Operation),
      table.invalid = true ∨ table.Settled → (table.perform operation).invalid = table.invalid := by
    rintro table operation (ended | settled)
    · rw [DynamicRepository.perform_invalid ended]
    · rw [(settled.perform operation).usable, settled.usable]
  cases step.shift with
  | dynamic table operation => exact congrArg (! ·) (performed operation sound)
  | guarded table refused operation => exact congrArg (! ·) (performed operation sound)
  | fixed table next alike => exact congrArg (! ·) alike.invalid

/-- A repository with a table that stores identifiers in a certain form. -/
def Tabled (normalize : String → Outcome String) (repository : Repository) : Prop :=
  ∃ table, repository = .dynamic table ∧ table.normalize = normalize

theorem Step.tabled (step : repository.Step next) (tabled : repository.Tabled normalize) :
    next.Tabled normalize := by
  obtain ⟨table, rfl, same⟩ := tabled
  cases step.shift with
  | dynamic _ operation => exact ⟨_, rfl, (table.perform_identity operation).2.trans same⟩

theorem Steps.sound (steps : repository.Steps next) (sound : repository.Sound) : next.Sound := by
  induction steps with
  | refl => exact sound
  | tail _ step induction => exact step.sound induction

theorem Steps.usable (steps : repository.Steps next) (usable : next.isUsable = true) :
    repository.isUsable = true := by
  induction steps with
  | refl => exact usable
  | tail _ step induction => exact induction (step.usable usable)

theorem Steps.tabled (steps : repository.Steps next) (tabled : repository.Tabled normalize) :
    next.Tabled normalize := by
  induction steps with
  | refl => exact tabled
  | tail _ step induction => exact step.tabled induction

/-- The references that a repository counts cover those that are claimed, and besides them its
`own`; and the handles on which it has its own stand for an identifier. -/
structure Secured (own : Handle → Nat) (id : String) (normalize : String → Outcome String)
    (repository : Repository) (claims : Handle → Nat) : Prop where
  covers : repository.Covers fun key => own key + claims key
  tabled : repository.Tabled normalize
  named : ∀ key, 0 < own key → repository.inspect key = .ok id

theorem Secured.sound (secured : Secured own id normalize repository claims) :
    repository.Sound := by
  obtain ⟨table, rfl, _⟩ := secured.tabled
  exact secured.covers.imp_right And.left

theorem Secured.plain (secured : Secured own id normalize repository claims) :
    repository.Plain := by
  obtain ⟨table, rfl, _⟩ := secured.tabled
  trivial

theorem Secured.valid (secured : Secured own id normalize repository claims) (kept : 0 < own handle) :
    repository.isValid handle = true := by
  have named := secured.named handle kept
  obtain ⟨table, rfl, _⟩ := secured.tabled
  exact DynamicRepository.valid_of_inspect named

theorem Secured.referenced (secured : Secured own id normalize repository claims)
    (kept : 0 < own handle) : 0 < repository.share handle .service := by
  have usable := usable_of_valid (secured.valid kept)
  have covers := secured.covers
  obtain ⟨table, rfl, _⟩ := secured.tabled
  obtain ⟨_, counted⟩ := DynamicRepository.Covers.counted covers (by simpa [isUsable] using usable)
  have enough := counted handle
  rw [dynamic_share]
  omega

/-- What leaves the claims covered, ends nothing and renames nothing. -/
theorem Secured.changed (secured : Secured own id normalize repository claims)
    (covers : next.Covers fun key => own key + left key) (tabled : next.Tabled normalize)
    (usable : repository.isUsable = true → next.isUsable = true)
    (named : ∀ key, repository.inspect key = .ok id → next.isValid key = true →
      next.inspect key = .ok id) : Secured own id normalize next left := by
  refine ⟨covers, tabled, fun key kept => named key (secured.named key kept) ?_⟩
  have claimed : 0 < own key + left key := Nat.add_pos_left kept _
  exact covers.valid (usable (usable_of_valid (secured.valid kept))) claimed

/-- Orderly code leaves alone what is secured against it. -/
theorem Secured.dealing
    (secured : Secured own id normalize repository fun key => claims key + owned key)
    (dealing : Dealing True owned repository left next)
    (usable : next.isUsable = repository.isUsable) :
    Secured own id normalize next fun key => claims key + left key := by
  have covers : next.Covers fun key => own key + (claims key + left key) := by
    have before := secured.covers
    simp only [← Nat.add_assoc] at before ⊢
    exact dealing.covers trivial before
  rcases dealing.step usable with rfl | step | ⟨ended, rfl⟩
  · exact ⟨covers, secured.tabled, secured.named⟩
  · exact secured.changed covers (step.tabled secured.tabled) usable.trans
      fun key named valid => step.keeps secured.sound named valid
  · -- What was over before has no valid handle left to name.
    refine secured.changed covers ?_ usable.trans fun key _ valid => ?_
    · obtain ⟨table, rfl, same⟩ := secured.tabled
      exact ⟨table.invalidate, rfl, same⟩
    · rw [← usable, usable_of_valid valid] at ended
      cases ended

theorem Secured.dealings
    (secured : Secured own id normalize repository fun key => claims key + owned key)
    (dealings : Dealings owned repository left next) :
    Secured own id normalize next fun key => claims key + left key := by
  induction dealings with
  | refl => exact secured
  | next _ dealing usable induction => exact (induction secured).dealing dealing usable

theorem Covers.same_references (covers : repository.Covers claims) (steps : repository.Steps next)
    (tabled : repository.Tabled normalize) (sound : repository.Sound)
    (same : ∀ key, next.share key .service = repository.share key .service) :
    next.Covers claims := by
  have afterwards := steps.sound sound
  have lasting := steps.usable
  obtain ⟨changed, rfl, _⟩ := steps.tabled tabled
  obtain ⟨table, rfl, _⟩ := tabled
  rcases afterwards with ended | settled
  · exact .inl ended
  · have usable : table.invalid = false := by
      simpa [isUsable, settled.usable] using lasting
    obtain ⟨_, counted⟩ := DynamicRepository.Covers.counted covers usable
    refine .inr ⟨settled, fun key => ?_⟩
    have kept := same key
    rw [dynamic_share, dynamic_share] at kept
    rw [kept]
    exact counted key

theorem Secured.batch {α : Type} {batch : Batch α}
    (secured : Secured own id normalize repository claims)
    (steps : repository.Steps batch.repository)
    (atomic : batch.Atomic repository fun _ next => repository.Lasting next ∧
      ∀ handle, next.share handle .service = repository.share handle .service) :
    Secured own id normalize batch.repository claims := by
  obtain ⟨outcome, next⟩ := batch
  cases outcome with
  | error failure =>
      have unchanged : next = repository := atomic
      rw [unchanged]
      exact secured
  | ok value =>
      obtain ⟨lasting, same⟩ : repository.Lasting next ∧
        ∀ handle, next.share handle .service = repository.share handle .service := atomic
      have covers := secured.covers.same_references steps secured.tabled
        secured.sound same
      refine ⟨covers, steps.tabled secured.tabled, fun key kept => ?_⟩
      have before := secured.valid kept
      have claimed : 0 < repository.share key .service := secured.referenced kept
      have after : next.isValid key = true :=
        (lasting.valid_iff key before).2 ⟨.service, by rwa [same]⟩
      rw [lasting.inspect_eq key before after]
      exact secured.named key kept

/-- The reference that is taken with a handle is kept from then on. -/
theorem secured_intern {selfId : String} (covers : repository.Covers claims)
    (tabled : repository.Tabled normalize) (done : repository.intern selfId = .ok (handle, next)) :
    ∃ normal, normalize selfId = .ok normal ∧ handle ≠ Handle.none ∧
      Secured (single handle) normal normalize next claims := by
  obtain ⟨table, rfl, same⟩ := tabled
  obtain ⟨⟨_, changed⟩, outcome, moved⟩ := Outcome.map_eq_ok.1 done
  cases moved
  have usable := (DynamicRepository.intern_eq_ok outcome).1
  obtain ⟨settled, counted⟩ := covers.resolve_left (by simp [usable])
  obtain ⟨normal, normalized, named, kept⟩ := DynamicRepository.intern_inspect settled outcome
  have afterwards := settled.intern outcome
  refine ⟨normal, same ▸ normalized, afterwards.valid_nonzero (DynamicRepository.valid_of_inspect named), ?_⟩
  refine ⟨?_, ⟨changed, rfl, kept.trans same⟩, fun key own => ?_⟩
  · have more := intern_covers (show (Repository.dynamic table).Covers claims from covers) done
    simpa only [Nat.add_comm] using more
  · have same : key = handle := by
      by_contra other
      rw [single, if_neg other] at own
      cases own
    rw [same]
    exact named

end Repository

end ConnectionManager
