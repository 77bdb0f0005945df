import ConnectionManager.Proofs.Handle.Dealings
import ConnectionManager.Proofs.Handle.Lifetimes
import ConnectionManager.Rehearsal.Identifiers

/-!
Interning and inspecting are inverse to each other. In every state that a repository can reach, its
live handles stand for normal forms, no two of them for the same, and an identifier is looked up and
interned by its normal form. If normal forms are normalized to themselves, a handle is found again by
what it stands for (`interning_inverts_inspecting`). Counts have no bound here.
-/

namespace ConnectionManager.DynamicRepository

variable {repository : DynamicRepository} {kind : HandleKind} {normalize : String → Outcome String}
  {operations : List Operation} {handle : Nat} {id normal : String}

/-! What handles stand for. -/

/-- What a handle is given out for is a normal form. -/
theorem owner_recorded {ledger : Ledger} {operation : Operation} {answer : Outcome (Option Handle)}
    (owned : (ledger.record normalize operation answer).owner handle = some normal) :
    ledger.owner handle = some normal ∨ ∃ raw, normalize raw = .ok normal := by
  by_cases interning : ∃ raw, operation = .intern raw
  · obtain ⟨raw, rfl⟩ := interning
    rcases answer with failure | none | fresh
    · exact .inl owned
    · exact .inl owned
    · -- Only what was interned with a handle in answer is entered.
      unfold Ledger.record at owned
      dsimp only at owned
      cases normalized : normalize raw with
      | error failure =>
          rw [normalized] at owned
          exact .inl owned
      | ok form =>
          rw [normalized] at owned
          change (if handle = fresh then some form else _) = _ at owned
          split at owned
          · cases owned
            exact .inr ⟨raw, normalized⟩
          · split at owned
            · cases owned
            · exact .inl owned
  · rw [owner_record _ _ _ fun raw same => interning ⟨raw, same⟩] at owned
    exact .inl owned

theorem inspect_normalized (named : (history kind normalize operations).inspect handle = .ok normal) :
    ∃ raw, normalize raw = .ok normal := by
  have owned := ((history_agrees kind normalize operations).inspect_iff.1 named).1
  clear named
  induction operations using List.reverseRecOn with
  | nil => cases owned
  | append_singleton earlier operation induction =>
      rw [ledger_concat, (history_identity kind normalize earlier).2] at owned
      exact (owner_recorded owned).elim induction id

/-! What is found by a normal form. -/

theorem Settled.known_iff (settled : repository.Settled) :
    repository.byId.find? normal = some handle ↔ repository.inspect handle = .ok normal := by
  constructor
  · intro known
    obtain ⟨entry, found, same⟩ := settled.named normal handle known
    rw [settled.inspect_live found, same]
  · intro named
    obtain ⟨_, entry, found, same⟩ := inspect_eq_ok.1 named
    rw [← same]
    exact settled.indexed handle entry found

theorem Settled.inspect_injective (settled : repository.Settled) {other : Nat}
    (named : repository.inspect handle = .ok normal) (same : repository.inspect other = .ok normal) :
    handle = other := by
  have known := settled.known_iff.2 named
  rw [settled.known_iff.2 same] at known
  exact (Option.some.inj known).symm

/-- An identifier has the handle that stands for its normal form, or none. -/
theorem Settled.lookup_iff (settled : repository.Settled) :
    (repository.lookup id = .ok handle ∧ handle ≠ Handle.none) ↔
      ∃ normal, repository.normalize id = .ok normal ∧ repository.isValid handle = true ∧
        repository.inspect handle = .ok normal := by
  unfold lookup
  rw [settled.usable, if_neg Bool.false_ne_true]
  cases normalized : repository.normalize id with
  | error failure =>
      constructor
      · rintro ⟨found, given⟩
        exact absurd (Except.ok.inj found).symm given
      · rintro ⟨normal, same, _⟩
        cases same
  | ok normal =>
      dsimp only
      constructor
      · rintro ⟨found, given⟩
        refine ⟨normal, rfl, ?_⟩
        cases known : repository.byId.find? normal with
        | none =>
            rw [known] at found
            exact absurd (Except.ok.inj found).symm given
        | some present =>
            rw [known] at found
            cases found
            have named := settled.known_iff.1 known
            exact ⟨DynamicRepository.valid_of_inspect named, named⟩
      · rintro ⟨_, same, valid, named⟩
        cases same
        refine ⟨?_, settled.valid_nonzero valid⟩
        rw [settled.known_iff.2 named]
        rfl

/-- A normal form that a live handle stands for is interned under this handle. -/
theorem Settled.intern_known (settled : repository.Settled)
    (normalized : repository.normalize id = .ok normal)
    (named : repository.inspect handle = .ok normal) :
    ∃ next, repository.intern id = .ok (handle, next) := by
  obtain ⟨entry, present, _⟩ := Outcome.map_eq_ok.1 named
  refine ⟨repository.setEntry handle { entry with references := entry.references + 1 }, ?_⟩
  unfold DynamicRepository.intern
  rw [if_neg (by simp [settled.usable]), normalized]
  dsimp only [bind, Except.bind]
  rw [settled.known_iff.2 named]
  dsimp only
  rw [present]

/-- Every number that can be given out is in use. -/
def Exhausted (repository : DynamicRepository) : Prop :=
  ∀ handle : Nat, 1 ≤ handle → handle + 1 < Handle.limit → repository.isValid handle = true

theorem Settled.exhausted_iff (settled : repository.Settled) {least : Nat}
    (unused : LeastUnused repository.IsLive least) :
    repository.Exhausted ↔ ¬ least + 1 < Handle.limit := by
  have live : ∀ other : Nat, repository.isValid other = true ↔ repository.IsLive other := by
    intro other
    rw [isValid, settled.usable]
    rfl
  constructor
  · intro full fits
    exact unused.unused ((live least).1 (full least unused.positive fits))
  · intro full other positive fits
    exact (live other).2 (unused.least other positive (by omega))

/-- Interning fails with the failure of the normalizer, or if a new handle is needed and none is
left. -/
theorem Settled.intern_error (settled : repository.Settled) {failure : Failure} :
    repository.intern id = .error failure ↔ repository.normalize id = .error failure ∨
      ∃ normal, repository.normalize id = .ok normal ∧
        (∀ handle, repository.inspect handle ≠ .ok normal) ∧ repository.Exhausted ∧
        failure = HandleFailure.exhausted repository.kind := by
  cases normalized : repository.normalize id with
  | error refused =>
      have refuses : repository.intern id = .error refused := by
        unfold DynamicRepository.intern
        rw [if_neg (by simp [settled.usable]), normalized]
        rfl
      rw [refuses]
      simp
  | ok normal =>
      by_cases known : ∃ handle, repository.inspect handle = .ok normal
      · obtain ⟨present, named⟩ := known
        obtain ⟨next, done⟩ := settled.intern_known normalized named
        rw [done]
        constructor
        · intro failed
          cases failed
        · rintro (failed | ⟨_, same, unknown, _⟩)
          · cases failed
          · cases same
            exact absurd named (unknown present)
      · have unknown : ∀ handle, repository.inspect handle ≠ .ok normal := not_exists.1 known
        obtain ⟨least, unused, outcome⟩ := settled.intern_least normalized fun handle entry found same =>
          unknown handle (by rw [settled.inspect_live found, same])
        have full := settled.exhausted_iff unused
        by_cases fits : least + 1 < Handle.limit
        · rw [if_pos fits] at outcome
          obtain ⟨next, done⟩ := outcome
          rw [done]
          constructor
          · intro failed
            cases failed
          · rintro (failed | ⟨_, _, _, exhausted, _⟩)
            · cases failed
            · exact absurd fits (full.1 exhausted)
        · rw [if_neg fits] at outcome
          rw [outcome]
          constructor
          · intro failed
            exact .inr ⟨normal, rfl, unknown, full.2 fits, (Except.error.inj failed).symm⟩
          · rintro (failed | ⟨_, _, _, _, same⟩)
            · cases failed
            · rw [same]

/-! Handles that are kept alive. -/

/-- An identifier was interned at some moment of a history, and its handle has been valid ever
since. -/
def Kept (kind : HandleKind) (normalize : String → Outcome String) (operations : List Operation)
    (id : String) (handle : Handle) : Prop :=
  ∃ earlier later next, operations = earlier ++ .intern id :: later ∧
    (history kind normalize earlier).intern id = .ok (handle, next) ∧
    ∀ passed, passed <+: later →
      (history kind normalize (earlier ++ .intern id :: passed)).isValid handle = true

/-- A handle that stays valid keeps what it stands for. -/
theorem Settled.inspect_while (settled : repository.Settled)
    (named : repository.inspect handle = .ok id) (later : List Operation)
    (valid : ∀ passed, passed <+: later →
      (passed.foldl DynamicRepository.perform repository).isValid handle = true) :
    (later.foldl DynamicRepository.perform repository).inspect handle = .ok id := by
  induction later using List.reverseRecOn with
  | nil => exact named
  | append_singleton passed operation induction =>
      have before := induction fun prior within =>
        valid prior (within.trans (List.prefix_append passed [operation]))
      have now := valid (passed ++ [operation]) (List.prefix_refl _)
      rw [List.foldl_append] at now ⊢
      exact Repository.perform_inspect (.inr (settled.perform_all passed)) operation before now

/-- The handle of an identifier that was kept alive stands for the normal form of the identifier. -/
theorem Kept.inspect (kept : Kept kind normalize operations id handle) :
    ∃ normal, normalize id = .ok normal ∧
      (history kind normalize operations).inspect handle = .ok normal := by
  obtain ⟨earlier, later, next, rfl, done, valid⟩ := kept
  have reached : ∀ passed, history kind normalize (earlier ++ .intern id :: passed)
      = passed.foldl perform next := by
    intro passed
    rw [history, List.foldl_append, List.foldl_cons]
    change List.foldl perform ((history kind normalize earlier).perform (.intern id)) passed = _
    rw [perform_intern done]
  have agrees := history_agrees kind normalize earlier
  have stands := agrees.intern_inspect done
  rw [(history_identity kind normalize earlier).2] at stands
  simp only [reached] at valid ⊢
  obtain ⟨normal, named⟩ := DynamicRepository.inspect_of_valid (valid [] List.nil_prefix)
  exact ⟨normal, stands.symm.trans named, (agrees.settled.intern done).inspect_while named later valid⟩

/-- Interning and inspecting are inverse in every state before the end of a repository whose normal
forms are normalized to themselves: a live handle is interned and looked up by what it stands for; an
identifier has a handle exactly if a live one stands for its normal form, which it is then interned
under; interning fails exactly if the normalizer does, or if a new handle is needed and all are in
use; identifiers that are kept alive share a handle exactly if they have the same normal form; and
looking up changes nothing, whatever is done later. -/
theorem interning_inverts_inspecting (kind : HandleKind) (normalize : String → Outcome String)
    (idempotent : ∀ id normal, normalize id = .ok normal → normalize normal = .ok normal)
    (operations : List Operation) :
    let repository := history kind normalize operations
    (∀ handle, repository.isValid handle = true →
      ∃ id next, repository.inspect handle = .ok id ∧ repository.lookup id = .ok handle ∧
        repository.intern id = .ok (handle, next)) ∧
    (∀ id handle, (repository.lookup id = .ok handle ∧ handle ≠ Handle.none) ↔
      ∃ normal, normalize id = .ok normal ∧ repository.isValid handle = true ∧
        repository.inspect handle = .ok normal) ∧
    (∀ id handle, repository.lookup id = .ok handle → handle ≠ Handle.none →
      ∃ next, repository.intern id = .ok (handle, next)) ∧
    (∀ id failure, repository.intern id = .error failure ↔ normalize id = .error failure ∨
      ∃ normal, normalize id = .ok normal ∧
        (∀ handle, repository.inspect handle ≠ .ok normal) ∧ repository.Exhausted ∧
        failure = HandleFailure.exhausted kind) ∧
    (∀ left right leftHandle rightHandle, Kept kind normalize operations left leftHandle →
      Kept kind normalize operations right rightHandle →
        (leftHandle = rightHandle ↔ normalize left = normalize right)) ∧
    ∀ id later, history kind normalize (operations ++ .lookup id :: later)
      = history kind normalize (operations ++ later) := by
  intro repository
  have settled : repository.Settled := history_settled kind normalize operations
  obtain ⟨kinds, normalizers⟩ : repository.kind = kind ∧ repository.normalize = normalize :=
    history_identity kind normalize operations
  have lookups : ∀ id handle, (repository.lookup id = .ok handle ∧ handle ≠ Handle.none) ↔
      ∃ normal, normalize id = .ok normal ∧ repository.isValid handle = true ∧
        repository.inspect handle = .ok normal := by
    intro id handle
    rw [settled.lookup_iff, normalizers]
  have interned : ∀ id normal handle, normalize id = .ok normal →
      repository.inspect handle = .ok normal → ∃ next, repository.intern id = .ok (handle, next) :=
    fun id normal handle normalized named =>
      settled.intern_known (by rw [normalizers, normalized]) named
  refine ⟨?_, lookups, ?_, ?_, ?_, ?_⟩
  · intro handle valid
    obtain ⟨id, named⟩ := DynamicRepository.inspect_of_valid valid
    obtain ⟨raw, normalized⟩ := inspect_normalized named
    have itself := idempotent raw id normalized
    obtain ⟨next, done⟩ := interned id id handle itself named
    exact ⟨id, next, named, ((lookups id handle).2 ⟨id, itself, valid, named⟩).1, done⟩
  · intro id handle found given
    obtain ⟨normal, normalized, _, named⟩ := (lookups id handle).1 ⟨found, given⟩
    exact interned id normal handle normalized named
  · intro id failure
    rw [settled.intern_error, normalizers, kinds]
  · intro left right leftHandle rightHandle leftKept rightKept
    obtain ⟨leftNormal, leftNormalized, leftNamed⟩ := leftKept.inspect
    obtain ⟨rightNormal, rightNormalized, rightNamed⟩ := rightKept.inspect
    rw [leftNormalized, rightNormalized]
    constructor
    · rintro rfl
      exact leftNamed.symm.trans rightNamed
    · intro same
      exact settled.inspect_injective leftNamed (rightNamed.trans same.symm)
  · intro id later
    rw [history, List.foldl_append, List.foldl_cons, history, List.foldl_append]
    rfl

theorem lower_lower (character : Char) : character.toLower.toLower = character.toLower := by
  by_cases upper : character.val ≥ 'A'.val ∧ character.val ≤ 'Z'.val
  · have lowered : character.toLower.val = character.val + 32 := congrArg Char.val (dif_pos upper)
    apply dif_neg
    rw [lowered]
    rintro ⟨_, below⟩
    have bounds := And.intro (UInt32.le_iff_toNat_le.1 upper.1) (UInt32.le_iff_toNat_le.1 upper.2)
    rw [UInt32.le_iff_toNat_le, UInt32.toNat_add] at below
    change 65 ≤ _ ∧ _ ≤ 90 at bounds
    change (_ + 32) % 4294967296 ≤ 90 at below
    omega
  · have same : character.toLower = character := dif_neg upper
    rw [same]
    exact same

theorem address_idempotent (id normal : String)
    (normalized : Rehearsal.addressIdentifier id = .ok normal) :
    Rehearsal.addressIdentifier normal = .ok normal := by
  unfold Rehearsal.addressIdentifier at normalized
  split at normalized
  · rename_i address
    cases normalized
    have signed : '@' ∈ id.toList.map Char.toLower :=
      List.mem_map.2 ⟨'@', List.contains_iff_mem.1 address, rfl⟩
    rw [Rehearsal.addressIdentifier, String.toList_ofList, if_pos (List.contains_iff_mem.2 signed),
      List.map_map]
    congr 3
    exact funext lower_lower
  · cases normalized

/-- One number for two identifiers in turn, the second in two spellings. -/
def rehearsedSpellings : List Operation :=
  [.intern "alice@host", .dropReference 1, .intern "Bob@host", .lookup "alice@host", .intern "bob@HOST"]

theorem interning_inverts_inspecting_rehearsed :
    let repository := history .contact Rehearsal.addressIdentifier rehearsedSpellings
    repository.inspect 1 = .ok "bob@host" ∧ repository.lookup "BOB@host" = .ok 1 ∧
    (∃ next, repository.intern "bob@host" = .ok (1, next)) ∧
    Kept .contact Rehearsal.addressIdentifier rehearsedSpellings "Bob@host" 1 ∧
    Rehearsal.addressIdentifier "Bob@host" = Rehearsal.addressIdentifier "bob@HOST" := by
  intro repository
  have first : Kept .contact Rehearsal.addressIdentifier rehearsedSpellings "Bob@host" 1 := by
    refine ⟨[.intern "alice@host", .dropReference 1], [.lookup "alice@host", .intern "bob@HOST"],
      _, rfl, rfl, fun passed within => ?_⟩
    obtain rfl | ⟨_, rfl, more⟩ := List.prefix_cons_iff.1 within
    · rfl
    · obtain rfl | ⟨_, rfl, none⟩ := List.prefix_cons_iff.1 more
      · rfl
      · rw [List.prefix_nil.1 none]
        rfl
  have second : Kept .contact Rehearsal.addressIdentifier rehearsedSpellings "bob@HOST" 1 := by
    refine ⟨[.intern "alice@host", .dropReference 1, .intern "Bob@host", .lookup "alice@host"], [],
      _, rfl, rfl, fun passed within => ?_⟩
    rw [List.prefix_nil.1 within]
    rfl
  obtain ⟨inverse, lookups, _, _, shared, _⟩ := interning_inverts_inspecting .contact
    Rehearsal.addressIdentifier address_idempotent rehearsedSpellings
  obtain ⟨id, next, named, _, done⟩ := inverse 1 rfl
  cases named
  exact ⟨rfl, ((lookups "BOB@host" 1).2 ⟨"bob@host", rfl, rfl, rfl⟩).1, ⟨next, done⟩, first,
    (shared "Bob@host" "bob@HOST" 1 1 first second).1 rfl⟩

end ConnectionManager.DynamicRepository
