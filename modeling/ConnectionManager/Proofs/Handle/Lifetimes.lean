import ConnectionManager.Proofs.Handle.Ledger
import ConnectionManager.Proofs.Handle.Steps
import Mathlib.Data.List.Infix

/-!
The lifetimes of handles, read off the ledger. A handle is valid as long as its identifier has a
positive count, it stands for that identifier all the while, and the operation that takes the last
count frees it; the ledger also tells which operations are refused, and why (`lifetime_ledger`).
-/

namespace ConnectionManager.DynamicRepository

variable {repository next : DynamicRepository} {ledger : Ledger} {handle : Nat} {id : String}

theorem Agrees.valid_iff (agrees : repository.Agrees ledger) :
    repository.isValid handle = true ↔ ledger.Alive handle := by
  rw [agrees.alive_iff, isValid, agrees.settled.usable, Bool.not_false, Bool.true_and,
    Catalog.contains, Option.isSome_iff_exists]

theorem Agrees.inspect_iff (agrees : repository.Agrees ledger) :
    repository.inspect handle = .ok id ↔ ledger.owner handle = some id ∧ ledger.IsOpen id := by
  constructor
  · intro named
    obtain ⟨_, entry, found, same⟩ := inspect_eq_ok.1 named
    have owned := agrees.owned handle entry found
    rw [same] at owned
    exact ⟨owned, agrees.open_iff.2 ⟨handle, entry, found, same⟩⟩
  · rintro ⟨owned, opened⟩
    obtain ⟨entry, found⟩ := agrees.alive_iff.1 ⟨id, owned, opened⟩
    have same := agrees.owned handle entry found
    rw [owned] at same
    exact inspect_eq_ok.2 ⟨agrees.settled.usable, entry, found, (Option.some.inj same).symm⟩

theorem owner_record (ledger : Ledger) (normalize : String → Outcome String) {operation : Operation}
    (answer : Outcome (Option Handle)) (other : ∀ raw, operation ≠ .intern raw) :
    (ledger.record normalize operation answer).owner = ledger.owner := by
  have counted : ∀ (handle : Handle) (change : String → Ledger),
      (∀ id, (change id).owner = ledger.owner) → (ledger.onHandle handle change).owner = ledger.owner := by
    intro handle change kept
    unfold Ledger.onHandle
    split
    · exact kept _
    · rfl
  cases answer with
  | error failure => rw [record_error]
  | ok given =>
      cases operation with
      | intern raw => exact absurd rfl (other raw)
      | lookup raw => rfl
      | addReference handle => exact counted handle _ fun _ => rfl
      | dropReference handle => exact counted handle _ fun _ => rfl
      | hold handle client => exact counted handle _ fun _ => rfl
      | release handle client => exact counted handle _ fun _ => rfl
      | clientVanished client => rfl

theorem intern_live {raw : String} {fresh : Nat}
    (done : repository.intern raw = .ok (fresh, next)) (live : repository.IsLive handle) :
    next.IsLive handle := by
  have inserted : ∀ (entries : Catalog Handle HandleEntry) (entry : HandleEntry),
      (entries.find? handle).isSome = true →
        ((entries.insert fresh entry).find? handle).isSome = true := by
    intro entries entry present
    rw [Catalog.find_insert]
    split
    · rfl
    · exact present
  obtain ⟨_, normal, _, ⟨entry, _, _, same⟩ | ⟨_, allocated, taken, same⟩⟩ := intern_eq_ok done
  · rw [same]
    exact inserted _ _ live
  · have entries : allocated.entries = repository.entries := by
      rw [allocate_rest taken]
    rw [same, IsLive, entries]
    exact inserted _ _ live

theorem intern_valid {raw : String} {fresh : Nat} (done : repository.intern raw = .ok (fresh, next))
    (valid : repository.isValid handle = true) : next.isValid handle = true := by
  obtain ⟨usable, live⟩ := Bool.and_eq_true_iff.1 valid
  have still : next.IsLive handle := intern_live done live
  exact Bool.and_eq_true_iff.2 ⟨intern_invalid done ▸ usable, still⟩

theorem Agrees.still_live (agrees : repository.Agrees ledger) (operation : Operation)
    (named : repository.inspect handle = .ok id)
    (opened : (ledger.record repository.normalize operation (repository.answer operation)).IsOpen id) :
    (repository.perform operation).IsLive handle := by
  obtain ⟨owned, before⟩ := agrees.inspect_iff.1 named
  obtain ⟨entry, found⟩ := agrees.alive_iff.1 ⟨id, owned, before⟩
  have live : repository.IsLive handle := by rw [IsLive, found]; rfl
  by_cases interning : ∃ raw, operation = .intern raw
  · obtain ⟨raw, rfl⟩ := interning
    change (repository.orUnchanged ((repository.intern raw).map Prod.snd)).IsLive handle
    cases done : repository.intern raw with
    | error failure => exact live
    | ok interned => exact intern_live done live
  · have kept := owner_record ledger repository.normalize (repository.answer operation)
      fun raw same => interning ⟨raw, same⟩
    have alive : (ledger.record repository.normalize operation
        (repository.answer operation)).Alive handle := ⟨id, by rw [kept, owned], opened⟩
    obtain ⟨after, left⟩ := (agrees.perform operation).alive_iff.1 alive
    rw [IsLive, left]
    rfl

theorem Agrees.perform_inspect (agrees : repository.Agrees ledger) (operation : Operation)
    (named : repository.inspect handle = .ok id)
    (opened : (ledger.record repository.normalize operation (repository.answer operation)).IsOpen id) :
    (repository.perform operation).inspect handle = .ok id := by
  have live := agrees.still_live operation named opened
  apply Repository.perform_inspect (.inr agrees.settled) operation named
  rw [isValid, (agrees.perform operation).settled.usable]
  exact live

/-- The operation that takes an identifier's last count frees its handle. -/
theorem Agrees.perform_frees (agrees : repository.Agrees ledger) (operation : Operation)
    (named : repository.inspect handle = .ok id)
    (closed : ¬ (ledger.record repository.normalize operation
      (repository.answer operation)).IsOpen id) :
    (repository.perform operation).isValid handle = false := by
  by_contra valid
  apply closed
  have still := Repository.perform_inspect (.inr agrees.settled) operation named
    (by simpa using valid)
  exact ((agrees.perform operation).inspect_iff.1 still).2

/-! Which operations are refused. -/

theorem entry_eq_error (usable : repository.invalid = false) {failure : Failure} :
    repository.entry handle = .error failure ↔
      repository.entries.find? handle = none ∧
        failure = HandleFailure.invalidHandle repository.kind handle := by
  unfold DynamicRepository.entry
  rw [usable, if_neg Bool.false_ne_true]
  cases repository.entries.find? handle <;> simp [eq_comm]

/-- What is done with the entry of a handle fails on a dead handle, or with its own failure. -/
theorem Agrees.bind_error (agrees : repository.Agrees ledger) {α : Type}
    (use : HandleEntry → Outcome α) {failure : Failure} :
    (repository.entry handle >>= use) = .error failure ↔
      (¬ ledger.Alive handle ∧ failure = HandleFailure.invalidHandle repository.kind handle) ∨
        ∃ entry, repository.entries.find? handle = some entry ∧ use entry = .error failure := by
  rw [agrees.dead_iff]
  cases found : repository.entries.find? handle with
  | none =>
      have dead := (entry_eq_error agrees.settled.usable).2 ⟨found, rfl⟩
      rw [dead]
      simp [bind, Except.bind, eq_comm]
  | some entry =>
      rw [entry_eq_ok.2 ⟨agrees.settled.usable, found⟩]
      simp [bind, Except.bind]

theorem Agrees.inspect_error (agrees : repository.Agrees ledger) {failure : Failure} :
    repository.inspect handle = .error failure ↔
      ¬ ledger.Alive handle ∧ failure = HandleFailure.invalidHandle repository.kind handle := by
  have read : repository.inspect handle
      = repository.entry handle >>= fun entry => .ok entry.id := by
    unfold inspect
    cases repository.entry handle <;> rfl
  rw [read, agrees.bind_error]
  simp

theorem Agrees.add_reference_error (agrees : repository.Agrees ledger) {failure : Failure} :
    repository.addReference handle = .error failure ↔
      ¬ ledger.Alive handle ∧ failure = HandleFailure.invalidHandle repository.kind handle := by
  rw [addReference, agrees.bind_error]
  simp

theorem Agrees.hold_error (agrees : repository.Agrees ledger) {client : String}
    {failure : Failure} :
    repository.hold handle client = .error failure ↔
      ¬ ledger.Alive handle ∧ failure = HandleFailure.invalidHandle repository.kind handle := by
  rw [DynamicRepository.hold, agrees.bind_error]
  simp

theorem Agrees.drop_reference_error (agrees : repository.Agrees ledger) {failure : Failure} :
    repository.dropReference handle = .error failure ↔
      (¬ ledger.Alive handle ∧ failure = HandleFailure.invalidHandle repository.kind handle) ∨
        (ledger.Alive handle ∧ ledger.referencesOn handle = 0 ∧
          failure = HandleFailure.noReferences handle) := by
  rw [dropReference, agrees.bind_error]
  apply or_congr Iff.rfl
  constructor
  · rintro ⟨entry, found, refused⟩
    split at refused
    · rename_i unreferenced
      cases refused
      exact ⟨agrees.alive_iff.2 ⟨entry, found⟩, (agrees.references_on found).trans unreferenced, rfl⟩
    · cases refused
  · rintro ⟨alive, unreferenced, rfl⟩
    obtain ⟨entry, found⟩ := agrees.alive_iff.1 alive
    rw [agrees.references_on found] at unreferenced
    exact ⟨entry, found, if_pos unreferenced⟩

theorem Agrees.release_error (agrees : repository.Agrees ledger) {client : String}
    {failure : Failure} :
    repository.release handle client = .error failure ↔
      (¬ ledger.Alive handle ∧ failure = HandleFailure.invalidHandle repository.kind handle) ∨
        (ledger.Alive handle ∧ ledger.heldOn handle client = 0 ∧
          failure = HandleFailure.notHeld client repository.kind handle) := by
  rw [DynamicRepository.release, agrees.bind_error]
  apply or_congr Iff.rfl
  have unheld : ∀ entry, repository.entries.find? handle = some entry →
      (ledger.heldOn handle client = 0 ↔ entry.holders.find? client = none) := by
    intro entry found
    rw [← agrees.held_on client, DynamicRepository.holds, found]
    exact HandleEntry.holds_eq_zero (agrees.settled.counted handle entry found)
  constructor
  · rintro ⟨entry, found, refused⟩
    split at refused
    · rename_i absent
      cases refused
      exact ⟨agrees.alive_iff.2 ⟨entry, found⟩, (unheld entry found).2 absent, rfl⟩
    · cases refused
  · rintro ⟨alive, none, rfl⟩
    obtain ⟨entry, found⟩ := agrees.alive_iff.1 alive
    refine ⟨entry, found, ?_⟩
    rw [(unheld entry found).1 none]

theorem perform_refused {operation : Operation} {failure : Failure}
    (refused : repository.answer operation = .error failure) :
    repository.perform operation = repository := by
  have unchanged : ∀ {α : Type} {outcome : Outcome α} (next : α → DynamicRepository)
      (given : α → Option Handle), outcome.map given = .error failure →
        repository.orUnchanged (outcome.map next) = repository := by
    intro α outcome next given failed
    cases outcome with
    | ok value => cases failed
    | error failure => rfl
  have same : ∀ {outcome : Outcome DynamicRepository},
      outcome.map (fun _ => (none : Option Handle)) = .error failure →
        repository.orUnchanged outcome = repository := by
    intro outcome failed
    cases outcome with
    | ok value => cases failed
    | error failure => rfl
  cases operation with
  | intern raw => exact unchanged Prod.snd _ refused
  | lookup raw => rfl
  | addReference handle => exact same refused
  | dropReference handle => exact same refused
  | hold handle client => exact same refused
  | release handle client => exact same refused
  | clientVanished client => cases refused

theorem Agrees.intern_inspect (agrees : repository.Agrees ledger) {raw : String}
    (done : repository.intern raw = .ok (handle, next)) :
    next.inspect handle = repository.normalize raw := by
  obtain ⟨_, normal, normalized, _⟩ := intern_eq_ok done
  have after := agrees.intern done
  have owned : (ledger.record repository.normalize (.intern raw) (.ok (some handle))).owner handle
      = some normal := by
    rw [Ledger.record, normalized]
    exact if_pos rfl
  rw [normalized, after.inspect_iff]
  refine ⟨owned, .inl ?_⟩
  rw [Ledger.record, normalized]
  change 0 < Function.update ledger.references normal _ normal
  rw [Function.update_self]
  exact Nat.succ_pos _

/-- A handle stands for its identifier as long as the identifier keeps a positive count. -/
theorem inspect_constant (kind : HandleKind) (normalize : String → Outcome String)
    (operations : List Operation) (named : (history kind normalize operations).inspect handle = .ok id)
    (more : List Operation)
    (opened : ∀ early, early <+: more → (ledgerOf kind normalize (operations ++ early)).IsOpen id) :
    (history kind normalize (operations ++ more)).inspect handle = .ok id := by
  induction more using List.reverseRecOn with
  | nil => rwa [List.append_nil]
  | append_singleton earlier operation induction =>
      have before := induction fun early within =>
        opened early (within.trans (List.prefix_append earlier [operation]))
      have now := opened (earlier ++ [operation]) (List.prefix_refl _)
      have agrees := history_agrees kind normalize (operations ++ earlier)
      rw [← List.append_assoc, ledger_concat] at now
      rw [← List.append_assoc, history_concat]
      exact agrees.perform_inspect operation before now

/-- At every moment before the end of a repository its handles live by the ledger: a handle is
valid as long as its identifier has a positive count, it stands for that identifier from the
operation that gives it out to the one that takes the last count, and that one frees it; holds are
those of the ledger, and an operation is refused exactly where the ledger says so. Counts have no
bound here, so this speaks of all histories in which none reaches the bound of its counter. -/
theorem lifetime_ledger (kind : HandleKind) (normalize : String → Outcome String)
    (operations : List Operation) :
    let repository := history kind normalize operations
    let book := ledgerOf kind normalize operations
    (∀ handle, repository.isValid handle = true ↔ book.Alive handle) ∧
    (∀ handle client, repository.holds handle client = book.heldOn handle client) ∧
    (∀ raw handle next, repository.intern raw = .ok (handle, next) →
      next.inspect handle = normalize raw) ∧
    (∀ handle id, repository.inspect handle = .ok id → ∀ more,
      (∀ early, early <+: more → (ledgerOf kind normalize (operations ++ early)).IsOpen id) →
        (history kind normalize (operations ++ more)).inspect handle = .ok id) ∧
    (∀ handle id, repository.inspect handle = .ok id → ∀ operation,
      ¬ (ledgerOf kind normalize (operations ++ [operation])).IsOpen id →
        (history kind normalize (operations ++ [operation])).isValid handle = false) ∧
    (∀ handle failure, repository.inspect handle = .error failure ↔
      ¬ book.Alive handle ∧ failure = HandleFailure.invalidHandle kind handle) ∧
    (∀ handle failure, repository.addReference handle = .error failure ↔
      ¬ book.Alive handle ∧ failure = HandleFailure.invalidHandle kind handle) ∧
    (∀ handle client failure, repository.hold handle client = .error failure ↔
      ¬ book.Alive handle ∧ failure = HandleFailure.invalidHandle kind handle) ∧
    (∀ handle failure, repository.dropReference handle = .error failure ↔
      (¬ book.Alive handle ∧ failure = HandleFailure.invalidHandle kind handle) ∨
        (book.Alive handle ∧ book.referencesOn handle = 0 ∧
          failure = HandleFailure.noReferences handle)) ∧
    (∀ handle client failure, repository.release handle client = .error failure ↔
      (¬ book.Alive handle ∧ failure = HandleFailure.invalidHandle kind handle) ∨
        (book.Alive handle ∧ book.heldOn handle client = 0 ∧
          failure = HandleFailure.notHeld client kind handle)) ∧
    ∀ operation failure, repository.answer operation = .error failure →
      repository.perform operation = repository := by
  intro repository book
  have agrees : repository.Agrees book := history_agrees kind normalize operations
  obtain ⟨kinds, normalizers⟩ : repository.kind = kind ∧ repository.normalize = normalize :=
    history_identity kind normalize operations
  refine ⟨fun _ => agrees.valid_iff, fun _ => agrees.held_on, ?_, ?_, ?_, ?_, ?_, ?_, ?_, ?_, ?_⟩
  · intro raw handle next done
    rw [agrees.intern_inspect done, normalizers]
  · intro handle id named more opened
    exact inspect_constant kind normalize operations named more opened
  · intro handle id named operation closed
    rw [ledger_concat] at closed
    rw [history_concat]
    exact agrees.perform_frees operation named closed
  · intro handle failure
    rw [agrees.inspect_error, kinds]
  · intro handle failure
    rw [agrees.add_reference_error, kinds]
  · intro handle client failure
    rw [agrees.hold_error, kinds]
  · intro handle failure
    rw [agrees.drop_reference_error, kinds]
  · intro handle client failure
    rw [agrees.release_error, kinds]
  · intro operation failure refused
    exact perform_refused refused

def rehearsedLoan : List Operation := [.intern "alice", .hold 1 ":1.2", .dropReference 1]

theorem lifetime_ledger_rehearsed :
    (history .contact plainIdentifier rehearsedLoan).inspect 1 = .ok "alice" ∧
    ¬ (ledgerOf .contact plainIdentifier (rehearsedLoan ++ [.release 1 ":1.2"])).IsOpen "alice" ∧
    (history .contact plainIdentifier (rehearsedLoan ++ [.release 1 ":1.2"])).isValid 1 = false ∧
    (history .contact plainIdentifier (rehearsedLoan ++ [.release 1 ":1.2", .intern "bob"])).inspect 1
      = .ok "bob" := by
  have named : (history .contact plainIdentifier rehearsedLoan).inspect 1 = .ok "alice" := rfl
  have settled : ¬ (ledgerOf .contact plainIdentifier
      (rehearsedLoan ++ [.release 1 ":1.2"])).IsOpen "alice" := by
    rintro (referenced | ⟨client, held⟩)
    · exact absurd referenced (by decide)
    · have counts : (ledgerOf .contact plainIdentifier
          (rehearsedLoan ++ [.release 1 ":1.2"])).holds "alice"
            = Function.update (Function.update (fun _ => 0) ":1.2" 1) ":1.2" 0 := rfl
      rw [counts, Function.update_idem, Function.update_apply] at held
      split at held <;> exact absurd held (by decide)
  have again : (history .contact plainIdentifier
      (rehearsedLoan ++ [.release 1 ":1.2", .intern "bob"])).inspect 1 = .ok "bob" := rfl
  obtain ⟨_, _, _, _, frees, _⟩ := lifetime_ledger .contact plainIdentifier rehearsedLoan
  exact ⟨named, settled, frees 1 "alice" named (.release 1 ":1.2") settled, again⟩

end ConnectionManager.DynamicRepository

theorem ConnectionManager.Repository.intern_keeps {repository next : Repository}
    {handle fresh : Handle} {raw id : String} (sound : repository.Sound)
    (done : repository.intern raw = .ok (fresh, next)) (named : repository.inspect handle = .ok id) :
    next.inspect handle = .ok id := by
  have valid : ∀ {table changed : DynamicRepository}, table.intern raw = .ok (fresh, changed) →
      table.inspect handle = .ok id → changed.isValid handle = true :=
    fun done named => DynamicRepository.intern_valid done (DynamicRepository.valid_of_inspect named)
  cases intern_by_form done with
  | dynamic outcome => exact (Step.interned done).keeps sound named (valid outcome named)
  | guarded refused outcome => exact (Step.interned done).keeps sound named (valid outcome named)
  | fixed kept => exact kept.1 ▸ named
