import ConnectionManager.Proofs.Handle.History
import Mathlib.Data.List.Induction
import Mathlib.Logic.Function.Basic

/-!
A ledger of a repository, kept by someone who sees only what is asked and what is answered: how many
references were taken for an identifier and not given back, and how many holds each client has.
Whatever is done, the entries of the repository and the ledger say the same (`history_agrees`), also
where a number is used again for another identifier.
-/

namespace ConnectionManager

structure Ledger where
  /-- The identifier for which a handle was last given out. -/
  owner : Handle → Option String := fun _ => none
  references : String → Nat := fun _ => 0
  holds : String → String → Nat := fun _ _ => 0

namespace Ledger

def IsOpen (ledger : Ledger) (id : String) : Prop :=
  0 < ledger.references id ∨ ∃ client, 0 < ledger.holds id client

def Alive (ledger : Ledger) (handle : Handle) : Prop :=
  ∃ id, ledger.owner handle = some id ∧ ledger.IsOpen id

def referencesOn (ledger : Ledger) (handle : Handle) : Nat :=
  ((ledger.owner handle).map ledger.references).getD 0

def heldOn (ledger : Ledger) (handle : Handle) (client : String) : Nat :=
  ((ledger.owner handle).map fun id => ledger.holds id client).getD 0

def post (ledger : Ledger) (id : String) (references : Nat) (holds : String → Nat) : Ledger :=
  { ledger with
    references := Function.update ledger.references id references
    holds := Function.update ledger.holds id holds }

/-- A handle was given out for an identifier, which has no other handle any more. -/
def assign (ledger : Ledger) (handle : Handle) (id : String) : Ledger :=
  { ledger with owner := fun other =>
      if other = handle then some id
      else if ledger.owner other = some id then none else ledger.owner other }

def addReference (ledger : Ledger) (id : String) : Ledger :=
  ledger.post id (ledger.references id + 1) (ledger.holds id)

def dropReference (ledger : Ledger) (id : String) : Ledger :=
  ledger.post id (ledger.references id - 1) (ledger.holds id)

def hold (ledger : Ledger) (client id : String) : Ledger :=
  ledger.post id (ledger.references id)
    (Function.update (ledger.holds id) client (ledger.holds id client + 1))

def release (ledger : Ledger) (client id : String) : Ledger :=
  ledger.post id (ledger.references id)
    (Function.update (ledger.holds id) client (ledger.holds id client - 1))

def clientVanished (ledger : Ledger) (client : String) : Ledger :=
  { ledger with holds := fun id => Function.update (ledger.holds id) client 0 }

def onHandle (ledger : Ledger) (handle : Handle) (change : String → Ledger) : Ledger :=
  match ledger.owner handle with
  | some id => change id
  | none => ledger

/-- Enters an operation that was answered; one that failed or only looked is not entered. -/
def record (ledger : Ledger) (normalize : String → Outcome String) :
    DynamicRepository.Operation → Outcome (Option Handle) → Ledger
  | .intern id, .ok (some handle) =>
      match normalize id with
      | .ok normal => (ledger.assign handle normal).addReference normal
      | .error _ => ledger
  | .addReference handle, .ok _ => ledger.onHandle handle ledger.addReference
  | .dropReference handle, .ok _ => ledger.onHandle handle ledger.dropReference
  | .hold handle client, .ok _ => ledger.onHandle handle (ledger.hold client)
  | .release handle client, .ok _ => ledger.onHandle handle (ledger.release client)
  | .clientVanished client, .ok _ => ledger.clientVanished client
  | _, _ => ledger

theorem not_open_iff {ledger : Ledger} {id : String} :
    ¬ ledger.IsOpen id ↔ ledger.references id = 0 ∧ ledger.holds id = fun _ => 0 := by
  simp [IsOpen, funext_iff]

theorem owner_assign (ledger : Ledger) (handle other : Handle) (id : String) :
    (ledger.assign handle id).owner other
      = if other = handle then some id
        else if ledger.owner other = some id then none else ledger.owner other :=
  rfl

/-- The handle that is given out for an identifier is the only one of the identifier. -/
theorem assign_alone {ledger : Ledger}
    (alone : ∀ (left right : Handle) id, ledger.owner left = some id →
      ledger.owner right = some id → left = right)
    {handle left right : Handle} {id normal : String}
    (ownsLeft : (ledger.assign handle normal).owner left = some id)
    (ownsRight : (ledger.assign handle normal).owner right = some id) : left = right := by
  rw [owner_assign] at ownsLeft ownsRight
  have before := alone left right id
  grind

end Ledger

namespace DynamicRepository

/-- What an operation answers; the handle, if it is one that gives a handle. -/
def answer (repository : DynamicRepository) : Operation → Outcome (Option Handle)
  | .intern id => (repository.intern id).map fun interned => some interned.1
  | .lookup id => (repository.lookup id).map some
  | .addReference handle => (repository.addReference handle).map fun _ => none
  | .dropReference handle => (repository.dropReference handle).map fun _ => none
  | .hold handle client => (repository.hold handle client).map fun _ => none
  | .release handle client => (repository.release handle client).map fun _ => none
  | .clientVanished _ => .ok none

/-- A repository and the ledger beside it, after one more operation. -/
def bookkeep (state : DynamicRepository × Ledger) (operation : Operation) :
    DynamicRepository × Ledger :=
  (state.1.perform operation,
    state.2.record state.1.normalize operation (state.1.answer operation))

/-- The ledger of a history, from the creation of the repository on. -/
def ledgerOf (kind : HandleKind) (normalize : String → Outcome String)
    (operations : List Operation) : Ledger :=
  (operations.foldl bookkeep ({ kind, normalize }, {})).2

end DynamicRepository

namespace HandleEntry

variable {entry : HandleEntry} {client : String} {count : Nat}

theorem holds_held_once (entry : HandleEntry) (client : String) :
    (entry.heldOnce client).holds = Function.update entry.holds client (entry.holds client + 1) := by
  funext other
  rw [holds, heldOnce, Catalog.find_insert, Function.update_apply]
  split <;> rfl

theorem holds_released_once (found : entry.holders.find? client = some count) :
    (entry.releasedOnce client count).holds
      = Function.update entry.holds client (entry.holds client - 1) := by
  funext other
  have held : entry.holds client = count := by rw [holds, found, Option.getD_some]
  rw [holds, releasedOnce, find_less_held, Function.update_apply, held]
  split
  · split
    · rw [Option.getD_none]
      omega
    · rfl
  · rfl

theorem holds_without_holder (entry : HandleEntry) (client : String) :
    (entry.withoutHolder client).holds = Function.update entry.holds client 0 := by
  funext other
  rw [holds, withoutHolder, Catalog.find_erase, Function.update_apply]
  split <;> rfl

theorem holds_eq_zero (counted : entry.Counted) :
    entry.holds client = 0 ↔ entry.holders.find? client = none := by
  rw [holds]
  cases found : entry.holders.find? client with
  | none => simp
  | some count =>
      have positive := counted client count found
      simp
      omega

theorem used_iff_counts (counted : entry.Counted) :
    entry.isUnused = false ↔ 0 < entry.references ∨ ∃ client, 0 < entry.holds client := by
  rw [DynamicRepository.used_iff]
  apply or_congr Iff.rfl
  apply exists_congr
  intro client
  rw [← Option.ne_none_iff_exists', Nat.pos_iff_ne_zero, ne_eq, ne_eq, holds_eq_zero counted]

end HandleEntry

namespace DynamicRepository

variable {repository next : DynamicRepository} {ledger : Ledger} {handle : Nat} {id : String}

/-- The ledger and the entries of a repository say the same, and the ledger has nothing else. -/
structure Agrees (repository : DynamicRepository) (ledger : Ledger) : Prop where
  settled : repository.Settled
  owned : ∀ (handle : Nat) entry, repository.entries.find? handle = some entry →
    ledger.owner handle = some entry.id
  alone : ∀ (left right : Nat) id, ledger.owner left = some id → ledger.owner right = some id →
    left = right
  references : ∀ (handle : Nat) entry, repository.entries.find? handle = some entry →
    ledger.references entry.id = entry.references
  holds : ∀ (handle : Nat) entry, repository.entries.find? handle = some entry →
    ledger.holds entry.id = entry.holds
  closed : ∀ id, (∀ (handle : Nat) entry, repository.entries.find? handle = some entry →
    entry.id ≠ id) → ¬ ledger.IsOpen id

theorem Settled.distinct (settled : repository.Settled) {left right : Nat}
    {entry other : HandleEntry} (found : repository.entries.find? left = some entry)
    (foundOther : repository.entries.find? right = some other) (same : entry.id = other.id) :
    left = right := by
  have known := settled.indexed left entry found
  rw [same, settled.indexed right other foundOther] at known
  exact (Option.some.inj known).symm

theorem Agrees.open_iff (agrees : repository.Agrees ledger) :
    ledger.IsOpen id ↔ ∃ (handle : Nat) (entry : HandleEntry),
      repository.entries.find? handle = some entry ∧ entry.id = id := by
  constructor
  · intro opened
    by_contra absent
    apply agrees.closed id _ opened
    intro handle entry found same
    exact absent ⟨handle, entry, found, same⟩
  · rintro ⟨handle, entry, found, same⟩
    have used := (HandleEntry.used_iff_counts (agrees.settled.counted handle entry found)).1
      (agrees.settled.used found)
    rw [← same, Ledger.IsOpen, agrees.references handle entry found, agrees.holds handle entry found]
    exact used

theorem Agrees.alive_iff (agrees : repository.Agrees ledger) :
    ledger.Alive handle ↔ ∃ entry, repository.entries.find? handle = some entry := by
  constructor
  · rintro ⟨id, owned, opened⟩
    obtain ⟨other, entry, found, same⟩ := agrees.open_iff.1 opened
    have others := agrees.owned other entry found
    rw [same] at others
    rw [agrees.alone handle other id owned others]
    exact ⟨entry, found⟩
  · rintro ⟨entry, found⟩
    exact ⟨entry.id, agrees.owned handle entry found, agrees.open_iff.2 ⟨handle, entry, found, rfl⟩⟩

theorem Agrees.dead_iff (agrees : repository.Agrees ledger) :
    ¬ ledger.Alive handle ↔ repository.entries.find? handle = none := by
  rw [agrees.alive_iff, Option.eq_none_iff_forall_ne_some, not_exists]

theorem Agrees.references_on (agrees : repository.Agrees ledger) {entry : HandleEntry}
    (found : repository.entries.find? handle = some entry) :
    ledger.referencesOn handle = entry.references := by
  rw [Ledger.referencesOn, agrees.owned handle entry found, Option.map_some, Option.getD_some,
    agrees.references handle entry found]

theorem Agrees.held_on (agrees : repository.Agrees ledger) (client : String) :
    repository.holds handle client = ledger.heldOn handle client := by
  rw [DynamicRepository.holds, Ledger.heldOn]
  cases found : repository.entries.find? handle with
  | some entry =>
      rw [agrees.owned handle entry found, Option.map_some, Option.getD_some,
        agrees.holds handle entry found]
  | none =>
      cases owned : ledger.owner handle with
      | none => rfl
      | some id =>
          have unheld : ledger.holds id client = 0 := by
            by_contra positive
            exact agrees.dead_iff.2 found
              ⟨id, owned, .inr ⟨client, Nat.pos_of_ne_zero positive⟩⟩
          rw [Option.map_some, Option.getD_some, unheld]

/-! One operation after the other. -/

section Steps

variable {old : HandleEntry}

/-- The entry of a live handle takes new counts, and the ledger the same ones. -/
theorem Agrees.change_entry (agrees : repository.Agrees ledger) (entry : HandleEntry)
    (found : repository.entries.find? handle = some old) (sameId : entry.id = old.id)
    (counted : entry.Counted) :
    Agrees ((repository.setEntry handle entry).releaseIfUnused handle)
      (ledger.post old.id entry.references entry.holds) := by
  have left : ∀ (other : Nat) (present : HandleEntry),
      ((repository.setEntry handle entry).releaseIfUnused handle).entries.find? other
          = some present →
        (other = handle ∧ present = entry) ∨
          (present.id ≠ old.id ∧ repository.entries.find? other = some present) := by
    intro other present kept
    rw [find_release_if_unused, find_set_entry] at kept
    by_cases same : other = handle
    · rw [if_pos same] at kept
      exact .inl ⟨same, (Option.some.inj kept.1).symm⟩
    · rw [if_neg same] at kept
      refine .inr ⟨fun sameIds => same ?_, kept.1⟩
      exact agrees.settled.distinct kept.1 found sameIds
  refine ⟨agrees.settled.change_entry found sameId counted, ?_, agrees.alone, ?_, ?_, ?_⟩
  · intro other present kept
    rcases left other present kept with ⟨same, rfl⟩ | ⟨_, before⟩
    · rw [same, sameId]
      exact agrees.owned handle old found
    · exact agrees.owned other present before
  · intro other present kept
    rcases left other present kept with ⟨_, rfl⟩ | ⟨different, before⟩
    · rw [sameId]
      exact Function.update_self ..
    · exact (Function.update_of_ne different ..).trans (agrees.references other present before)
  · intro other present kept
    rcases left other present kept with ⟨_, rfl⟩ | ⟨different, before⟩
    · rw [sameId]
      exact Function.update_self ..
    · exact (Function.update_of_ne different ..).trans (agrees.holds other present before)
  · intro id absent
    by_cases same : id = old.id
    · subst same
      -- The changed entry is gone, so it was unused: both of its counts are zero.
      have unused : entry.isUnused = true := by
        by_contra used
        refine absent handle entry ?_ sameId
        rw [find_release_if_unused, find_set_entry, if_pos rfl]
        exact ⟨rfl, fun _ => by simpa using used⟩
      have nothing := (HandleEntry.used_iff_counts counted).not.1 (by simp [unused])
      simpa [Ledger.IsOpen, Ledger.post] using nothing
    · have before : ¬ ledger.IsOpen id := by
        apply agrees.closed id
        intro other present found' sameIds
        refine absent other present ?_ sameIds
        have elsewhere : other ≠ handle := by
          rintro rfl
          rw [found] at found'
          cases found'
          exact same sameIds.symm
        rw [find_release_if_unused, find_set_entry, if_neg elsewhere]
        exact ⟨found', fun here => absurd here elsewhere⟩
      simpa [Ledger.IsOpen, Ledger.post, same] using before

theorem Agrees.set_entry (agrees : repository.Agrees ledger) (entry : HandleEntry)
    (found : repository.entries.find? handle = some old) (sameId : entry.id = old.id)
    (counted : entry.Counted) (used : entry.isUnused = false) :
    Agrees (repository.setEntry handle entry)
      (ledger.post old.id entry.references entry.holds) := by
  have kept : (repository.setEntry handle entry).releaseIfUnused handle
      = repository.setEntry handle entry := by
    unfold releaseIfUnused
    rw [find_set_entry, if_pos rfl]
    simp [used]
  have changed := agrees.change_entry entry found sameId counted
  rwa [kept] at changed

theorem Agrees.on_handle (agrees : repository.Agrees ledger)
    (found : repository.entries.find? handle = some old) (change : String → Ledger) :
    ledger.onHandle handle change = change old.id := by
  rw [Ledger.onHandle, agrees.owned handle old found]

theorem Agrees.refer (agrees : repository.Agrees ledger)
    (found : repository.entries.find? handle = some old) :
    Agrees (repository.setEntry handle { old with references := old.references + 1 })
      (ledger.addReference old.id) := by
  have changed := agrees.set_entry { old with references := old.references + 1 } found
    rfl (agrees.settled.counted handle old found) (by simp [HandleEntry.isUnused])
  have same : ledger.addReference old.id = ledger.post old.id (old.references + 1) old.holds := by
    rw [Ledger.addReference, agrees.references handle old found, agrees.holds handle old found]
  rw [same]
  exact changed

theorem Agrees.assign_same (agrees : repository.Agrees ledger)
    (owned : ledger.owner handle = some id) : ledger.assign handle id = ledger := by
  have same : (ledger.assign handle id).owner = ledger.owner := by
    funext other
    rw [Ledger.owner_assign]
    split
    · rename_i here
      rw [here, owned]
    · rename_i elsewhere
      rw [if_neg fun also => elsewhere (agrees.alone other handle id also owned)]
  change { ledger with owner := (ledger.assign handle id).owner } = ledger
  rw [same]

/-- A fresh handle is given out for an identifier that had none. -/
theorem Agrees.insert_fresh (agrees : repository.Agrees ledger) {allocated : DynamicRepository}
    {normal : String} (unknown : repository.byId.find? normal = none)
    (taken : repository.allocate = .ok (handle, allocated))
    (settled : Settled { allocated with
      entries := allocated.entries.insert handle ⟨normal, 1, .empty⟩
      byId := allocated.byId.insert normal handle }) :
    Agrees { allocated with
      entries := allocated.entries.insert handle ⟨normal, 1, .empty⟩
      byId := allocated.byId.insert normal handle }
      ((ledger.assign handle normal).addReference normal) := by
  have entries : allocated.entries = repository.entries := by rw [allocate_rest taken]
  have apart : ∀ (other : Nat) entry, repository.entries.find? other = some entry →
      entry.id ≠ normal := fun _ _ found => agrees.settled.unknown_apart unknown found
  obtain ⟨unreferenced, unheld⟩ := Ledger.not_open_iff.1 (agrees.closed normal apart)
  have inserted : ∀ (other : Nat) entry,
      (allocated.entries.insert handle ⟨normal, 1, .empty⟩).find? other = some entry →
        (other = handle ∧ entry = ⟨normal, 1, .empty⟩) ∨
          (other ≠ handle ∧ repository.entries.find? other = some entry) := by
    intro other entry found
    rw [Catalog.find_insert, entries] at found
    split at found
    · rename_i here
      cases found
      exact .inl ⟨here, rfl⟩
    · rename_i elsewhere
      exact .inr ⟨elsewhere, found⟩
  refine ⟨settled, ?_, ?_, ?_, ?_, ?_⟩
  · intro other entry found
    refine (ledger.owner_assign handle other normal).trans ?_
    rcases inserted other entry found with ⟨here, rfl⟩ | ⟨elsewhere, before⟩
    · rw [if_pos here]
    · rw [if_neg elsewhere, agrees.owned other entry before,
        if_neg fun same => apart other entry before (Option.some.inj same)]
  · exact fun left right id => Ledger.assign_alone agrees.alone
  · intro other entry found
    rcases inserted other entry found with ⟨_, rfl⟩ | ⟨_, before⟩
    · refine (Function.update_self ..).trans ?_
      change ledger.references normal + 1 = 1
      rw [unreferenced]
    · exact (Function.update_of_ne (apart other entry before) ..).trans
        (agrees.references other entry before)
  · intro other entry found
    rcases inserted other entry found with ⟨_, rfl⟩ | ⟨_, before⟩
    · exact (Function.update_self ..).trans unheld
    · exact (Function.update_of_ne (apart other entry before) ..).trans
        (agrees.holds other entry before)
  · intro id absent
    have different : id ≠ normal := by
      rintro rfl
      exact absent handle ⟨id, 1, .empty⟩ (by rw [Catalog.find_insert, if_pos rfl]) rfl
    have before : ¬ ledger.IsOpen id := by
      apply agrees.closed id
      intro other entry found
      apply absent other entry
      have elsewhere : other ≠ handle := by
        rintro rfl
        rw [agrees.settled.allocate_dead taken] at found
        cases found
      rw [Catalog.find_insert, if_neg elsewhere, entries]
      exact found
    simpa [Ledger.IsOpen, Ledger.addReference, Ledger.post, Ledger.assign, different] using before

theorem Agrees.intern (agrees : repository.Agrees ledger) {raw : String}
    (done : repository.intern raw = .ok (handle, next)) :
    Agrees next (ledger.record repository.normalize (.intern raw) (.ok (some handle))) := by
  have settled := agrees.settled.intern done
  obtain ⟨_, normal, normalized, ⟨entry, known, found, same⟩ | ⟨unknown, allocated, taken, same⟩⟩ :=
    intern_eq_ok done
  · have entered : ledger.record repository.normalize (.intern raw) (.ok (some handle))
        = (ledger.assign handle normal).addReference normal := by
      rw [Ledger.record, normalized]
    obtain ⟨present, foundAgain, sameId⟩ := agrees.settled.named normal handle known
    rw [found] at foundAgain
    cases foundAgain
    have owned := agrees.owned handle entry found
    rw [sameId] at owned
    rw [entered, agrees.assign_same owned, ← sameId, same]
    exact agrees.refer found
  · have entered : ledger.record repository.normalize (.intern raw) (.ok (some handle))
        = (ledger.assign handle normal).addReference normal := by
      rw [Ledger.record, normalized]
    rw [entered, same]
    exact agrees.insert_fresh unknown taken (same ▸ settled)

theorem Agrees.client_vanished (agrees : repository.Agrees ledger) (client : String) :
    Agrees (repository.clientVanished client) (ledger.clientVanished client) := by
  have settled := agrees.settled.client_vanished client
  rw [client_vanished_eq client agrees.settled.usable] at settled ⊢
  have left : ∀ (other : Nat) changed,
      ((repository.heldBy client).foldl releaseIfUnused
          (repository.withoutHolder client)).entries.find? other = some changed →
        ∃ entry, repository.entries.find? other = some entry ∧
          entry.withoutHolder client = changed := by
    intro other changed kept
    have remaining := ((find_release_list _ _ other changed).1 kept).1
    rw [DynamicRepository.withoutHolder, Catalog.find_map_values] at remaining
    exact Option.map_eq_some_iff.1 remaining
  refine ⟨settled, ?_, agrees.alone, ?_, ?_, ?_⟩
  · intro other changed kept
    obtain ⟨entry, found, rfl⟩ := left other changed kept
    exact agrees.owned other entry found
  · intro other changed kept
    obtain ⟨entry, found, rfl⟩ := left other changed kept
    exact agrees.references other entry found
  · intro other changed kept
    obtain ⟨entry, found, rfl⟩ := left other changed kept
    change Function.update (ledger.holds entry.id) client 0 = _
    rw [agrees.holds other entry found, HandleEntry.holds_without_holder]
  · intro id absent opened
    have before : ledger.IsOpen id := by
      rcases opened with referenced | ⟨holder, held⟩
      · exact .inl referenced
      · refine .inr ⟨holder, ?_⟩
        change 0 < Function.update (ledger.holds id) client 0 holder at held
        rw [Function.update_apply] at held
        split at held
        · omega
        · exact held
    obtain ⟨other, entry, found, sameId⟩ := agrees.open_iff.1 before
    -- What still has a count after the client left is still used, so it was not freed.
    have counts : 0 < (entry.withoutHolder client).references ∨
        ∃ holder, 0 < (entry.withoutHolder client).holds holder := by
      rw [HandleEntry.holds_without_holder, ← agrees.holds other entry found, sameId]
      change 0 < entry.references ∨ _
      rw [← agrees.references other entry found, sameId]
      exact opened
    have counted := HandleEntry.counted_without_holder
      (agrees.settled.counted other entry found) client
    have used := (HandleEntry.used_iff_counts counted).2 counts
    refine absent other (entry.withoutHolder client) ?_ sameId
    rw [find_release_list]
    refine ⟨?_, fun _ => used⟩
    rw [DynamicRepository.withoutHolder, Catalog.find_map_values, found]
    rfl

theorem Agrees.drop (agrees : repository.Agrees ledger)
    (done : repository.dropReference handle = .ok next) :
    next.Agrees (ledger.onHandle handle ledger.dropReference) := by
  obtain ⟨entry, found, _, same⟩ := drop_reference_eq_ok done
  have changed := agrees.change_entry { entry with references := entry.references - 1 } found rfl
    (agrees.settled.counted handle entry found)
  have posted : ledger.dropReference entry.id
      = ledger.post entry.id (entry.references - 1) entry.holds := by
    rw [Ledger.dropReference, agrees.references handle entry found,
      agrees.holds handle entry found]
  rw [agrees.on_handle found, posted, same]
  exact changed

theorem Agrees.hold (agrees : repository.Agrees ledger) {client : String}
    (done : repository.hold handle client = .ok next) :
    next.Agrees (ledger.onHandle handle (ledger.hold client)) := by
  obtain ⟨entry, found, same⟩ := hold_eq_ok done
  have counted := HandleEntry.counted_held_once (agrees.settled.counted handle entry found) client
  have used : (entry.heldOnce client).isUnused = false := by
    apply (HandleEntry.used_iff_counts counted).2
    right
    refine ⟨client, ?_⟩
    rw [HandleEntry.holds_held_once, Function.update_self]
    omega
  have changed := agrees.set_entry (entry.heldOnce client) found rfl counted used
  have posted : ledger.hold client entry.id
      = ledger.post entry.id entry.references (entry.heldOnce client).holds := by
    rw [Ledger.hold, agrees.references handle entry found, agrees.holds handle entry found,
      HandleEntry.holds_held_once]
  rw [agrees.on_handle found, posted, same]
  exact changed

theorem Agrees.release (agrees : repository.Agrees ledger) {client : String}
    (done : repository.release handle client = .ok next) :
    next.Agrees (ledger.onHandle handle (ledger.release client)) := by
  obtain ⟨entry, count, found, held, same⟩ := release_eq_ok done
  have changed := agrees.change_entry (entry.releasedOnce client count) found rfl
    (HandleEntry.counted_released_once (agrees.settled.counted handle entry found) client count)
  have posted : ledger.release client entry.id
      = ledger.post entry.id entry.references (entry.releasedOnce client count).holds := by
    rw [Ledger.release, agrees.references handle entry found, agrees.holds handle entry found,
      HandleEntry.holds_released_once held]
  rw [agrees.on_handle found, posted, same]
  exact changed

theorem Agrees.refers (agrees : repository.Agrees ledger)
    (done : repository.addReference handle = .ok next) :
    next.Agrees (ledger.onHandle handle ledger.addReference) := by
  obtain ⟨entry, found, same⟩ := add_reference_eq_ok done
  rw [agrees.on_handle found, same]
  exact agrees.refer found

end Steps

theorem record_error (ledger : Ledger) (normalize : String → Outcome String)
    (operation : Operation) (failure : Failure) :
    ledger.record normalize operation (.error failure) = ledger := by
  cases operation <;> rfl

theorem Agrees.outcome (agrees : repository.Agrees ledger) {outcome : Outcome DynamicRepository}
    {operation : Operation} (performed : repository.perform operation = repository.orUnchanged outcome)
    (answered : repository.answer operation = outcome.map fun _ => none)
    (entered : ∀ next, outcome = .ok next →
      next.Agrees (ledger.record repository.normalize operation (.ok none))) :
    Agrees (repository.perform operation)
      (ledger.record repository.normalize operation (repository.answer operation)) := by
  rw [performed, answered]
  cases outcome with
  | ok next => exact entered next rfl
  | error failure =>
      change repository.Agrees (ledger.record _ _ (.error failure))
      rw [record_error]
      exact agrees

/-- An operation and its entry in the ledger keep the two in agreement. -/
theorem Agrees.perform (agrees : repository.Agrees ledger) (operation : Operation) :
    Agrees (repository.perform operation)
      (ledger.record repository.normalize operation (repository.answer operation)) := by
  cases operation with
  | intern raw =>
      have performed : repository.perform (.intern raw)
          = repository.orUnchanged ((repository.intern raw).map Prod.snd) := rfl
      have answered : repository.answer (.intern raw)
          = (repository.intern raw).map fun interned => some interned.1 := rfl
      rw [performed, answered]
      cases done : repository.intern raw with
      | ok interned => exact agrees.intern done
      | error failure => exact agrees
  | lookup raw =>
      have ignored : ledger.record repository.normalize (.lookup raw)
          (repository.answer (.lookup raw)) = ledger := by
        cases repository.answer (.lookup raw) <;> rfl
      rw [ignored]
      exact agrees
  | addReference handle => exact agrees.outcome rfl rfl fun _ => agrees.refers
  | dropReference handle => exact agrees.outcome rfl rfl fun _ => agrees.drop
  | hold handle client => exact agrees.outcome rfl rfl fun _ => agrees.hold
  | release handle client => exact agrees.outcome rfl rfl fun _ => agrees.release
  | clientVanished client => exact agrees.client_vanished client

theorem agrees_new (kind : HandleKind) (normalize : String → Outcome String) :
    Agrees { kind, normalize } {} where
  settled := settled_new kind normalize
  owned := by
    intro handle entry found
    cases found
  alone := by
    intro left right id owns
    cases owns
  references := by
    intro handle entry found
    cases found
  holds := by
    intro handle entry found
    cases found
  closed := by
    rintro id _ (referenced | ⟨client, held⟩)
    · exact absurd referenced (Nat.lt_irrefl 0)
    · exact absurd held (Nat.lt_irrefl 0)

theorem bookkeep_history (kind : HandleKind) (normalize : String → Outcome String)
    (operations : List Operation) :
    operations.foldl bookkeep ({ kind, normalize }, {})
      = (history kind normalize operations, ledgerOf kind normalize operations) := by
  have beside : ∀ (state : DynamicRepository × Ledger),
      (operations.foldl bookkeep state).1 = operations.foldl DynamicRepository.perform state.1 := by
    induction operations with
    | nil => exact fun _ => rfl
    | cons operation rest induction => exact fun state => induction (bookkeep state operation)
  exact Prod.ext (beside _) rfl

theorem history_concat (kind : HandleKind) (normalize : String → Outcome String)
    (operations : List Operation) (operation : Operation) :
    history kind normalize (operations ++ [operation])
      = (history kind normalize operations).perform operation := by
  rw [history, List.foldl_append]
  rfl

theorem ledger_concat (kind : HandleKind) (normalize : String → Outcome String)
    (operations : List Operation) (operation : Operation) :
    ledgerOf kind normalize (operations ++ [operation])
      = (ledgerOf kind normalize operations).record (history kind normalize operations).normalize
        operation ((history kind normalize operations).answer operation) := by
  rw [ledgerOf, List.foldl_append, bookkeep_history]
  rfl

/-- The ledger of a history agrees with the repository that the history leaves. -/
theorem history_agrees (kind : HandleKind) (normalize : String → Outcome String)
    (operations : List Operation) :
    Agrees (history kind normalize operations)
      (ledgerOf kind normalize operations) := by
  induction operations using List.reverseRecOn with
  | nil => exact agrees_new kind normalize
  | append_singleton earlier operation induction =>
      rw [history_concat, ledger_concat]
      exact induction.perform operation

end DynamicRepository

end ConnectionManager
