import ConnectionManager.Proofs.Handle.Steps

/-!
Who keeps a handle alive, and how often. Every successful operation gives one keeper one share more
or takes one from it, and a settled repository is known by its names and shares: an operation that
takes back what others gave leads back to where they started (`Extends.cancel`).
-/

namespace ConnectionManager

/-- The service keeps handles alive by internal references, a client by its holds. -/
inductive Keeper
  | service
  | client (name : String)
deriving DecidableEq

/-- One share of a keeper for every occurrence of a handle on a list. -/
def occurrences (handles : List Handle) (owner : Keeper) (handle : Handle) (keeper : Keeper) : Nat :=
  if keeper = owner then handles.count handle else 0

theorem occurrences_nil (owner : Keeper) (handle : Handle) (keeper : Keeper) :
    occurrences [] owner handle keeper = 0 := by
  simp [occurrences]

theorem occurrences_append (first second : List Handle) (owner : Keeper) (handle : Handle)
    (keeper : Keeper) :
    occurrences (first ++ second) owner handle keeper
      = occurrences first owner handle keeper + occurrences second owner handle keeper := by
  unfold occurrences
  split
  · exact List.count_append
  · rfl

theorem occurrences_cons (first : Handle) (rest : List Handle) (owner : Keeper) (handle : Handle)
    (keeper : Keeper) :
    occurrences (first :: rest) owner handle keeper
      = occurrences [first] owner handle keeper + occurrences rest owner handle keeper :=
  occurrences_append [first] rest owner handle keeper

theorem occurrences_single (given handle : Handle) (owner keeper : Keeper) :
    occurrences [given] owner handle keeper = if handle = given ∧ keeper = owner then 1 else 0 := by
  unfold occurrences
  rw [List.count_singleton]
  by_cases same : handle = given
  · simp [same]
  · simp [same, Ne.symm same]

def HandleEntry.share (entry : HandleEntry) : Keeper → Nat
  | .service => entry.references
  | .client name => entry.holds name

theorem HandleEntry.share_of_holders {entry changed : HandleEntry} {client : String}
    {keeper : Keeper} (apart : keeper ≠ .client client)
    (references : changed.references = entry.references)
    (holders : ∀ name, name ≠ client → changed.holders.find? name = entry.holders.find? name) :
    changed.share keeper = entry.share keeper := by
  cases keeper with
  | service => exact references
  | client name =>
      have other : name ≠ client := fun same => apart (congrArg Keeper.client same)
      rw [share, share, holds, holds, holders name other]

namespace DynamicRepository

/-- How often a keeper keeps a handle alive; nobody has a share in a dead handle. -/
def share (repository : DynamicRepository) (handle : Handle) (keeper : Keeper) : Nat :=
  ((repository.entries.find? handle).map fun entry => entry.share keeper).getD 0

variable {repository next : DynamicRepository} {handle : Handle}

theorem share_live {entry : HandleEntry} (found : repository.entries.find? handle = some entry)
    (keeper : Keeper) : repository.share handle keeper = entry.share keeper := by
  rw [share, found]
  rfl

theorem unused_share {entry : HandleEntry} (unused : entry.isUnused = true) (keeper : Keeper) :
    entry.share keeper = 0 := by
  obtain ⟨unreferenced, unheld⟩ := (HandleEntry.is_unused_iff entry).1 unused
  cases keeper with
  | service => exact unreferenced
  | client name =>
      change (entry.holders.find? name).getD 0 = 0
      rw [unheld name]
      rfl

theorem Settled.live_iff (settled : repository.Settled) :
    repository.IsLive handle ↔ ∃ keeper, 0 < repository.share handle keeper := by
  constructor
  · intro live
    obtain ⟨entry, found⟩ := Option.isSome_iff_exists.1 live
    rcases settled.kept handle entry found with referenced | ⟨client, count, held⟩
    · exact ⟨.service, by rwa [share_live found]⟩
    · have positive := settled.counted handle entry found client count held
      refine ⟨.client client, ?_⟩
      rw [share_live found, HandleEntry.share, HandleEntry.holds, held]
      exact positive
  · rintro ⟨keeper, positive⟩
    by_contra dead
    have absent : repository.entries.find? handle = none := by simpa [IsLive] using dead
    rw [share, absent] at positive
    exact absurd positive (Nat.lt_irrefl 0)

theorem Settled.valid_iff (settled : repository.Settled) :
    repository.isValid handle = true ↔ ∃ keeper, 0 < repository.share handle keeper := by
  rw [isValid, settled.usable, ← settled.live_iff]
  rfl

theorem share_set_entry {old entry : HandleEntry} {owner : Keeper}
    (found : repository.entries.find? handle = some old)
    (more : ∀ keeper, entry.share keeper
      = old.share keeper + if keeper = owner then 1 else 0) (sought : Handle) (keeper : Keeper) :
    (repository.setEntry handle entry).share sought keeper
      = repository.share sought keeper + occurrences [handle] owner sought keeper := by
  rw [occurrences_single, share, find_set_entry]
  by_cases same : sought = handle
  · rw [if_pos same, same, share_live found]
    simpa using more keeper
  · simp [same, share]

theorem share_set_entry_less {old entry : HandleEntry} {owner : Keeper}
    (found : repository.entries.find? handle = some old)
    (less : ∀ keeper, old.share keeper
      = entry.share keeper + if keeper = owner then 1 else 0) (sought : Handle) (keeper : Keeper) :
    repository.share sought keeper
      = (repository.setEntry handle entry).share sought keeper
        + occurrences [handle] owner sought keeper := by
  rw [occurrences_single]
  by_cases same : sought = handle
  · rw [same, share_live found, share, find_set_entry, if_pos rfl]
    simpa using less keeper
  · rw [share, share, find_set_entry, if_neg same]
    simp [same]

theorem share_release_if_unused (repository : DynamicRepository) (freed sought : Handle)
    (keeper : Keeper) :
    (repository.releaseIfUnused freed).share sought keeper = repository.share sought keeper := by
  cases left : (repository.releaseIfUnused freed).entries.find? sought with
  | some entry =>
      have before := ((find_release_if_unused repository freed sought entry).1 left).1
      rw [share_live left, share_live before]
  | none =>
      cases found : repository.entries.find? sought with
      | none => rw [share, share, left, found]
      | some entry =>
          have unused : entry.isUnused = true := by
            by_contra used
            have kept := (find_release_if_unused repository freed sought entry).2
              ⟨found, fun _ => by simpa using used⟩
            rw [left] at kept
            cases kept
          rw [share, left, share_live found, unused_share unused]
          rfl

theorem Settled.inspect_live (settled : repository.Settled) {entry : HandleEntry}
    (found : repository.entries.find? handle = some entry) :
    repository.inspect handle = .ok entry.id :=
  inspect_eq_ok.2 ⟨settled.usable, entry, found, rfl⟩

/-- Entries with the same name and shares are the same, as no holder is counted zero times. -/
theorem entry_ext {left right : HandleEntry} (ids : left.id = right.id)
    (countedLeft : left.Counted) (countedRight : right.Counted)
    (shares : ∀ keeper, left.share keeper = right.share keeper) : left = right := by
  have within : ∀ {one other : HandleEntry}, one.Counted →
      (∀ client, one.holds client = other.holds client) → ∀ client count,
        one.holders.find? client = some count → other.holders.find? client = some count := by
    intro one other counted same client count held
    have positive := counted client count held
    have both := same client
    rw [HandleEntry.holds, HandleEntry.holds, held] at both
    cases found : other.holders.find? client with
    | none =>
        rw [found] at both
        simp only [Option.getD_some, Option.getD_none] at both
        omega
    | some number =>
        rw [found] at both
        exact congrArg some both.symm
  have holders : left.holders = right.holders := by
    apply Catalog.ext_find
    intro client
    apply Option.ext
    intro count
    exact ⟨within countedLeft (fun name => shares (.client name)) client count,
      within countedRight (fun name => (shares (.client name)).symm) client count⟩
  have references : left.references = right.references := shares .service
  cases left
  cases right
  dsimp only at ids holders references
  subst ids holders references
  rfl

end DynamicRepository

namespace Repository

/-- The internal references on a handle. A list of names refers to each of its names once. -/
def references (repository : Repository) (handle : Handle) : Nat :=
  match repository with
  | .dynamic repository | .guarded repository _ => repository.share handle .service
  | .fixed repository => if 1 ≤ handle ∧ handle ≤ repository.names.length then 1 else 0

def share (repository : Repository) (handle : Handle) : Keeper → Nat
  | .service => repository.references handle
  | .client name => repository.holds handle name

/-- A repository that lets its handles be held as they are valid, with tables that belong
together. -/
def Accountable : Repository → Prop
  | .dynamic repository => repository.Settled
  | .fixed _ => True
  | .guarded _ _ => False

/-- Repositories of one form that differ in shares only, and in the names that have any. -/
inductive Alike : Repository → Repository → Prop
  | dynamic {before after : DynamicRepository} (kinds : after.kind = before.kind)
      (normalizers : after.normalize = before.normalize) : Alike (.dynamic before) (.dynamic after)
  | fixed {before after : FixedRepository} (alike : before.Alike after) :
      Alike (.fixed before) (.fixed after)

/-- One repository has all that another one has, and some shares more. -/
structure Extends (lower upper : Repository) (more : Handle → Keeper → Nat) : Prop where
  alike : lower.Alike upper
  shares : ∀ handle keeper, upper.share handle keeper = lower.share handle keeper + more handle keeper
  names : ∀ handle id, lower.inspect handle = .ok id → upper.inspect handle = .ok id

theorem dynamic_share (repository : DynamicRepository) (handle : Handle) (keeper : Keeper) :
    (Repository.dynamic repository).share handle keeper = repository.share handle keeper := by
  cases keeper with
  | service => rfl
  | client name =>
      change repository.holds handle name = _
      unfold DynamicRepository.holds DynamicRepository.share
      cases repository.entries.find? handle <;> rfl

variable {repository before after next : Repository} {handle : Handle} {client : String}

theorem Alike.symm (alike : before.Alike after) : after.Alike before := by
  cases alike with
  | dynamic kinds normalizers => exact .dynamic kinds.symm normalizers.symm
  | fixed alike => exact .fixed ⟨alike.names.symm, alike.kinds.symm, alike.invalid.symm⟩

theorem Alike.trans (first : repository.Alike before) (second : before.Alike after) :
    repository.Alike after := by
  cases first with
  | dynamic kinds normalizers =>
      cases second with
      | dynamic laterKinds laterNormalizers =>
          exact .dynamic (laterKinds.trans kinds) (laterNormalizers.trans normalizers)
  | fixed alike =>
      cases second with
      | fixed later =>
          exact .fixed ⟨later.names.trans alike.names, later.kinds.trans alike.kinds,
            later.invalid.trans alike.invalid⟩

theorem Accountable.alike (accountable : repository.Accountable) : repository.Alike repository := by
  cases repository with
  | dynamic repository => exact .dynamic rfl rfl
  | fixed repository => exact .fixed ⟨rfl, rfl, rfl⟩
  | guarded repository refused => exact accountable.elim

theorem Accountable.extends_self (accountable : repository.Accountable)
    {none : Handle → Keeper → Nat} (nothing : ∀ handle keeper, none handle keeper = 0) :
    repository.Extends repository none where
  alike := accountable.alike
  shares handle keeper := by rw [nothing, Nat.add_zero]
  names _ _ named := named

theorem Extends.trans {lower middle upper : Repository} {first second both : Handle → Keeper → Nat}
    (low : lower.Extends middle first) (high : middle.Extends upper second)
    (sum : ∀ handle keeper, both handle keeper = first handle keeper + second handle keeper) :
    lower.Extends upper both where
  alike := low.alike.trans high.alike
  shares handle keeper := by
    rw [sum, high.shares, low.shares, Nat.add_assoc]
  names handle id named := high.names handle id (low.names handle id named)

theorem Extends.table_shares {lower upper : DynamicRepository} {more : Handle → Keeper → Nat}
    (extended : Extends (.dynamic lower) (.dynamic upper) more) (handle : Handle) (keeper : Keeper) :
    upper.share handle keeper = lower.share handle keeper + more handle keeper := by
  have shares := extended.shares handle keeper
  rwa [dynamic_share, dynamic_share] at shares

/-- What gives back all shares that were given since leads back to where that began. -/
theorem Extends.cancel {lower upper again : DynamicRepository} {more : Handle → Keeper → Nat}
    (given : Extends (.dynamic lower) (.dynamic upper) more)
    (taken : Extends (.dynamic again) (.dynamic upper) more)
    (settled : lower.Settled) (againSettled : again.Settled) : again = lower := by
  have shares : ∀ handle keeper, again.share handle keeper = lower.share handle keeper := by
    intro handle keeper
    have low := given.table_shares handle keeper
    have high := taken.table_shares handle keeper
    omega
  have live : ∀ handle : Nat, again.IsLive handle ↔ lower.IsLive handle := by
    intro handle
    rw [againSettled.live_iff, settled.live_iff]
    simp only [shares]
  obtain ⟨kinds, normalizers⟩ : again.kind = lower.kind ∧ again.normalize = lower.normalize := by
    cases taken.alike.trans given.alike.symm with
    | dynamic kinds normalizers => exact ⟨kinds.symm, normalizers.symm⟩
  apply settled.eq_of_entries againSettled kinds normalizers
  apply Catalog.ext_find
  intro handle
  cases found : lower.entries.find? handle with
  | none =>
      have dead : ¬ again.IsLive handle := by
        rw [live, DynamicRepository.IsLive, found]
        exact Bool.false_ne_true
      simpa [DynamicRepository.IsLive] using dead
  | some entry =>
      obtain ⟨other, present⟩ := Option.isSome_iff_exists.1
        ((live handle).2 (by rw [DynamicRepository.IsLive, found]; rfl))
      have named := given.names handle entry.id (settled.inspect_live found)
      have namedAgain := taken.names handle other.id (againSettled.inspect_live present)
      have ids : other.id = entry.id := Except.ok.inj (namedAgain.symm.trans named)
      rw [present, DynamicRepository.entry_ext ids (againSettled.counted handle other present)
        (settled.counted handle entry found)]
      intro keeper
      have same := shares handle keeper
      rwa [DynamicRepository.share_live found, DynamicRepository.share_live present] at same

/-! What one operation gives or takes. -/

theorem dynamic_alike (repository : DynamicRepository) (operation : DynamicRepository.Operation) :
    Alike (.dynamic repository) (.dynamic (repository.perform operation)) :=
  .dynamic (repository.perform_identity operation).1 (repository.perform_identity operation).2

/-- An operation that gives shares ends no handle, so every handle keeps its name. -/
theorem gives {repository : DynamicRepository} (settled : repository.Settled)
    (operation : DynamicRepository.Operation) {more : Handle → Keeper → Nat}
    (shares : ∀ handle keeper, (repository.perform operation).share handle keeper
      = repository.share handle keeper + more handle keeper) :
    Extends (.dynamic repository) (.dynamic (repository.perform operation)) more where
  alike := dynamic_alike repository operation
  shares handle keeper := by rw [dynamic_share, dynamic_share, shares]
  names handle id named := by
    obtain ⟨keeper, positive⟩ := settled.valid_iff.1 (DynamicRepository.valid_of_inspect named)
    have still : (repository.perform operation).isValid handle = true :=
      (settled.perform operation).valid_iff.2 ⟨keeper, by rw [shares]; omega⟩
    exact perform_inspect (.inr settled) operation named still

theorem takes {repository : DynamicRepository} (settled : repository.Settled)
    (operation : DynamicRepository.Operation) {less : Handle → Keeper → Nat}
    (shares : ∀ handle keeper, repository.share handle keeper
      = (repository.perform operation).share handle keeper + less handle keeper) :
    Extends (.dynamic (repository.perform operation)) (.dynamic repository) less where
  alike := (dynamic_alike repository operation).symm
  shares handle keeper := by rw [dynamic_share, dynamic_share, shares]
  names handle id named := by
    have valid := DynamicRepository.valid_of_inspect named
    obtain ⟨keeper, positive⟩ := (settled.perform operation).valid_iff.1 valid
    have before : repository.isValid handle = true :=
      settled.valid_iff.2 ⟨keeper, by rw [shares]; omega⟩
    obtain ⟨old, stood⟩ := DynamicRepository.inspect_of_valid before
    have kept := perform_inspect (.inr settled) operation stood valid
    change (repository.perform operation).inspect handle = .ok id at named
    rw [named] at kept
    rw [Except.ok.inj kept]
    exact stood

theorem settled_intern {repository next : DynamicRepository} (settled : repository.Settled)
    {id : String} (done : repository.intern id = .ok (handle, next)) :
    next.Settled ∧ Extends (.dynamic repository) (.dynamic next) (occurrences [handle] .service) := by
  have performed := DynamicRepository.perform_intern done
  have shares : ∀ sought keeper, next.share sought keeper
      = repository.share sought keeper + occurrences [handle] .service sought keeper := by
    intro sought keeper
    obtain ⟨_, normal, _, ⟨entry, _, found, same⟩ | ⟨_, allocated, taken, same⟩⟩ :=
      DynamicRepository.intern_eq_ok done
    · rw [same]
      apply DynamicRepository.share_set_entry found
      intro owner
      cases owner <;> simp [HandleEntry.share, HandleEntry.holds]
    · have dead := settled.allocate_dead taken
      rw [same, DynamicRepository.allocate_rest taken, occurrences_single, DynamicRepository.share,
        Catalog.find_insert]
      by_cases fresh : sought = handle
      · rw [if_pos fresh, fresh, DynamicRepository.share, dead]
        cases keeper <;> simp [HandleEntry.share, HandleEntry.holds]
      · rw [if_neg fresh]
        simp [fresh, DynamicRepository.share]
  rw [← performed] at shares ⊢
  exact ⟨settled.perform _, gives settled _ shares⟩

theorem settled_drop {repository : DynamicRepository} (settled : repository.Settled)
    (referenced : 0 < repository.share handle .service) :
    ∃ next, repository.dropReference handle = .ok next ∧ next.Settled ∧
      Extends (.dynamic next) (.dynamic repository) (occurrences [handle] .service) := by
  obtain ⟨entry, found⟩ := Option.isSome_iff_exists.1 (settled.live_iff.2 ⟨.service, referenced⟩)
  rw [DynamicRepository.share_live found] at referenced
  have counted : entry.references ≠ 0 := Nat.pos_iff_ne_zero.1 referenced
  obtain ⟨next, done⟩ : ∃ next, repository.dropReference handle = .ok next := by
    rw [DynamicRepository.dropReference,
      DynamicRepository.entry_eq_ok.2 ⟨settled.usable, found⟩]
    exact ⟨_, if_neg counted⟩
  have performed := DynamicRepository.perform_drop done
  have shares : ∀ sought keeper, repository.share sought keeper
      = next.share sought keeper + occurrences [handle] .service sought keeper := by
    intro sought keeper
    obtain ⟨present, known, _, same⟩ := DynamicRepository.drop_reference_eq_ok done
    rw [found] at known
    cases known
    rw [same, DynamicRepository.share_release_if_unused]
    apply DynamicRepository.share_set_entry_less found
    intro owner
    cases owner with
    | service =>
        simp only [HandleEntry.share, if_true]
        omega
    | client name => rfl
  refine ⟨next, done, ?_⟩
  rw [← performed] at shares ⊢
  exact ⟨settled.perform _, takes settled _ shares⟩

theorem settled_hold {repository : DynamicRepository} (settled : repository.Settled)
    (valid : repository.isValid handle = true) (client : String) :
    ∃ next, repository.hold handle client = .ok next ∧ next.Settled ∧
      Extends (.dynamic repository) (.dynamic next) (occurrences [handle] (.client client)) := by
  obtain ⟨entry, found⟩ := Option.isSome_iff_exists.1 (Bool.and_eq_true_iff.1 valid).2
  obtain ⟨next, done⟩ : ∃ next, repository.hold handle client = .ok next := by
    rw [DynamicRepository.hold, DynamicRepository.entry_eq_ok.2 ⟨settled.usable, found⟩]
    exact ⟨_, rfl⟩
  have performed := DynamicRepository.perform_hold done
  have shares : ∀ sought keeper, next.share sought keeper
      = repository.share sought keeper + occurrences [handle] (.client client) sought keeper := by
    intro sought keeper
    obtain ⟨present, known, same⟩ := DynamicRepository.hold_eq_ok done
    rw [found] at known
    cases known
    rw [same]
    apply DynamicRepository.share_set_entry found
    intro owner
    cases owner with
    | service => rfl
    | client name =>
        rw [HandleEntry.share, HandleEntry.holds, HandleEntry.heldOnce, Catalog.find_insert]
        by_cases holder : name = client
        · simp [holder, HandleEntry.share]
        · simp [holder, HandleEntry.share, HandleEntry.holds]
  refine ⟨next, done, ?_⟩
  rw [← performed] at shares ⊢
  exact ⟨settled.perform _, gives settled _ shares⟩

theorem settled_release {repository : DynamicRepository} (settled : repository.Settled)
    (held : 0 < repository.share handle (.client client)) :
    ∃ next, repository.release handle client = .ok next ∧ next.Settled ∧
      Extends (.dynamic next) (.dynamic repository) (occurrences [handle] (.client client)) := by
  obtain ⟨entry, found⟩ :=
    Option.isSome_iff_exists.1 (settled.live_iff.2 ⟨.client client, held⟩)
  rw [DynamicRepository.share_live found, HandleEntry.share, HandleEntry.holds] at held
  cases counts : entry.holders.find? client with
  | none =>
      rw [counts] at held
      exact absurd held (Nat.lt_irrefl 0)
  | some count =>
  obtain ⟨next, done⟩ : ∃ next, repository.release handle client = .ok next := by
    rw [DynamicRepository.release, DynamicRepository.entry_eq_ok.2 ⟨settled.usable, found⟩]
    dsimp only [bind, Except.bind]
    rw [counts]
    exact ⟨_, rfl⟩
  have performed := DynamicRepository.perform_release done
  have shares : ∀ sought keeper, repository.share sought keeper
      = next.share sought keeper + occurrences [handle] (.client client) sought keeper := by
    intro sought keeper
    obtain ⟨present, number, known, counted, same⟩ := DynamicRepository.release_eq_ok done
    rw [found] at known
    cases known
    rw [counts] at counted
    cases counted
    have positive := settled.counted handle entry found client count counts
    rw [same, DynamicRepository.share_release_if_unused]
    apply DynamicRepository.share_set_entry_less found
    intro owner
    cases owner with
    | service => rfl
    | client name =>
        rw [HandleEntry.share, HandleEntry.share, HandleEntry.holds, HandleEntry.holds,
          HandleEntry.releasedOnce, HandleEntry.find_less_held]
        by_cases holder : name = client
        · rw [holder, if_pos rfl, counts]
          by_cases last : count ≤ 1
          · simp [last]
            omega
          · simp [last]
            omega
        · simp [holder]
  refine ⟨next, done, ?_⟩
  rw [← performed] at shares ⊢
  exact ⟨settled.perform _, takes settled _ shares⟩

theorem fixed_extends {lower upper : FixedRepository} (alike : lower.Alike upper)
    (holds : ∀ sought name, upper.holds sought name
      = lower.holds sought name + if sought = handle ∧ name = client then 1 else 0) :
    Extends (.fixed lower) (.fixed upper) (occurrences [handle] (.client client)) where
  alike := .fixed alike
  shares sought keeper := by
    rw [occurrences_single]
    cases keeper with
    | service => simp [share, references, alike.names]
    | client name =>
        simp only [Keeper.client.injEq]
        exact holds sought name
  names sought id named := (alike.inspect_eq sought).trans named

theorem fixed_hold_extends {repository : FixedRepository}
    (valid : repository.isValid handle = true) (client : String) :
    ∃ next, repository.hold handle client = .ok next ∧
      Extends (.fixed repository) (.fixed next) (occurrences [handle] (.client client)) := by
  obtain ⟨next, done⟩ : ∃ next, repository.hold handle client = .ok next := by
    rw [FixedRepository.hold, FixedRepository.check_eq_ok.2 valid]
    exact ⟨_, rfl⟩
  refine ⟨next, done, fixed_extends (FixedRepository.hold_alike done) ?_⟩
  obtain ⟨_, rfl⟩ := FixedRepository.hold_eq_ok done
  intro sought name
  rw [FixedRepository.holds, Catalog.find_insert]
  by_cases same : sought = handle ∧ name = client
  · rw [if_pos same, if_pos (by rw [same.1, same.2]), same.1, same.2]
    rfl
  · rw [if_neg same, if_neg (by simpa using same)]
    rfl

theorem fixed_release_extends {repository : FixedRepository}
    (valid : repository.isValid handle = true) (held : 0 < repository.holds handle client) :
    ∃ next, repository.release handle client = .ok next ∧
      Extends (.fixed next) (.fixed repository) (occurrences [handle] (.client client)) := by
  cases found : repository.holders.find? ⟨handle, client⟩ with
  | none =>
      rw [FixedRepository.holds, found] at held
      exact absurd held (Nat.lt_irrefl 0)
  | some count =>
  have counts : repository.holds handle client = count := by rw [FixedRepository.holds, found]; rfl
  obtain ⟨next, done⟩ : ∃ next, repository.release handle client = .ok next := by
    rw [FixedRepository.release, FixedRepository.check_eq_ok.2 valid]
    dsimp only [bind, Except.bind]
    rw [found]
    exact ⟨_, rfl⟩
  have alike := FixedRepository.release_alike done
  refine ⟨next, done, fixed_extends ⟨alike.names.symm, alike.kinds.symm, alike.invalid.symm⟩ ?_⟩
  obtain ⟨number, again, rfl⟩ := FixedRepository.release_eq_ok done
  cases found.symm.trans again
  intro sought name
  by_cases same : sought = handle ∧ name = client
  · obtain ⟨rfl, rfl⟩ := same
    rw [counts] at held ⊢
    rw [if_pos (And.intro rfl rfl), FixedRepository.holds]
    split
    · rw [Catalog.find_erase, if_pos rfl]
      change count = 0 + 1
      omega
    · rw [Catalog.find_insert, if_pos rfl]
      change count = count - 1 + 1
      omega
  · have other : (⟨sought, name⟩ : HoldKey) ≠ ⟨handle, client⟩ := by simpa using same
    rw [if_neg same, FixedRepository.holds, FixedRepository.holds]
    split
    · rw [Catalog.find_erase, if_neg other]
      rfl
    · rw [Catalog.find_insert, if_neg other]
      rfl

/-! The same for repositories of either form. -/

theorem Accountable.hold (accountable : repository.Accountable)
    (valid : repository.isValid handle = true) (client : String) :
    ∃ next, repository.hold handle client = .ok next ∧ next.Accountable ∧
      repository.Extends next (occurrences [handle] (.client client)) := by
  cases repository with
  | dynamic repository =>
      obtain ⟨next, done, settled, extended⟩ := settled_hold accountable valid client
      exact ⟨.dynamic next, by rw [Repository.hold, done]; rfl, settled, extended⟩
  | fixed repository =>
      obtain ⟨next, done, extended⟩ := fixed_hold_extends valid client
      exact ⟨.fixed next, by rw [Repository.hold, done]; rfl, trivial, extended⟩
  | guarded repository refused => exact accountable.elim

theorem Accountable.release (accountable : repository.Accountable)
    (valid : repository.isValid handle = true)
    (held : 0 < repository.share handle (.client client)) :
    ∃ next, repository.release handle client = .ok next ∧ next.Accountable ∧
      next.Extends repository (occurrences [handle] (.client client)) := by
  cases repository with
  | dynamic repository =>
      rw [dynamic_share] at held
      obtain ⟨next, done, settled, extended⟩ := settled_release accountable held
      exact ⟨.dynamic next, by rw [Repository.release, done]; rfl, settled, extended⟩
  | fixed repository =>
      obtain ⟨next, done, extended⟩ := fixed_release_extends valid held
      exact ⟨.fixed next, by rw [Repository.release, done]; rfl, trivial, extended⟩
  | guarded repository refused => exact accountable.elim

theorem Accountable.valid_iff (accountable : after.Accountable) (alike : before.Alike after)
    (valid : before.isValid handle = true) :
    after.isValid handle = true ↔ ∃ keeper, 0 < after.share handle keeper := by
  cases alike with
  | @dynamic before after _ _ =>
      simp only [dynamic_share]
      exact DynamicRepository.Settled.valid_iff accountable
  | @fixed before after alike =>
      have still : after.isValid handle = true := by
        change before.isValid handle = true at valid
        rw [← valid, FixedRepository.isValid, FixedRepository.isValid, alike.names, alike.invalid]
      have listed : 1 ≤ handle ∧ handle ≤ after.names.length := by
        simp only [FixedRepository.isValid, Bool.and_eq_true, decide_eq_true_eq] at still
        exact ⟨still.1.2, still.2⟩
      constructor
      · intro _
        refine ⟨.service, ?_⟩
        rw [share, references, if_pos listed]
        exact Nat.one_pos
      · intro _
        exact still

theorem inspect_of_valid (valid : repository.isValid handle = true) :
    ∃ id, repository.inspect handle = .ok id := by
  cases repository with
  | dynamic repository | guarded repository _ => exact DynamicRepository.inspect_of_valid valid
  | fixed repository =>
      change ∃ id, repository.inspect handle = .ok id
      rw [FixedRepository.inspect, FixedRepository.check_eq_ok.2 valid]
      exact ⟨_, rfl⟩

end Repository

end ConnectionManager
