import ConnectionManager.Handle.Dynamic
import ConnectionManager.Proofs.Catalog
import Mathlib.Data.Nat.Find

/-!
The numbers that a repository has in use. Live and free numbers together are always the numbers
below the cursor, and the number directly below the cursor is live. Such a numbering is determined
by its live numbers (`Numbering.unique`), and the next number taken is the least one that is not
live (`allocate_least`).
-/

namespace ConnectionManager

namespace HandleSet

theorem contains_insert (set : HandleSet) (handle sought : Nat) :
    Catalog.contains (Catalog.insert set handle ()) sought = true ↔
      sought = handle ∨ Catalog.contains set sought = true :=
  Catalog.contains_insert set handle sought ()

theorem contains_erase (set : HandleSet) (handle sought : Nat) :
    Catalog.contains (Catalog.erase set handle) sought = true ↔
      sought ≠ handle ∧ Catalog.contains set sought = true :=
  Catalog.contains_erase set handle sought

end HandleSet

/-- The free numbers and the cursor belong to a set of live numbers. -/
structure Numbering (live : Nat → Prop) (free : HandleSet) (next : Nat) : Prop where
  apart : ∀ handle : Nat, live handle → free.contains handle = false
  covered : ∀ handle : Nat, live handle ∨ free.contains handle = true ↔ 1 ≤ handle ∧ handle < next
  topped : next = 1 ∨ live (next - 1)
  bounded : next < Handle.limit

/-- What lowering a cursor does: it passes free numbers only, and takes those out. -/
structure Lowered (free : HandleSet) (cursor : Nat) (lowered : HandleSet × Nat) : Prop where
  bounded : lowered.2 ≤ cursor
  kept : ∀ handle : Nat, lowered.1.contains handle = true ↔
    free.contains handle = true ∧ handle < lowered.2
  passed : ∀ handle : Nat, lowered.2 ≤ handle → handle < cursor → free.contains handle = true
  stopped : lowered.2 ≤ 1 ∨ free.contains (lowered.2 - 1) = false

theorem Lowered.same {free : HandleSet} {cursor : Nat}
    (below : ∀ handle : Nat, free.contains handle = true → handle < cursor)
    (stopped : cursor ≤ 1 ∨ free.contains (cursor - 1) = false) :
    Lowered free cursor (free, cursor) where
  bounded := Nat.le_refl cursor
  kept handle := ⟨fun unused => ⟨unused, below handle unused⟩, And.left⟩
  passed handle above under := by
    change cursor ≤ handle at above
    omega
  stopped := stopped

/-- The least positive number that is not live. -/
structure LeastUnused (live : Nat → Prop) (handle : Nat) : Prop where
  positive : 1 ≤ handle
  unused : ¬ live handle
  least : ∀ other : Nat, 1 ≤ other → other < handle → live other

theorem LeastUnused.unique {live : Nat → Prop} {left right : Nat}
    (least : LeastUnused live left) (other : LeastUnused live right) : left = right := by
  rcases Nat.lt_trichotomy left right with below | same | above
  · exact absurd (other.least left least.positive below) least.unused
  · exact same
  · exact absurd (least.least right other.positive above) other.unused

namespace Numbering

variable {live : Nat → Prop} {free : HandleSet} {next : Nat}

theorem empty : Numbering (fun _ => False) .empty 1 where
  apart := by
    intro handle alive
    exact alive.elim
  covered := by
    intro handle
    simp only [Catalog.contains, Catalog.find_empty, Option.isSome_none, Bool.false_eq_true,
      or_self, false_iff]
    omega
  topped := .inl rfl
  bounded := by decide

theorem of_live_iff {other : Nat → Prop} (numbering : Numbering live free next)
    (same : ∀ handle : Nat, live handle ↔ other handle) : Numbering other free next := by
  have equal : live = other := funext fun handle => propext (same handle)
  exact equal ▸ numbering

theorem next_positive (numbering : Numbering live free next) : 1 ≤ next := by
  rcases numbering.topped with first | top
  · omega
  · have bounds := (numbering.covered (next - 1)).1 (.inl top)
    omega

theorem live_below (numbering : Numbering live free next) {handle : Nat}
    (alive : live handle) : 1 ≤ handle ∧ handle < next :=
  (numbering.covered handle).1 (.inl alive)

theorem free_below (numbering : Numbering live free next) {handle : Nat}
    (unused : free.contains handle = true) : 1 ≤ handle ∧ handle < next :=
  (numbering.covered handle).1 (.inr unused)

theorem not_free (numbering : Numbering live free next) {handle : Nat} (alive : live handle) :
    ¬ free.contains handle = true := by
  rw [numbering.apart handle alive]
  exact Bool.false_ne_true

theorem next_le {otherFree : HandleSet} {otherNext : Nat}
    (numbering : Numbering live free next) (other : Numbering live otherFree otherNext) :
    next ≤ otherNext := by
  rcases numbering.topped with first | top
  · have positive := other.next_positive
    omega
  · have bounds := other.live_below top
    omega

/-- The live numbers alone decide which numbers are free and where the cursor is. -/
theorem unique {otherFree : HandleSet} {otherNext : Nat}
    (numbering : Numbering live free next) (other : Numbering live otherFree otherNext) :
    free = otherFree ∧ next = otherNext := by
  have cursors : next = otherNext :=
    Nat.le_antisymm (numbering.next_le other) (other.next_le numbering)
  subst cursors
  refine ⟨?_, rfl⟩
  have within : ∀ {first second : HandleSet}, Numbering live first next →
      Numbering live second next → ∀ handle : Nat, first.contains handle = true →
        second.contains handle = true := by
    intro first second left right handle unused
    rcases (right.covered handle).2 (left.free_below unused) with alive | found
    · exact absurd unused (left.not_free alive)
    · exact found
  apply Catalog.ext_find
  intro handle
  have both : free.contains handle = otherFree.contains handle :=
    Bool.eq_iff_iff.2 ⟨within numbering other handle, within other numbering handle⟩
  unfold Catalog.contains at both
  cases left : free.find? handle <;> cases right : otherFree.find? handle <;>
    simp_all

/-- The live number directly below the cursor is let go; the cursor passes the free numbers below. -/
theorem lower {handle : Nat} {lowered : HandleSet × Nat}
    (numbering : Numbering live free (handle + 1)) (alive : live handle)
    (passing : Lowered free handle lowered) :
    Numbering (fun other : Nat => live other ∧ other ≠ handle) lowered.1 lowered.2 := by
  obtain ⟨rest, next⟩ := lowered
  obtain ⟨bounded, kept, passed, stopped⟩ := passing
  dsimp only at bounded kept passed stopped ⊢
  have bounds := numbering.live_below alive
  refine ⟨?_, ?_, ?_, Nat.lt_of_le_of_lt (by omega) numbering.bounded⟩
  · rintro other ⟨otherAlive, _⟩
    rw [Bool.eq_false_iff]
    intro found
    exact numbering.not_free otherAlive ((kept other).1 found).1
  · intro other
    constructor
    · rintro (⟨otherAlive, different⟩ | found)
      · have bound := numbering.live_below otherAlive
        refine ⟨bound.1, ?_⟩
        rcases Nat.lt_or_ge other next with below | beyond
        · exact below
        · exact absurd (passed other beyond (by omega)) (numbering.not_free otherAlive)
      · have left := (kept other).1 found
        exact ⟨(numbering.free_below left.1).1, left.2⟩
    · rintro ⟨positive, bound⟩
      rcases (numbering.covered other).2 ⟨positive, by omega⟩ with otherAlive | found
      · exact .inl ⟨otherAlive, by omega⟩
      · exact .inr ((kept other).2 ⟨found, bound⟩)
  · by_cases bottom : next ≤ 1
    · left
      rcases Nat.eq_zero_or_pos next with zero | positive
      · have bound := numbering.free_below (passed 0 (by omega) (by omega))
        omega
      · omega
    · right
      have stop := stopped.resolve_left bottom
      rcases (numbering.covered (next - 1)).2 ⟨by omega, by omega⟩ with alive | found
      · exact ⟨alive, by omega⟩
      · rw [stop] at found
        cases found

theorem set_free {handle : Nat}
    (numbering : Numbering live free next) (alive : live handle) (inside : handle + 1 ≠ next) :
    Numbering (fun other : Nat => live other ∧ other ≠ handle) (free.insert handle ()) next := by
  refine ⟨?_, ?_, ?_, numbering.bounded⟩
  · rintro other ⟨otherAlive, different⟩
    rw [Bool.eq_false_iff]
    intro found
    rcases (HandleSet.contains_insert _ _ _).1 found with same | unused
    · exact different same
    · exact numbering.not_free otherAlive unused
  · intro other
    rw [HandleSet.contains_insert, ← numbering.covered other]
    by_cases same : other = handle
    · simp [same, alive]
    · simp [same]
  · have bounds := numbering.live_below alive
    rcases numbering.topped with first | top
    · omega
    · exact .inr ⟨top, by omega⟩

theorem take_free {handle : Nat}
    (numbering : Numbering live free next) (head : free.first? = some (handle, ())) :
    LeastUnused live handle ∧
      Numbering (fun other : Nat => live other ∨ other = handle) (free.erase handle) next := by
  have least := Catalog.first_least head
  have unused : free.contains handle = true := by simp [Catalog.contains, least.1]
  have bounds := numbering.free_below unused
  have dead : ¬ live handle := by
    intro alive
    exact numbering.not_free alive unused
  refine ⟨⟨bounds.1, dead, ?_⟩, ⟨?_, ?_, ?_, numbering.bounded⟩⟩
  · intro other positive below
    rcases (numbering.covered other).2 ⟨positive, by omega⟩ with alive | found
    · exact alive
    · rcases least.2 other found with same | above
      · exact absurd same (Nat.ne_of_lt below)
      · have order := Nat.compare_eq_lt.1 above
        omega
  · intro other alive
    rw [Bool.eq_false_iff]
    intro found
    have left := (HandleSet.contains_erase _ _ _).1 found
    rcases alive with alive | same
    · exact numbering.not_free alive left.2
    · exact left.1 same
  · intro other
    rw [HandleSet.contains_erase, ← numbering.covered other]
    by_cases same : other = handle
    · simp [same, unused]
    · simp [same]
  · rcases numbering.topped with first | top
    · exact .inl first
    · exact .inr (.inl top)

theorem take_next (numbering : Numbering live free next) (none : free.first? = none)
    (room : next + 1 ≠ Handle.limit) :
    LeastUnused live next ∧
      Numbering (fun other : Nat => live other ∨ other = next) free (next + 1) := by
  have noneFree : ∀ other, free.contains other = false := by
    intro other
    simp [Catalog.contains, Catalog.first_eq_none none other]
  have below : ∀ other, live other ↔ 1 ≤ other ∧ other < next := by
    intro other
    rw [← numbering.covered other]
    simp [noneFree other]
  refine ⟨⟨numbering.next_positive, ?_, ?_⟩,
    ⟨?_, ?_, ?_, Nat.lt_of_le_of_ne numbering.bounded room⟩⟩
  · intro alive
    have bounds := (below _).1 alive
    omega
  · intro other first bound
    exact (below other).2 ⟨first, bound⟩
  · intro other _
    exact noneFree other
  · intro other
    have positive := numbering.next_positive
    simp only [noneFree other, Bool.false_eq_true, or_false, below other]
    omega
  · right
    simp

end Numbering

namespace DynamicRepository

theorem lower_cursor_lowered (free : HandleSet) (cursor : Nat)
    (below : ∀ handle : Nat, free.contains handle = true → handle < cursor) :
    Lowered free cursor (lowerCursor free cursor) := by
  -- The cursor stops at once, or takes one number out and goes on; only then is there more to say.
  fun_induction lowerCursor free cursor with
  | case1 => exact Lowered.same below (.inl (by omega))
  | case2 => exact Lowered.same below (.inl (by omega))
  | case3 free under unused induction =>
      have lowered := induction (by
        intro handle left
        rw [HandleSet.contains_erase] at left
        have bound := below handle left.2
        omega)
      have bounded := lowered.bounded
      refine ⟨by omega, ?_, ?_, ?_⟩
      · intro handle
        rw [lowered.kept handle, HandleSet.contains_erase]
        constructor
        · rintro ⟨⟨_, found⟩, bound⟩
          exact ⟨found, bound⟩
        · rintro ⟨found, bound⟩
          exact ⟨⟨by omega, found⟩, bound⟩
      · intro handle above bound
        by_cases top : handle = under + 1
        · subst top
          exact unused
        · have passed := lowered.passed handle above (by omega)
          exact ((HandleSet.contains_erase _ _ _).1 passed).2
      · rcases lowered.stopped with bottom | stop
        · exact .inl bottom
        · right
          rw [Bool.eq_false_iff] at stop ⊢
          intro found
          exact stop ((HandleSet.contains_erase _ _ _).2 ⟨by omega, found⟩)
  | case4 free under used => exact Lowered.same below (.inr (Bool.eq_false_iff.2 used))

section GiveBack

variable (repository : DynamicRepository) (handle : Nat)

@[simp]
theorem give_back_entries : (repository.giveBack handle).entries = repository.entries := by
  unfold giveBack
  split <;> rfl

@[simp]
theorem give_back_by_id : (repository.giveBack handle).byId = repository.byId := by
  unfold giveBack
  split <;> rfl

@[simp]
theorem give_back_invalid : (repository.giveBack handle).invalid = repository.invalid := by
  unfold giveBack
  split <;> rfl

@[simp]
theorem give_back_kind : (repository.giveBack handle).kind = repository.kind := by
  unfold giveBack
  split <;> rfl

@[simp]
theorem give_back_normalize : (repository.giveBack handle).normalize = repository.normalize := by
  unfold giveBack
  split <;> rfl

end GiveBack

/-- Giving a number back takes it from the live ones, whether or not it was the greatest. -/
theorem give_back_numbering {live : Nat → Prop} {repository : DynamicRepository}
    {handle : Nat} (numbering : Numbering live repository.free repository.next)
    (alive : live handle) :
    Numbering (fun other : Nat => live other ∧ other ≠ handle)
      (repository.giveBack handle).free (repository.giveBack handle).next := by
  unfold giveBack
  split
  · rename_i atTop
    have top : repository.next = (handle + 1 : Nat) := atTop.symm
    rw [top] at numbering
    have below : ∀ other : Nat, repository.free.contains other = true → other < handle := by
      intro other unused
      have bound := numbering.free_below unused
      have different : other ≠ handle := by
        rintro rfl
        exact numbering.not_free alive unused
      omega
    have lowered := lower_cursor_lowered repository.free handle below
    exact numbering.lower alive lowered
  · rename_i notTop
    exact numbering.set_free alive notTop

theorem allocate_rest {repository allocated : DynamicRepository} {handle : Nat}
    (taken : repository.allocate = .ok (handle, allocated)) :
    allocated = { repository with free := allocated.free, next := allocated.next } := by
  unfold allocate at taken
  split at taken
  · cases taken
    rfl
  · split at taken
    · cases taken
    · cases taken
      rfl

/-- An allocated number is the least unused one, and becomes live. -/
theorem allocate_least {live : Nat → Prop} {repository allocated : DynamicRepository}
    {handle : Nat} (numbering : Numbering live repository.free repository.next)
    (taken : repository.allocate = .ok (handle, allocated)) :
    LeastUnused live handle ∧
      Numbering (fun other : Nat => live other ∨ other = handle) allocated.free allocated.next := by
  unfold allocate at taken
  split at taken
  · rename_i head
    cases taken
    exact numbering.take_free head
  · rename_i none
    split at taken
    · cases taken
    · rename_i room
      cases taken
      exact numbering.take_next none room

/-- Allocation takes the least unused number if it fits a handle, and fails otherwise. -/
theorem allocate_of_least {live : Nat → Prop} {repository : DynamicRepository} {handle : Nat}
    (numbering : Numbering live repository.free repository.next)
    (least : LeastUnused live handle) :
    if handle + 1 < Handle.limit then
      ∃ allocated, repository.allocate = .ok (handle, allocated)
    else repository.allocate = .error (HandleFailure.exhausted repository.kind) := by
  cases outcome : repository.allocate with
  | ok taken =>
      obtain ⟨other, allocated⟩ := taken
      obtain ⟨found, taken⟩ := allocate_least numbering outcome
      have same := found.unique least
      subst same
      have below := taken.live_below (.inr rfl)
      have bounded := taken.bounded
      rw [if_pos (by omega)]
      exact ⟨allocated, rfl⟩
  | error failure =>
      unfold allocate at outcome
      split at outcome
      · cases outcome
      · rename_i none
        split at outcome
        · rename_i full
          cases outcome
          have top : Nat.succ repository.next = Handle.limit := full
          rcases Nat.lt_or_ge handle repository.next with below | beyond
          · rcases (numbering.covered handle).2 ⟨least.positive, below⟩ with alive | found
            · exact absurd alive least.unused
            · simp [Catalog.contains, Catalog.first_eq_none none handle] at found
          · rw [if_neg (by omega)]
        · cases outcome

/-- There always is a least unused number, at or below the cursor. -/
theorem exists_least_unused {live : Nat → Prop} {free : HandleSet} {next : Nat}
    (numbering : Numbering live free next) : ∃ handle, LeastUnused live handle := by
  classical
  have some : ∃ handle, 1 ≤ handle ∧ ¬ live handle := by
    refine ⟨next, numbering.next_positive, ?_⟩
    intro alive
    have bounds := numbering.live_below alive
    omega
  obtain ⟨positive, unused⟩ := Nat.find_spec some
  refine ⟨Nat.find some, positive, unused, ?_⟩
  intro other first below
  have earlier := Nat.find_min some below
  by_cases alive : live other
  · exact alive
  · exact absurd ⟨first, alive⟩ earlier

end DynamicRepository

end ConnectionManager
