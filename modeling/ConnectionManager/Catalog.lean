/-!
Finite maps kept in ascending key order. The list of entries decides everything: iteration runs
in key order, and two catalogues with the same look-ups are equal (`ext_find`).
-/

namespace ConnectionManager

namespace Entries

variable {κ ν : Type} [Ord κ]

def find? (key : κ) : List (κ × ν) → Option ν
  | [] => none
  | (other, value) :: rest => if compare key other = .eq then some value else find? key rest

def insert (key : κ) (value : ν) : List (κ × ν) → List (κ × ν)
  | [] => [(key, value)]
  | (other, old) :: rest =>
      match compare key other with
      | .lt => (key, value) :: (other, old) :: rest
      | .eq => (key, value) :: rest
      | .gt => (other, old) :: insert key value rest

def erase (key : κ) (entries : List (κ × ν)) : List (κ × ν) :=
  entries.filter fun entry => compare key entry.1 != .eq

def Ascending (entries : List (κ × ν)) : Prop :=
  entries.Pairwise fun left right => compare left.1 right.1 = .lt

theorem mem_insert {key : κ} {value : ν} {entries : List (κ × ν)} {entry : κ × ν}
    (member : entry ∈ insert key value entries) : entry = (key, value) ∨ entry ∈ entries := by
  induction entries with
  | nil => simpa [insert] using member
  | cons head rest induction =>
      obtain ⟨other, old⟩ := head
      rw [insert] at member
      split at member
      · simpa using member
      · simp only [List.mem_cons] at member ⊢
        rcases member with equal | member
        · exact .inl equal
        · exact .inr (.inr member)
      · simp only [List.mem_cons] at member ⊢
        rcases member with equal | member
        · exact .inr (.inl equal)
        · rcases induction member with equal | member
          · exact .inl equal
          · exact .inr (.inr member)

theorem ascending_insert [Std.TransOrd κ] (key : κ) (value : ν) {entries : List (κ × ν)}
    (ascending : Ascending entries) : Ascending (insert key value entries) := by
  induction entries with
  | nil => simp [insert, Ascending]
  | cons head rest induction =>
      obtain ⟨other, old⟩ := head
      unfold Ascending at ascending
      rw [List.pairwise_cons] at ascending
      rw [insert]
      split
      · rename_i below
        refine List.pairwise_cons.2 ⟨?_, List.pairwise_cons.2 ascending⟩
        intro entry member
        rcases List.mem_cons.1 member with equal | member
        · subst equal; exact below
        · exact Std.TransCmp.lt_trans below (ascending.1 entry member)
      · rename_i same
        refine List.pairwise_cons.2 ⟨?_, ascending.2⟩
        intro entry member
        have after := ascending.1 entry member
        exact Std.TransCmp.lt_of_eq_of_lt same after
      · rename_i above
        refine List.pairwise_cons.2 ⟨?_, induction ascending.2⟩
        intro entry member
        rcases mem_insert member with equal | member
        · subst equal; exact Std.OrientedCmp.lt_of_gt above
        · exact ascending.1 entry member

theorem ascending_erase (key : κ) {entries : List (κ × ν)} (ascending : Ascending entries) :
    Ascending (erase key entries) :=
  ascending.sublist List.filter_sublist

theorem find_insert [Std.TransOrd κ] [Std.LawfulEqOrd κ] [DecidableEq κ] (key sought : κ)
    (value : ν) (entries : List (κ × ν)) :
    find? sought (insert key value entries)
      = if sought = key then some value else find? sought entries := by
  induction entries with
  | nil => simp [insert, find?, Std.LawfulEqCmp.compare_eq_iff_eq]
  | cons head rest induction =>
      obtain ⟨other, old⟩ := head
      rw [insert]
      split
      · simp [find?, Std.LawfulEqCmp.compare_eq_iff_eq]
      · rename_i same
        have equal : key = other := Std.LawfulEqCmp.compare_eq_iff_eq.1 same
        subst equal
        by_cases found : sought = key <;>
          simp [find?, Std.LawfulEqCmp.compare_eq_iff_eq, found]
      · rename_i above
        have different : key ≠ other := by
          intro equal
          subst equal
          simp [Std.ReflCmp.compare_self] at above
        by_cases found : sought = key
        · subst found
          simp [find?, Std.LawfulEqCmp.compare_eq_iff_eq, different, induction]
        · simp [find?, Std.LawfulEqCmp.compare_eq_iff_eq, found, induction]

theorem find_erase [Std.LawfulEqOrd κ] [DecidableEq κ] (key sought : κ)
    (entries : List (κ × ν)) :
    find? sought (erase key entries) = if sought = key then none else find? sought entries := by
  induction entries with
  | nil => simp [erase, find?]
  | cons head rest induction =>
      obtain ⟨other, value⟩ := head
      unfold erase at induction ⊢
      by_cases removed : key = other
      · subst removed
        by_cases found : sought = key
        · subst found
          simpa [find?, Std.ReflCmp.compare_self] using induction
        · simp [find?, Std.LawfulEqCmp.compare_eq_iff_eq, found, induction]
      · by_cases found : sought = key
        · subst found
          simp [find?, Std.LawfulEqCmp.compare_eq_iff_eq, removed, induction]
        · simp [find?, Std.LawfulEqCmp.compare_eq_iff_eq, removed, found, induction]

theorem find_eq_none_of_below {key : κ} {entries : List (κ × ν)}
    (below : ∀ entry ∈ entries, compare key entry.1 = .lt) : find? key entries = none := by
  induction entries with
  | nil => rfl
  | cons head rest induction =>
      obtain ⟨other, value⟩ := head
      have first := below (other, value) (by simp)
      have others := induction fun entry member => below entry (by simp [member])
      simp at first
      simp [find?, first, others]

theorem ext_find [Std.TransOrd κ] [Std.LawfulEqOrd κ] {left right : List (κ × ν)}
    (ascendingLeft : Ascending left) (ascendingRight : Ascending right)
    (same : ∀ key, find? key left = find? key right) : left = right := by
  induction left generalizing right with
  | nil =>
      cases right with
      | nil => rfl
      | cons head rest =>
          have absent := same head.1
          simp [find?, Std.ReflCmp.compare_self] at absent
  | cons head rest induction =>
      obtain ⟨key, value⟩ := head
      cases right with
      | nil =>
          have absent := same key
          simp [find?, Std.ReflCmp.compare_self] at absent
      | cons otherHead otherRest =>
          obtain ⟨other, otherValue⟩ := otherHead
          unfold Ascending at ascendingLeft ascendingRight
          rw [List.pairwise_cons] at ascendingLeft ascendingRight
          have keys : key = other := by
            cases order : compare key other with
            | eq => exact Std.LawfulEqCmp.compare_eq_iff_eq.1 order
            | lt =>
                have absent := same key
                rw [@find_eq_none_of_below κ ν _ key ((other, otherValue) :: otherRest)] at absent
                · simp [find?, Std.ReflCmp.compare_self] at absent
                · intro entry member
                  rcases List.mem_cons.1 member with equal | member
                  · subst equal; exact order
                  · exact Std.TransCmp.lt_trans order (ascendingRight.1 entry member)
            | gt =>
                have absent := same other
                have below : compare other key = .lt := Std.OrientedCmp.lt_of_gt order
                rw [@find_eq_none_of_below κ ν _ other ((key, value) :: rest)] at absent
                · simp [find?, Std.ReflCmp.compare_self] at absent
                · intro entry member
                  rcases List.mem_cons.1 member with equal | member
                  · subst equal; exact below
                  · exact Std.TransCmp.lt_trans below (ascendingLeft.1 entry member)
          subst keys
          have values := same key
          simp only [find?, Std.ReflCmp.compare_self, if_true] at values
          cases values
          rw [induction ascendingLeft.2 ascendingRight.2]
          intro sought
          have agrees := same sought
          by_cases found : compare sought key = .eq
          · have equal : sought = key := Std.LawfulEqCmp.compare_eq_iff_eq.1 found
            subst equal
            rw [find_eq_none_of_below ascendingLeft.1, find_eq_none_of_below ascendingRight.1]
          · simpa [find?, found] using agrees

end Entries

structure Catalog (κ ν : Type) [Ord κ] where
  entries : List (κ × ν)
  ascending : Entries.Ascending entries

namespace Catalog

variable {κ ν μ : Type} [Ord κ]

instance [DecidableEq κ] [DecidableEq ν] : DecidableEq (Catalog κ ν) := fun left right =>
  match left, right with
  | ⟨leftEntries, _⟩, ⟨rightEntries, _⟩ =>
      if equal : leftEntries = rightEntries then isTrue (by subst equal; rfl)
      else isFalse (fun same => equal (congrArg Catalog.entries same))

def empty : Catalog κ ν := ⟨[], .nil⟩

instance : Inhabited (Catalog κ ν) := ⟨empty⟩

def find? (catalog : Catalog κ ν) (key : κ) : Option ν := Entries.find? key catalog.entries

def contains (catalog : Catalog κ ν) (key : κ) : Bool := (catalog.find? key).isSome

def insert [Std.TransOrd κ] (catalog : Catalog κ ν) (key : κ) (value : ν) : Catalog κ ν :=
  ⟨Entries.insert key value catalog.entries, Entries.ascending_insert key value catalog.ascending⟩

def erase (catalog : Catalog κ ν) (key : κ) : Catalog κ ν :=
  ⟨Entries.erase key catalog.entries, Entries.ascending_erase key catalog.ascending⟩

def mapValues (catalog : Catalog κ ν) (change : κ → ν → μ) : Catalog κ μ :=
  ⟨catalog.entries.map fun entry => (entry.1, change entry.1 entry.2), by
    unfold Entries.Ascending
    rw [List.pairwise_map]
    exact catalog.ascending⟩

def filter (catalog : Catalog κ ν) (keep : κ → ν → Bool) : Catalog κ ν :=
  ⟨catalog.entries.filter fun entry => keep entry.1 entry.2,
    catalog.ascending.sublist List.filter_sublist⟩

def keys (catalog : Catalog κ ν) : List κ := catalog.entries.map Prod.fst

def values (catalog : Catalog κ ν) : List ν := catalog.entries.map Prod.snd

def size (catalog : Catalog κ ν) : Nat := catalog.entries.length

def isEmpty (catalog : Catalog κ ν) : Bool := catalog.entries.isEmpty

def first? (catalog : Catalog κ ν) : Option (κ × ν) := catalog.entries.head?

theorem find_insert [Std.TransOrd κ] [Std.LawfulEqOrd κ] [DecidableEq κ] (catalog : Catalog κ ν)
    (key sought : κ) (value : ν) :
    (catalog.insert key value).find? sought
      = if sought = key then some value else catalog.find? sought :=
  Entries.find_insert key sought value catalog.entries

theorem find_erase [Std.LawfulEqOrd κ] [DecidableEq κ] (catalog : Catalog κ ν) (key sought : κ) :
    (catalog.erase key).find? sought = if sought = key then none else catalog.find? sought :=
  Entries.find_erase key sought catalog.entries

theorem ext_find [Std.TransOrd κ] [Std.LawfulEqOrd κ] {left right : Catalog κ ν}
    (same : ∀ key, left.find? key = right.find? key) : left = right := by
  obtain ⟨leftEntries, ascendingLeft⟩ := left
  obtain ⟨rightEntries, ascendingRight⟩ := right
  have equal := Entries.ext_find ascendingLeft ascendingRight same
  subst equal
  rfl

end Catalog

end ConnectionManager
