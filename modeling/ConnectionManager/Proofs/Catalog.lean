import ConnectionManager.Catalog

/-!
Look-ups in catalogues. A look-up finds exactly what is among the entries (`find_iff_mem`), so the
operations that rebuild the list of entries are known by what can be looked up afterwards.
-/

namespace ConnectionManager

namespace Entries

variable {κ ν : Type} [Ord κ]

theorem mem_of_find [Std.LawfulEqOrd κ] {key : κ} {value : ν} {entries : List (κ × ν)}
    (found : find? key entries = some value) : (key, value) ∈ entries := by
  induction entries with
  | nil => cases found
  | cons head rest induction =>
      obtain ⟨other, old⟩ := head
      rw [find?] at found
      split at found
      · rename_i same
        have equal : key = other := Std.LawfulEqCmp.compare_eq_iff_eq.1 same
        subst equal
        cases found
        simp
      · simp [induction found]

theorem find_of_mem [Std.TransOrd κ] {key : κ} {value : ν} {entries : List (κ × ν)}
    (ascending : Ascending entries) (member : (key, value) ∈ entries) :
    find? key entries = some value := by
  induction entries with
  | nil => cases member
  | cons head rest induction =>
      obtain ⟨other, old⟩ := head
      unfold Ascending at ascending
      rw [List.pairwise_cons] at ascending
      rcases List.mem_cons.1 member with equal | later
      · cases equal
        simp [find?, Std.ReflCmp.compare_self]
      · have below := ascending.1 (key, value) later
        have above : compare key other = .gt := Std.OrientedCmp.gt_of_lt below
        simpa [find?, above] using induction ascending.2 later

theorem erase_absent [Std.LawfulEqOrd κ] {key : κ} {entries : List (κ × ν)}
    (absent : find? key entries = none) : erase key entries = entries := by
  apply List.filter_eq_self.2
  rintro ⟨other, value⟩ member
  induction entries with
  | nil => cases member
  | cons head rest induction =>
      obtain ⟨first, old⟩ := head
      rw [find?] at absent
      split at absent
      · cases absent
      · rename_i different
        rcases List.mem_cons.1 member with equal | later
        · cases equal
          simpa using different
        · exact induction absent later

theorem insert_perm [Std.TransOrd κ] [Std.LawfulEqOrd κ] (key : κ) (value : ν)
    {entries : List (κ × ν)} (ascending : Ascending entries) :
    (insert key value entries).Perm ((key, value) :: erase key entries) := by
  induction entries with
  | nil => exact .refl _
  | cons head rest induction =>
      obtain ⟨other, old⟩ := head
      unfold Ascending at ascending
      rw [List.pairwise_cons] at ascending
      rw [insert]
      split
      · rename_i below
        have absent : find? key ((other, old) :: rest) = none := by
          apply find_eq_none_of_below
          intro entry member
          rcases List.mem_cons.1 member with equal | later
          · rw [equal]
            exact below
          · exact Std.TransCmp.lt_trans below (ascending.1 entry later)
        rw [erase_absent absent]
      · rename_i same
        have equal : key = other := Std.LawfulEqCmp.compare_eq_iff_eq.1 same
        subst equal
        have removed : erase key ((key, old) :: rest) = erase key rest :=
          List.filter_cons_of_neg (by simp)
        rw [removed, erase_absent (find_eq_none_of_below ascending.1)]
      · rename_i above
        have kept : erase key ((other, old) :: rest) = (other, old) :: erase key rest :=
          List.filter_cons_of_pos (by simp [above])
        rw [kept]
        exact ((induction ascending.2).cons (other, old)).trans (.swap _ _ _)

theorem erase_perm [Std.TransOrd κ] [Std.LawfulEqOrd κ] {key : κ} {value : ν}
    {entries : List (κ × ν)} (ascending : Ascending entries)
    (found : find? key entries = some value) : entries.Perm ((key, value) :: erase key entries) := by
  induction entries with
  | nil => cases found
  | cons head rest induction =>
      obtain ⟨other, old⟩ := head
      unfold Ascending at ascending
      rw [List.pairwise_cons] at ascending
      rw [find?] at found
      split at found
      · rename_i same
        cases found
        have equal : key = other := Std.LawfulEqCmp.compare_eq_iff_eq.1 same
        subst equal
        have removed : erase key ((key, value) :: rest) = erase key rest :=
          List.filter_cons_of_neg (by simp)
        rw [removed, erase_absent (find_eq_none_of_below ascending.1)]
      · rename_i different
        have kept : erase key ((other, old) :: rest) = (other, old) :: erase key rest :=
          List.filter_cons_of_pos (by simpa using different)
        rw [kept]
        exact ((induction ascending.2 found).cons (other, old)).trans (.swap _ _ _)

end Entries

namespace Catalog

variable {κ ν μ : Type} [Ord κ]

@[simp]
theorem find_empty (key : κ) : (empty : Catalog κ ν).find? key = none := rfl

variable [Std.TransOrd κ] [Std.LawfulEqOrd κ]

theorem find_iff_mem (catalog : Catalog κ ν) (key : κ) (value : ν) :
    catalog.find? key = some value ↔ (key, value) ∈ catalog.entries :=
  ⟨Entries.mem_of_find, Entries.find_of_mem catalog.ascending⟩

theorem mem_keys (catalog : Catalog κ ν) (key : κ) :
    key ∈ catalog.keys ↔ (catalog.find? key).isSome := by
  rw [Option.isSome_iff_exists, keys, List.mem_map]
  constructor
  · rintro ⟨⟨other, value⟩, member, same⟩
    cases same
    exact ⟨value, (catalog.find_iff_mem other value).2 member⟩
  · rintro ⟨value, found⟩
    exact ⟨(key, value), (catalog.find_iff_mem key value).1 found, rfl⟩

omit [Std.TransOrd κ] in
theorem keys_nodup (catalog : Catalog κ ν) : catalog.keys.Nodup := by
  unfold keys List.Nodup
  rw [List.pairwise_map]
  refine catalog.ascending.imp fun {left right} below same => ?_
  rw [same] at below
  simp at below

theorem find_eq_none_iff (catalog : Catalog κ ν) (key : κ) :
    catalog.find? key = none ↔ ∀ value, (key, value) ∉ catalog.entries := by
  rw [Option.eq_none_iff_forall_ne_some]
  exact forall_congr' fun value => not_congr (catalog.find_iff_mem key value)

@[simp]
theorem find_map_values (catalog : Catalog κ ν) (change : κ → ν → μ) (key : κ) :
    (catalog.mapValues change).find? key = (catalog.find? key).map (change key) := by
  cases found : catalog.find? key with
  | some value =>
      have member := (catalog.find_iff_mem key value).1 found
      apply (find_iff_mem _ _ _).2
      exact List.mem_map.2 ⟨(key, value), member, rfl⟩
  | none =>
      apply (find_eq_none_iff _ _).2
      intro changed member
      obtain ⟨⟨other, value⟩, inside, same⟩ := List.mem_map.1 member
      cases same
      exact (find_eq_none_iff _ _).1 found value inside

@[simp]
theorem find_filter (catalog : Catalog κ ν) (keep : κ → ν → Bool) (key : κ) :
    (catalog.filter keep).find? key = (catalog.find? key).filter (keep key) := by
  cases found : catalog.find? key with
  | some value =>
      have member := (catalog.find_iff_mem key value).1 found
      by_cases kept : keep key value = true
      · rw [Option.filter_some, if_pos kept]
        exact (find_iff_mem _ _ _).2 (List.mem_filter.2 ⟨member, kept⟩)
      · rw [Option.filter_some, if_neg kept]
        apply (find_eq_none_iff _ _).2
        intro other inside
        obtain ⟨present, keeps⟩ := List.mem_filter.1 inside
        have same := (catalog.find_iff_mem key other).2 present
        rw [found] at same
        cases same
        exact kept keeps
  | none =>
      apply (find_eq_none_iff _ _).2
      intro value member
      exact (find_eq_none_iff _ _).1 found value (List.mem_filter.1 member).1

@[simp]
theorem contains_insert [DecidableEq κ] (catalog : Catalog κ ν) (key sought : κ) (value : ν) :
    (catalog.insert key value).contains sought = true ↔
      sought = key ∨ catalog.contains sought = true := by
  rw [contains, find_insert]
  by_cases same : sought = key <;> simp [same, contains]

omit [Std.TransOrd κ] in
@[simp]
theorem contains_erase [DecidableEq κ] (catalog : Catalog κ ν) (key sought : κ) :
    (catalog.erase key).contains sought = true ↔
      sought ≠ key ∧ catalog.contains sought = true := by
  rw [contains, find_erase]
  by_cases same : sought = key <;> simp [same, contains]

theorem is_empty_iff (catalog : Catalog κ ν) :
    catalog.isEmpty = true ↔ ∀ key, catalog.find? key = none := by
  constructor
  · intro nothing key
    apply (find_eq_none_iff _ _).2
    intro value member
    have none : catalog.entries = [] := List.isEmpty_iff.1 nothing
    rw [none] at member
    cases member
  · intro absent
    apply List.isEmpty_iff.2
    apply List.eq_nil_iff_forall_not_mem.2
    rintro ⟨key, value⟩ member
    exact (find_eq_none_iff _ _).1 (absent key) value member

theorem first_least {catalog : Catalog κ ν} {key : κ} {value : ν}
    (first : catalog.first? = some (key, value)) :
    catalog.find? key = some value ∧
      ∀ other, (catalog.find? other).isSome → other = key ∨ compare key other = .lt := by
  obtain ⟨rest, entries⟩ := List.head?_eq_some_iff.1 first
  constructor
  · apply (find_iff_mem _ _ _).2
    simp [entries]
  · intro other present
    obtain ⟨found, same⟩ := Option.isSome_iff_exists.1 present
    have member := (catalog.find_iff_mem other found).1 same
    rw [entries] at member
    rcases List.mem_cons.1 member with equal | later
    · cases equal
      exact .inl rfl
    · have ascending := catalog.ascending
      rw [entries] at ascending
      exact .inr ((List.pairwise_cons.1 ascending).1 (other, found) later)

theorem first_eq_none {catalog : Catalog κ ν} (first : catalog.first? = none) (key : κ) :
    catalog.find? key = none := by
  have nothing : catalog.entries = [] := List.head?_eq_none_iff.1 first
  apply (find_eq_none_iff _ _).2
  simp [nothing]

/-! What the values of a catalogue have, as a multiset. -/

theorem values_erase_perm {α : Type} {catalog : Catalog κ ν} {key : κ} {value : ν}
    (found : catalog.find? key = some value) (read : ν → α) :
    (catalog.values.map read).Perm (read value :: (catalog.erase key).values.map read) := by
  have entries := Entries.erase_perm catalog.ascending found
  exact (entries.map Prod.snd).map read

theorem values_insert_perm {α : Type} {catalog : Catalog κ ν} {key : κ} {value : ν}
    (absent : catalog.find? key = none) (read : ν → α) :
    ((catalog.insert key value).values.map read).Perm (read value :: catalog.values.map read) := by
  have entries := Entries.insert_perm key value catalog.ascending
  have whole : Entries.erase key catalog.entries = catalog.entries := Entries.erase_absent absent
  rw [whole] at entries
  exact (entries.map Prod.snd).map read

theorem values_replace_perm {α : Type} {catalog : Catalog κ ν} {key : κ} {old value : ν}
    (found : catalog.find? key = some old) {read : ν → α} (same : read value = read old) :
    ((catalog.insert key value).values.map read).Perm (catalog.values.map read) := by
  have inserted := Entries.insert_perm key value catalog.ascending
  have after : ((catalog.insert key value).values.map read).Perm
      (read value :: (catalog.erase key).values.map read) := (inserted.map Prod.snd).map read
  rw [same] at after
  exact after.trans (values_erase_perm found read).symm

end Catalog

end ConnectionManager
