import ConnectionManager.Proofs.Catalog
import ConnectionManager.Value.Basic
import Mathlib.Data.List.Nodup

/-!
Dictionaries made from pairs. A pair is found when no other pair has its name, and pairs in
ascending order of their names are the entries themselves.
-/

namespace ConnectionManager.Dictionary

variable {pairs : List (String × Value)} {dictionary : Dictionary} {key : String} {value : Value}

theorem get_eq_none_iff : dictionary.get? key = none ↔ key ∉ dictionary.keys := by
  obtain ⟨entries⟩ := dictionary
  rw [get?, keys]
  induction entries with
  | nil => simp [Entries.find?]
  | cons entry rest induction =>
      obtain ⟨other, value⟩ := entry
      by_cases same : key = other <;>
        simp [Entries.find?, Std.LawfulEqCmp.compare_eq_iff_eq, same, induction]

theorem is_empty_iff : dictionary.isEmpty = true ↔ ∀ key, dictionary.get? key = none := by
  simp only [get_eq_none_iff]
  rw [← List.eq_nil_iff_forall_not_mem, keys, List.map_eq_nil_iff]
  exact List.isEmpty_iff

def insertAll (dictionary : Dictionary) (pairs : List (String × Value)) : Dictionary :=
  pairs.foldl (fun dictionary pair => dictionary.insert pair.1 pair.2) dictionary

theorem ascending_insert_all (ascending : Entries.Ascending dictionary.entries) :
    Entries.Ascending (dictionary.insertAll pairs).entries := by
  induction pairs generalizing dictionary with
  | nil => exact ascending
  | cons pair rest induction => exact induction (Entries.ascending_insert _ _ ascending)

theorem mem_insert_all (dictionary : Dictionary) {entry : String × Value}
    (member : entry ∈ (dictionary.insertAll pairs).entries) :
    entry ∈ dictionary.entries ∨ entry ∈ pairs := by
  induction pairs generalizing dictionary with
  | nil => exact .inl member
  | cons pair rest induction =>
      rcases induction _ member with before | later
      · rcases Entries.mem_insert before with rfl | old
        · exact .inr List.mem_cons_self
        · exact .inl old
      · exact .inr (List.mem_cons_of_mem pair later)

theorem get_insert_all_absent (dictionary : Dictionary) (absent : key ∉ pairs.map Prod.fst) :
    (dictionary.insertAll pairs).get? key = dictionary.get? key := by
  induction pairs generalizing dictionary with
  | nil => rfl
  | cons pair rest induction =>
      simp only [List.map_cons, List.mem_cons, not_or] at absent
      change ((dictionary.insert pair.1 pair.2).insertAll rest).get? key = _
      rw [induction _ absent.2, get_insert, if_neg absent.1]

theorem get_insert_all (distinct : (pairs.map Prod.fst).Nodup) (member : (key, value) ∈ pairs) :
    (dictionary.insertAll pairs).get? key = some value := by
  induction pairs generalizing dictionary with
  | nil => cases member
  | cons pair rest induction =>
      rw [List.map_cons, List.nodup_cons] at distinct
      rcases List.mem_cons.1 member with rfl | later
      · change ((dictionary.insert key value).insertAll rest).get? key = _
        rw [get_insert_all_absent _ distinct.1, get_insert, if_pos rfl]
      · exact induction distinct.2 later

theorem ascending_of_pairs (pairs : List (String × Value)) :
    Entries.Ascending (ofPairs pairs).entries :=
  ascending_insert_all .nil

theorem mem_of_pairs {entry : String × Value} (member : entry ∈ (ofPairs pairs).entries) :
    entry ∈ pairs :=
  (mem_insert_all empty member).resolve_left List.not_mem_nil

theorem get_of_pairs (distinct : (pairs.map Prod.fst).Nodup) (member : (key, value) ∈ pairs) :
    (ofPairs pairs).get? key = some value :=
  get_insert_all distinct member

theorem distinct_of_ascending (ascending : Entries.Ascending pairs) :
    (pairs.map Prod.fst).Nodup := by
  rw [List.Nodup, List.pairwise_map]
  refine ascending.imp fun {left right} before same => ?_
  have equal : compare left.1 right.1 = .eq := Std.LawfulEqCmp.compare_eq_iff_eq.2 same
  rw [equal] at before
  cases before

theorem of_pairs_ascending (ascending : Entries.Ascending pairs) : ofPairs pairs = ⟨pairs⟩ := by
  have same : (ofPairs pairs).entries = pairs := by
    apply Entries.ext_find (ascending_of_pairs pairs) ascending
    intro key
    cases found : Entries.find? key pairs with
    | some value => exact get_of_pairs (distinct_of_ascending ascending) (Entries.mem_of_find found)
    | none =>
        apply (get_insert_all_absent empty ?_).trans rfl
        intro member
        obtain ⟨pair, among, rfl⟩ := List.mem_map.1 member
        rw [Entries.find_of_mem ascending among] at found
        cases found
  exact congrArg Dictionary.mk same

end ConnectionManager.Dictionary
