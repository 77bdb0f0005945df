import ConnectionManager.KeyFile.Basic
import Mathlib.Data.List.Nodup

/-!
What is found under a key and under a name. The last of several entries counts, so an entry is
found when no other entry with its key says something else.
-/

namespace ConnectionManager.KeyFile

variable {key value name : List Char} {entries left right : List (List Char × List Char)}
  {file : KeyFile} {group : Group}

theorem mem_of_last_value (found : lastValue? key entries = some value) :
    (key, value) ∈ entries := by
  obtain ⟨entry, last, rfl⟩ := Option.map_eq_some_iff.1 found
  have same : entry.1 = key := by simpa using List.find?_some last
  rw [← same]
  exact List.mem_reverse.1 (List.mem_of_find?_eq_some last)

theorem last_value_eq {expected : Option (List Char)}
    (present : ∀ value, expected = some value → (key, value) ∈ entries)
    (agreed : ∀ entry ∈ entries, entry.1 = key → expected = some entry.2) :
    lastValue? key entries = expected := by
  cases found : lastValue? key entries with
  | some value => exact (agreed _ (mem_of_last_value found) rfl).symm
  | none =>
      cases expected with
      | none => rfl
      | some value =>
          rw [lastValue?, Option.map_eq_none_iff, List.find?_eq_none] at found
          exact absurd (decide_eq_true rfl) (found _ (List.mem_reverse.2 (present value rfl)))

theorem mem_of_group (found : file.group? name = some group) :
    group ∈ file.groups ∧ group.name = name :=
  ⟨List.mem_of_find?_eq_some found, by simpa using List.find?_some found⟩

theorem group_of_mem (distinct : (file.groups.map Group.name).Nodup) (member : group ∈ file.groups) :
    file.group? group.name = some group := by
  cases found : file.group? group.name with
  | some other =>
      obtain ⟨among, same⟩ := mem_of_group found
      rw [List.inj_on_of_nodup_map distinct among member same]
  | none =>
      rw [KeyFile.group?, List.find?_eq_none] at found
      exact absurd (decide_eq_true rfl) (found group member)

theorem group_absent (absent : ∀ group ∈ file.groups, group.name ≠ name) :
    file.group? name = none := by
  apply List.find?_eq_none.2
  intro group member
  simpa using absent group member

end ConnectionManager.KeyFile
