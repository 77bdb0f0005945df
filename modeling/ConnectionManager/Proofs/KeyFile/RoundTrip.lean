import ConnectionManager.KeyFile.Reader
import ConnectionManager.KeyFile.Writer
import ConnectionManager.Proofs.KeyFile.Codec
import ConnectionManager.Proofs.Text.Split

/-!
A key file comes back from its text if it is legible: no two groups have one name, and no name, key
or value has anything in it that the layout of lines would take for something else. Whatever is
read is legible.
-/

namespace ConnectionManager.KeyFile

open Text

variable {text key value name : List Char} {file : KeyFile} {group : Group}
  {groups before : List Group} {entry : List Char × List Char}
  {entries : List (List Char × List Char)} {progress next : Progress}

/-- An entry that stands on a line of its own and is recognized there. -/
structure LegibleEntry (entry : List Char × List Char) : Prop where
  trimmedKey : Trimmed entry.1
  trimmedValue : Trimmed entry.2
  keyOneLine : '\n' ∉ entry.1
  valueOneLine : '\n' ∉ entry.2
  noEquals : '=' ∉ entry.1
  some_ : entry.1 ≠ []
  noComment : entry.1.head? ≠ some '#'
  noHeader : entry.1.head? ≠ some '['

instance (entry : List Char × List Char) : Decidable (LegibleEntry entry) :=
  decidable_of_iff (Trimmed entry.1 ∧ Trimmed entry.2 ∧ '\n' ∉ entry.1 ∧ '\n' ∉ entry.2 ∧
      '=' ∉ entry.1 ∧ entry.1 ≠ [] ∧ entry.1.head? ≠ some '#' ∧ entry.1.head? ≠ some '[')
    ⟨fun ⟨key, value, keyOneLine, valueOneLine, noEquals, some_, noComment, noHeader⟩ =>
        ⟨key, value, keyOneLine, valueOneLine, noEquals, some_, noComment, noHeader⟩,
      fun legible => ⟨legible.trimmedKey, legible.trimmedValue, legible.keyOneLine,
        legible.valueOneLine, legible.noEquals, legible.some_, legible.noComment, legible.noHeader⟩⟩

structure LegibleGroup (group : Group) : Prop where
  named : group.name ≠ []
  oneLine : '\n' ∉ group.name
  entries : ∀ entry ∈ group.entries, LegibleEntry entry

structure Legible (file : KeyFile) : Prop where
  distinct : (file.groups.map Group.name).Nodup
  each : ∀ group ∈ file.groups, LegibleGroup group

def headerLine (name : List Char) : List Char := '[' :: name ++ [']']

def entryLine (entry : List Char × List Char) : List Char :=
  entry.1 ++ (if entry.2.isEmpty then [' ', '='] else [' ', '=', ' '] ++ entry.2)

def Group.lines (group : Group) : List (List Char) :=
  headerLine group.name :: group.entries.map entryLine

def groupsLines : List Group → List (List Char)
  | [] => []
  | [group] => group.lines
  | group :: rest => group.lines ++ [] :: groupsLines rest

theorem entries_text_eq (entries : List (List Char × List Char)) :
    entries.flatMap entryText = complete (entries.map entryLine) := by
  induction entries with
  | nil => rfl
  | cons entry rest induction => simp_all [complete, entryText, entryLine]

theorem group_text_eq (group : Group) : group.text = complete group.lines := by
  simp [Group.text, Group.lines, complete, headerLine, entries_text_eq]

theorem groups_text_eq (groups : List Group) :
    groupsText groups = complete (groupsLines groups) := by
  induction groups with
  | nil => rfl
  | cons group rest induction =>
      cases rest with
      | nil => exact group_text_eq group
      | cons other others =>
          simp [groupsText, groupsLines, group_text_eq, induction, complete]

theorem header_line_trimmed (name : List Char) : Trimmed (headerLine name) := by
  constructor
  · rintro character ⟨⟩
    decide
  · rw [headerLine, List.getLast?_append_of_ne_nil _ (by simp)]
    rintro character ⟨⟩
    decide

theorem read_header_line (named : name ≠ []) :
    Line.ofText (dropReturn (headerLine name)) = .ok (.header name) := by
  have trimmed := header_line_trimmed name
  rw [trimmed.drop_return, Line.ofText, trimmed.trim_eq]
  simp [headerLine, Line.ofTrimmed, named]

theorem entry_line_eq (entry : List Char × List Char) :
    entryLine entry = (entry.1 ++ [' ']) ++ '=' ::
      (if entry.2.isEmpty then [] else ' ' :: entry.2) := by
  unfold entryLine
  split <;> simp

theorem LegibleEntry.line_trimmed (legible : LegibleEntry entry) : Trimmed (entryLine entry) := by
  have equals : Trimmed ['='] := by decide
  have tail : ∃ rest, entryLine entry = entry.1 ++ rest ∧ rest ≠ [] ∧
      ∀ character, rest.getLast? = some character → isBlank character = false := by
    unfold entryLine
    split
    · refine ⟨[' ', '='], rfl, by simp, ?_⟩
      rintro character ⟨⟩
      decide
    · rename_i some_
      refine ⟨[' ', '=', ' '] ++ entry.2, rfl, by simp, ?_⟩
      rw [List.getLast?_append_of_ne_nil _ (by simpa using some_)]
      exact legible.trimmedValue.last
  obtain ⟨rest, whole, more, last⟩ := tail
  rw [whole]
  constructor
  · rw [List.head?_append_of_ne_nil _ legible.some_]
    exact legible.trimmedKey.first
  · rwa [List.getLast?_append_of_ne_nil _ more]

theorem read_entry_text (noComment : text.head? ≠ some '#') (noHeader : text.head? ≠ some '[')
    (found : splitOnce '=' text = some (key, value)) (named : trim key ≠ []) :
    Line.ofTrimmed text = .ok (.entry (trim key) (trim value)) := by
  unfold Line.ofTrimmed
  split
  · cases found
  · exact absurd rfl noComment
  · exact absurd rfl noHeader
  · simp [found, named]

theorem LegibleEntry.read_line (legible : LegibleEntry entry) :
    Line.ofText (dropReturn (entryLine entry)) = .ok (.entry entry.1 entry.2) := by
  have trimmed := legible.line_trimmed
  have key : trim (entry.1 ++ [' ']) = entry.1 := by
    rw [trim_append_blank legible.trimmedKey.first (by decide), legible.trimmedKey.trim_eq]
  have value : trim (if entry.2.isEmpty then [] else ' ' :: entry.2) = entry.2 := by
    split
    · simp_all [trimmed_nil.trim_eq]
    · rw [trim_blank_cons (by decide), legible.trimmedValue.trim_eq]
  have start : (entryLine entry).head? = entry.1.head? := by
    rw [entryLine, List.head?_append_of_ne_nil _ legible.some_]
  have found : splitOnce '=' (entryLine entry)
      = some (entry.1 ++ [' '], if entry.2.isEmpty then [] else ' ' :: entry.2) := by
    rw [entry_line_eq]
    exact split_once_append (by simp [legible.noEquals])
  rw [trimmed.drop_return, Line.ofText, trimmed.trim_eq]
  rw [read_entry_text (start ▸ legible.noComment) (start ▸ legible.noHeader) found
    (by rw [key]; exact legible.some_), key, value]

theorem read_lines_cons {line : Line} {rest : List (List Char)} (number : Nat)
    (understood : Line.ofText text = .ok line) (added : progress.add line = .ok next) :
    readLines progress number (text :: rest) = readLines next (number + 1) rest := by
  simp [readLines, understood, added]

theorem add_entry_last (apart : name ∉ before.map Group.name) :
    addEntry name entry (before ++ [⟨name, entries⟩]) = before ++ [⟨name, entries ++ [entry]⟩] := by
  have others : before.map (fun group =>
      if group.name = name then { group with entries := group.entries ++ [entry] } else group)
      = before := by
    refine (List.map_congr_left fun group member => if_neg ?_).trans (List.map_id before)
    exact fun same => apart (List.mem_map.2 ⟨group, member, same⟩)
  simp [addEntry, others]

theorem read_entry_lines (apart : name ∉ before.map Group.name) (number : Nat)
    (rest : List (List Char)) (more : List (List Char × List Char))
    (legible : ∀ entry ∈ more, LegibleEntry entry) :
    readLines ⟨⟨before ++ [⟨name, entries⟩]⟩, some name⟩ number
        ((more.map entryLine).map dropReturn ++ rest)
      = readLines ⟨⟨before ++ [⟨name, entries ++ more⟩]⟩, some name⟩ (number + more.length) rest := by
  induction more generalizing entries number with
  | nil => simp
  | cons entry others induction =>
      have added : Progress.add ⟨⟨before ++ [⟨name, entries⟩]⟩, some name⟩ (.entry entry.1 entry.2)
          = .ok ⟨⟨before ++ [⟨name, entries ++ [entry]⟩]⟩, some name⟩ := by
        simp [Progress.add, add_entry_last apart]
      rw [List.map_cons, List.map_cons, List.cons_append]
      rw [read_lines_cons number (legible entry List.mem_cons_self).read_line added, induction]
      · simp [Nat.add_assoc, Nat.add_comm 1]
      · exact fun other member => legible other (List.mem_cons_of_mem entry member)

theorem read_group_lines (legible : LegibleGroup group) (apart : group.name ∉ before.map Group.name)
    (current : Option (List Char)) (number : Nat) (rest : List (List Char)) :
    readLines ⟨⟨before⟩, current⟩ number (group.lines.map dropReturn ++ rest)
      = readLines ⟨⟨before ++ [group]⟩, some group.name⟩ (number + group.lines.length) rest := by
  have fresh : KeyFile.group? ⟨before⟩ group.name = none := by
    apply List.find?_eq_none.2
    intro other member same
    exact apart (List.mem_map.2 ⟨other, member, by simpa using same⟩)
  have added : Progress.add ⟨⟨before⟩, current⟩ (.header group.name)
      = .ok ⟨⟨before ++ [⟨group.name, []⟩]⟩, some group.name⟩ := by
    simp [Progress.add, fresh]
  rw [Group.lines, List.map_cons, List.cons_append]
  rw [read_lines_cons number (read_header_line legible.named) added]
  rw [read_entry_lines apart _ rest group.entries legible.entries]
  simp [Nat.add_assoc, Nat.add_comm 1]

theorem read_groups_lines (distinct : ((before ++ groups).map Group.name).Nodup)
    (legible : ∀ group ∈ groups, LegibleGroup group) (current : Option (List Char))
    (number : Nat) :
    readLines ⟨⟨before⟩, current⟩ number ((groupsLines groups).map dropReturn)
      = .ok ⟨before ++ groups⟩ := by
  induction groups generalizing before current number with
  | nil => simp [groupsLines, readLines]
  | cons group rest induction =>
      have apart : group.name ∉ before.map Group.name := by
        intro member
        rw [List.map_append, List.nodup_append] at distinct
        exact distinct.2.2 _ member _ (List.mem_cons_self) rfl
      have read := read_group_lines (legible group List.mem_cons_self) apart current number
      cases rest with
      | nil =>
          have last := read []
          rw [List.append_nil] at last
          rw [groupsLines, last]
          rfl
      | cons other others =>
          have blank : Line.ofText (dropReturn []) = .ok .blank := by decide
          have again : ((before ++ [group] ++ other :: others).map Group.name).Nodup := by
            simpa using distinct
          have later := induction again
            (fun group member => legible group (List.mem_cons_of_mem _ member))
          change readLines _ _ ((group.lines ++ [] :: groupsLines (other :: others)).map _) = _
          rw [List.map_append, List.map_cons, read, read_lines_cons _ blank rfl, later]
          simp

theorem LegibleGroup.lines_whole (legible : LegibleGroup group) :
    ∀ line ∈ group.lines, '\n' ∉ line := by
  intro line member
  rcases List.mem_cons.1 member with rfl | inside
  · simp [headerLine, legible.oneLine]
  · obtain ⟨entry, among, rfl⟩ := List.mem_map.1 inside
    have plain := legible.entries entry among
    rw [entry_line_eq]
    split <;> simp [plain.keyOneLine, plain.valueOneLine]

theorem groups_lines_whole (legible : ∀ group ∈ groups, LegibleGroup group) :
    ∀ line ∈ groupsLines groups, '\n' ∉ line := by
  induction groups with
  | nil => simp [groupsLines]
  | cons group rest induction =>
      have first := (legible group List.mem_cons_self).lines_whole
      have later := induction fun other member => legible other (List.mem_cons_of_mem group member)
      cases rest with
      | nil => exact first
      | cons other others =>
          intro line member
          rcases List.mem_append.1 (show line ∈ group.lines ++ [] :: _ from member) with here | there
          · exact first line here
          · rcases List.mem_cons.1 there with rfl | deeper
            · simp
            · exact later line deeper

theorem read_text (legible : file.Legible) : read file.text = .ok file := by
  rw [read, text, groups_text_eq, lines_complete (groups_lines_whole legible.each)]
  exact read_groups_lines (by simpa using legible.distinct) legible.each none 1

def Line.Legible : Line → Prop
  | .blank => True
  | .header name => name ≠ [] ∧ '\n' ∉ name
  | .entry key value => LegibleEntry (key, value)

theorem of_trimmed_legible {line : Line} (trimmed : Trimmed text) (whole : '\n' ∉ text)
    (understood : Line.ofTrimmed text = .ok line) : line.Legible := by
  unfold Line.ofTrimmed at understood
  split at understood
  · cases understood
    trivial
  · cases understood
    trivial
  · rename_i rest
    split_ifs at understood with closed empty
    cases understood
    refine ⟨by simpa using empty, fun inside => whole ?_⟩
    exact List.mem_cons_of_mem '[' (List.dropLast_subset rest inside)
  · rename_i _ _ noComment noHeader
    split at understood
    · cases understood
    · rename_i key value found
      split_ifs at understood with empty
      cases understood
      obtain ⟨cut, noEquals⟩ := split_once_eq found
      have named : trim key ≠ [] := by simpa using empty
      have some_ : key ≠ [] := by
        rintro rfl
        exact named rfl
      have starts : text.head? = key.head? := by rw [cut, List.head?_append_of_ne_nil _ some_]
      have start : (trim key).head? = text.head? := by
        rw [starts]
        exact trim_head (starts ▸ trimmed.first) named
      constructor
      · exact trim_trimmed key
      · exact trim_trimmed value
      · exact fun inside => whole (by simp [cut, mem_of_mem_trim inside])
      · exact fun inside => whole (by simp [cut, mem_of_mem_trim inside])
      · exact fun inside => noEquals (mem_of_mem_trim inside)
      · exact named
      · intro comment
        obtain ⟨rest, same⟩ := List.head?_eq_some_iff.1 (start ▸ comment)
        exact noComment rest same
      · intro header
        obtain ⟨rest, same⟩ := List.head?_eq_some_iff.1 (start ▸ header)
        exact noHeader rest same

theorem of_text_legible {line : Line} (whole : '\n' ∉ text)
    (understood : Line.ofText text = .ok line) : line.Legible :=
  of_trimmed_legible (trim_trimmed text) (fun inside => whole (mem_of_mem_trim inside)) understood

theorem add_entry_names (groups : List Group) :
    (addEntry name entry groups).map Group.name = groups.map Group.name := by
  simp only [addEntry, List.map_map]
  apply List.map_congr_left
  intro group _
  dsimp only [Function.comp]
  split <;> rfl

theorem add_entry_legible (legible : ∀ group ∈ groups, LegibleGroup group)
    (plain : LegibleEntry entry) : ∀ group ∈ addEntry name entry groups, LegibleGroup group := by
  intro group member
  obtain ⟨before, among, same⟩ := List.mem_map.1 member
  obtain ⟨named, oneLine, entries⟩ := legible before among
  split at same
  · subst same
    refine ⟨named, oneLine, fun other inside => ?_⟩
    rcases List.mem_append.1 inside with old | new
    · exact entries other old
    · rwa [List.mem_singleton.1 new]
  · exact same ▸ ⟨named, oneLine, entries⟩

theorem Progress.add_legible {line : Line} (legible : progress.file.Legible)
    (plain : line.Legible) (added : progress.add line = .ok next) : next.file.Legible := by
  obtain ⟨distinct, each⟩ := legible
  cases line with
  | blank =>
      cases added
      exact ⟨distinct, each⟩
  | header name =>
      simp only [Progress.add] at added
      split_ifs at added with known
      · cases added
        exact ⟨distinct, each⟩
      · cases added
        constructor
        · rw [List.map_append, List.nodup_append]
          refine ⟨distinct, by simp, fun first member second last same => known ?_⟩
          obtain ⟨group, among, rfl⟩ := List.mem_map.1 member
          rw [KeyFile.group?, List.find?_isSome]
          exact ⟨group, among, by simp_all⟩
        · intro group member
          rcases List.mem_append.1 member with old | new
          · exact each group old
          · rw [List.mem_singleton.1 new]
            exact ⟨plain.1, plain.2, by simp⟩
  | entry key value =>
      simp only [Progress.add] at added
      split at added
      · cases added
      · cases added
        exact ⟨by rwa [add_entry_names], add_entry_legible each plain⟩

theorem read_lines_legible {cut : List (List Char)} {number : Nat}
    (legible : progress.file.Legible) (whole : ∀ line ∈ cut, '\n' ∉ line)
    (read : readLines progress number cut = .ok file) : file.Legible := by
  induction cut generalizing progress number with
  | nil =>
      cases read
      exact legible
  | cons text rest induction =>
      rw [readLines] at read
      split at read
      · cases read
      · rename_i line understood
        split at read
        · cases read
        · rename_i next added
          have plain := of_text_legible (whole text List.mem_cons_self) understood
          exact induction (Progress.add_legible legible plain added)
            (fun line member => whole line (List.mem_cons_of_mem text member)) read

theorem read_legible (done : read text = .ok file) : file.Legible :=
  read_lines_legible ⟨by simp, by simp⟩ (fun _ member => lines_apart member) done

theorem read_text_iff : read file.text = .ok file ↔ file.Legible := ⟨read_legible, read_text⟩

/-- A file that was read is read again from its own text. -/
theorem rewriting_stable (done : read text = .ok file) : read file.text = .ok file :=
  read_text_iff.2 (read_legible done)

/-- A file with brackets and blanks inside a header, signs of other lines inside a key, values of
which nothing is left, and a group that is taken up again. -/
def rehearsedFile : KeyFile :=
  ⟨[⟨" a]b ".toList, [("k#[".toList, "= x".toList), ("k#[".toList, [])]⟩, ⟨['c'], [(['d'], [])]⟩]⟩

theorem rewriting_stable_rehearsed :
    read "[ a]b ]\nk#[ =\t= x\r\n[c]\nd=\u00a0\n[ a]b ]\nk#[=".toList = .ok rehearsedFile ∧
      read rehearsedFile.text = .ok rehearsedFile := by
  have done : read "[ a]b ]\nk#[ =\t= x\r\n[c]\nd=\u00a0\n[ a]b ]\nk#[=".toList
      = .ok rehearsedFile := by
    decide
  exact ⟨done, rewriting_stable done⟩

end ConnectionManager.KeyFile
