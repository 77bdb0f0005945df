import ConnectionManager.Proofs.KeyFile.RoundTrip
import Mathlib.Data.List.Forall2

/-!
Which texts are key files, and what they say. A line by itself is passed over, or it is a header, or
it is an entry (`Means`), or something is wrong with it (`Misread`). A text is read if every line that
counts is a header, or an entry with a header above it (`WellFormed`); otherwise the reader names the
first line that is neither (`read_outcome`). Every header begins a section, and the sections of one
name make up one group (`ofSections`).
-/

namespace ConnectionManager.KeyFile

open Text

variable {text name key value : List Char} {above texts : List (List Char)} {line : Line}
  {said : List Line} {before : List Group} {entries : List (List Char × List Char)}
  {progress : Progress} {error : LineError}

/-! ### Lines -/

def Counts (text : List Char) : Prop := trim text ≠ [] ∧ (trim text).head? ≠ some '#'

inductive Means (text : List Char) : Line → Prop
  | nothing (passed : ¬ Counts text) : Means text .blank
  | header {name : List Char} (shape : trim text = '[' :: name ++ [']']) (named : name ≠ []) :
      Means text (.header name)
  | entry {before after : List Char} (counts : Counts text)
      (noHeader : (trim text).head? ≠ some '[') (cut : trim text = before ++ '=' :: after)
      (first : '=' ∉ before) (named : trim before ≠ []) :
      Means text (.entry (trim before) (trim after))

inductive Misread (text : List Char) : LineError → Prop
  | unterminatedHeader (opens : (trim text).head? = some '[')
      (unclosed : ∀ name, trim text ≠ '[' :: name ++ [']']) : Misread text .unterminatedHeader
  | emptyGroupName (shape : trim text = ['[', ']']) : Misread text .emptyGroupName
  | missingEquals (counts : Counts text) (noHeader : (trim text).head? ≠ some '[')
      (none : '=' ∉ trim text) : Misread text .missingEquals
  | emptyKey {before after : List Char} (counts : Counts text)
      (noHeader : (trim text).head? ≠ some '[') (cut : trim text = before ++ '=' :: after)
      (first : '=' ∉ before) (unnamed : trim before = []) : Misread text .emptyKey

theorem of_text_cases (text : List Char) :
    (∃ line, Line.ofText text = .ok line ∧ Means text line) ∨
      ∃ error, Line.ofText text = .error error ∧ Misread text error := by
  unfold Line.ofText
  generalize shape : trim text = trimmed
  unfold Line.ofTrimmed
  split
  · exact .inl ⟨_, rfl, .nothing fun counts => counts.1 shape⟩
  · exact .inl ⟨_, rfl, .nothing fun counts => counts.2 (by rw [shape]; rfl)⟩
  · rename_i rest
    split_ifs with closed empty
    · obtain ⟨name, rfl⟩ := List.getLast?_eq_some_iff.1 closed
      rw [List.dropLast_concat, List.isEmpty_iff] at empty
      exact .inr ⟨_, rfl, .emptyGroupName (by rw [shape, empty]; rfl)⟩
    · obtain ⟨name, rfl⟩ := List.getLast?_eq_some_iff.1 closed
      rw [List.dropLast_concat, List.isEmpty_iff] at empty
      rw [List.dropLast_concat]
      exact .inl ⟨_, rfl, .header shape empty⟩
    · refine .inr ⟨_, rfl, .unterminatedHeader (by rw [shape]; rfl) fun name same => closed ?_⟩
      rw [shape, List.cons_append] at same
      rw [(List.cons.inj same).2, List.getLast?_concat]
  · rename_i noText noComment noHeader
    have counts : Counts text := by
      rw [Counts, shape]
      refine ⟨noText, fun comment => ?_⟩
      obtain ⟨rest, same⟩ := List.head?_eq_some_iff.1 comment
      exact noComment rest same
    have opens : (trim text).head? ≠ some '[' := by
      rw [shape]
      intro header
      obtain ⟨rest, same⟩ := List.head?_eq_some_iff.1 header
      exact noHeader rest same
    split
    · rename_i uncut
      exact .inr ⟨_, rfl, .missingEquals counts opens (shape ▸ split_once_none uncut)⟩
    · rename_i key value found
      obtain ⟨cut, first⟩ := split_once_eq found
      split_ifs with unnamed
      · rw [List.isEmpty_iff] at unnamed
        exact .inr ⟨_, rfl, .emptyKey counts opens (shape.trans cut) first unnamed⟩
      · rw [List.isEmpty_iff] at unnamed
        exact .inl ⟨_, rfl, .entry counts opens (shape.trans cut) first unnamed⟩

theorem Means.of_text (meant : Means text line) : Line.ofText text = .ok line := by
  cases meant with
  | nothing passed =>
      unfold Line.ofText
      by_cases empty : trim text = []
      · rw [empty]
        rfl
      · have comment : (trim text).head? = some '#' := by
          by_contra other
          exact passed ⟨empty, other⟩
        obtain ⟨rest, same⟩ := List.head?_eq_some_iff.1 comment
        rw [same]
        rfl
  | header shape named =>
      rw [Line.ofText, shape]
      simp [Line.ofTrimmed, named]
  | entry counts noHeader cut first named =>
      have found := cut ▸ split_once_append first
      exact read_entry_text counts.2 noHeader found named

theorem Means.unique {other : Line} (meant : Means text line) (also : Means text other) :
    line = other :=
  Except.ok.inj (meant.of_text.symm.trans also.of_text)

/-! ### Sections -/

/-- The entries above the first header. -/
def leadingEntries : List Line → List (List Char × List Char)
  | [] => []
  | .header _ :: _ => []
  | .blank :: rest => leadingEntries rest
  | .entry key value :: rest => (key, value) :: leadingEntries rest

/-- A section begins at a header and ends before the next one. -/
def sections : List Line → List Group
  | [] => []
  | .header name :: rest => ⟨name, leadingEntries rest⟩ :: sections rest
  | .blank :: rest => sections rest
  | .entry _ _ :: rest => sections rest

/-- One group for each name in order of first appearance, with the entries of all sections of that
name. -/
def ofSections (parts : List Group) : KeyFile :=
  ⟨(parts.map Group.name).eraseDups.map fun name =>
    ⟨name, (parts.filter fun part => part.name = name).flatMap Group.entries⟩⟩

theorem leading_entries_above (none : sections said = []) (line : Line) :
    leadingEntries (said ++ [line]) = leadingEntries said ++ leadingEntries [line] := by
  induction said with
  | nil => rfl
  | cons first rest induction => cases first <;> simp_all [sections, leadingEntries]

theorem leading_entries_below (opened : sections said ≠ []) (line : Line) :
    leadingEntries (said ++ [line]) = leadingEntries said := by
  induction said with
  | nil => exact absurd rfl opened
  | cons first rest induction => cases first <;> simp_all [sections, leadingEntries]

theorem leading_entries_bare (said : List Line) (bare : leadingEntries [line] = []) :
    leadingEntries (said ++ [line]) = leadingEntries said := by
  by_cases none : sections said = []
  · rw [leading_entries_above none, bare, List.append_nil]
  · exact leading_entries_below none line

theorem sections_append_blank (said : List Line) : sections (said ++ [.blank]) = sections said := by
  induction said with
  | nil => rfl
  | cons first rest induction =>
      have bare : leadingEntries (rest ++ [.blank]) = leadingEntries rest :=
        leading_entries_bare rest rfl
      cases first <;> simp [sections, induction, bare]

theorem sections_append_header (said : List Line) (name : List Char) :
    sections (said ++ [.header name]) = sections said ++ [⟨name, []⟩] := by
  induction said with
  | nil => rfl
  | cons first rest induction =>
      have bare : leadingEntries (rest ++ [.header name]) = leadingEntries rest :=
        leading_entries_bare rest rfl
      cases first <;> simp [sections, induction, bare]

theorem sections_append_stray (none : sections said = []) :
    sections (said ++ [.entry key value]) = [] := by
  induction said with
  | nil => rfl
  | cons first rest induction => cases first <;> simp_all [sections]

theorem sections_append_entry (last : sections said = before ++ [⟨name, entries⟩]) :
    sections (said ++ [.entry key value]) = before ++ [⟨name, entries ++ [(key, value)]⟩] := by
  induction said generalizing before with
  | nil => simp [sections] at last
  | cons first rest induction =>
      cases first with
      | blank => exact induction last
      | entry otherKey otherValue => exact induction last
      | header title =>
          -- The entry falls to this section just if no header follows it.
          rw [List.cons_append, sections]
          rw [sections] at last
          cases before with
          | nil =>
              obtain ⟨whole, none⟩ := List.cons.inj last
              cases whole
              rw [sections_append_stray none, leading_entries_above none]
              rfl
          | cons other others =>
              obtain ⟨rfl, later⟩ := List.cons.inj last
              rw [induction later, leading_entries_below (by simp [later])]
              rfl

/-! ### Groups -/

theorem group_of_sections_iff (parts : List Group) (name : List Char) :
    ((ofSections parts).group? name).isSome = true ↔ name ∈ parts.map Group.name := by
  rw [KeyFile.group?, List.find?_isSome]
  simp [ofSections, List.mem_eraseDups]

theorem of_sections_again {parts : List Group} (known : name ∈ parts.map Group.name) :
    ofSections (parts ++ [⟨name, []⟩]) = ofSections parts := by
  have names : ((parts ++ [Group.mk name []]).map Group.name).eraseDups
      = (parts.map Group.name).eraseDups := by
    rw [List.map_append, List.eraseDups_append]
    simp_all [List.removeAll]
  rw [ofSections, ofSections, names]
  congr 2
  funext title
  by_cases same : name = title <;> simp [List.filter_append, same]

theorem of_sections_new {parts : List Group} (new : name ∉ parts.map Group.name) :
    ofSections (parts ++ [⟨name, []⟩]) = ⟨(ofSections parts).groups ++ [⟨name, []⟩]⟩ := by
  have names : ((parts ++ [Group.mk name []]).map Group.name).eraseDups
      = (parts.map Group.name).eraseDups ++ [name] := by
    rw [List.map_append, List.eraseDups_append]
    simp_all [List.removeAll, List.eraseDups_cons]
  have none : parts.filter (fun part => part.name = name) = [] := by
    apply List.filter_eq_nil_iff.2
    intro part member same
    exact new (List.mem_map.2 ⟨part, member, by simpa using same⟩)
  rw [ofSections, ofSections, names, List.map_append]
  congr 2
  · apply List.map_congr_left
    intro title _
    by_cases same : name = title <;> simp [List.filter_append, same]
  · simp [List.filter_append, none]

theorem of_sections_entry (entry : List Char × List Char) :
    ofSections (before ++ [⟨name, entries ++ [entry]⟩])
      = ⟨addEntry name entry (ofSections (before ++ [⟨name, entries⟩])).groups⟩ := by
  simp only [ofSections, addEntry, List.map_map, List.map_append, List.map_cons, List.map_nil]
  congr 1
  apply List.map_congr_left
  intro title _
  by_cases same : name = title
  · simp [List.filter_append, same]
  · simp [List.filter_append, same, Ne.symm same]

/-- The lines that were read so far say what the file holds by now. -/
structure Progress.Describes (progress : Progress) (said : List Line) : Prop where
  file : progress.file = ofSections (sections said)
  current : progress.current = (sections said).getLast?.map Group.name

theorem describes_nothing : Progress.Describes ⟨⟨[]⟩, none⟩ [] := ⟨rfl, rfl⟩

/-- A line is added to the groups just as it is added to the sections. -/
theorem Progress.Describes.add (so : progress.Describes said)
    (placed : ∀ key value, line = .entry key value → sections said ≠ []) :
    ∃ next, progress.add line = .ok next ∧ next.Describes (said ++ [line]) := by
  obtain ⟨file, current⟩ := progress
  obtain ⟨rfl, rfl⟩ := so
  cases line with
  | blank => exact ⟨_, rfl, by rw [sections_append_blank], by rw [sections_append_blank]⟩
  | header name =>
      by_cases known : name ∈ (sections said).map Group.name
      · refine ⟨_, if_pos ((group_of_sections_iff _ _).2 known), ?_, ?_⟩
        · rw [sections_append_header, of_sections_again known]
        · simp [sections_append_header]
      · refine ⟨_, if_neg (mt (group_of_sections_iff _ _).1 known), ?_, ?_⟩
        · rw [sections_append_header, of_sections_new known]
        · simp [sections_append_header]
  | entry key value =>
      obtain ⟨before, ⟨name, entries⟩, last⟩ :=
        (List.eq_nil_or_concat' (sections said)).resolve_left (placed key value rfl)
      rw [last]
      refine ⟨⟨⟨addEntry name (key, value) (ofSections (before ++ [⟨name, entries⟩])).groups⟩,
        some name⟩, ?_, ?_, ?_⟩
      · simp [Progress.add]
      · rw [sections_append_entry last, of_sections_entry]
      · simp [sections_append_entry last]

theorem Progress.Describes.add_stray (so : progress.Describes said) (none : sections said = []) :
    progress.add (.entry key value) = .error .outsideGroup := by
  simp [Progress.add, so.current, none]

/-! ### Texts -/

def IsHeader (text : List Char) : Prop := ∃ name, Means text (.header name)

def IsEntry (text : List Char) : Prop := ∃ key value, Means text (.entry key value)

def Accepted (above : List (List Char)) (text : List Char) : Prop :=
  Counts text → IsHeader text ∨ (IsEntry text ∧ ∃ other ∈ above, IsHeader other)

def WellFormed (texts : List (List Char)) : Prop :=
  ∀ above text below, texts = above ++ text :: below → Accepted above text

def Fault (above : List (List Char)) (text : List Char) (error : LineError) : Prop :=
  Misread text error ∨
    (IsEntry text ∧ (∀ other ∈ above, ¬ IsHeader other) ∧ error = .outsideGroup)

/-- The first line that is not accepted, counted from one, and what is wrong with it. -/
def StopsAt (texts : List (List Char)) (stop : ReadError) : Prop :=
  ∃ above text below, texts = above ++ text :: below ∧ WellFormed above ∧ ¬ Accepted above text ∧
    stop.line = above.length + 1 ∧ Fault above text stop.error

theorem well_formed_nil : WellFormed [] := by
  intro above text below whole
  simp at whole

theorem WellFormed.append (wellFormed : WellFormed above) (accepted : Accepted above text) :
    WellFormed (above ++ [text]) := by
  intro before other after whole
  rcases List.eq_nil_or_concat' after with rfl | ⟨more, last, rfl⟩
  · obtain ⟨rfl, rfl⟩ := List.append_singleton_inj.1 whole
    exact accepted
  · rw [← List.cons_append, ← List.append_assoc] at whole
    exact wellFormed before other more (List.append_singleton_inj.1 whole).1

theorem sections_nil_iff (meant : List.Forall₂ Means above said) :
    sections said = [] ↔ ∀ other ∈ above, ¬ IsHeader other := by
  induction meant with
  | nil => simp [sections]
  | @cons text line others rest first later induction =>
      cases line with
      | header name =>
          simp only [sections, reduceCtorEq, List.forall_mem_cons, false_iff, not_and]
          exact fun none => absurd ⟨name, first⟩ none
      | blank | entry =>
          have noHeader : ¬ IsHeader text := by
            rintro ⟨name, header⟩
            cases first.unique header
          simp [sections, induction, noHeader]

structure Progress.Reads (progress : Progress) (above : List (List Char)) : Prop where
  wellFormed : WellFormed above
  described : ∃ said, List.Forall₂ Means above said ∧ progress.Describes said

theorem reads_nothing : Progress.Reads ⟨⟨[]⟩, none⟩ [] :=
  ⟨well_formed_nil, [], .nil, describes_nothing⟩

def Progress.step (progress : Progress) (text : List Char) : Except LineError Progress :=
  (Line.ofText text).bind progress.add

theorem Progress.Reads.step (so : progress.Reads above) (accepted : Accepted above text) :
    ∃ next, progress.step text = .ok next ∧ next.Reads (above ++ [text]) := by
  obtain ⟨wellFormed, said, meant, described⟩ := so
  obtain ⟨line, means, placed⟩ : ∃ line, Means text line ∧
      ∀ key value, line = .entry key value → sections said ≠ [] := by
    by_cases counts : Counts text
    · rcases accepted counts with ⟨name, header⟩ | ⟨⟨key, value, entry⟩, other, member, header⟩
      · exact ⟨_, header, by rintro _ _ ⟨⟩⟩
      · exact ⟨_, entry, fun _ _ _ none => (sections_nil_iff meant).1 none other member header⟩
    · exact ⟨_, .nothing counts, by rintro _ _ ⟨⟩⟩
  obtain ⟨next, added, describes⟩ := described.add placed
  refine ⟨next, ?_, wellFormed.append accepted, said ++ [line], ?_, describes⟩
  · rw [Progress.step, means.of_text]
    exact added
  · exact List.rel_append meant (.cons means .nil)

theorem Progress.Reads.refuse (so : progress.Reads above) (refused : ¬ Accepted above text) :
    ∃ error, progress.step text = .error error ∧ Fault above text error := by
  obtain ⟨_, said, meant, described⟩ := so
  rcases of_text_cases text with ⟨line, understood, means⟩ | ⟨error, misunderstood, misread⟩
  · cases line with
    | blank =>
        cases means with
        | nothing passed => exact absurd (fun counts => absurd counts passed) refused
    | header name => exact absurd (fun _ => .inl ⟨name, means⟩) refused
    | entry key value =>
        have stray : ∀ other ∈ above, ¬ IsHeader other := fun other member header =>
          refused fun _ => .inr ⟨⟨key, value, means⟩, other, member, header⟩
        refine ⟨.outsideGroup, ?_, .inr ⟨⟨key, value, means⟩, stray, rfl⟩⟩
        rw [Progress.step, understood]
        exact described.add_stray ((sections_nil_iff meant).2 stray)
  · refine ⟨error, ?_, .inl misread⟩
    rw [Progress.step, misunderstood]
    rfl

theorem read_lines_step {next : Progress} (number : Nat) (rest : List (List Char))
    (stepped : progress.step text = .ok next) :
    readLines progress number (text :: rest) = readLines next (number + 1) rest := by
  cases understood : Line.ofText text with
  | error error =>
      rw [Progress.step, understood] at stepped
      cases stepped
  | ok line =>
      rw [Progress.step, understood] at stepped
      exact read_lines_cons number understood stepped

theorem read_lines_stop (number : Nat) (rest : List (List Char))
    (stopped : progress.step text = .error error) :
    readLines progress number (text :: rest) = .error ⟨number, error⟩ := by
  rw [readLines]
  cases understood : Line.ofText text with
  | error other =>
      rw [Progress.step, understood] at stopped
      cases stopped
      rfl
  | ok line =>
      rw [Progress.step, understood] at stopped
      simp only [show progress.add line = .error error from stopped]

/-- All lines are read, or the first one that is not accepted ends the reading. -/
theorem read_lines_cases (so : progress.Reads above) :
    (∃ final : Progress, readLines progress (above.length + 1) texts = .ok final.file ∧
        final.Reads (above ++ texts)) ∨
      ∃ stop, readLines progress (above.length + 1) texts = .error stop ∧
        StopsAt (above ++ texts) stop := by
  -- By induction on the lines to come: the progress stands for all lines above.
  induction texts generalizing progress above with
  | nil => exact .inl ⟨progress, rfl, by rwa [List.append_nil]⟩
  | cons text rest induction =>
      by_cases accepted : Accepted above text
      · obtain ⟨next, stepped, further⟩ := so.step accepted
        rw [read_lines_step _ rest stepped]
        have later := induction further
        rwa [List.length_append, List.append_assoc, List.singleton_append] at later
      · obtain ⟨error, stopped, fault⟩ := so.refuse accepted
        exact .inr ⟨_, read_lines_stop _ rest stopped, above, text, rest, rfl, so.wellFormed, accepted,
          rfl, fault⟩

/-- A text is read into the groups of its sections if it is well formed; otherwise the reader stops
at the first line that is not accepted. -/
theorem read_outcome (text : List Char) :
    (WellFormed (lines text) ∧ ∃ said, List.Forall₂ Means (lines text) said ∧
        read text = .ok (ofSections (sections said))) ∨
      ∃ stop, StopsAt (lines text) stop ∧ read text = .error stop := by
  rcases @read_lines_cases _ (lines text) _ reads_nothing with
    ⟨final, done, wellFormed, said, meant, described⟩ | ⟨stop, done, stops⟩
  · exact .inl ⟨wellFormed, said, meant, done.trans (congrArg Except.ok described.file)⟩
  · exact .inr ⟨stop, stops, done⟩

example : read "[g]\na = 1\n[h]\n[g]\na = 2\n".toList
    = .ok ⟨[⟨['g'], [(['a'], ['1']), (['a'], ['2'])]⟩, ⟨['h'], []⟩]⟩ := by
  decide

example : read "[ok]\n# x\nno equals sign\n[]".toList = .error ⟨3, .missingEquals⟩ := by decide

theorem StopsAt.not_well_formed {stop : ReadError} (stops : StopsAt texts stop) :
    ¬ WellFormed texts := by
  obtain ⟨above, text, below, whole, _, refused, _⟩ := stops
  exact fun wellFormed => refused (wellFormed above text below whole)

theorem read_ok_iff : (∃ file, read text = .ok file) ↔ WellFormed (lines text) := by
  rcases read_outcome text with ⟨wellFormed, said, _, done⟩ | ⟨stop, stops, done⟩
  · exact ⟨fun _ => wellFormed, fun _ => ⟨_, done⟩⟩
  · refine ⟨?_, fun wellFormed => absurd wellFormed stops.not_well_formed⟩
    rintro ⟨file, also⟩
    cases done.symm.trans also

theorem read_error_stops {stop : ReadError} (refused : read text = .error stop) :
    StopsAt (lines text) stop := by
  rcases read_outcome text with ⟨_, said, _, done⟩ | ⟨other, stops, done⟩
  · cases done.symm.trans refused
  · cases done.symm.trans refused
    exact stops

theorem read_ok_sections {file : KeyFile} (understood : read text = .ok file) :
    ∃ said, List.Forall₂ Means (lines text) said ∧ file = ofSections (sections said) := by
  rcases read_outcome text with ⟨_, said, meant, done⟩ | ⟨stop, _, done⟩
  · exact ⟨said, meant, (Except.ok.inj (done.symm.trans understood)).symm⟩
  · cases done.symm.trans understood

end ConnectionManager.KeyFile
