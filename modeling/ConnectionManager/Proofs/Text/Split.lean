import ConnectionManager.Text.Split
import Mathlib.Data.List.Basic

/-!
Texts that are cut apart. The pieces have no separator in them and make up the text together with
the separators; a text made of complete lines is cut into just these lines.
-/

namespace ConnectionManager.Text

variable {text left right : List Char} {character : Char}

theorem pieces_append (isSeparator : Char → Bool) (before after : List Char) {separator : Char}
    (separates : isSeparator separator = true) :
    pieces isSeparator (before ++ separator :: after)
      = pieces isSeparator before ++ pieces isSeparator after := by
  induction before with
  | nil => simp [pieces, separates]
  | cons character rest induction =>
      rw [List.cons_append, pieces, pieces]
      by_cases here : isSeparator character = true
      · rw [if_pos here, if_pos here, induction]
        rfl
      · rw [if_neg here, if_neg here, induction]
        cases split : pieces isSeparator rest with
        | nil => exact absurd split (pieces_ne_nil isSeparator rest)
        | cons first others => rfl

theorem pieces_single (isSeparator : Char → Bool) (text : List Char)
    (whole : ∀ character ∈ text, isSeparator character = false) :
    pieces isSeparator text = [text] := by
  induction text with
  | nil => rfl
  | cons character rest induction =>
      have here := whole character List.mem_cons_self
      rw [pieces, if_neg (by rw [here]; exact Bool.false_ne_true),
        induction fun other later => whole other (List.mem_cons_of_mem _ later)]

theorem of_mem_piece {isSeparator : Char → Bool} {piece : List Char}
    (member : piece ∈ pieces isSeparator text) (inside : character ∈ piece) :
    character ∈ text ∧ isSeparator character = false := by
  induction text generalizing piece with
  | nil =>
      simp only [pieces, List.mem_singleton] at member
      simp [member] at inside
  | cons other rest induction =>
      have after : ∀ {piece}, piece ∈ pieces isSeparator rest → character ∈ piece →
          character ∈ other :: rest ∧ isSeparator character = false :=
        fun among inside => (induction among inside).imp_left (List.mem_cons_of_mem other)
      rw [pieces] at member
      split at member
      · rcases List.mem_cons.1 member with rfl | later
        · cases inside
        · exact after later inside
      · rename_i apart
        split at member
        · simp only [List.mem_singleton] at member
          simp_all
        · rename_i first others same
          rw [same] at after
          rcases List.mem_cons.1 member with rfl | later
          · rcases List.mem_cons.1 inside with rfl | deeper
            · exact ⟨List.mem_cons_self, by simpa using apart⟩
            · exact after List.mem_cons_self deeper
          · exact after (List.mem_cons_of_mem first later) inside

theorem mem_pieces (isSeparator : Char → Bool) (member : character ∈ text) :
    isSeparator character = true ∨ ∃ piece ∈ pieces isSeparator text, character ∈ piece := by
  induction text with
  | nil => cases member
  | cons other rest induction =>
      rw [pieces]
      split
      · rename_i separates
        rcases List.mem_cons.1 member with rfl | later
        · exact .inl separates
        · rcases induction later with separates | ⟨piece, among, inside⟩
          · exact .inl separates
          · exact .inr ⟨piece, List.mem_cons_of_mem _ among, inside⟩
      · split
        · rename_i none
          exact absurd none (pieces_ne_nil isSeparator rest)
        · rename_i first others same
          rw [same] at induction
          rcases List.mem_cons.1 member with rfl | later
          · exact .inr ⟨character :: first, by simp⟩
          · rcases induction later with separates | ⟨piece, among, inside⟩
            · exact .inl separates
            · rcases List.mem_cons.1 among with rfl | deeper
              · exact .inr ⟨other :: piece, List.mem_cons_self, List.mem_cons_of_mem other inside⟩
              · exact .inr ⟨piece, List.mem_cons_of_mem _ deeper, inside⟩

theorem pieces_words {isSeparator : Char → Bool} {separator : Char}
    (separates : isSeparator separator = true) (first : List Char) {words : List (List Char)}
    (apart : ∀ word ∈ words, ∀ character ∈ word, isSeparator character = false) :
    pieces isSeparator (first ++ words.flatMap (separator :: ·))
      = pieces isSeparator first ++ words := by
  induction words generalizing first with
  | nil => simp
  | cons word rest induction =>
      have later := induction word fun other member => apart other (List.mem_cons_of_mem word member)
      rw [List.flatMap_cons, List.cons_append, pieces_append _ _ _ separates, later,
        pieces_single _ word (apart word List.mem_cons_self)]
      rfl

theorem pieces_replaced {separator other : Char} (absent : other ∉ text) :
    pieces (· == other) (text.map fun character => if character = separator then other else character)
      = pieces (· == separator) text := by
  induction text with
  | nil => rfl
  | cons character rest induction =>
      simp only [List.mem_cons, not_or] at absent
      rw [List.map_cons, pieces, pieces, induction absent.2]
      by_cases cut : character = separator
      · simp [cut]
      · simp [cut, Ne.symm absent.1]

def complete (lines : List (List Char)) : List Char := lines.flatMap (· ++ ['\n'])

theorem pieces_complete {cut : List (List Char)} (whole : ∀ line ∈ cut, '\n' ∉ line) :
    pieces (· == '\n') (complete cut) = cut ++ [[]] := by
  induction cut with
  | nil => rfl
  | cons line rest induction =>
      have apart : ∀ character ∈ line, (character == '\n') = false := by
        intro character member
        simpa using ne_of_mem_of_not_mem member (whole line List.mem_cons_self)
      have later := induction fun other member => whole other (List.mem_cons_of_mem line member)
      rw [complete, List.flatMap_cons, List.append_assoc, List.singleton_append,
        pieces_append _ _ _ rfl, pieces_single _ _ apart]
      exact congrArg (line :: ·) later

theorem lines_complete {cut : List (List Char)} (whole : ∀ line ∈ cut, '\n' ∉ line) :
    lines (complete cut) = cut.map dropReturn := by
  simp [lines, pieces_complete whole]

theorem lines_apart {line : List Char} (member : line ∈ lines text) : '\n' ∉ line := by
  have kept : ∀ piece ∈ pieces (· == '\n') text, '\n' ∉ piece := by
    intro piece present inside
    simpa using (of_mem_piece present inside).2
  have shortened : ∀ piece ∈ (pieces (· == '\n') text).dropLast.map dropReturn, '\n' ∉ piece := by
    intro piece present inside
    obtain ⟨whole, among, rfl⟩ := List.mem_map.1 present
    apply kept whole (List.dropLast_subset _ among)
    unfold dropReturn at inside
    split at inside
    · exact List.dropLast_subset _ inside
    · exact inside
  unfold lines at member
  dsimp only at member
  split at member
  · rename_i first rest last
    rcases List.mem_append.1 member with early | late
    · exact shortened line early
    · rw [List.mem_singleton.1 late]
      exact kept _ (List.mem_of_getLast? last)
  · exact shortened line member

theorem split_once_eq {separator : Char} {rest : List Char} (found :
    splitOnce separator text = some (left, rest)) :
    text = left ++ separator :: rest ∧ separator ∉ left := by
  induction text generalizing left with
  | nil => cases found
  | cons character others induction =>
      rw [splitOnce] at found
      split at found
      · rename_i same
        cases found
        simp [same]
      · rename_i different
        obtain ⟨⟨before, after⟩, deeper, same⟩ := Option.map_eq_some_iff.1 found
        cases same
        obtain ⟨whole, absent⟩ := induction deeper
        simp [whole, absent, Ne.symm different]

theorem split_once_append {separator : Char} (absent : separator ∉ left) :
    splitOnce separator (left ++ separator :: right) = some (left, right) := by
  induction left with
  | nil => simp [splitOnce]
  | cons character rest induction =>
      simp only [List.mem_cons, not_or] at absent
      simp [splitOnce, Ne.symm absent.1, induction absent.2]

theorem split_once_none {separator : Char} (uncut : splitOnce separator text = none) :
    separator ∉ text := by
  intro inside
  obtain ⟨before, after, whole, absent⟩ := List.eq_append_cons_of_mem inside
  rw [whole, split_once_append absent] at uncut
  cases uncut

theorem after_prefix_append (beginning rest : List Char) :
    afterPrefix? beginning (beginning ++ rest) = some rest :=
  List.isPrefixOf?_eq_some_iff_append_eq.2 rfl

theorem after_prefix_eq {beginning rest : List Char}
    (found : afterPrefix? beginning text = some rest) : text = beginning ++ rest :=
  (List.isPrefixOf?_eq_some_iff_append_eq.1 found).symm

end ConnectionManager.Text
