import ConnectionManager.Text.Blank
import ConnectionManager.Text.Split
import Mathlib.Data.List.DropRight

/-!
Trimmed texts. A text is trimmed when neither end is blank; trimming makes a text so and leaves one
alone that is so already.
-/

namespace ConnectionManager.Text

variable {text left right : List Char} {character : Char}

instance decidableEachCharacter {p : Char → Prop} [DecidablePred p] (text : List Char) :
    Decidable (∀ character ∈ text, p character) :=
  List.decidableBAll p text

/-- Neither the first nor the last character is blank. -/
structure Trimmed (text : List Char) : Prop where
  first : ∀ character, text.head? = some character → isBlank character = false
  last : ∀ character, text.getLast? = some character → isBlank character = false

theorem trimmed_iff : Trimmed text ↔
    (text.head?.all fun character => !isBlank character) = true ∧
      (text.getLast?.all fun character => !isBlank character) = true := by
  rw [Option.all_eq_true, Option.all_eq_true]
  constructor
  · exact fun trimmed => ⟨by simpa using trimmed.first, by simpa using trimmed.last⟩
  · exact fun visible => ⟨by simpa using visible.1, by simpa using visible.2⟩

instance (text : List Char) : Decidable (Trimmed text) := decidable_of_iff' _ trimmed_iff

theorem trimmed_nil : Trimmed [] := ⟨by simp, by simp⟩

theorem Trimmed.append (first : Trimmed left) (second : Trimmed right) (begins : left ≠ [])
    (ends : right ≠ []) : Trimmed (left ++ right) := by
  constructor
  · rw [List.head?_append_of_ne_nil _ begins]
    exact first.first
  · rw [List.getLast?_append_of_ne_nil _ ends]
    exact second.last

theorem trim_left_first (text : List Char) (character : Char)
    (first : (trimLeft text).head? = some character) : isBlank character = false := by
  have stops := List.head?_dropWhile_not isBlank text
  rw [show (text.dropWhile isBlank).head? = some character from first] at stops
  exact stops

theorem trim_right_last (text : List Char) (character : Char)
    (last : (trimRight text).getLast? = some character) : isBlank character = false := by
  apply trim_left_first text.reverse
  simpa [trimRight, trimLeft] using last

theorem trim_trimmed (text : List Char) : Trimmed (trim text) := by
  constructor
  · intro character first
    apply trim_left_first text
    obtain ⟨rest, whole⟩ := List.rdropWhile_prefix isBlank (trimLeft text)
    rw [← whole, List.head?_append]
    simp [show ((trimLeft text).rdropWhile isBlank).head? = some character from first]
  · exact trim_right_last _

theorem trim_left_of_first (first : ∀ character, text.head? = some character →
    isBlank character = false) : trimLeft text = text := by
  cases text with
  | nil => rfl
  | cons character rest => simp [trimLeft, first character rfl]

theorem trim_head (first : ∀ character, text.head? = some character → isBlank character = false)
    (kept : trim text ≠ []) : (trim text).head? = text.head? := by
  rw [trim, trim_left_of_first first] at kept ⊢
  obtain ⟨rest, whole⟩ := List.rdropWhile_prefix isBlank text
  calc (trimRight text).head?
    _ = (trimRight text ++ rest).head? := (List.head?_append_of_ne_nil _ kept).symm
    _ = text.head? := congrArg List.head? whole

theorem Trimmed.trim_eq (trimmed : Trimmed text) : trim text = text := by
  rw [trim, trim_left_of_first trimmed.first]
  apply List.rdropWhile_eq_self_iff.2
  intro some_ blank
  simpa [blank] using trimmed.last _ (List.getLast?_eq_some_getLast some_)

theorem trimmed_of_visible (visible : ∀ character ∈ text, isBlank character = false) :
    Trimmed text :=
  ⟨fun _ first => visible _ (List.mem_of_head? first),
    fun _ last => visible _ (List.mem_of_getLast? last)⟩

theorem one_line_of_visible (visible : ∀ character ∈ text, isBlank character = false) :
    '\n' ∉ text :=
  fun inside => absurd (visible _ inside) (by decide)

theorem trim_blank_cons (blank : isBlank character = true) :
    trim (character :: text) = trim text := by
  simp [trim, trimLeft, blank]

theorem trim_append_blank (first : ∀ character, text.head? = some character →
    isBlank character = false) (blank : isBlank character = true) :
    trim (text ++ [character]) = trim text := by
  cases text with
  | nil => simp [trim, trimLeft, trimRight, blank]
  | cons other rest =>
      have visible := first other rfl
      simp [trim, trimLeft, trimRight, visible, blank]

theorem alphanum_iff : character.isAlphanum = true ↔
    (65 ≤ character.toNat ∧ character.toNat ≤ 90) ∨ (97 ≤ character.toNat ∧ character.toNat ≤ 122) ∨
      (48 ≤ character.toNat ∧ character.toNat ≤ 57) := by
  change (decide ('A'.val ≤ character.val ∧ character.val ≤ 'Z'.val) ||
      decide ('a'.val ≤ character.val) && decide (character.val ≤ 'z'.val) ||
      decide ('0'.val ≤ character.val) && decide (character.val ≤ '9'.val)) = true ↔ _
  simp only [Bool.or_eq_true, Bool.and_eq_true, decide_eq_true_eq, UInt32.le_iff_toNat_le, or_assoc]
  exact Iff.rfl

theorem alphanum_visible (word : character.isAlphanum = true) : isBlank character = false := by
  have codes := alphanum_iff.1 word
  simp [isBlank]
  omega

theorem mem_of_mem_trim (member : character ∈ trim text) : character ∈ text :=
  (List.dropWhile_suffix _).subset ((List.rdropWhile_prefix isBlank _).subset member)

theorem Trimmed.drop_return (trimmed : Trimmed text) : dropReturn text = text := by
  apply if_neg
  intro last
  exact absurd (trimmed.last _ last) (by decide)

end ConnectionManager.Text
