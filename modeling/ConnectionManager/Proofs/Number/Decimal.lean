import ConnectionManager.Number.Word
import ConnectionManager.Proofs.Text.Trimming
import Mathlib.Data.Nat.Digits.Defs

/-!
Whole numbers come back from their digits, and words from their text in their own type.
-/

namespace ConnectionManager.Number

variable {text digits more : List Char}

theorem extend_eq (start : Nat) (digits : List Char) :
    extendByDigits start digits = Nat.ofDigitChars 10 digits start := by
  simp only [extendByDigits, Nat.ofDigitChars, digitValue, Nat.mul_comm]
  rfl

theorem extend_append (start : Nat) (digits more : List Char) :
    extendByDigits start (digits ++ more) = extendByDigits (extendByDigits start digits) more := by
  simp [extendByDigits]

theorem extend_zeros (start count : Nat) :
    extendByDigits start (List.replicate count '0') = start * 10 ^ count := by
  induction count generalizing start with
  | zero => simp [extendByDigits]
  | succ count induction =>
      rw [List.replicate_succ, extendByDigits, List.foldl_cons]
      change extendByDigits (start * 10 + 0) _ = _
      rw [induction, Nat.pow_succ]
      ring

theorem natural_text_ne_nil (value : Nat) : naturalText value ≠ [] :=
  List.ne_nil_of_length_pos Nat.length_toDigits_pos

theorem natural_text_digits (value : Nat) : ∀ digit ∈ naturalText value, digit.isDigit = true :=
  fun _ member => Nat.isDigit_of_mem_toDigits (by decide) (by decide) member

theorem extend_natural_text (value : Nat) : extendByDigits 0 (naturalText value) = value := by
  rw [extend_eq, naturalText, Nat.ofDigitChars_toDigits (by decide) (by decide)]

theorem natural_text_injective {left right : Nat} (same : naturalText left = naturalText right) :
    left = right := by
  rw [← extend_natural_text left, same, extend_natural_text]

theorem natural_text_bounds {value : Nat} (positive : 0 < value) :
    10 ^ ((naturalText value).length - 1) ≤ value ∧ value < 10 ^ (naturalText value).length := by
  have some_ : 0 < (naturalText value).length := Nat.length_toDigits_pos
  constructor
  · by_contra less
    by_cases single : (naturalText value).length = 1
    · simp [single] at less
      omega
    · have shorter := (Nat.length_toDigits_le_iff (b := 10) (by decide) (by omega)).2
        (Nat.lt_of_not_le less)
      unfold naturalText at *
      omega
  · exact (Nat.length_toDigits_le_iff (by decide) some_).1 le_rfl

theorem read_digits_natural_text (value : Nat) : readDigits? (naturalText value) = some value := by
  have digits : (naturalText value).all Char.isDigit = true :=
    List.all_eq_true.2 (natural_text_digits value)
  simp [readDigits?, digits, natural_text_ne_nil, extend_natural_text]

theorem natural_text_first {value : Nat} {first : Char}
    (found : (naturalText value).head? = some first) : first.isDigit = true :=
  natural_text_digits value first (List.mem_of_head? found)

theorem read_natural_text (value : Nat) : readNatural? (naturalText value) = some value := by
  unfold readNatural?
  split
  · rename_i rest same
    have digit : Char.isDigit _ = true := natural_text_first (congrArg List.head? same)
    exact absurd digit (by decide)
  · exact read_digits_natural_text value

theorem read_integer_natural_text (value : Nat) :
    readInteger? (naturalText value) = some (Int.ofNat value) := by
  unfold readInteger?
  split
  · rename_i rest same
    have digit : Char.isDigit _ = true := natural_text_first (congrArg List.head? same)
    exact absurd digit (by decide)
  · simp [read_natural_text]

theorem read_integer_text (number : Int) : readInteger? (integerText number) = some number := by
  cases number with
  | ofNat value => exact read_integer_natural_text value
  | negSucc value =>
      simp only [readInteger?, integerText, read_digits_natural_text, Option.map_some]
      rfl

theorem digit_visible {digit : Char} (plain : digit.isDigit = true) :
    Text.isBlank digit = false :=
  Text.alphanum_visible (by simp [Char.isAlphanum, plain])

theorem Word.text_visible (word : Word) : ∀ character ∈ word.text, Text.isBlank character = false := by
  have visible : ∀ value, ∀ digit ∈ naturalText value, Text.isBlank digit = false :=
    fun value digit member => digit_visible (natural_text_digits value digit member)
  unfold Word.text integerText
  split
  · exact visible _
  · intro character member
    rcases List.mem_cons.1 member with rfl | later
    · decide
    · exact visible _ character later

theorem Word.read_type {type : WordType} {word : Word} (read : Word.read? type text = some word) :
    word.type = type := by
  obtain ⟨number, _, made⟩ := Option.bind_eq_some_iff.1 read
  unfold Word.ofInt? at made
  split at made
  · cases made
    rfl
  · cases made

theorem Word.read_text (word : Word) : Word.read? word.type word.text = some word := by
  obtain ⟨type, number, fits⟩ := word
  unfold Word.read? Word.text
  by_cases signed : type.isSigned = true
  · simp only [signed, if_true, read_integer_text, Option.bind_some]
    exact Word.of_int_word ⟨type, number, fits⟩
  · have least : type.lowest = 0 := by cases type <;> simp_all [WordType.isSigned, WordType.lowest]
    have positive : 0 ≤ number := by
      have bounds := fits
      simp only [WordType.contains, least, Bool.and_eq_true, decide_eq_true_eq] at bounds
      exact bounds.1
    obtain ⟨value, rfl⟩ := Int.eq_ofNat_of_zero_le positive
    have read : readNatural? (integerText (Int.ofNat value)) = some value := read_natural_text value
    simp only [signed]
    change ((readNatural? (integerText (Int.ofNat value))).map Int.ofNat).bind _ = _
    rw [read]
    exact Word.of_int_word ⟨type, value, fits⟩

end ConnectionManager.Number
