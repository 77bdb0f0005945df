import ConnectionManager.Number.DoubleText
import ConnectionManager.Proofs.Number.Decimal
import ConnectionManager.Proofs.Number.Shortest
import Mathlib.Data.List.TakeWhile

/-!
A finite double comes back from its text, bit for bit. The digits of the text are those of the
shortest decimal, wherever the point stands, and this decimal rounds to the double.
-/

namespace ConnectionManager.Number

namespace Double

variable {value : Double} {negative : Bool} {digits whole part : List Char} {exponent : Int}

theorem read_whole (some_ : digits ≠ []) (plain : ∀ digit ∈ digits, digit.isDigit = true) :
    readUnsigned? negative digits = some (ofDecimal negative (extendByDigits 0 digits) 0) := by
  have taken : digits.takeWhile Char.isDigit = digits := List.takeWhile_eq_self_iff.2 plain
  have left : digits.dropWhile Char.isDigit = [] := List.dropWhile_eq_nil_iff.2 plain
  simp [readUnsigned?, taken, left, some_, readExponent?]

theorem read_point (some_ : whole ≠ []) (plain : ∀ digit ∈ whole, digit.isDigit = true)
    (plainToo : ∀ digit ∈ part, digit.isDigit = true) :
    readUnsigned? negative (whole ++ '.' :: part)
      = some (ofDecimal negative (extendByDigits 0 (whole ++ part)) (-part.length)) := by
  have point : Char.isDigit '.' = false := by decide
  have taken : (whole ++ '.' :: part).takeWhile Char.isDigit = whole := by
    rw [List.takeWhile_append_of_pos plain, List.takeWhile_cons_of_neg (by simp [point]),
      List.append_nil]
  have left : (whole ++ '.' :: part).dropWhile Char.isDigit = '.' :: part := by
    rw [List.dropWhile_append_of_pos plain, List.dropWhile_cons_of_neg (by simp [point])]
  have takenToo : part.takeWhile Char.isDigit = part := List.takeWhile_eq_self_iff.2 plainToo
  have leftToo : part.dropWhile Char.isDigit = [] := List.dropWhile_eq_nil_iff.2 plainToo
  simp [readUnsigned?, taken, left, takenToo, leftToo, some_, readExponent?]

/-- A decimal is written as digits, perhaps with a point among them, and the digits make up the
number. -/
structure Layout (decimal : Decimal) (whole part : List Char) : Prop where
  begins : whole ≠ []
  plain : ∀ digit ∈ whole, digit.isDigit = true
  plainPart : ∀ digit ∈ part, digit.isDigit = true
  text : decimal.positional = whole ++ '.' :: part ∨ (part = [] ∧ decimal.positional = whole)
  value : (extendByDigits 0 (whole ++ part) * 10 ^ (-(part.length : Int)) : ℚ) = decimal.value

theorem zeros_plain (count : Nat) : ∀ digit ∈ List.replicate count '0', digit.isDigit = true := by
  intro digit member
  rw [List.eq_of_mem_replicate member]
  decide

theorem positional_layout (decimal : Decimal) : ∃ whole part, Layout decimal whole part := by
  obtain ⟨digits, exponent⟩ := decimal
  have plain := natural_text_digits digits
  by_cases up : 0 ≤ exponent
  · obtain ⟨steps, rfl⟩ := Int.eq_ofNat_of_zero_le up
    have written : Decimal.positional ⟨digits, steps⟩
        = naturalText digits ++ List.replicate steps '0' := by
      simp [Decimal.positional]
    refine ⟨naturalText digits ++ List.replicate steps '0', [], ?_, ?_, by simp,
      .inr ⟨rfl, written⟩, ?_⟩
    · simp [natural_text_ne_nil]
    · intro digit member
      rcases List.mem_append.1 member with first | later
      · exact plain digit first
      · exact zeros_plain _ digit later
    · rw [List.append_nil, extend_append, extend_natural_text, extend_zeros]
      simp [Decimal.value]
  · obtain ⟨places, same⟩ := Int.eq_ofNat_of_zero_le (show 0 ≤ -exponent by omega)
    have opposite : exponent = -(places : Int) := by omega
    subst opposite
    generalize written : List.replicate (places + 1 - (naturalText digits).length) '0'
      ++ naturalText digits = padded
    have long : places + 1 ≤ padded.length := by
      rw [← written, List.length_append, List.length_replicate]
      omega
    have plainPadded : ∀ digit ∈ padded, digit.isDigit = true := by
      intro digit member
      rcases List.mem_append.1 (written ▸ member) with first | later
      · exact zeros_plain _ digit first
      · exact plain digit later
    have number : extendByDigits 0 padded = digits := by
      rw [← written, extend_append, extend_zeros, Nat.zero_mul, extend_natural_text]
    refine ⟨padded.take (padded.length - places), padded.drop (padded.length - places), ?_,
      fun digit member => plainPadded digit (List.mem_of_mem_take member),
      fun digit member => plainPadded digit (List.mem_of_mem_drop member), .inl ?_, ?_⟩
    · rw [ne_eq, ← List.length_eq_zero_iff, List.length_take]
      omega
    · have down : ¬ (-(places : Int)) ≥ 0 := up
      simp only [Decimal.positional, neg_neg, Int.toNat_natCast, if_neg down, written]
      simp
    · rw [List.take_append_drop, number, List.length_drop, Decimal.value]
      congr 3
      omega

/-- The digits of a decimal that is written positionally make up the same number. -/
theorem read_positional (negative : Bool) (decimal : Decimal) : ∃ digits exponent,
    readUnsigned? negative decimal.positional = some (ofDecimal negative digits exponent) ∧
      (digits * 10 ^ exponent : ℚ) = decimal.value := by
  obtain ⟨whole, part, begins, plain, plainPart, text, value⟩ := positional_layout decimal
  refine ⟨extendByDigits 0 (whole ++ part), -part.length, ?_, value⟩
  rcases text with point | ⟨rfl, written⟩
  · rw [point, read_point begins plain plainPart]
  · rw [written, read_whole begins plain]
    simp

/-- What rounds to a finite double is neither so small nor so large that its order of magnitude is
taken for zero or infinity. -/
theorem RoundsTo.number_bounds {number : ℚ} (rounds : value.RoundsTo number)
    (some_ : value.isZero = false) (finite : value.isFinite = true) :
    (2 : ℚ) ^ (-1076 : Int) ≤ number ∧ number < 2 ^ (1024 : Int) := by
  have near := rounds.near some_
  have positive : (1 : ℚ) ≤ value.significand := by exact_mod_cast significand_positive some_
  have bound : (value.significand : ℚ) + 1 ≤ significandBound := by exact_mod_cast value.significand_lt
  have place : (0 : ℚ) < 2 ^ value.scale := by positivity
  constructor
  · have least : (2 : ℚ) ^ (-1076 : Int) ≤ 2 ^ (value.scale - 2) :=
      zpow_le_zpow_right₀ one_le_two (by linarith [value.scale_least])
    have quarter : (2 : ℚ) ^ (value.scale - 2) = 2 ^ value.scale / 4 := by
      rw [zpow_sub₀ two_ne_zero]
      norm_num
    have low := near.low
    refine least.trans (quarter ▸ ?_)
    nlinarith
  · calc number
      _ ≤ (value.significand + 1 / 2) * 2 ^ value.scale := near.high
      _ < significandBound * 2 ^ value.scale := by
          gcongr
          linarith
      _ = 2 ^ (value.scale + 53) := significand_bound_scaled value.scale
      _ ≤ 2 ^ (1024 : Int) := zpow_le_zpow_right₀ one_le_two (by linarith [scale_most finite])

theorem powers_le (steps : Nat) : (2 : ℚ) ^ (steps : Int) ≤ 10 ^ (steps : Int) ∧
    (10 : ℚ) ^ (-(steps : Int)) ≤ 2 ^ (-(steps : Int)) := by
  have less : (2 : ℚ) ^ steps ≤ 10 ^ steps := by
    gcongr
    norm_num
  simp only [zpow_neg, zpow_natCast]
  refine ⟨less, ?_⟩
  gcongr

theorem order_bounds {digits : Nat} {number : ℚ} (same : (digits * 10 ^ exponent : ℚ) = number)
    (low : (2 : ℚ) ^ (-1076 : Int) ≤ number) (high : number < 2 ^ (1024 : Int)) :
    0 < digits ∧ -exponentBound ≤ exponent + (naturalText digits).length ∧
      exponent + (naturalText digits).length ≤ exponentBound := by
  have positive : 0 < digits := by
    by_contra nothing
    have zero : digits = 0 := by omega
    have above : (0 : ℚ) < number := lt_of_lt_of_le (by positivity) low
    simp [zero, ← same] at above
  obtain ⟨least, most⟩ := natural_text_bounds positive
  have some_ : 0 < (naturalText digits).length := List.length_pos_iff.2 (natural_text_ne_nil digits)
  have place : (0 : ℚ) < 10 ^ exponent := by positivity
  refine ⟨positive, ?_, ?_⟩
  · by_contra small
    have less : number < 10 ^ (exponent + (naturalText digits).length : Int) := by
      rw [← same, zpow_add₀ (by norm_num), mul_comm, zpow_natCast]
      gcongr
      exact_mod_cast most
    have tiny : (10 : ℚ) ^ (exponent + (naturalText digits).length : Int) ≤ 10 ^ (-1076 : Int) :=
      zpow_le_zpow_right₀ (by norm_num) (by unfold exponentBound at small; omega)
    exact absurd (low.trans_lt (less.trans_le (tiny.trans (powers_le 1076).2))) (lt_irrefl _)
  · by_contra large
    generalize length : (naturalText digits).length - 1 = places at least large
    have more : (10 : ℚ) ^ (exponent + places : Int) ≤ number := by
      rw [← same, zpow_add₀ (by norm_num), mul_comm, zpow_natCast]
      gcongr
      exact_mod_cast least
    have huge : (10 : ℚ) ^ (1024 : Int) ≤ 10 ^ (exponent + places : Int) :=
      zpow_le_zpow_right₀ (by norm_num) (by unfold exponentBound at large; omega)
    exact absurd (high.trans_le ((powers_le 1024).1.trans (huge.trans more))) (lt_irrefl _)

theorem of_decimal_eq {digits : Nat} (rounds : value.RoundsTo (digits * 10 ^ exponent))
    (some_ : value.isZero = false) (finite : value.isFinite = true) :
    ofDecimal value.isNegative digits exponent = value := by
  obtain ⟨low, high⟩ := rounds.number_bounds some_ finite
  obtain ⟨positive, least, most⟩ := order_bounds rfl low high
  have quotient : ((digits * Nat.pow 10 exponent.toNat : Nat) : ℚ) /
      (Nat.pow 10 (-exponent).toNat : Nat) = digits * 10 ^ exponent := by
    have power := pow_to_nat_div 10 exponent
    rw [Nat.cast_ofNat] at power
    rw [Nat.cast_mul, mul_div_assoc, power]
  unfold ofDecimal
  dsimp only
  rw [if_neg (by simp; omega), if_neg (by simp; omega)]
  apply of_quotient_eq (quotient ▸ rounds) some_ finite
  · exact (Nat.mul_pos positive (Nat.pow_pos (by decide))).ne'
  · exact Nat.pow_pos (by decide)

theorem digit_lower {digit : Char} (plain : digit.isDigit = true) : digit.toLower = digit := by
  simp only [Char.isDigit, Bool.and_eq_true, decide_eq_true_eq] at plain
  apply dif_neg
  intro upper
  exact absurd (UInt32.le_trans upper.1 plain.2) (by decide)

theorem named_false (name : String) {text : List Char} {first : Char}
    (begins : text.head? = some first) (plain : first.isDigit = true)
    (other : name.toList.head? ≠ some first) : isNamed name text = false := by
  cases text with
  | nil => cases begins
  | cons character rest =>
      cases begins
      rw [isNamed, beq_eq_false_iff_ne]
      intro same
      apply other
      rw [← same, List.map_cons, List.head?_cons, digit_lower plain]

theorem read_magnitude_digit {text : List Char} {first : Char} (begins : text.head? = some first)
    (plain : first.isDigit = true) : readMagnitude? negative text = readUnsigned? negative text := by
  have other : ∀ letter : Char, letter.isDigit = false → some letter ≠ some first := by
    intro letter apart same
    cases same
    rw [plain] at apart
    cases apart
  have inf := named_false "inf" begins plain (other 'i' (by decide))
  have infinity := named_false "infinity" begins plain (other 'i' (by decide))
  have nan := named_false "nan" begins plain (other 'n' (by decide))
  simp [readMagnitude?, inf, infinity, nan]

theorem positional_digit (decimal : Decimal) :
    ∃ first, decimal.positional.head? = some first ∧ first.isDigit = true := by
  obtain ⟨whole, part, begins, plain, _, text, _⟩ := positional_layout decimal
  obtain ⟨first, rest, same⟩ := List.exists_cons_of_ne_nil begins
  refine ⟨first, ?_, plain first (by simp [same])⟩
  rcases text with point | ⟨_, written⟩
  · simp [point, same]
  · simp [written, same]

/-- What is written of a finite double after its sign. -/
def unsignedText (value : Double) : List Char :=
  if value.isZero then ['0'] else value.shortest.positional

theorem text_eq (finite : value.isFinite = true) :
    value.text = (if value.isNegative then ['-'] else []) ++ value.unsignedText := by
  have number : value.isNaN = false := by
    have field : value.exponentField < 2047 := of_decide_eq_true finite
    simp [isNaN, show value.exponentField ≠ 2047 by omega]
  simp [text, number, finite, unsignedText]

theorem unsigned_text_digit (value : Double) :
    ∃ first, value.unsignedText.head? = some first ∧ first.isDigit = true := by
  unfold unsignedText
  split
  · exact ⟨'0', rfl, by decide⟩
  · exact positional_digit value.shortest

theorem read_unsigned_text (finite : value.isFinite = true) :
    readUnsigned? value.isNegative value.unsignedText = some value := by
  unfold unsignedText
  split
  · rename_i zero
    have bits : value.magnitudeBits = 0 := by simpa [isZero] using zero
    have whole := of_magnitude_bits value
    rw [bits] at whole
    rw [read_whole (by simp) (by simp +decide)]
    simpa [ofDecimal, extendByDigits, digitValue] using whole
  · rename_i some_
    obtain ⟨digits, exponent, read, number⟩ := read_positional value.isNegative value.shortest
    have rounds := shortest_rounds (by simpa using some_) finite
    rw [← number] at rounds
    rw [read, of_decimal_eq rounds (by simpa using some_) finite]

theorem text_visible (value : Double) : ∀ character ∈ value.text, Text.isBlank character = false := by
  have positional : ∀ character ∈ value.shortest.positional, Text.isBlank character = false := by
    obtain ⟨whole, part, _, plain, plainPart, text, _⟩ := positional_layout value.shortest
    intro character member
    rcases text with point | ⟨_, written⟩
    · rw [point] at member
      rcases List.mem_append.1 member with first | later
      · exact digit_visible (plain character first)
      · rcases List.mem_cons.1 later with rfl | deeper
        · decide
        · exact digit_visible (plainPart character deeper)
    · exact digit_visible (plain character (written ▸ member))
  have sign : ∀ character ∈ (if value.isNegative then ['-'] else []),
      Text.isBlank character = false := by
    split <;> simp +decide
  unfold text
  dsimp only
  generalize (if value.isNegative = true then ['-'] else []) = minus at sign ⊢
  split_ifs
  · simp +decide
  · exact List.forall_mem_append.2 ⟨sign, by simp +decide⟩
  · exact List.forall_mem_append.2 ⟨sign, by simp +decide⟩
  · exact List.forall_mem_append.2 ⟨sign, positional⟩

theorem read_digit {text : List Char} {first : Char} (begins : text.head? = some first)
    (plain : first.isDigit = true) : read? text = readMagnitude? false text := by
  unfold read?
  split
  · cases begins
    exact absurd plain (by decide)
  · cases begins
    exact absurd plain (by decide)
  · rfl

theorem read_text (finite : value.isFinite = true) : read? value.text = some value := by
  obtain ⟨first, begins, plain⟩ := value.unsigned_text_digit
  have magnitude : readMagnitude? value.isNegative value.unsignedText = some value :=
    (read_magnitude_digit begins plain).trans (read_unsigned_text finite)
  rw [text_eq finite]
  cases negative : value.isNegative with
  | true =>
      rw [negative] at magnitude
      exact magnitude
  | false =>
      rw [negative] at magnitude
      exact (read_digit begins plain).trans magnitude

end Double

end ConnectionManager.Number
