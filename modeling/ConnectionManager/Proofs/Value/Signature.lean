import ConnectionManager.Value.Access

/-!
What a signature tells about a value. The first character of a signature tells the form of the value
(`form_of_signature`), except that all lists begin alike; and of these only an array can have the
signature of another kind of list.
-/

namespace ConnectionManager

open Number (Word WordType)

namespace WordType

def letter : WordType → Char
  | .byte => 'y'
  | .int16 => 'n'
  | .uint16 => 'q'
  | .int32 => 'i'
  | .uint32 => 'u'
  | .int64 => 'x'
  | .uint64 => 't'

theorem signature_letter (type : WordType) : (signature type).toList = [letter type] := by
  cases type <;> rfl

theorem letter_injective {left right : WordType} (same : letter left = letter right) :
    left = right := by
  cases left <;> cases right <;> first | rfl | exact absurd same (by decide)

theorem letter_not_brace (type : WordType) : letter type ≠ '\x7b' := by
  cases type <;> decide

theorem of_signature (type : WordType) : ofSignature? (signature type) = some type := by
  cases type <;> rfl

theorem of_signature_eq_some {text : String} {type : WordType}
    (known : ofSignature? text = some type) : text = signature type := by
  have found := List.find?_some (p := fun type => decide (signature type = text)) known
  exact (of_decide_eq_true found).symm

end WordType

namespace Value

variable {value : Value} {signature : String}

def initial : Value → Char
  | .bool _ => 'b'
  | .integer word => WordType.letter word.type
  | .double _ => 'd'
  | .string _ => 's'
  | .path _ => 'o'
  | .bytes _ | .strings _ | .paths _ | .dictionary _ | .array _ => 'a'
  | .boxed _ => 'v'
  | .tuple _ => '('

/-- What a value is whose signature begins with a character. -/
def Form (value : Value) : Char → Prop
  | 'b' => ∃ content, value = .bool content
  | 'd' => ∃ number, value = .double number
  | 's' => ∃ text, value = .string text
  | 'o' => ∃ location, value = .path location
  | 'v' => ∃ inner, value = .boxed inner
  | '(' => ∃ fields, value = .tuple fields
  | 'a' => (∃ content, value = .bytes content) ∨ (∃ texts, value = .strings texts) ∨
      (∃ locations, value = .paths locations) ∨ (∃ entries, value = .dictionary entries) ∨
      ∃ items, value = .array items
  | letter => ∃ word, value = .integer word ∧ WordType.letter word.type = letter

theorem initial_form (value : Value) : value.Form value.initial := by
  cases value with
  | integer word =>
      obtain ⟨type, number, fits⟩ := word
      cases type <;> exact ⟨_, rfl, rfl⟩
  | bytes content => exact .inl ⟨content, rfl⟩
  | strings texts => exact .inr (.inl ⟨texts, rfl⟩)
  | paths locations => exact .inr (.inr (.inl ⟨locations, rfl⟩))
  | dictionary entries => exact .inr (.inr (.inr (.inl ⟨entries, rfl⟩)))
  | array items => exact .inr (.inr (.inr (.inr ⟨items, rfl⟩)))
  | _ => exact ⟨_, rfl⟩

theorem signature_initial (value : Value) :
    ∃ rest, value.signature.toList = value.initial :: rest := by
  cases value with
  | integer word => exact ⟨[], WordType.signature_letter word.type⟩
  | array items =>
      cases items with
      | nil => exact ⟨['v'], rfl⟩
      | cons first rest => exact ⟨first.signature.toList, String.toList_append⟩
  | tuple fields =>
      refine ⟨(signatures fields).toList ++ [')'], ?_⟩
      rw [Value.signature, String.toList_append, String.toList_append]
      rfl
  | _ => simp [Value.signature, initial]

theorem form_of_signature {first : Char} (typed : value.signature = signature)
    (begins : signature.toList.head? = some first) : value.Form first := by
  obtain ⟨rest, shape⟩ := signature_initial value
  rw [← typed, shape] at begins
  rw [← Option.some.inj begins]
  exact initial_form value

theorem word_of_signature {type : WordType} (typed : value.signature = WordType.signature type) :
    ∃ word, value = .integer word ∧ word.type = type := by
  have form : value.Form (WordType.letter type) := by
    apply form_of_signature typed
    rw [WordType.signature_letter]
    rfl
  have integer : ∃ word, value = .integer word ∧
      WordType.letter word.type = WordType.letter type := by
    cases type <;> exact form
  obtain ⟨word, same, letters⟩ := integer
  exact ⟨word, same, WordType.letter_injective letters⟩

end Value

end ConnectionManager
