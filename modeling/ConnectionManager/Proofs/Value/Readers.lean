import ConnectionManager.Proofs.Value.Signature

/-!
Readers of typed values. The reader that goes with a signature finds the content of every value that
has this signature (`reads_as`), except that an array is not read as one of the lists of single
bytes, texts or paths, though its signature can be that of such a list (`reads_lists`).
-/

namespace ConnectionManager

open Number (Word WordType)

namespace WordType

/-- The width at which integers of a type are read. -/
def reader : WordType → WordType
  | .byte | .uint16 | .uint32 => .uint32
  | .int16 | .int32 => .int32
  | .int64 => .int64
  | .uint64 => .uint64

theorem reader_contains {type : WordType} {number : Int} (fits : type.contains number = true) :
    (reader type).contains number = true := by
  simp only [Number.WordType.contains, Bool.and_eq_true, decide_eq_true_eq] at fits ⊢
  cases type <;> simp only [reader, Number.WordType.lowest, Number.WordType.highest] at fits ⊢ <;>
    omega

end WordType

namespace Dictionary

/-- A reader finds the content of the value under a name. -/
def Reads {α : Type} (dictionary : Dictionary) (key : String) (reader : Value → Option α)
    (make : α → Value) : Prop :=
  ∃ content, dictionary.get? key = some (make content) ∧
    (dictionary.get? key).bind reader = some content

structure ReadsAs (dictionary : Dictionary) (key signature : String) : Prop where
  bool : signature = "b" → dictionary.Reads key Value.bool? .bool
  integer : ∀ type, signature = WordType.signature type → ∃ word : Word, word.type = type ∧
    dictionary.get? key = some (.integer word) ∧
      dictionary.integerAs? (WordType.reader type) key = some word.number
  double : signature = "d" → dictionary.Reads key Value.double? .double
  string : signature = "s" → dictionary.Reads key Value.string? .string
  path : signature = "o" → dictionary.Reads key Value.path? .path
  entries : signature = "a\x7bsv\x7d" →
    dictionary.Reads key Value.dictionary? fun content => .dictionary content.entries
  array : ∀ element, signature = "a" ++ element → element ∉ ["y", "s", "o", "\x7bsv\x7d"] →
    dictionary.Reads key Value.array? .array
  tuple : ∀ inner, signature = "(" ++ inner → dictionary.Reads key Value.tuple? .tuple

structure ReadsLists (dictionary : Dictionary) (key signature : String) : Prop where
  bytes : signature = "ay" → dictionary.Reads key Value.bytes? .bytes
  strings : signature = "as" → dictionary.Reads key Value.strings? .strings
  paths : signature = "ao" → dictionary.Reads key Value.paths? .paths

variable {dictionary : Dictionary} {key signature : String} {value : Value}

theorem reads_of_found {α : Type} {reader : Value → Option α} {make : α → Value} (content : α)
    (found : dictionary.get? key = some value) (made : value = make content)
    (read : reader (make content) = some content) : dictionary.Reads key reader make := by
  rw [made] at found
  refine ⟨content, found, ?_⟩
  rw [found]
  exact read

end Dictionary

namespace Value

variable {value : Value} {signature : String}

/-- No array looks like a dictionary, since what it holds does not begin with a brace. -/
theorem array_not_dictionary (items : List Value) : (array items).signature ≠ "a\x7bsv\x7d" := by
  intro typed
  cases items with
  | nil => exact absurd typed (by decide)
  | cons first rest =>
      have inner : "a" ++ first.signature = "a" ++ "\x7bsv\x7d" := typed
      have braced := (String.append_right_inj _).1 inner
      obtain ⟨word, _, brace⟩ : first.Form '\x7b' := form_of_signature braced rfl
      exact WordType.letter_not_brace word.type brace

theorem list_of_signature (typed : value.signature = signature)
    (begins : signature.toList.head? = some 'a') :
    (∃ content, value = .bytes content ∧ signature = "a" ++ "y") ∨
    (∃ texts, value = .strings texts ∧ signature = "a" ++ "s") ∨
    (∃ locations, value = .paths locations ∧ signature = "a" ++ "o") ∨
    (∃ entries, value = .dictionary entries ∧ signature = "a" ++ "\x7bsv\x7d") ∨
    ∃ items, value = .array items ∧ signature ≠ "a\x7bsv\x7d" := by
  have form : value.Form 'a' := form_of_signature typed begins
  rw [← typed]
  rcases form with ⟨content, rfl⟩ | ⟨texts, rfl⟩ | ⟨locations, rfl⟩ | ⟨entries, rfl⟩ | ⟨items, rfl⟩
  · exact .inl ⟨content, rfl, rfl⟩
  · exact .inr (.inl ⟨texts, rfl, rfl⟩)
  · exact .inr (.inr (.inl ⟨locations, rfl, rfl⟩))
  · exact .inr (.inr (.inr (.inl ⟨entries, rfl, rfl⟩)))
  · exact .inr (.inr (.inr (.inr ⟨items, rfl, array_not_dictionary items⟩)))

end Value

namespace Dictionary

variable {dictionary : Dictionary} {key signature : String} {value : Value}

theorem reads_array {element : String} (found : dictionary.get? key = some value)
    (typed : value.signature = "a" ++ element)
    (compound : element ∉ ["y", "s", "o", "\x7bsv\x7d"]) :
    dictionary.Reads key Value.array? .array := by
  have begins : ("a" ++ element).toList.head? = some 'a' := by
    rw [String.toList_append]
    rfl
  rcases Value.list_of_signature typed begins with
    ⟨_, _, single⟩ | ⟨_, _, single⟩ | ⟨_, _, single⟩ | ⟨_, _, single⟩ | ⟨items, same, _⟩
  · simp [(String.append_right_inj _).1 single] at compound
  · simp [(String.append_right_inj _).1 single] at compound
  · simp [(String.append_right_inj _).1 single] at compound
  · simp [(String.append_right_inj _).1 single] at compound
  · exact reads_of_found items found same rfl

theorem reads_as (found : dictionary.get? key = some value) (typed : value.signature = signature) :
    dictionary.ReadsAs key signature := by
  constructor
  · rintro rfl
    obtain ⟨content, same⟩ : value.Form 'b' := Value.form_of_signature typed rfl
    exact reads_of_found content found same rfl
  · rintro type rfl
    obtain ⟨word, rfl, rfl⟩ := Value.word_of_signature typed
    refine ⟨word, rfl, found, ?_⟩
    rw [integerAs?, found]
    exact Option.filter_eq_some_iff.2 ⟨rfl, WordType.reader_contains word.fits⟩
  · rintro rfl
    obtain ⟨number, same⟩ : value.Form 'd' := Value.form_of_signature typed rfl
    exact reads_of_found number found same rfl
  · rintro rfl
    obtain ⟨text, same⟩ : value.Form 's' := Value.form_of_signature typed rfl
    exact reads_of_found text found same rfl
  · rintro rfl
    obtain ⟨location, same⟩ : value.Form 'o' := Value.form_of_signature typed rfl
    exact reads_of_found location found same rfl
  · rintro rfl
    obtain ⟨entries, same⟩ : ∃ entries, value = .dictionary entries := by
      simpa using Value.list_of_signature typed rfl
    exact reads_of_found ⟨entries⟩ found same rfl
  · rintro element rfl compound
    exact reads_array found typed compound
  · rintro inner rfl
    have begins : ("(" ++ inner).toList.head? = some '(' := by
      rw [String.toList_append]
      rfl
    obtain ⟨fields, same⟩ : value.Form '(' := Value.form_of_signature typed begins
    exact reads_of_found fields found same rfl

theorem reads_lists (found : dictionary.get? key = some value) (typed : value.signature = signature)
    (listed : ∀ items, value ≠ .array items) : dictionary.ReadsLists key signature := by
  constructor
  · rintro rfl
    obtain ⟨content, same⟩ : ∃ content, value = .bytes content := by
      simpa [listed] using Value.list_of_signature typed rfl
    exact reads_of_found content found same rfl
  · rintro rfl
    obtain ⟨texts, same⟩ : ∃ texts, value = .strings texts := by
      simpa [listed] using Value.list_of_signature typed rfl
    exact reads_of_found texts found same rfl
  · rintro rfl
    obtain ⟨locations, same⟩ : ∃ locations, value = .paths locations := by
      simpa [listed] using Value.list_of_signature typed rfl
    exact reads_of_found locations found same rfl

end Dictionary

end ConnectionManager
