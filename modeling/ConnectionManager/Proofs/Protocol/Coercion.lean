import ConnectionManager.Proofs.Value.Signature
import ConnectionManager.Protocol.Parameter

/-!
Supplied values in the type of a parameter. An integer of any width is taken if its number fits the
type that is wanted (`coerce_integer`), and whatever is taken has the type that is wanted, unless a
parameter for any value wants none (`coerce_signature`).
-/

namespace ConnectionManager

open Number (Word WordType)

theorem Number.Word.type_of_int {type : WordType} {number : Int} {word : Word}
    (fitting : Word.ofInt? type number = some word) : word.type = type := by
  unfold Word.ofInt? at fitting
  split at fitting
  · cases fitting
    rfl
  · cases fitting

namespace Value

theorem unboxed_not_boxed (value inner : Value) : value.unboxed ≠ .boxed inner := by
  fun_induction unboxed value with
  | case1 content induction => exact induction
  | case2 value other => exact other inner

theorem unboxed_unboxed (value : Value) : value.unboxed.unboxed = value.unboxed := by
  fun_induction unboxed value with
  | case1 content induction => exact induction
  | case2 value other =>
      cases value with
      | boxed inner => exact absurd rfl (other inner)
      | _ => rfl

theorem unboxed_signature (value : Value) : value.unboxed.signature ≠ "v" := by
  intro typed
  obtain ⟨inner, same⟩ : ∃ inner, value.unboxed = .boxed inner := form_of_signature typed rfl
  exact unboxed_not_boxed value inner same

theorem integer_of_unboxed (value : Value) : value.unboxed.integer? = value.integer? := by
  rw [integer?, integer?, unboxed_unboxed]

theorem integer_eq_some {value : Value} {number : Int} : value.integer? = some number ↔
    ∃ word : Word, value.unboxed = .integer word ∧ word.number = number := by
  unfold integer?
  constructor
  · intro known
    split at known
    · rename_i word same
      exact ⟨word, same, Option.some.inj known⟩
    · cases known
  · rintro ⟨word, same, rfl⟩
    rw [same]

end Value

namespace Parameter

variable {parameter : Parameter} {given value : Value}

theorem coerce_typed (typed : given.unboxed.signature = parameter.signature) :
    parameter.coerce given = .ok given.unboxed := if_pos typed

theorem coerce_other (other : given.unboxed.signature ≠ parameter.signature) :
    parameter.coerce given = .ok value ↔
      convert? parameter.signature given.unboxed = some value := by
  rw [coerce, if_neg other]
  cases convert? parameter.signature given.unboxed <;> simp

theorem coerce_integer {type : WordType} (wanted : parameter.signature = WordType.signature type) :
    parameter.coerce given = .ok value ↔ ∃ word : Word, given.unboxed = .integer word ∧
      ∃ fits : type.contains word.number = true, value = .integer ⟨type, word.number, fits⟩ := by
  by_cases typed : given.unboxed.signature = parameter.signature
  · obtain ⟨word, same, rfl⟩ := Value.word_of_signature (typed.trans wanted)
    rw [coerce_typed typed, same]
    constructor
    · intro taken
      exact ⟨word, rfl, word.fits, (Except.ok.inj taken).symm⟩
    · rintro ⟨other, equal, _, rfl⟩
      cases equal
      rfl
  · rw [coerce_other typed, wanted, convert?, WordType.of_signature]
    simp only [Option.bind_eq_some_iff, Value.integer_of_unboxed, Value.integer_eq_some]
    constructor
    · rintro ⟨number, ⟨word, same, rfl⟩, taken⟩
      refine ⟨word, same, ?_⟩
      rw [Value.ofWord, Word.ofInt?] at taken
      split at taken
      · rename_i fits
        exact ⟨fits, (Option.some.inj taken).symm⟩
      · cases taken
    · rintro ⟨word, same, fits, rfl⟩
      refine ⟨word.number, ⟨word, same, rfl⟩, ?_⟩
      rw [Value.ofWord, Word.ofInt?, dif_pos fits]
      rfl

theorem coerce_any (wanted : parameter.signature = "v") :
    parameter.coerce given = .ok given.unboxed := by
  have other : given.unboxed.signature ≠ parameter.signature := by
    rw [wanted]
    exact given.unboxed_signature
  rw [coerce_other other, wanted]
  rfl

theorem coerce_signature (wanted : parameter.signature ≠ "v")
    (taken : parameter.coerce given = .ok value) : value.signature = parameter.signature ∧
      ∀ items, value = .array items → given.unboxed = .array items := by
  by_cases typed : given.unboxed.signature = parameter.signature
  · rw [coerce_typed typed] at taken
    cases taken
    exact ⟨typed, fun _ same => same⟩
  · rw [coerce_other typed, convert?] at taken
    split at taken
    · rename_i type known
      obtain ⟨number, _, converted⟩ := Option.bind_eq_some_iff.1 taken
      obtain ⟨word, fitting, rfl⟩ := Option.map_eq_some_iff.1 converted
      have same : word.type = type := Word.type_of_int fitting
      refine ⟨?_, fun items array => by cases array⟩
      rw [WordType.of_signature_eq_some known, ← same]
      rfl
    · split at taken
      · rename_i path
        obtain ⟨location, _, rfl⟩ := Option.map_eq_some_iff.1 taken
        exact ⟨path.symm, fun items array => by cases array⟩
      · cases taken

end Parameter

end ConnectionManager
