import ConnectionManager.Proofs.Protocol.Validation
import ConnectionManager.Proofs.Value.Readers

/-!
Accepted values have the type that is declared, and the readers of this type find them
(`validated_typed`). A parameter for any value declares no type. The list readers find no arrays,
though an array can be of the same type. Of several parameters with one name the first takes the
value, and the default of a later one replaces it.
-/

namespace ConnectionManager

namespace Parameter

variable {parameter : Parameter} {before after : List Parameter} {supplied accepted : Dictionary}
  {given : Value}

theorem validate_at (done : validate (before ++ parameter :: after) supplied = .ok accepted)
    (first : ∀ other ∈ before, other.name ≠ parameter.name)
    (bare : ∀ other ∈ after, other.name = parameter.name → other.default = none)
    (found : supplied.get? parameter.name = some given) :
    ∃ value, parameter.coerce given = .ok value ∧ accepted.get? parameter.name = some value := by
  obtain ⟨final, ok, _, rfl⟩ := validate_eq_ok.1 done
  exact (check_all_at ok first bare).2.1 given found

/-- What is accepted under the name of a parameter has the type of the parameter and is read as such,
as a list of single bytes, texts or paths only if it was not supplied as an array. A parameter for any
value accepts what is supplied without its boxes. This is said of the first parameter of a name, if no
later one has a default. -/
theorem validated_typed (done : validate (before ++ parameter :: after) supplied = .ok accepted)
    (first : ∀ other ∈ before, other.name ≠ parameter.name)
    (bare : ∀ other ∈ after, other.name = parameter.name → other.default = none)
    (found : supplied.get? parameter.name = some given) :
    (parameter.signature = "v" → accepted.get? parameter.name = some given.unboxed) ∧
    (parameter.signature ≠ "v" →
      (∃ value, accepted.get? parameter.name = some value ∧
        value.signature = parameter.signature) ∧
      accepted.ReadsAs parameter.name parameter.signature ∧
      ((∀ items, given.unboxed ≠ .array items) →
        accepted.ReadsLists parameter.name parameter.signature)) := by
  obtain ⟨value, taken, kept⟩ := validate_at done first bare found
  constructor
  · intro wanted
    rw [coerce_any wanted] at taken
    rw [kept, Except.ok.inj taken]
  · intro wanted
    obtain ⟨typed, arrays⟩ := coerce_signature wanted taken
    refine ⟨⟨value, kept, typed⟩, Dictionary.reads_as kept typed, fun listed => ?_⟩
    exact Dictionary.reads_lists kept typed fun items same => listed items (arrays items same)

def rehearsedNames : List Parameter :=
  [(ofSignature "account" "s").withFlags { required := true }, ofSignature "names" "as",
    ofSignature "register" "b"]

def rehearsedList : Dictionary := .ofPairs [("account", .string "me"), ("names", .strings ["a", "b"])]

theorem validated_typed_rehearsed :
    validate rehearsedNames rehearsedList = .ok rehearsedList ∧
    rehearsedList.get? "names" = some (.strings ["a", "b"]) ∧
    rehearsedList.ReadsLists "names" "as" := by
  have done : validate rehearsedNames rehearsedList = .ok rehearsedList := rfl
  have found : rehearsedList.get? "names" = some (.strings ["a", "b"]) := rfl
  obtain ⟨_, typed⟩ := @validated_typed (ofSignature "names" "as")
    [(ofSignature "account" "s").withFlags { required := true }] [ofSignature "register" "b"]
    rehearsedList rehearsedList (.strings ["a", "b"]) done (by decide) (by decide) found
  exact ⟨done, found, (typed (by decide)).2.2 fun items same => nomatch same⟩

/-- A text is accepted as any value, an array of texts is accepted as a list of texts that is then
not read, and the default of a later parameter replaces what was accepted for the same name. -/
theorem declared_type_missed :
    (∃ accepted, validate [ofSignature "extra" "v"] (.ofPairs [("extra", .string "a")])
        = .ok accepted ∧
      accepted.get? "extra" = some (.string "a") ∧ (Value.string "a").signature ≠ "v") ∧
    (∃ accepted, validate [ofSignature "names" "as"] (.ofPairs [("names", .array [.string "a"])])
        = .ok accepted ∧
      accepted.strings? "names" = none) ∧
    (∃ accepted, validate
        [ofSignature "port" "s", (ofSignature "port" "b").withDefault (.bool true)]
        (.ofPairs [("port", .string "a")]) = .ok accepted ∧
      accepted.get? "port" = some (.bool true) ∧ (Value.bool true).signature ≠ "s") :=
  ⟨⟨_, rfl, rfl, by decide⟩, ⟨_, rfl, rfl⟩, ⟨_, rfl, rfl, by decide⟩⟩

end Parameter

end ConnectionManager
