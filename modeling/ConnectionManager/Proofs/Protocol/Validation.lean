import ConnectionManager.Proofs.Failure
import ConnectionManager.Proofs.Protocol.Coercion
import ConnectionManager.Proofs.Value.Dictionary
import ConnectionManager.Protocol.Validation

/-!
Checking supplied parameters. One parameter consumes the value under its name, or it is left to its
default (`Checked`); so what a whole list of parameters makes of a name is what the one parameter of
this name makes of it, and nothing else of the supplied values matters to it (`check_all_at`).
-/

namespace ConnectionManager

open Number (Word WordType)

namespace Parameter

variable {registering : Bool} {progress next final : Progress} {parameter : Parameter}
  {parameters before after : List Parameter} {key : String} {supplied accepted : Dictionary}
  {given value : Value}

/-- What the check of one parameter makes of the progress so far. -/
inductive Checked (registering : Bool) (progress : Progress) (parameter : Parameter) :
    Progress → Prop
  | supplied {given value : Value} (found : progress.remaining.get? parameter.name = some given)
      (coerced : parameter.coerce given = .ok value) :
      Checked registering progress parameter
        ⟨progress.remaining.erase parameter.name, progress.accepted.insert parameter.name value⟩
  | byDefault {value : Value} (absent : progress.remaining.get? parameter.name = none)
      (optional : parameter.isMandatory registering = false)
      (declared : parameter.default = some value) :
      Checked registering progress parameter
        ⟨progress.remaining, progress.accepted.insert parameter.name value⟩
  | leftOut (absent : progress.remaining.get? parameter.name = none)
      (optional : parameter.isMandatory registering = false)
      (undeclared : parameter.default = none) :
      Checked registering progress parameter progress

/-- A parameter can be settled with what is supplied: a value under its name coerces, and there is one
if it is mandatory. -/
structure Passes (registering : Bool) (supplied : Dictionary) (parameter : Parameter) : Prop where
  coerces : ∀ given, supplied.get? parameter.name = some given →
    ∃ value, parameter.coerce given = .ok value
  given : parameter.isMandatory registering = true →
    ∃ given, supplied.get? parameter.name = some given

theorem Passes.of_same {other : Dictionary}
    (same : supplied.get? parameter.name = other.get? parameter.name)
    (passes : Passes registering supplied parameter) : Passes registering other parameter where
  coerces := same ▸ passes.coerces
  given := same ▸ passes.given

theorem passes_congr {other : Dictionary}
    (same : supplied.get? parameter.name = other.get? parameter.name) :
    Passes registering supplied parameter ↔ Passes registering other parameter :=
  ⟨.of_same same, .of_same same.symm⟩

theorem check_one_checked (ok : checkOne registering progress parameter = .ok next) :
    Checked registering progress parameter next := by
  unfold checkOne at ok
  split at ok
  · rename_i given found
    obtain ⟨value, coerced, same⟩ := Outcome.bind_eq_ok.1 ok
    cases same
    exact .supplied found coerced
  · rename_i absent
    split at ok
    · cases ok
    · rename_i optional
      have optional : parameter.isMandatory registering = false := by simpa using optional
      split at ok
      · rename_i value declared
        cases ok
        exact .byDefault absent optional declared
      · rename_i undeclared
        cases ok
        exact .leftOut absent optional undeclared

theorem check_one_ok_iff : (∃ next, checkOne registering progress parameter = .ok next) ↔
    Passes registering progress.remaining parameter := by
  constructor
  · rintro ⟨next, ok⟩
    cases check_one_checked ok with
    | supplied found coerced =>
        refine ⟨fun given same => ?_, fun _ => ⟨_, found⟩⟩
        cases found.symm.trans same
        exact ⟨_, coerced⟩
    | byDefault absent optional | leftOut absent optional =>
        refine ⟨fun given same => ?_, fun mandatory => ?_⟩
        · cases absent.symm.trans same
        · cases optional.symm.trans mandatory
  · rintro ⟨coerces, givenIfMandatory⟩
    unfold checkOne
    split
    · rename_i given found
      obtain ⟨value, coerced⟩ := coerces given found
      rw [coerced]
      exact ⟨_, rfl⟩
    · rename_i absent
      have optional : ¬ parameter.isMandatory registering = true := by
        intro mandatory
        obtain ⟨given, found⟩ := givenIfMandatory mandatory
        rw [absent] at found
        cases found
      rw [if_neg optional]
      split <;> exact ⟨_, rfl⟩

theorem Checked.frame (checked : Checked registering progress parameter next)
    (other : parameter.name ≠ key) : next.remaining.get? key = progress.remaining.get? key ∧
      next.accepted.get? key = progress.accepted.get? key := by
  have other := Ne.symm other
  cases checked <;> simp [Dictionary.get_erase, Dictionary.get_insert, other]

theorem Checked.consumed (checked : Checked registering progress parameter next) :
    next.remaining.get? parameter.name = none := by
  cases checked with
  | supplied => rw [Dictionary.get_erase, if_pos rfl]
  | byDefault absent | leftOut absent => exact absent

theorem check_all_cons :
    checkAll registering progress (parameter :: parameters) = .ok final ↔
      ∃ next, checkOne registering progress parameter = .ok next ∧
        checkAll registering next parameters = .ok final :=
  Outcome.bind_eq_ok

/-- A name is left alone by parameters of other names, and once its value is consumed also by those of
the same name that have no default. -/
theorem check_all_frame (ok : checkAll registering progress parameters = .ok final)
    (aside : ∀ parameter ∈ parameters, parameter.name = key →
      progress.remaining.get? key = none ∧ parameter.default = none) :
    final.remaining.get? key = progress.remaining.get? key ∧
      final.accepted.get? key = progress.accepted.get? key := by
  induction parameters generalizing progress with
  | nil =>
      cases ok
      exact ⟨rfl, rfl⟩
  | cons parameter rest induction =>
      obtain ⟨next, one, later⟩ := check_all_cons.1 ok
      have checked := check_one_checked one
      have kept : next.remaining.get? key = progress.remaining.get? key ∧
          next.accepted.get? key = progress.accepted.get? key := by
        by_cases same : parameter.name = key
        · obtain ⟨consumed, undeclared⟩ := aside parameter List.mem_cons_self same
          subst same
          cases checked with
          | supplied found => cases consumed.symm.trans found
          | byDefault _ _ declared => cases undeclared.symm.trans declared
          | leftOut => exact ⟨rfl, rfl⟩
        · exact checked.frame same
      obtain ⟨remaining, accepted⟩ := induction later fun other member same => by
        rw [kept.1]
        exact aside other (List.mem_cons_of_mem parameter member) same
      exact ⟨remaining.trans kept.1, accepted.trans kept.2⟩

theorem check_all_append :
    checkAll registering progress (before ++ after) = .ok final ↔
      ∃ next, checkAll registering progress before = .ok next ∧
        checkAll registering next after = .ok final := by
  induction before generalizing progress with
  | nil => simp [checkAll]
  | cons parameter rest induction =>
      simp only [List.cons_append, check_all_cons, induction]
      constructor
      · rintro ⟨first, one, next, early, late⟩
        exact ⟨next, ⟨first, one, early⟩, late⟩
      · rintro ⟨next, ⟨first, one, early⟩, late⟩
        exact ⟨first, one, next, early, late⟩

/-- What the whole check makes of a name is what it makes of the first parameter of this name, if no
later one has a default. -/
theorem check_all_at
    (ok : checkAll registering progress (before ++ parameter :: after) = .ok final)
    (first : ∀ other ∈ before, other.name ≠ parameter.name)
    (bare : ∀ other ∈ after, other.name = parameter.name → other.default = none) :
    final.remaining.get? parameter.name = none ∧
    (∀ given, progress.remaining.get? parameter.name = some given →
      ∃ value, parameter.coerce given = .ok value ∧
        final.accepted.get? parameter.name = some value) ∧
    (progress.remaining.get? parameter.name = none →
      final.accepted.get? parameter.name
        = parameter.default.or (progress.accepted.get? parameter.name)) := by
  obtain ⟨reached, early, ok⟩ := check_all_append.1 ok
  obtain ⟨next, one, late⟩ := check_all_cons.1 ok
  have checked := check_one_checked one
  obtain ⟨reachedRemaining, reachedAccepted⟩ := check_all_frame early fun other member same =>
    absurd same (first other member)
  have consumed := checked.consumed
  obtain ⟨finalRemaining, finalAccepted⟩ := check_all_frame late fun other member same =>
    ⟨consumed, bare other member same⟩
  rw [finalRemaining, finalAccepted, ← reachedRemaining, ← reachedAccepted]
  refine ⟨consumed, ?_, ?_⟩
  · intro given found
    cases checked with
    | supplied same coerced =>
        cases found.symm.trans same
        exact ⟨_, coerced, by rw [Dictionary.get_insert, if_pos rfl]⟩
    | byDefault absent | leftOut absent => cases found.symm.trans absent
  · intro missing
    cases checked with
    | supplied same => cases missing.symm.trans same
    | byDefault _ _ declared => rw [Dictionary.get_insert, if_pos rfl, declared, Option.some_or]
    | leftOut _ _ undeclared => rw [undeclared, Option.none_or]

theorem check_all_ok_iff (distinct : (parameters.map Parameter.name).Nodup) :
    (∃ final, checkAll registering progress parameters = .ok final) ↔
      ∀ parameter ∈ parameters, Passes registering progress.remaining parameter := by
  induction parameters generalizing progress with
  | nil => exact ⟨fun _ _ member => absurd member List.not_mem_nil, fun _ => ⟨progress, rfl⟩⟩
  | cons parameter rest induction =>
      rw [List.map_cons, List.nodup_cons] at distinct
      have later : ∀ {next}, checkOne registering progress parameter = .ok next →
          ((∃ final, checkAll registering next rest = .ok final) ↔
            ∀ other ∈ rest, Passes registering progress.remaining other) := by
        intro next one
        rw [induction distinct.2]
        refine forall₂_congr fun other member => ?_
        have different : parameter.name ≠ other.name := by
          intro same
          exact distinct.1 (List.mem_map.2 ⟨other, member, same.symm⟩)
        rw [passes_congr ((check_one_checked one).frame different).1]
      rw [List.forall_mem_cons, ← check_one_ok_iff]
      constructor
      · rintro ⟨final, ok⟩
        obtain ⟨next, one, others⟩ := check_all_cons.1 ok
        exact ⟨⟨next, one⟩, (later one).1 ⟨final, others⟩⟩
      · rintro ⟨⟨next, one⟩, others⟩
        obtain ⟨final, ok⟩ := (later one).2 others
        exact ⟨final, check_all_cons.2 ⟨next, one, ok⟩⟩

theorem validate_eq_ok : validate parameters supplied = .ok accepted ↔
    ∃ final, checkAll (isRegistering supplied) ⟨supplied, .empty⟩ parameters = .ok final ∧
      (∀ key, final.remaining.get? key = none) ∧ final.accepted = accepted := by
  rw [validate, Outcome.bind_eq_ok]
  refine exists_congr fun final => and_congr_right fun _ => ?_
  rw [← Dictionary.is_empty_iff]
  cases final.remaining.isEmpty <;> simp

theorem Checked.ascending (checked : Checked registering progress parameter next)
    (ascending : Entries.Ascending progress.accepted.entries) :
    Entries.Ascending next.accepted.entries := by
  cases checked with
  | supplied | byDefault => exact Entries.ascending_insert _ _ ascending
  | leftOut => exact ascending

theorem check_all_ascending (ok : checkAll registering progress parameters = .ok final)
    (ascending : Entries.Ascending progress.accepted.entries) :
    Entries.Ascending final.accepted.entries := by
  induction parameters generalizing progress with
  | nil =>
      cases ok
      exact ascending
  | cons parameter rest induction =>
      obtain ⟨next, one, later⟩ := check_all_cons.1 ok
      exact induction later ((check_one_checked one).ascending ascending)

/-- What can be accepted: every name is that of a parameter, every mandatory parameter is given, and
every value coerces. -/
structure Admissible (parameters : List Parameter) (supplied : Dictionary) : Prop where
  known : ∀ key ∈ supplied.keys, ∃ parameter ∈ parameters, parameter.name = key
  given : ∀ parameter ∈ parameters,
    (if supplied.bool? "register" = some true then parameter.flags.register
      else parameter.flags.required) = true →
    parameter.name ∈ supplied.keys
  coerces : ∀ parameter ∈ parameters, ∀ given, supplied.get? parameter.name = some given →
    ∃ value, parameter.coerce given = .ok value

/-- What is accepted: the coerced values, the defaults of the parameters that are not given, and
nothing else. -/
structure Completes (parameters : List Parameter) (supplied accepted : Dictionary) : Prop where
  coerced : ∀ parameter ∈ parameters, ∀ given, supplied.get? parameter.name = some given →
    ∃ value, parameter.coerce given = .ok value ∧ accepted.get? parameter.name = some value
  defaults : ∀ parameter ∈ parameters, parameter.name ∉ supplied.keys →
    accepted.get? parameter.name = parameter.default
  bounded : ∀ key ∈ accepted.keys, ∃ parameter ∈ parameters, parameter.name = key
  ascending : Entries.Ascending accepted.entries

theorem mandatory_eq (supplied : Dictionary) (parameter : Parameter) :
    parameter.isMandatory (isRegistering supplied)
      = if supplied.bool? "register" = some true then parameter.flags.register
        else parameter.flags.required := by
  by_cases registers : supplied.bool? "register" = some true <;>
    simp [isMandatory, isRegistering, registers]

theorem passes_iff : Passes (isRegistering supplied) supplied parameter ↔
    ((if supplied.bool? "register" = some true then parameter.flags.register
      else parameter.flags.required) = true → parameter.name ∈ supplied.keys) ∧
    ∀ given, supplied.get? parameter.name = some given →
      ∃ value, parameter.coerce given = .ok value := by
  have present : parameter.name ∈ supplied.keys ↔
      ∃ given, supplied.get? parameter.name = some given := by
    rw [← Option.ne_none_iff_exists', ne_eq, Dictionary.get_eq_none_iff, not_not]
  rw [← mandatory_eq, present]
  exact ⟨fun passes => ⟨passes.given, passes.coerces⟩, fun ⟨given, coerces⟩ => ⟨coerces, given⟩⟩

theorem others_apart (distinct : ((before ++ parameter :: after).map Parameter.name).Nodup) :
    (∀ other ∈ before, other.name ≠ parameter.name) ∧
      ∀ other ∈ after, other.name ≠ parameter.name := by
  rw [List.map_append, List.map_cons, List.nodup_append, List.nodup_cons] at distinct
  obtain ⟨_, ⟨notAfter, _⟩, apart⟩ := distinct
  refine ⟨fun other member => ?_, fun other member same => ?_⟩
  · exact apart _ (List.mem_map_of_mem member) _ List.mem_cons_self
  · exact notAfter (List.mem_map.2 ⟨other, member, same⟩)

theorem check_all_member (distinct : (parameters.map Parameter.name).Nodup)
    (ok : checkAll registering ⟨supplied, .empty⟩ parameters = .ok final)
    (member : parameter ∈ parameters) :
    final.remaining.get? parameter.name = none ∧
    (∀ given, supplied.get? parameter.name = some given →
      ∃ value, parameter.coerce given = .ok value ∧
        final.accepted.get? parameter.name = some value) ∧
    (supplied.get? parameter.name = none →
      final.accepted.get? parameter.name = parameter.default) := by
  obtain ⟨before, after, rfl⟩ := List.append_of_mem member
  obtain ⟨first, later⟩ := others_apart distinct
  obtain ⟨consumed, taken, left⟩ := check_all_at ok first fun other among same =>
    absurd same (later other among)
  refine ⟨consumed, taken, fun missing => (left missing).trans ?_⟩
  exact Option.or_none

theorem none_remaining_iff (distinct : (parameters.map Parameter.name).Nodup)
    (ok : checkAll registering ⟨supplied, .empty⟩ parameters = .ok final) :
    (∀ key, final.remaining.get? key = none) ↔
      ∀ key ∈ supplied.keys, ∃ parameter ∈ parameters, parameter.name = key := by
  constructor
  · intro none key member
    by_contra unknown
    have kept := (check_all_frame ok fun parameter among same =>
      absurd ⟨parameter, among, same⟩ unknown).1
    exact Dictionary.get_eq_none_iff.1 (kept.symm.trans (none key)) member
  · intro known key
    by_cases named : ∃ parameter ∈ parameters, parameter.name = key
    · obtain ⟨parameter, among, rfl⟩ := named
      exact (check_all_member distinct ok among).1
    · have kept := (check_all_frame ok fun parameter among same =>
        absurd ⟨parameter, among, same⟩ named).1
      rw [kept, Dictionary.get_eq_none_iff]
      exact fun member => named (known key member)

theorem validate_ok_iff (distinct : (parameters.map Parameter.name).Nodup) :
    (∃ accepted, validate parameters supplied = .ok accepted) ↔ Admissible parameters supplied := by
  have passing := @check_all_ok_iff (isRegistering supplied) ⟨supplied, .empty⟩ parameters distinct
  simp only [passes_iff] at passing
  constructor
  · rintro ⟨accepted, done⟩
    obtain ⟨final, ok, none, _⟩ := validate_eq_ok.1 done
    have passes := passing.1 ⟨final, ok⟩
    exact ⟨(none_remaining_iff distinct ok).1 none, fun parameter member => (passes parameter member).1,
      fun parameter member => (passes parameter member).2⟩
  · rintro ⟨known, given, coerces⟩
    obtain ⟨final, ok⟩ := passing.2 fun parameter member =>
      ⟨given parameter member, coerces parameter member⟩
    exact ⟨_, validate_eq_ok.2 ⟨final, ok, (none_remaining_iff distinct ok).2 known, rfl⟩⟩

theorem validate_completes (distinct : (parameters.map Parameter.name).Nodup)
    (done : validate parameters supplied = .ok accepted) : Completes parameters supplied accepted := by
  obtain ⟨final, ok, _, rfl⟩ := validate_eq_ok.1 done
  refine ⟨fun parameter member => (check_all_member distinct ok member).2.1,
    fun parameter member absent => ?_, fun key member => ?_, check_all_ascending ok .nil⟩
  · exact (check_all_member distinct ok member).2.2 (Dictionary.get_eq_none_iff.2 absent)
  · by_contra unknown
    have kept := (check_all_frame ok fun parameter among same =>
      absurd ⟨parameter, among, same⟩ unknown).2
    exact Dictionary.get_eq_none_iff.1 kept member

/-- What a client supplies is accepted exactly if every name is known, every mandatory parameter is
there and every value coerces; accepted are then the coerced values and the defaults of all other
parameters. An integer coerces exactly if its number fits, and the number stays the same. -/
theorem validation_complete (distinct : (parameters.map Parameter.name).Nodup)
    (supplied : Dictionary) :
    ((∃ accepted, validate parameters supplied = .ok accepted) ↔ Admissible parameters supplied) ∧
    (∀ accepted, validate parameters supplied = .ok accepted →
      Completes parameters supplied accepted) ∧
    ∀ (parameter : Parameter) (type : WordType) (given value : Value),
      parameter.signature = WordType.signature type → (parameter.coerce given = .ok value ↔
        ∃ word : Word, given.unboxed = .integer word ∧
          ∃ fits : type.contains word.number = true,
            value = .integer ⟨type, word.number, fits⟩) :=
  ⟨validate_ok_iff distinct, fun _ => validate_completes distinct,
    fun _ _ _ _ => coerce_integer⟩

def rehearsedParameters : List Parameter :=
  [(ofSignature "account" "s").withFlags { required := true },
    (ofSignature "port" "q").withDefault (.integer ⟨.uint16, 5222, by decide⟩),
    (ofSignature "register" "b").withDefault (.bool false)]

def rehearsedSupplied : Dictionary := .ofPairs [("account", .string "me"), ("port", .uint32 443)]

theorem validation_complete_rehearsed : (rehearsedParameters.map Parameter.name).Nodup ∧
    Admissible rehearsedParameters rehearsedSupplied ∧
    ∃ accepted, validate rehearsedParameters rehearsedSupplied = .ok accepted ∧
      Completes rehearsedParameters rehearsedSupplied accepted ∧
      accepted.get? "port" = some (.integer ⟨.uint16, 443, by decide⟩) := by
  have distinct : (rehearsedParameters.map Parameter.name).Nodup := by decide
  obtain ⟨accepts, completes, _⟩ := validation_complete distinct rehearsedSupplied
  obtain ⟨accepted, done, port⟩ : ∃ accepted,
      validate rehearsedParameters rehearsedSupplied = .ok accepted ∧
        accepted.get? "port" = some (.integer ⟨.uint16, 443, by decide⟩) := ⟨_, rfl, rfl⟩
  exact ⟨distinct, accepts.1 ⟨accepted, done⟩, accepted, done, completes accepted done, port⟩

end Parameter

end ConnectionManager
