import ConnectionManager.Bus.Names
import ConnectionManager.Proofs.Failure
import ConnectionManager.Proofs.Number.Decimal
import ConnectionManager.Proofs.ObjectPath
import ConnectionManager.Proofs.Text.Bytes
import ConnectionManager.Proofs.Text.Identifier
import Mathlib.Data.List.Basic

/-!
What the names of two connections of one manager have in common. The protocol and the label of a
connection can be read off its names, and a label says which name or number it was made from, with
one exception: the escape of a name can be the text of a number (`LooksNumbered`). So names differ
wherever labels do not look alike (`connection_names_apart`).
-/

namespace ConnectionManager

namespace Context

variable {context later : Context} {taken : Nat}

/-- The context at a later moment: the bus was used, and `taken` more connections got a number. -/
inductive Later (context : Context) : Nat → Context → Prop
  | now : Later context 0 context
  | used {taken : Nat} {later : Context} (so : Later context taken later) (bus : Bus)
      (arbitration : Arbitration) : Later context taken { later with bus, arbitration }
  | numbered {taken : Nat} {later : Context} (so : Later context taken later) :
      Later context (taken + 1) later.nextAnonymous.2

theorem Later.counter (so : Later context taken later) :
    later.anonymous = context.anonymous + UInt64.ofNat taken := by
  induction so with
  | now => simp
  | used so bus arbitration induction => exact induction
  | numbered so induction =>
      rw [nextAnonymous]
      dsimp only
      rw [induction, UInt64.ofNat_add, UInt64.add_assoc]
      rfl

theorem later_numbered (context : Context) (taken : Nat) :
    Later context taken { context with anonymous := context.anonymous + UInt64.ofNat taken } := by
  induction taken with
  | zero => simpa using Later.now
  | succ taken induction =>
      have next := Later.numbered induction
      rw [nextAnonymous] at next
      rw [UInt64.ofNat_add, ← UInt64.add_assoc]
      exact next

end Context

namespace Protocol

theorem valid_name_character {name : String} (valid : isValidName name = true) :
    ∀ character ∈ name.toList, character.isAlphanum = true ∨ character = '-' := by
  unfold isValidName at valid
  split at valid
  · rename_i first rest shape
    simp only [Bool.and_eq_true, List.all_eq_true, Bool.or_eq_true, beq_iff_eq] at valid
    rw [shape]
    intro character member
    rcases List.mem_cons.1 member with rfl | later
    · exact .inl (by simp [Char.isAlphanum, valid.1])
    · exact valid.2 character later
  · cases valid

theorem escape_name_valid {name : String} (valid : isValidName name = true) :
    (escapeName name).toList
      = name.toList.map fun character => if character = '-' then '_' else character := by
  rw [escapeName, if_pos valid, String.toList_ofList]

/-- The component of a protocol has no separator of a bus name or of an object path in it. -/
theorem escape_name_whole {name : String} (valid : isValidName name = true) :
    '.' ∉ (escapeName name).toList ∧ '/' ∉ (escapeName name).toList := by
  have plain : ∀ character ∈ (escapeName name).toList, character.isAlphanum = true ∨ character = '_' := by
    rw [escape_name_valid valid]
    intro character member
    obtain ⟨original, inside, rfl⟩ := List.mem_map.1 member
    by_cases hyphen : original = '-'
    · exact .inr (if_pos hyphen)
    · rw [if_neg hyphen]
      exact .inl ((valid_name_character valid original inside).resolve_right hyphen)
  constructor <;> intro member <;> exact absurd (plain _ member) (by decide)

/-- No underscore stands in a valid name, so that the hyphens can be told from the rest. -/
theorem escape_name_injective {left right : String} (leftValid : isValidName left = true)
    (rightValid : isValidName right = true) (same : escapeName left = escapeName right) :
    left = right := by
  have characters := congrArg String.toList same
  rw [escape_name_valid leftValid, escape_name_valid rightValid] at characters
  have restored : ∀ name, isValidName name = true →
      ((name.toList.map fun character => if character = '-' then '_' else character).map
        fun character => if character = '_' then '-' else character) = name.toList := by
    intro name valid
    rw [List.map_map]
    refine (List.map_congr_left fun character member => ?_).trans (List.map_id _)
    rcases valid_name_character valid character member with word | rfl
    · have bare : character ≠ '-' ∧ character ≠ '_' := by
        constructor <;> rintro rfl <;> exact absurd word (by decide)
      rw [Function.comp_apply, if_neg bare.1, if_neg bare.2, id]
    · rfl
  rw [← String.toList_inj, ← restored left leftValid, characters, restored right rightValid]

end Protocol

/-- The last part of the names of a connection: what its transport calls it, or a number. -/
inductive Label
  | unique (name : String)
  | numbered (number : Nat)
deriving DecidableEq

namespace Label

variable {name : String} {number : Nat} {left right : Label}

def text : Label → String
  | unique name => Text.escapeIdentifier name
  | numbered number => s!"_{number}"

/-- The escape of a name is the text of a number: in front a character whose code makes up the first
two digits, and then the other digits. -/
def LooksNumbered (name : String) (number : Nat) : Prop :=
  ∃ first digits, name.toList = first :: digits ∧ first.toNat < 128 ∧ first.isAlpha = false ∧
    Number.naturalText number = Text.hexByte (UInt8.ofNat first.toNat) ++ digits

/-- The labels that cannot be told apart. -/
def Alike : Label → Label → Prop
  | unique name, numbered number => LooksNumbered name number
  | numbered number, unique name => LooksNumbered name number
  | left, right => left = right

theorem number_text (number : Nat) :
    (numbered number).text.toList = '_' :: Number.naturalText number := by
  rw [text, Number.naturalText, String.toList_append, Nat.toString_eq_ofList_toDigits,
    String.toList_ofList]
  rfl

theorem unique_text (name : String) :
    (unique name).text.toList = Text.escapeBytes (Text.utf8 name.toList) := by
  rw [text, Text.escapeIdentifier, String.toList_ofList]

theorem plain_codes : ∀ code < 128, Text.isPlain true (UInt8.ofNat code) = (Char.ofNat code).isAlpha ∧
    ((Char.ofNat code).isDigit = true →
      Text.escapeByte false (UInt8.ofNat code) = [Char.ofNat code]) := by
  decide +kernel

theorem hex_codes : ∀ code < 256,
    ((Text.hexByte (UInt8.ofNat code)).all Char.isDigit = true → code < 192) := by
  decide +kernel

theorem digit_ascii {digit : Char} (plain : digit.isDigit = true) : digit.toNat < 128 := by
  have bounds : 48 ≤ digit.toNat ∧ digit.toNat ≤ 57 := by
    simpa [Char.isDigit, UInt32.le_iff_toNat_le] using plain
  omega

theorem escape_digits {digits : List Char} (plain : ∀ digit ∈ digits, digit.isDigit = true) :
    (Text.utf8 digits).flatMap (Text.escapeByte false) = digits := by
  rw [Text.utf8_ascii fun digit member => digit_ascii (plain digit member), List.flatMap_map]
  have single : ∀ digit ∈ digits, Text.escapeByte false (UInt8.ofNat digit.toNat) = [digit] := by
    intro digit member
    have code := (plain_codes digit.toNat (digit_ascii (plain digit member))).2
    rw [Char.ofNat_toNat] at code
    exact code (plain digit member)
  rw [List.flatMap_congr single, List.flatMap_singleton']

/-- The name of a transport is mistaken for a number only where it looks like it. -/
theorem unique_eq_number_iff : (unique name).text = (numbered number).text ↔
    LooksNumbered name number := by
  have digits := Number.natural_text_digits number
  rw [← String.toList_inj, unique_text, number_text]
  constructor
  · intro same
    cases shape : name.toList with
    | nil =>
        rw [shape] at same
        exact absurd (List.cons.inj same).2.symm (Number.natural_text_ne_nil number)
    | cons first rest =>
        obtain ⟨lead, others, encoded, _⟩ := Text.continuation_count_char first []
        have bytes : Text.utf8 name.toList = lead :: (others ++ Text.utf8 rest) := by
          rw [shape, Text.utf8, List.flatMap_cons, encoded]
          rfl
        rw [bytes, Text.escapeBytes] at same
        by_cases plain : Text.isPlain true lead = true
        · rw [Text.escape_byte_plain plain] at same
          exact absurd (List.cons.inj same).1 (Text.plain_not_underscore plain)
        · rw [Text.escape_byte_other plain] at same
          have tail := (List.cons.inj same).2
          -- The two digits of the first byte bound it, so that it is the whole first character.
          have code : lead.toNat < 192 := by
            refine hex_codes lead.toNat lead.toNat_lt (List.all_eq_true.2 fun digit member => ?_)
            rw [UInt8.ofNat_toNat] at member
            exact digits digit (tail ▸ List.mem_append_left _ member)
          have ascii := Text.ascii_of_lead encoded code
          rw [Text.encode_char_ascii ascii] at encoded
          obtain ⟨rfl, rfl⟩ := List.cons.inj encoded
          rw [List.nil_append] at tail
          -- What follows escapes to digits, and digits escape to themselves.
          have inner := escape_digits fun digit member =>
            digits digit (tail ▸ List.mem_append_right _ member)
          rw [Text.utf8_injective (Text.escape_rest_injective inner)] at tail
          refine ⟨first, rest, shape, ascii, ?_, tail.symm⟩
          rw [← Char.ofNat_toNat first, ← (plain_codes _ ascii).1]
          exact Bool.eq_false_iff.2 plain
  · rintro ⟨first, rest, shape, ascii, other, text⟩
    have plain := escape_digits fun digit member =>
      digits digit (text ▸ List.mem_append_right _ member)
    have escaped : ¬ Text.isPlain true (UInt8.ofNat first.toNat) = true := by
      rw [(plain_codes _ ascii).1, Char.ofNat_toNat, other]
      exact Bool.false_ne_true
    have bytes : Text.utf8 name.toList = UInt8.ofNat first.toNat :: Text.utf8 rest := by
      rw [shape, Text.utf8, List.flatMap_cons, Text.encode_char_ascii ascii]
      rfl
    rw [bytes, Text.escapeBytes, Text.escape_byte_other escaped, plain, text]
    rfl

theorem text_eq_iff : left.text = right.text ↔ left.Alike right := by
  cases left with
  | unique name =>
      cases right with
      | unique other =>
          exact ⟨fun same => congrArg unique (Text.escape_identifier_injective same),
            fun same => congrArg text same⟩
      | numbered number => exact unique_eq_number_iff
  | numbered number =>
      cases right with
      | unique name => exact eq_comm.trans unique_eq_number_iff
      | numbered other =>
          refine ⟨fun same => ?_, fun same => congrArg text same⟩
          have digits := congrArg String.toList same
          rw [number_text, number_text] at digits
          exact congrArg numbered (Number.natural_text_injective (List.cons.inj digits).2)

end Label

namespace BusNames

variable {earlier after later last : Context} {taken : Nat} {names otherNames : BusNames}
  {base manager protocol otherProtocol : String} {unique otherUnique : Option String}

def label (context : Context) : Option String → Label
  | some name => .unique name
  | none => .numbered context.nextAnonymous.1

theorem of_connection_ok {label : String}
    (formed : ofConnection base manager protocol label = .ok names) :
    names.busName = ".".intercalate [base, "Connection", manager] ++ "."
        ++ (Protocol.escapeName protocol ++ "." ++ label) ∧
      names.objectPath.text = "/".intercalate [basePath base, "Connection", manager] ++ "/"
        ++ (Protocol.escapeName protocol ++ "/" ++ label) := by
  unfold ofConnection ofElements at formed
  obtain ⟨path, pathFormed, same⟩ := Outcome.bind_eq_ok.1 formed
  have text := ObjectPath.text_of_string pathFormed
  obtain rfl := Except.ok.inj same
  refine ⟨?_, text.trans ?_⟩ <;> simp [String.append_assoc]

theorem for_connection_ok {context next : Context}
    (made : forConnection context base manager protocol unique = (.ok names, next)) :
    ofConnection base manager protocol (label context unique).text = .ok names ∧
      next.anonymous = if unique.isSome then context.anonymous else context.anonymous + 1 := by
  unfold forConnection at made
  cases checked : checkManager manager with
  | error failure =>
      rw [checked] at made
      cases (Prod.mk.inj made).1
  | ok done =>
      rw [checked] at made
      cases unique with
      | some name =>
          obtain ⟨formed, same⟩ := Prod.mk.inj made
          exact ⟨formed, by rw [← same]; rfl⟩
      | none =>
          obtain ⟨formed, same⟩ := Prod.mk.inj made
          exact ⟨formed, by rw [← same]; rfl⟩

theorem parts_cancel {separator : Char} {stem leftName rightName leftLabel rightLabel : String}
    (leftWhole : separator ∉ leftName.toList) (rightWhole : separator ∉ rightName.toList)
    (same : stem ++ (leftName ++ String.singleton separator ++ leftLabel)
      = stem ++ (rightName ++ String.singleton separator ++ rightLabel)) :
    leftName = rightName ∧ leftLabel = rightLabel := by
  have characters := congrArg String.toList same
  simp only [String.toList_append, String.toList_singleton, List.append_assoc,
    List.append_cancel_left_eq, List.singleton_append] at characters
  have split := congrArg (Text.splitOnce separator) characters
  rw [Text.split_once_append leftWhole, Text.split_once_append rightWhole] at split
  obtain ⟨names, labels⟩ := Prod.mk.inj (Option.some.inj split)
  exact ⟨String.toList_inj.1 names, String.toList_inj.1 labels⟩

/-- Two calls whose labels cannot be told apart: the name of a transport looks like the number of the
other connection, or the counter came round between two numbers. -/
def Mistaken (earlier later : Context) (taken : Nat) : Option String → Option String → Prop
  | some name, none => Label.LooksNumbered name later.anonymous.toNat
  | none, some name => Label.LooksNumbered name earlier.anonymous.toNat
  | none, none => 2 ^ 64 ∣ taken + 1
  | some _, some _ => False

theorem alike_iff_mistaken (counted : later.anonymous =
      (if unique.isSome then earlier.anonymous else earlier.anonymous + 1) + UInt64.ofNat taken)
    (different : unique ≠ otherUnique ∨ unique = none ∨ otherUnique = none) :
    (label earlier unique).Alike (label later otherUnique) ↔
      Mistaken earlier later taken unique otherUnique := by
  cases unique with
  | some name =>
      cases otherUnique with
      | some other =>
          have apart : name ≠ other := by
            simpa using different
          simpa [label, Label.Alike, Mistaken] using apart
      | none => exact Iff.rfl
  | none =>
      cases otherUnique with
      | some other => exact Iff.rfl
      | none =>
          have numbers : later.anonymous.toNat = (earlier.anonymous.toNat + (taken + 1)) % 2 ^ 64 := by
            rw [counted]
            simp
            omega
          have bound := earlier.anonymous.toNat_lt
          simp only [label, Label.Alike, Mistaken, Context.nextAnonymous, Label.numbered.injEq]
          rw [numbers]
          omega

/-- The names of two connections of one manager differ, unless they have the same protocol and the
label of one was mistaken for the label of the other. -/
theorem connection_names_apart
    (first : forConnection earlier base manager protocol unique = (.ok names, after))
    (meanwhile : after.Later taken later)
    (second : forConnection later base manager otherProtocol otherUnique = (.ok otherNames, last))
    (valid : Protocol.isValidName protocol = true)
    (otherValid : Protocol.isValidName otherProtocol = true)
    (different : (protocol, unique) ≠ (otherProtocol, otherUnique) ∨
      unique = none ∨ otherUnique = none) :
    (¬ (protocol = otherProtocol ∧ Mistaken earlier later taken unique otherUnique) →
      names.busName ≠ otherNames.busName ∧ names.objectPath ≠ otherNames.objectPath) ∧
    (protocol = otherProtocol ∧ Mistaken earlier later taken unique otherUnique →
      names = otherNames) := by
  obtain ⟨formed, counter⟩ := for_connection_ok first
  obtain ⟨otherFormed, _⟩ := for_connection_ok second
  obtain ⟨bus, path⟩ := of_connection_ok formed
  obtain ⟨otherBus, otherPath⟩ := of_connection_ok otherFormed
  have counted := meanwhile.counter
  rw [counter] at counted
  have dots := Protocol.escape_name_whole valid
  have otherDots := Protocol.escape_name_whole otherValid
  constructor
  · intro apart
    have parts : ¬ (Protocol.escapeName protocol = Protocol.escapeName otherProtocol ∧
        (label earlier unique).text = (label later otherUnique).text) := by
      rintro ⟨protocols, labels⟩
      have same := Protocol.escape_name_injective valid otherValid protocols
      refine apart ⟨same, (alike_iff_mistaken counted ?_).1 (Label.text_eq_iff.1 labels)⟩
      exact different.imp_left fun differ uniques => differ (by rw [same, uniques])
    constructor
    · intro same
      rw [bus, otherBus] at same
      exact parts (parts_cancel dots.1 otherDots.1 same)
    · intro same
      have texts := congrArg ObjectPath.text same
      rw [path, otherPath] at texts
      exact parts (parts_cancel dots.2 otherDots.2 texts)
  · rintro ⟨rfl, mistaken⟩
    have labels := (alike_iff_mistaken counted
      (different.imp_left fun differ uniques => differ (by rw [uniques]))).2 mistaken
    rw [Label.text_eq_iff.2 labels, otherFormed] at formed
    exact (Except.ok.inj formed).symm

/-- The number after thirty-one others is taken for the name of a transport that is a lone one. -/
theorem anonymous_name_taken : ∃ context names, Context.start.Later 31 context ∧
    forConnection context defaultBase "cm" "test" none = (.ok names, context.nextAnonymous.2) ∧
    forConnection context.nextAnonymous.2 defaultBase "cm" "test" (some "1")
      = (.ok names, context.nextAnonymous.2) := by
  refine ⟨_, ⟨"org.freedesktop.Telepathy.Connection.cm.test._31",
    ⟨"/org/freedesktop/Telepathy/Connection/cm/test/_31", ?_⟩⟩, Context.later_numbered _ 31, ?_, ?_⟩
  · exact ObjectPath.valid_of_is_valid (by decide)
  · rfl
  · rfl

theorem connection_names_apart_rehearsed : ∃ names otherNames,
    forConnection .start defaultBase "cm" "test" none = (.ok names, Context.start.nextAnonymous.2) ∧
    forConnection Context.start.nextAnonymous.2 defaultBase "cm" "test" (some "1")
      = (.ok otherNames, Context.start.nextAnonymous.2) ∧
    names.busName ≠ otherNames.busName ∧ names.objectPath ≠ otherNames.objectPath := by
  have first : forConnection .start defaultBase "cm" "test" none
      = (.ok ⟨"org.freedesktop.Telepathy.Connection.cm.test._0",
          ⟨"/org/freedesktop/Telepathy/Connection/cm/test/_0",
            ObjectPath.valid_of_is_valid (by decide)⟩⟩, Context.start.nextAnonymous.2) := rfl
  have second : forConnection Context.start.nextAnonymous.2 defaultBase "cm" "test" (some "1")
      = (.ok ⟨"org.freedesktop.Telepathy.Connection.cm.test._31",
          ⟨"/org/freedesktop/Telepathy/Connection/cm/test/_31",
            ObjectPath.valid_of_is_valid (by decide)⟩⟩, Context.start.nextAnonymous.2) := rfl
  refine ⟨_, _, first, second, ?_⟩
  refine (connection_names_apart first .now second (by decide) (by decide)
    (.inr (.inl rfl))).1 ?_
  -- A number of one digit is shorter than any escape.
  rintro ⟨_, character, digits, _, _, _, text⟩
  have one : (Number.naturalText 0).length = 1 := rfl
  have length := congrArg List.length text
  rw [List.length_append] at length
  exact absurd (length.symm.trans one) (by simp [Text.hexByte]; omega)

end BusNames

end ConnectionManager
