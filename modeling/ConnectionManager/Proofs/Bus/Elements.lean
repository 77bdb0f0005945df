import ConnectionManager.Proofs.Bus.Names
import ConnectionManager.Proofs.Text.Unescaping

/-!
The elements of the names of managers and connections. Whatever the transport calls a connection and
whatever its protocol is called, what is put into its names is one element, good for a bus name and
for an object path (`IsElement`). So below a base without hyphens the object path is the bus name with
slashes for dots, and only its length can make the bus name invalid (`names_mirrored`).
-/

namespace ConnectionManager

open Text

/-- An element that can stand in a bus name and in an object path. -/
structure IsElement (element : List Char) : Prop where
  inName : isBusElement element = true
  inPath : PathElement.isValid element = true

variable {element : List Char}

theorem is_element_cons {first : Char} {rest : List Char}
    (begins : first.isAlpha = true ∨ first = '_')
    (goesOn : ∀ character ∈ rest, PathElement.isCharacter character = true) :
    IsElement (first :: rest) := by
  have others : ∀ character ∈ rest, character.isAlphanum = true ∨ character = '_' := by
    intro character member
    simpa [PathElement.isCharacter] using goesOn character member
  constructor
  · simp only [isBusElement, Bool.and_eq_true, Bool.or_eq_true, beq_iff_eq, List.all_eq_true]
    exact ⟨begins, fun character member => .inl (others character member)⟩
  · rw [PathElement.is_valid_iff]
    refine ⟨List.cons_ne_nil _ _, List.forall_mem_cons.2 ⟨begins.imp_left fun letter => ?_, others⟩⟩
    simp [Char.isAlphanum, letter]

theorem IsElement.whole (valid : IsElement element) : '.' ∉ element ∧ '/' ∉ element := by
  have characters := ((PathElement.is_valid_iff element).1 valid.inPath).2
  constructor <;> intro inside <;> exact absurd (characters _ inside) (by decide)

/-- Hyphens are all that paths do not take of what stands in bus names. -/
theorem is_element_of_bus (valid : isBusElement element = true) (noHyphen : '-' ∉ element) :
    IsElement element := by
  cases element with
  | nil => cases valid
  | cons first rest =>
      simp only [isBusElement, Bool.and_eq_true, Bool.or_eq_true, beq_iff_eq, List.all_eq_true]
        at valid
      refine is_element_cons valid.1 fun character member => ?_
      rcases valid.2 character member with word | rfl
      · simpa [PathElement.isCharacter] using word
      · exact absurd (List.mem_cons_of_mem first member) noHyphen

theorem manager_name_element {manager : String} (valid : isValidManagerName manager = true) :
    IsElement manager.toList := by
  unfold isValidManagerName at valid
  split at valid
  · rename_i first rest shape
    simp only [Bool.and_eq_true, List.all_eq_true] at valid
    rw [shape]
    exact is_element_cons (.inl valid.1) valid.2
  · cases valid

theorem Text.escape_identifier_is_element (text : String) :
    IsElement (escapeIdentifier text).toList := by
  have characters := ((PathElement.is_valid_iff _).1 (escape_identifier_element text)).2
  rw [escapeIdentifier, String.toList_ofList] at *
  have noDigit := escape_bytes_first (utf8 text.toList)
  cases shape : escapeBytes (utf8 text.toList) with
  | nil => exact absurd shape (escape_bytes_ne_nil _)
  | cons first rest =>
      rw [shape] at characters noDigit
      obtain ⟨begins, goesOn⟩ := List.forall_mem_cons.1 characters
      refine is_element_cons (begins.imp_left fun word => ?_) fun character member => ?_
      · simpa [Char.isAlphanum, noDigit first rfl] using word
      · simpa [PathElement.isCharacter] using goesOn character member

theorem Protocol.escape_name_is_element (name : String) :
    IsElement (Protocol.escapeName name).toList := by
  by_cases valid : isValidName name = true
  · rw [escape_name_valid valid]
    unfold isValidName at valid
    split at valid
    · rename_i first rest shape
      simp only [Bool.and_eq_true, List.all_eq_true, Bool.or_eq_true, beq_iff_eq] at valid
      have notHyphen : first ≠ '-' := by
        rintro rfl
        exact absurd valid.1 (by decide)
      rw [shape, List.map_cons, if_neg notHyphen]
      refine is_element_cons (.inl valid.1) fun character member => ?_
      obtain ⟨original, inside, rfl⟩ := List.mem_map.1 member
      split
      · decide
      · rename_i other
        have word := (valid.2 original inside).resolve_right other
        simp [PathElement.isCharacter, word]
    · cases valid
  · rw [escapeName, if_neg valid]
    exact escape_identifier_is_element name

theorem Label.text_is_element (label : Label) : IsElement label.text.toList := by
  cases label with
  | unique name => exact escape_identifier_is_element name
  | numbered number =>
      rw [number_text]
      refine is_element_cons (.inr rfl) fun character member => ?_
      have digit := Number.natural_text_digits number character member
      simp [PathElement.isCharacter, Char.isAlphanum, digit]

def busElements (name : String) : List (List Char) := pieces (· == '.') name.toList

def slashed (text : List Char) : List Char :=
  text.map fun character => if character = '.' then '/' else character

theorem slashed_append (left right : List Char) :
    slashed (left ++ right) = slashed left ++ slashed right :=
  List.map_append

theorem slashed_whole (whole : '.' ∉ element) : slashed element = element := by
  refine (List.map_congr_left fun character member => if_neg ?_).trans (List.map_id _)
  exact ne_of_mem_of_not_mem member whole

theorem slashed_elements {elements : List (List Char)} (whole : ∀ element ∈ elements, '.' ∉ element) :
    slashed (elements.flatMap ('.' :: ·)) = elements.flatMap ('/' :: ·) := by
  induction elements with
  | nil => rfl
  | cons element rest induction =>
      have later := induction fun other member => whole other (List.mem_cons_of_mem element member)
      rw [List.flatMap_cons, slashed_append, later, List.flatMap_cons, ← List.singleton_append,
        slashed_append, slashed_whole (whole element List.mem_cons_self)]
      rfl

theorem intercalate_text {separator : String} {mark : Char} (single : separator.toList = [mark])
    (first : String) (rest : List String) : (separator.intercalate (first :: rest)).toList
      = first.toList ++ (rest.map String.toList).flatMap (mark :: ·) := by
  induction rest generalizing first with
  | nil => simp
  | cons next others induction =>
      rw [String.intercalate_cons_cons, String.toList_append, String.toList_append, single, induction]
      simp

namespace BusNames

variable {base manager : String} {elements : List String}

/-- The object path mirrors the bus name, which has `more` elements than the base, and only its
length can make it invalid. -/
structure Mirrored (base : String) (more : Nat) (names : BusNames) : Prop where
  path : names.objectPath.text.toList = '/' :: slashed names.busName.toList
  below : ∃ added, added.length = more ∧ busElements names.busName = busElements base ++ added
  valid : isValidBusName names.busName = true ↔ names.busName.utf8ByteSize ≤ 255

theorem base_elements (validBase : isValidBusName base = true) (noHyphen : '-' ∉ base.toList) :
    2 ≤ (busElements base).length ∧ ∀ element ∈ busElements base, IsElement element := by
  simp only [isValidBusName, Bool.and_eq_true, decide_eq_true_eq, List.all_eq_true] at validBase
  refine ⟨validBase.1.2, fun element member => ?_⟩
  exact is_element_of_bus (validBase.2 element member) fun inside =>
    noHyphen (of_mem_piece member inside).1

theorem joined_text (base : String) (elements : List String) :
    (".".intercalate (base :: elements)).toList
      = base.toList ++ (elements.map String.toList).flatMap ('.' :: ·) :=
  intercalate_text rfl base elements

theorem joined_elements (valid : ∀ element ∈ elements, IsElement element.toList) :
    busElements (".".intercalate (base :: elements))
      = busElements base ++ elements.map String.toList := by
  rw [busElements, joined_text]
  refine pieces_words rfl _ fun element member character inside => ?_
  obtain ⟨part, among, rfl⟩ := List.mem_map.1 member
  simpa using ne_of_mem_of_not_mem inside (valid part among).whole.1

theorem base_path_text (base : String) : (basePath base).toList = '/' :: slashed base.toList := by
  simp [basePath, slashed]

theorem joined_path (valid : ∀ element ∈ elements, IsElement element.toList) :
    ("/".intercalate (basePath base :: elements)).toList
      = '/' :: slashed (".".intercalate (base :: elements)).toList := by
  have path : ("/".intercalate (basePath base :: elements)).toList
      = (basePath base).toList ++ (elements.map String.toList).flatMap ('/' :: ·) :=
    intercalate_text rfl (basePath base) elements
  have whole : ∀ element ∈ elements.map String.toList, '.' ∉ element := by
    simpa using fun element member => (valid element member).whole.1
  rw [path, base_path_text, joined_text, slashed_append, slashed_elements whole, List.cons_append]

theorem slashed_valid {name text : String} (each : ∀ element ∈ busElements name, IsElement element)
    (path : text.toList = '/' :: slashed name.toList) : ObjectPath.isValid text = true := by
  -- A slash inside the name would cut an element of the path in two.
  have noSlash : '/' ∉ name.toList := by
    intro slash
    rcases mem_pieces (· == '.') slash with dot | ⟨piece, among, inside⟩
    · cases dot
    · exact (each piece among).whole.2 inside
  refine (ObjectPath.is_valid_iff text).2 (.inr ⟨_, path, ?_⟩)
  rw [slashed, pieces_replaced noSlash, List.all_eq_true]
  exact fun element member => (each element member).inPath

/-- Two or more elements are a valid bus name unless they are too long. -/
theorem bus_name_valid_iff {name : String} (two : 2 ≤ (busElements name).length)
    (each : ∀ element ∈ busElements name, IsElement element) :
    isValidBusName name = true ↔ name.utf8ByteSize ≤ 255 := by
  have valid : (busElements name).all isBusElement = true :=
    List.all_eq_true.2 fun element member => (each element member).inName
  rw [busElements] at two valid
  rw [isValidBusName, valid, decide_eq_true two, Bool.and_true, Bool.and_true]
  exact decide_eq_true_iff

theorem of_elements_mirrored (validBase : isValidBusName base = true)
    (noHyphen : '-' ∉ base.toList) (valid : ∀ element ∈ elements, IsElement element.toList) :
    ∃ names, ofElements base elements = .ok names ∧ Mirrored base elements.length names := by
  obtain ⟨two, baseValid⟩ := base_elements validBase noHyphen
  have below := @joined_elements base elements valid
  have path := @joined_path base elements valid
  have each : ∀ element ∈ busElements (".".intercalate (base :: elements)), IsElement element := by
    rw [below]
    intro element member
    rcases List.mem_append.1 member with old | new
    · exact baseValid element old
    · obtain ⟨part, among, rfl⟩ := List.mem_map.1 new
      exact valid part among
  have long : 2 ≤ (busElements (".".intercalate (base :: elements))).length := by
    rw [below, List.length_append]
    exact Nat.le_add_right_of_le two
  have accepted := slashed_valid each path
  refine ⟨⟨".".intercalate (base :: elements), ⟨_, ObjectPath.valid_of_is_valid accepted⟩⟩, ?_,
    path, ⟨_, List.length_map _, below⟩, bus_name_valid_iff long each⟩
  rw [ofElements, ObjectPath.of_string_valid accepted]
  rfl

/-- Below a base without hyphens, the names of the manager and of every connection mirror each other:
the object path is the bus name with slashes for dots. Whatever the protocol and the connection are
called, the names have two and four elements more than the base, and only a bus name that is too long
is invalid. -/
theorem names_mirrored (validBase : isValidBusName base = true) (noHyphen : '-' ∉ base.toList)
    (validManager : isValidManagerName manager = true) :
    (∃ names, ofManager base manager = .ok names ∧ Mirrored base 2 names) ∧
    ∀ (context : Context) (protocol : String) (unique : Option String),
      ∃ names, (forConnection context base manager protocol unique).1 = .ok names ∧
        Mirrored base 4 names := by
  have managerElement := manager_name_element validManager
  have checked : checkManager manager = .ok () := if_pos validManager
  constructor
  · have formed : ofManager base manager = ofElements base ["ConnectionManager", manager] := by
      rw [ofManager, checked]
      exact pure_bind () _
    have valid : ∀ element ∈ ["ConnectionManager", manager], IsElement element.toList := by
      simp only [List.forall_mem_cons]
      exact ⟨is_element_cons (.inl rfl) (by decide), managerElement, by simp⟩
    rw [formed]
    exact of_elements_mirrored validBase noHyphen valid
  · intro context protocol unique
    have formed : (forConnection context base manager protocol unique).1 = ofElements base
        ["Connection", manager, Protocol.escapeName protocol, (label context unique).text] := by
      cases unique <;> simp only [forConnection, checked] <;> rfl
    have valid : ∀ element ∈ ["Connection", manager, Protocol.escapeName protocol,
        (label context unique).text], IsElement element.toList := by
      simp only [List.forall_mem_cons]
      exact ⟨is_element_cons (.inl rfl) (by decide), managerElement,
        Protocol.escape_name_is_element protocol, (label context unique).text_is_element, by simp⟩
    rw [formed]
    exact of_elements_mirrored validBase noHyphen valid

theorem names_mirrored_rehearsed : isValidBusName defaultBase = true ∧ '-' ∉ defaultBase.toList ∧
    isValidManagerName "cm" = true ∧
    (∃ names, ofManager defaultBase "cm" = .ok names ∧ Mirrored defaultBase 2 names) ∧
    ∃ names, (forConnection .start defaultBase "cm" "" (some "\u00e9.1")).1 = .ok names ∧
      Mirrored defaultBase 4 names := by
  have validBase : isValidBusName defaultBase = true := by decide +kernel
  have noHyphen : '-' ∉ defaultBase.toList := by decide
  have validManager : isValidManagerName "cm" = true := by decide
  obtain ⟨forManager, forConnections⟩ := names_mirrored validBase noHyphen validManager
  exact ⟨validBase, noHyphen, validManager, forManager, forConnections .start "" (some "\u00e9.1")⟩

end BusNames

end ConnectionManager
