import ConnectionManager.ObjectPath
import ConnectionManager.Proofs.Text.Split
import ConnectionManager.Proofs.Text.Trimming

/-!
Object paths. A path is read from its text, and a further element can be put below it. What is put
below a path is cut at its slashes, so more than one element can be appended (`child_appends`).
-/

namespace ConnectionManager

namespace PathElement

theorem is_valid_iff (element : List Char) : isValid element = true ↔
    element ≠ [] ∧ ∀ character ∈ element, character.isAlphanum = true ∨ character = '_' := by
  simp [isValid, isCharacter]

end PathElement

namespace ObjectPath

/-- What stands before a further element of a path. -/
def stem (path : ObjectPath) : String := if path.text = "/" then "/" else path.text ++ "/"

theorem of_string_valid {text : String} (accepted : isValid text = true) :
    ofString text = .ok ⟨text, valid_of_is_valid accepted⟩ := by
  rw [ofString, ofString?, dif_pos accepted]

theorem text_of_string {text : String} {path : ObjectPath} (formed : ofString text = .ok path) :
    path.text = text := by
  by_cases accepted : isValid text = true
  · rw [of_string_valid accepted] at formed
    cases formed
    rfl
  · rw [ofString, ofString?, dif_neg accepted] at formed
    cases formed

theorem child_text {path child : ObjectPath} {element : String}
    (formed : path.child element = .ok child) : child.text = path.stem ++ element :=
  text_of_string formed

theorem is_valid_iff (text : String) :
    isValid text = true ↔ text.toList = ['/'] ∨ ∃ rest, text.toList = '/' :: rest ∧
      (Text.pieces (· == '/') rest).all PathElement.isValid = true := by
  refine ⟨valid_of_is_valid, ?_⟩
  unfold isValid
  rintro (root | ⟨rest, shape, valid⟩)
  · rw [root]
    rfl
  · rw [shape]
    cases rest with
    | nil => rfl
    | cons character others => exact valid

theorem elements_below {path : ObjectPath} {inner : List Char}
    (shape : path.text.toList = '/' :: inner) (some : inner ≠ []) :
    path.elements = Text.pieces (· == '/') inner := by
  cases inner with
  | nil => exact absurd rfl some
  | cons character rest =>
      rw [elements, shape]
      rfl

theorem root_or_below (path : ObjectPath) : path = root ∨
    ∃ inner, path.text.toList = '/' :: inner ∧ inner ≠ [] ∧
      (Text.pieces (· == '/') inner).all PathElement.isValid = true := by
  rcases path.valid with lone | ⟨inner, shape, valid⟩
  · exact .inl (ext_text (String.toList_inj.1 lone))
  · refine .inr ⟨inner, shape, ?_, valid⟩
    rintro rfl
    exact absurd valid (by decide)

theorem elements_valid (path : ObjectPath) : path.elements.all PathElement.isValid = true := by
  rcases root_or_below path with rfl | ⟨inner, shape, some, valid⟩
  · rfl
  · rw [elements_below shape some]
    exact valid

/-- After the first slash a path that is continued has its elements and the pieces of the new text. -/
theorem continued (path : ObjectPath) (element : String) :
    ∃ inner, (path.stem ++ element).toList = '/' :: inner ∧
      Text.pieces (· == '/') inner = path.elements ++ Text.pieces (· == '/') element.toList ∧
      (inner = [] ↔ path = root ∧ element = "") := by
  rcases root_or_below path with rfl | ⟨before, shape, some, _⟩
  · exact ⟨element.toList, String.toList_append, rfl, by simp⟩
  · have notLone : path.text ≠ "/" := by
      intro lone
      rw [lone] at shape
      exact some (List.cons.inj shape).2.symm
    have notRoot : path ≠ root := fun same => notLone (congrArg text same)
    refine ⟨before ++ '/' :: element.toList, ?_, ?_, by simp [notRoot]⟩
    · rw [stem, if_neg notLone, String.toList_append, String.toList_append, shape]
      simp
    · rw [Text.pieces_append (· == '/') before element.toList rfl, elements_below shape some]

theorem child_ok_iff {path : ObjectPath} {element : String} (more : ¬ (path = root ∧ element = "")) :
    (∃ child, path.child element = .ok child) ↔
      (Text.pieces (· == '/') element.toList).all PathElement.isValid = true := by
  obtain ⟨inner, shape, pieces, empty⟩ := continued path element
  have accepted : isValid (path.stem ++ element) = true ↔
      (Text.pieces (· == '/') element.toList).all PathElement.isValid = true := by
    rw [is_valid_iff, shape]
    constructor
    · rintro (lone | ⟨rest, same, valid⟩)
      · exact absurd (empty.1 (List.cons.inj lone).2) more
      · rw [← (List.cons.inj same).2, pieces, List.all_append, Bool.and_eq_true] at valid
        exact valid.2
    · intro valid
      refine .inr ⟨inner, rfl, ?_⟩
      rw [pieces, List.all_append, elements_valid, valid]
      rfl
  rw [← accepted]
  constructor
  · rintro ⟨child, formed⟩
    rw [← child_text formed]
    exact (is_valid_iff _).2 child.valid
  · exact fun valid => ⟨_, of_string_valid valid⟩

theorem child_elements {path child : ObjectPath} {element : String}
    (more : ¬ (path = root ∧ element = "")) (formed : path.child element = .ok child) :
    child.elements = path.elements ++ Text.pieces (· == '/') element.toList := by
  obtain ⟨inner, shape, pieces, empty⟩ := continued path element
  rw [← child_text formed] at shape
  rw [elements_below shape (fun none => more (empty.1 none)), pieces]

theorem pieces_of_valid {element : List Char} (valid : PathElement.isValid element = true) :
    Text.pieces (· == '/') element = [element] := by
  apply Text.pieces_single
  intro character member
  have allowed := List.all_eq_true.1 (Bool.and_eq_true_iff.1 valid).2 character member
  by_contra slash
  have same : character = '/' := by simpa using slash
  rw [same] at allowed
  exact absurd allowed (by decide)

theorem child_valid (path : ObjectPath) {element : String}
    (valid : PathElement.isValid element.toList = true) : ∃ child, path.child element = .ok child := by
  have more : ¬ (path = root ∧ element = "") := by
    rintro ⟨_, rfl⟩
    exact absurd valid (by decide)
  rw [child_ok_iff more, pieces_of_valid valid, List.all_cons, valid]
  rfl

/-- A path below another one is never the root. -/
theorem stem_below {path child : ObjectPath} {element : String} (some : element.toList ≠ [])
    (formed : path.child element = .ok child) : child.stem = child.text ++ "/" := by
  have text := child_text formed
  rw [stem, if_neg]
  intro root
  have length := congrArg (fun text => text.toList.length) (text.symm.trans root)
  have stemmed : 1 ≤ path.stem.toList.length := by
    unfold stem
    split
    · decide
    · rw [String.toList_append, List.length_append]
      exact Nat.le_add_left 1 _
  have positive := List.length_pos_iff.2 some
  have one : "/".toList.length = 1 := rfl
  rw [String.toList_append, List.length_append, one] at length
  omega

/-- A path shows throughout, and nothing in it needs an escape. -/
theorem characters_plain (path : ObjectPath) : ∀ character ∈ path.text.toList,
    Text.isBlank character = false ∧ character ≠ '\\' := by
  have element : ∀ character, PathElement.isCharacter character = true →
      Text.isBlank character = false ∧ character ≠ '\\' := by
    intro character allowed
    rcases (by simpa [PathElement.isCharacter] using allowed) with word | rfl
    · refine ⟨Text.alphanum_visible word, ?_⟩
      rintro rfl
      exact absurd word (by decide)
    · decide
  intro character member
  rcases path.valid with root | ⟨rest, below, valid⟩
  · rw [root, List.mem_singleton] at member
    subst member
    decide
  · rw [below] at member
    rcases List.mem_cons.1 member with rfl | later
    · decide
    · rcases Text.mem_pieces (· == '/') later with slash | ⟨piece, among, inside⟩
      · rw [beq_iff_eq.1 slash]
        decide
      · have valid := List.all_eq_true.1 valid piece among
        simp only [PathElement.isValid, Bool.and_eq_true, List.all_eq_true] at valid
        exact element character (valid.2 character inside)

theorem text_ne_nil (path : ObjectPath) : path.text.toList ≠ [] := by
  rcases path.valid with root | ⟨rest, below, _⟩ <;> simp_all

theorem of_string_text (path : ObjectPath) : ofString? path.text = some path :=
  dif_pos ((is_valid_iff _).2 path.valid)

/-- What is put below a path is cut at its slashes, and it is accepted if all its pieces are elements;
the pieces follow the elements of the path. The empty text below the root is accepted as well, and
appends nothing. So a text without slashes is accepted just if it is an element, which it then
appends, except for the empty one below the root. -/
theorem child_appends (path : ObjectPath) (element : String) :
    (path = root ∧ element = "" → path.child element = .ok root) ∧
    (¬ (path = root ∧ element = "") →
      ((∃ child, path.child element = .ok child) ↔
        ∀ piece ∈ Text.pieces (· == '/') element.toList,
          piece ≠ [] ∧ ∀ character ∈ piece, character.isAlphanum = true ∨ character = '_') ∧
      ∀ child, path.child element = .ok child →
        child.elements = path.elements ++ Text.pieces (· == '/') element.toList) ∧
    (¬ (path = root ∧ element = "") → '/' ∉ element.toList →
      ((∃ child, path.child element = .ok child) ↔ element ≠ "" ∧
        ∀ character ∈ element.toList, character.isAlphanum = true ∨ character = '_') ∧
      ∀ child, path.child element = .ok child →
        child.elements = path.elements ++ [element.toList]) := by
  refine ⟨?_, fun more => ⟨?_, ?_⟩, fun more single => ?_⟩
  · rintro ⟨rfl, rfl⟩
    rfl
  · simp only [child_ok_iff more, List.all_eq_true, PathElement.is_valid_iff]
  · exact fun child formed => child_elements more formed
  · have whole : Text.pieces (· == '/') element.toList = [element.toList] := by
      apply Text.pieces_single
      intro character member
      simpa using ne_of_mem_of_not_mem member single
    constructor
    · rw [child_ok_iff more, whole, List.all_cons, List.all_nil, Bool.and_true,
        PathElement.is_valid_iff, ne_eq, String.toList_eq_nil_iff]
    · intro child formed
      rw [child_elements more formed, whole]

/-- A text with a slash appends two elements, and the empty text below the root none. -/
theorem child_cut_at_slashes :
    (∃ child, root.child "a/b" = .ok child ∧ child.elements = [['a'], ['b']]) ∧
    root.child "" = .ok root :=
  ⟨⟨_, rfl, rfl⟩, rfl⟩

end ObjectPath

end ConnectionManager
