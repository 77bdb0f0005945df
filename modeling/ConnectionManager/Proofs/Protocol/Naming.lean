import ConnectionManager.Proofs.Bus.Names

/-!
Protocol names on their way through a bus name. The reader of a component also knows the form that
hyphens had in older ones, `_2d`. A name in which `2d` follows a hyphen is now written just like that,
so such names, and no others, do not come back (`names_survive`).
-/

namespace ConnectionManager.Protocol

/-- What an older hyphen looks like once the underscores are hyphens again. -/
def oldHyphen : List Char := ['-', '2', 'd']

/-- A name after all in it that looks like an older hyphen was taken for one. -/
def mistaken : List Char → List Char
  | '-' :: '2' :: 'd' :: rest => '-' :: mistaken rest
  | character :: rest => character :: mistaken rest
  | [] => []

variable {characters : List Char} {character : Char}

theorem escaped_underscore (plain : character ≠ '_')
    (escaped : (if character = '-' then '_' else character) = '_') : character = '-' := by
  by_contra other
  rw [if_neg other] at escaped
  exact plain escaped

theorem escaped_other {mark : Char} (notUnderscore : mark ≠ '_')
    (escaped : (if character = '-' then '_' else character) = mark) : character = mark := by
  split at escaped
  · exact absurd escaped.symm notUnderscore
  · exact escaped

/-- Only what is written as an underscore is read as a hyphen, together with the two characters of an
older form. -/
theorem restore_hyphens_escaped (plain : '_' ∉ characters) :
    restoreHyphens (characters.map fun character => if character = '-' then '_' else character)
      = mistaken characters := by
  fun_induction mistaken characters with
  | case1 rest induction =>
      simp only [List.mem_cons, not_or] at plain
      rw [List.map_cons, List.map_cons, List.map_cons, ← induction plain.2.2.2]
      rfl
  | case2 character rest other induction =>
      simp only [List.mem_cons, not_or] at plain
      rw [List.map_cons, restoreHyphens, induction plain.2]
      · by_cases hyphen : character = '-'
        · rw [if_pos hyphen, if_pos rfl, hyphen]
        · rw [if_neg hyphen, if_neg (Ne.symm plain.1)]
      · intro more underscore same
        have hyphen := escaped_underscore (Ne.symm plain.1) underscore
        obtain ⟨two, afterTwo, rfl, isTwo, sameAfter⟩ := List.map_eq_cons_iff.1 same
        obtain ⟨letter, afterLetter, rfl, isLetter, _⟩ := List.map_eq_cons_iff.1 sameAfter
        refine other afterLetter hyphen ?_
        rw [escaped_other (by decide) isTwo, escaped_other (by decide) isLetter]
  | case3 => rfl

theorem mistaken_length_le (characters : List Char) :
    (mistaken characters).length ≤ characters.length := by
  fun_induction mistaken characters with
  | case1 rest induction =>
      simp only [List.length_cons]
      omega
  | case2 character rest _ induction => simpa using induction
  | case3 => exact Nat.le_refl 0

theorem mistaken_eq_iff (characters : List Char) :
    mistaken characters = characters ↔ ¬ oldHyphen <:+: characters := by
  fun_induction mistaken characters with
  | case1 rest _ =>
      have shorter := mistaken_length_le rest
      have present : oldHyphen <:+: '-' :: '2' :: 'd' :: rest := ⟨[], rest, rfl⟩
      refine iff_of_false (fun same => ?_) (not_not_intro present)
      have lengths := congrArg List.length same
      simp only [List.length_cons] at lengths
      omega
  | case2 character rest other induction =>
      have notHere : ¬ oldHyphen <+: character :: rest := by
        rintro ⟨more, same⟩
        obtain ⟨hyphen, after⟩ := List.cons.inj same
        exact other more hyphen.symm after.symm
      rw [List.cons.injEq, eq_self_iff_true, true_and, induction, List.infix_cons_iff,
        or_iff_right notHere]
  | case3 => simp [oldHyphen]

/-- What comes back of a name is the name, unless a hyphen with `2d` after it stands somewhere in it:
each of these is taken for the older form of a hyphen. -/
theorem names_survive (name : String) (valid : isValidName name = true) :
    unescapeName (escapeName name) = String.ofList (mistaken name.toList) ∧
    (unescapeName (escapeName name) = name ↔ ¬ oldHyphen <:+: name.toList) := by
  have plain : '_' ∉ name.toList := by
    intro member
    exact absurd (valid_name_character valid '_' member) (by decide)
  have returned : unescapeName (escapeName name) = String.ofList (mistaken name.toList) := by
    rw [unescapeName, escape_name_valid valid, restore_hyphens_escaped plain]
  refine ⟨returned, ?_⟩
  rw [returned, ← String.toList_inj, String.toList_ofList]
  exact mistaken_eq_iff name.toList

theorem names_survive_rehearsed : isValidName "local-xmpp" = true ∧
    unescapeName (escapeName "local-xmpp") = "local-xmpp" := by
  have valid : isValidName "local-xmpp" = true := by decide
  have apart := (mistaken_eq_iff "local-xmpp".toList).1 (by decide)
  exact ⟨valid, (names_survive "local-xmpp" valid).2.2 apart⟩

/-- The name `a-2d` comes back as `a-`. What it is written as is the older form of this other name. -/
theorem old_hyphen_mistaken : isValidName "a-2d" = true ∧
    unescapeName (escapeName "a-2d") = "a-" ∧ unescapeName (escapeName "a-2d") ≠ "a-2d" ∧
    isValidName "a-" = true ∧ Text.escapeIdentifier "a-" = escapeName "a-2d" := by
  refine ⟨?_, ?_, ?_, ?_, ?_⟩ <;> decide

end ConnectionManager.Protocol
