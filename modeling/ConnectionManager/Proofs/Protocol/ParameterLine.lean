import ConnectionManager.Proofs.Text.Split
import ConnectionManager.Proofs.Text.Trimming
import ConnectionManager.Protocol.Parameter

/-!
Parameter lines. A line gives back the signature and the flags that it was written from, without
the flag for a default, which has an entry of its own. This needs a signature that is one word.
-/

namespace ConnectionManager

open Text

namespace Parameter

variable {parameter : Parameter} {value : Value}

def flagWords (flags : ParameterFlags) : List (List Char) :=
  (ParameterFlags.tokens.filter fun token => flags.includes token.2).map fun token =>
    token.1.toList

theorem line_eq (parameter : Parameter) :
    parameter.line = parameter.signature.toList ++ (flagWords parameter.flags).flatMap (' ' :: ·) := by
  rw [line, flagWords, List.flatMap_map]

theorem flag_words_letters (flags : ParameterFlags) : ∀ word ∈ flagWords flags,
    word ≠ [] ∧ ∀ character ∈ word, isBlank character = false := by
  have letters : ∀ token ∈ ParameterFlags.tokens,
      token.1.toList ≠ [] ∧ ∀ character ∈ token.1.toList, isBlank character = false := by decide
  intro word member
  obtain ⟨token, among, rfl⟩ := List.mem_map.1 member
  exact letters token (List.mem_of_mem_filter among)

theorem flags_of_flag_words (flags : ParameterFlags) :
    flagsOfWords (flagWords flags) = { flags with hasDefault := false } := by
  obtain ⟨required, register, secret, hasDefault, busProperty⟩ := flags
  cases required <;> cases register <;> cases secret <;> cases hasDefault <;>
    cases busProperty <;> decide

theorem words_line (some_ : parameter.signature ≠ "") (oneWord : ' ' ∉ parameter.signature.toList) :
    words parameter.line = parameter.signature.toList :: flagWords parameter.flags := by
  have letters := flag_words_letters parameter.flags
  have apart : ∀ word ∈ flagWords parameter.flags, ∀ character ∈ word,
      (character == ' ') = false := by
    intro word member character inside
    by_contra blank
    have same : character = ' ' := by simpa using blank
    exact absurd ((letters word member).2 character inside) (by simp +decide [same])
  have signatureApart : ∀ character ∈ parameter.signature.toList, (character == ' ') = false := by
    intro character inside
    simpa using ne_of_mem_of_not_mem inside oneWord
  rw [words, line_eq, pieces_words rfl _ apart, pieces_single _ _ signatureApart]
  apply List.filter_eq_self.2
  intro word member
  rcases List.mem_cons.1 member with rfl | later
  · simpa using some_
  · simpa using (letters word later).1

theorem of_line_cases {name : String} {line : List Char} (cut : ofLine? name line = some parameter) :
    ∃ signature flags, words line = signature :: flags ∧
      parameter = (ofSignature name (String.ofList signature)).withFlags (flagsOfWords flags) := by
  unfold ofLine? at cut
  split at cut
  · cases cut
  · rename_i signature flags found
    exact ⟨signature, flags, found, (Option.some.inj cut).symm⟩

theorem words_last {first : List Char} {words : List (List Char)}
    (firstLast : ∀ character, first.getLast? = some character → isBlank character = false)
    (letters : ∀ word ∈ words, word ≠ [] ∧ ∀ character ∈ word, isBlank character = false) :
    ∀ character, (first ++ words.flatMap (' ' :: ·)).getLast? = some character →
      isBlank character = false := by
  induction words generalizing first with
  | nil => simpa using firstLast
  | cons word rest induction =>
      obtain ⟨some_, visible⟩ := letters word List.mem_cons_self
      have wordLast : ∀ character, (first ++ ' ' :: word).getLast? = some character →
          isBlank character = false := by
        intro character last
        rw [List.getLast?_append_of_ne_nil _ (by simp), List.getLast?_cons_of_ne_nil some_] at last
        exact visible character (List.mem_of_getLast? last)
      have later := induction wordLast fun other member =>
        letters other (List.mem_cons_of_mem word member)
      simpa using later

theorem line_trimmed (parameter : Parameter) (some_ : parameter.signature ≠ "")
    (visible : ∀ character ∈ parameter.signature.toList, isBlank character = false) :
    Trimmed parameter.line := by
  have signature := trimmed_of_visible visible
  rw [line_eq]
  constructor
  · rw [List.head?_append_of_ne_nil _ (by simpa using some_)]
    exact signature.first
  · exact words_last signature.last (flag_words_letters parameter.flags)

def bare (parameter : Parameter) : Parameter :=
  { parameter with
    default := none
    flags := { parameter.flags with hasDefault := false } }

theorem of_line_line (some_ : parameter.signature ≠ "")
    (oneWord : ' ' ∉ parameter.signature.toList) :
    ofLine? parameter.name parameter.line = some parameter.bare := by
  rw [ofLine?, words_line some_ oneWord]
  dsimp only
  rw [flags_of_flag_words, String.ofList_toList]
  simp [bare, withFlags, ofSignature, ParameterFlags.union]

end Parameter

end ConnectionManager
