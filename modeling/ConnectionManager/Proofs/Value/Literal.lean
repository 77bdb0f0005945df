import ConnectionManager.Proofs.KeyFile.Codec
import ConnectionManager.Proofs.Number.DoubleText
import ConnectionManager.Proofs.ObjectPath
import ConnectionManager.Proofs.Text.Bytes
import ConnectionManager.Value.Literal

/-!
Values come back from the texts that they are written as. What was read against a signature is read
again from its own text, with one exception: a list that ends in an empty string.
-/

namespace ConnectionManager

open Number (Double Word WordType)
open Text

namespace Value

variable {value : Value} {signature : String} {raw text : List Char}

def ComesBack (signature : String) (value : Value) : Prop :=
  read? signature (trim value.text) = some value

/-- Not a list with an empty string at its end. -/
def EndsVisibly : Value → Prop
  | .strings texts => texts.getLast? ≠ some ""
  | _ => True

inductive WasRead (raw : List Char) : String → Value → Prop
  | word (word : Word) : WasRead raw (WordType.signature word.type) (.integer word)
  | bool (content : Bool) : WasRead raw "b" (.bool content)
  | double (number : Double) (finite : number.isFinite = true) : WasRead raw "d" (.double number)
  | string {text : List Char} (decoded : KeyFile.unescape? raw = some text) :
      WasRead raw "s" (.string (String.ofList text))
  | any {text : List Char} (decoded : KeyFile.unescape? raw = some text) :
      WasRead raw "v" (.string (String.ofList text))
  | bytes {text : List Char} (decoded : KeyFile.unescape? raw = some text) :
      WasRead raw "ay" (.bytes (utf8 text))
  | path (location : ObjectPath) : WasRead raw "o" (.path location)
  | strings {items : List (List Char)} (cut : KeyFile.splitList? raw = some items) :
      WasRead raw "as" (.strings (items.map String.ofList))
  | paths (locations : List ObjectPath) : WasRead raw "ao" (.paths locations)

theorem was_read (done : read? signature raw = some value) : WasRead raw signature value := by
  unfold read? at done
  split at done
  · rename_i type known
    obtain ⟨word, read, rfl⟩ := Option.map_eq_some_iff.1 done
    have named : WordType.signature type = signature := by simpa using List.find?_some known
    rw [← named, ← Word.read_type read]
    exact .word word
  · split_ifs at done with bool double string bytes path strings paths
    · obtain ⟨content, _, rfl⟩ := Option.map_eq_some_iff.1 done
      exact bool ▸ .bool content
    · obtain ⟨number, read, rfl⟩ := Option.map_eq_some_iff.1 done
      exact double ▸ .double number (Option.filter_eq_some_iff.1 read).2
    · obtain ⟨content, read, rfl⟩ := Option.map_eq_some_iff.1 done
      obtain ⟨text, decoded, rfl⟩ := Option.map_eq_some_iff.1 read
      simp only [Bool.or_eq_true, decide_eq_true_eq] at string
      rcases string with rfl | rfl
      · exact .string decoded
      · exact .any decoded
    · obtain ⟨text, decoded, rfl⟩ := Option.map_eq_some_iff.1 done
      exact bytes ▸ .bytes decoded
    · obtain ⟨location, _, rfl⟩ := Option.map_eq_some_iff.1 done
      exact path ▸ .path location
    · obtain ⟨texts, read, rfl⟩ := Option.map_eq_some_iff.1 done
      obtain ⟨items, cut, rfl⟩ := Option.map_eq_some_iff.1 read
      exact strings ▸ .strings cut
    · obtain ⟨locations, _, rfl⟩ := Option.map_eq_some_iff.1 done
      exact paths ▸ .paths locations

theorem read_word (type : WordType) (raw : List Char) :
    read? (WordType.signature type) raw = (Word.read? type raw).map .integer := by
  cases type <;> rfl

theorem unescape_no_escape (plain : '\\' ∉ text) : KeyFile.unescape? text = some text := by
  induction text with
  | nil => rfl
  | cons character rest induction =>
      simp only [List.mem_cons, not_or] at plain
      rw [KeyFile.unescape_plain (Ne.symm plain.1), induction plain.2]
      rfl

theorem paths_clean (locations : List ObjectPath) :
    KeyFile.CleanList (locations.map fun location => location.text.toList) := by
  constructor
  · intro item member
    obtain ⟨location, _, rfl⟩ := List.mem_map.1 member
    exact KeyFile.clean_of_visible fun character inside =>
      (location.characters_plain character inside).1
  · intro empty
    obtain ⟨location, _, same⟩ := List.mem_map.1 (List.mem_of_getLast? empty)
    exact location.text_ne_nil same

theorem characters_of_texts (items : List (List Char)) :
    (items.map String.ofList).map String.toList = items := by
  rw [List.map_map, show String.toList ∘ String.ofList = id by funext text; simp, List.map_id]

theorem read_escaped (text : List Char) :
    readString? (KeyFile.escape text) = some (String.ofList text) := by
  rw [readString?, KeyFile.escape, KeyFile.unescape_escape]
  rfl

theorem read_joined {items : List (List Char)} (clean : KeyFile.CleanList items) :
    readStrings? (KeyFile.joinList items) = some (items.map String.ofList) := by
  rw [readStrings?, KeyFile.split_join_list clean]
  rfl

theorem read_path (location : ObjectPath) :
    (readString? location.text.toList).bind ObjectPath.ofString? = some location := by
  have plain : '\\' ∉ location.text.toList := fun member =>
    (location.characters_plain _ member).2 rfl
  rw [readString?, unescape_no_escape plain]
  simp [ObjectPath.of_string_text]

theorem read_paths (locations : List ObjectPath) :
    (readStrings? (KeyFile.joinList (locations.map fun location => location.text.toList))).bind
      (KeyFile.mapAll? ObjectPath.ofString?) = some locations := by
  rw [read_joined (paths_clean locations), List.map_map, Option.bind_some,
    show String.ofList ∘ (fun location : ObjectPath => location.text.toList) = ObjectPath.text by
      funext location; simp]
  exact KeyFile.map_all_of_each fun location _ => location.of_string_text

/-- What was read is read again from its own text, unless it is a list that ends in an empty
string. -/
theorem WasRead.reads_back (read : WasRead raw signature value) (ends : value.EndsVisibly) :
    read? signature value.text = some value := by
  cases read with
  | word word =>
      change read? (WordType.signature word.type) word.text = _
      rw [read_word, word.read_text]
      rfl
  | bool content => cases content <;> rfl
  | double number finite =>
      change ((Double.read? number.text).filter Double.isFinite).map Value.double = _
      rw [Number.Double.read_text finite]
      simp [finite]
  | string decoded | any decoded =>
      rename_i text
      change (readString? (KeyFile.escape (String.ofList text).toList)).map Value.string = _
      rw [String.toList_ofList, read_escaped]
      rfl
  | bytes decoded =>
      rename_i text
      change (KeyFile.unescape? (KeyFile.escape (ofUtf8Lossy (utf8 text)))).map
        (fun text => Value.bytes (utf8 text)) = _
      rw [of_utf8_lossy_utf8, KeyFile.escape, KeyFile.unescape_escape]
      rfl
  | path location => exact congrArg (Option.map Value.path) (read_path location)
  | strings cut =>
      rename_i items
      have clean : KeyFile.CleanList items := by
        refine ⟨KeyFile.split_list_clean cut, fun empty => ends ?_⟩
        simp [List.getLast?_map, empty]
      change (readStrings? (KeyFile.joinList
        ((items.map String.ofList).map String.toList))).map Value.strings = _
      rw [characters_of_texts, read_joined clean]
      rfl
  | paths locations => exact congrArg (Option.map Value.paths) (read_paths locations)

theorem WasRead.text_trimmed (read : WasRead raw signature value) (trimmed : Trimmed raw) :
    Trimmed value.text := by
  cases read with
  | word word => exact trimmed_of_visible word.text_visible
  | bool content => cases content <;> exact trimmed_of_visible (by decide)
  | double number => exact trimmed_of_visible number.text_visible
  | string decoded | any decoded =>
      have clean := KeyFile.unescape_clean trimmed decoded
      change Trimmed (KeyFile.escape (String.ofList _).toList)
      rw [String.toList_ofList]
      exact KeyFile.escape_trimmed clean
  | bytes decoded =>
      have clean := KeyFile.unescape_clean trimmed decoded
      change Trimmed (KeyFile.escape (ofUtf8Lossy (utf8 _)))
      rw [of_utf8_lossy_utf8]
      exact KeyFile.escape_trimmed clean
  | path location =>
      exact trimmed_of_visible fun character member => (location.characters_plain character member).1
  | strings cut =>
      change Trimmed (KeyFile.joinList ((List.map String.ofList _).map String.toList))
      rw [characters_of_texts]
      exact KeyFile.join_list_trimmed (KeyFile.split_list_clean cut)
  | paths locations => exact KeyFile.join_list_trimmed (paths_clean locations).each

theorem WasRead.comes_back (read : WasRead raw signature value) (trimmed : Trimmed raw)
    (ends : value.EndsVisibly) : value.ComesBack signature := by
  rw [ComesBack, (read.text_trimmed trimmed).trim_eq]
  exact read.reads_back ends

theorem WasRead.own (read : WasRead raw signature value) :
    WasRead raw value.signature value := by
  cases read with
  | any decoded => exact .string decoded
  | word word => exact .word word
  | double number finite => exact .double number finite
  | string decoded => exact .string decoded
  | bytes decoded => exact .bytes decoded
  | strings cut => exact .strings cut
  | bool | path | paths => constructor

theorem WasRead.signature_word (read : WasRead raw signature value) :
    signature.toList ≠ [] ∧ ∀ character ∈ signature.toList, character.isAlpha = true := by
  cases read with
  | word word =>
      obtain ⟨type, number, fits⟩ := word
      cases type <;> simp +decide [WordType.signature]
  | bool | double | string | any | bytes | path | strings | paths => simp +decide

theorem text_one_line (value : Value) : '\n' ∉ value.text := by
  unfold text
  split
  · rename_i content _
    cases content <;> decide
  · exact one_line_of_visible (Word.text_visible _)
  · exact one_line_of_visible (Double.text_visible _)
  · exact KeyFile.escape_one_line false true _
  · rename_i location _
    exact one_line_of_visible fun character member => (location.characters_plain character member).1
  · exact KeyFile.escape_one_line false true _
  · exact KeyFile.join_list_one_line _
  · exact KeyFile.join_list_one_line _
  all_goals simp

theorem ComesBack.trimmed (back : value.ComesBack signature) : Trimmed value.text :=
  (was_read back).text_trimmed (trim_trimmed value.text)

theorem ComesBack.read_text (back : value.ComesBack signature) :
    read? signature value.text = some value := by
  rw [← back, back.trimmed.trim_eq]

theorem clean_of_reads_back {texts : List String}
    (back : read? signature (Value.strings texts).text = some (.strings texts)) :
    KeyFile.CleanList (texts.map String.toList) := by
  apply KeyFile.clean_of_split_join_list
  change read? signature (KeyFile.joinList (texts.map String.toList)) = _ at back
  generalize KeyFile.joinList (texts.map String.toList) = raw at back
  cases was_read back with
  | strings cut =>
      rw [characters_of_texts]
      exact cut

theorem ends_visibly_of_reads_back (back : read? signature value.text = some value) :
    value.EndsVisibly := by
  cases value with
  | strings texts =>
      intro empty
      apply (clean_of_reads_back back).ends
      rw [List.getLast?_map, empty]
      rfl
  | _ => trivial

theorem ComesBack.ends_visibly (back : value.ComesBack signature) : value.EndsVisibly :=
  ends_visibly_of_reads_back back.read_text

/-- A value that was read is read again from its own text, with one exception: a list whose last item
is the empty string. The text that it was read from need not be trimmed. -/
theorem reprinting_stable (done : read? signature raw = some value) :
    read? signature value.text = some value ↔
      ¬ (signature = "as" ∧ ∃ texts, value = .strings texts ∧ texts.getLast? = some "") := by
  constructor
  · rintro back ⟨_, texts, rfl, empty⟩
    exact ends_visibly_of_reads_back back empty
  · intro other
    have read := was_read done
    apply read.reads_back
    cases read with
    | strings cut => exact fun empty => other ⟨rfl, _, rfl, empty⟩
    | _ => trivial

theorem reprinting_stable_rehearsed :
    (read? "as" "\\s, a\\,b;".toList = some (.strings [" ", "a,b"]) ∧
      read? "as" (Value.strings [" ", "a,b"]).text = some (.strings [" ", "a,b"])) ∧
    (read? "as" "a;,".toList = some (.strings ["a", ""]) ∧
      read? "as" (Value.strings ["a", ""]).text ≠ some (.strings ["a", ""])) := by
  have spaced : read? "as" "\\s, a\\,b;".toList = some (.strings [" ", "a,b"]) := rfl
  have ended : read? "as" "a;,".toList = some (.strings ["a", ""]) := rfl
  refine ⟨⟨spaced, (reprinting_stable spaced).2 ?_⟩, ended, fun back => ?_⟩
  · rintro ⟨_, texts, ⟨⟩, empty⟩
    exact absurd empty (by decide)
  · exact (reprinting_stable ended).1 back ⟨rfl, _, rfl, rfl⟩

end Value

end ConnectionManager
