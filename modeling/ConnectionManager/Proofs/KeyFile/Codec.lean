import ConnectionManager.KeyFile.Codec
import ConnectionManager.Proofs.Text.Trimming

/-!
What strings and lists become when they are written and read again. Escapes protect everything but
white space that has no escape: a string comes back through a trimmed value just if it is clean, which
means that such white space is not at its ends. A list comes back just if its items are clean and the
last one is not empty, because an empty item at the end looks like the end of the item before it
(`reading_inverts_writing`).
-/

namespace ConnectionManager.KeyFile

open Text

variable {text raw item rest : List Char} {character : Char} {inList isFirst : Bool}
  {items : List (List Char)}

def hasEscape (character : Char) : Bool :=
  character == ' ' || character == '\t' || character == '\n' || character == '\r'

/-- Whether trimming leaves a character at the end of a text once it is escaped. -/
def staysAtEnd (character : Char) : Bool := !isBlank character || hasEscape character

/-- White space at the ends is such that it can be escaped. -/
structure Clean (text : List Char) : Prop where
  first : ∀ character, text.head? = some character → staysAtEnd character = true
  last : ∀ character, text.getLast? = some character → staysAtEnd character = true

theorem clean_iff : Clean text ↔
    text.head?.all staysAtEnd = true ∧ text.getLast?.all staysAtEnd = true := by
  rw [Option.all_eq_true, Option.all_eq_true]
  exact ⟨fun clean => ⟨clean.first, clean.last⟩, fun stays => ⟨stays.1, stays.2⟩⟩

instance (text : List Char) : Decidable (Clean text) := decidable_of_iff' _ clean_iff

structure CleanList (items : List (List Char)) : Prop where
  each : ∀ item ∈ items, Clean item
  ends : items.getLast? ≠ some []

instance (items : List (List Char)) : Decidable (CleanList items) :=
  decidable_of_iff ((∀ item ∈ items, Clean item) ∧ items.getLast? ≠ some [])
    ⟨fun clean => ⟨clean.1, clean.2⟩, fun clean => ⟨clean.each, clean.ends⟩⟩

theorem CleanList.tail {next : List Char} (clean : CleanList (item :: next :: items)) :
    CleanList (next :: items) :=
  ⟨fun other member => clean.each other (List.mem_cons_of_mem _ member), by simpa using clean.ends⟩

theorem clean_of_trimmed (trimmed : Trimmed text) : Clean text :=
  ⟨fun character first => by simp [staysAtEnd, trimmed.first character first],
    fun character last => by simp [staysAtEnd, trimmed.last character last]⟩

theorem clean_of_visible (visible : ∀ character ∈ text, isBlank character = false) : Clean text :=
  clean_of_trimmed (trimmed_of_visible visible)

theorem clean_nil : Clean [] := ⟨by simp, by simp⟩

theorem escaped_character_stays {mark : Char} (stands : escapedCharacter? mark = some character) :
    staysAtEnd character = true ∧ isBlank mark = false := by
  unfold escapedCharacter? at stands
  split at stands
  all_goals cases stands
  all_goals decide

theorem escape_character_cases (inList : Bool) (position : Position) (character : Char) :
    (∃ mark, escapeCharacter inList position character = ['\\', mark] ∧
        escapedCharacter? mark = some character) ∨
      (escapeCharacter inList position character = [character] ∧ character ≠ '\\' ∧
        character ≠ '\n' ∧ (inList = true → isSeparator character = false) ∧
        (position.isFirst = true ∨ position.isLast = true → hasEscape character = false)) := by
  unfold escapeCharacter
  split_ifs with edge backslash feed tab back separates
  · simp_all [escapedCharacter?]
  · simp_all [escapedCharacter?]
  · simp_all [escapedCharacter?]
  · simp_all [escapedCharacter?]
  · simp_all [escapedCharacter?]
  · rcases (by simpa [isSeparator] using separates) with ⟨-, rfl | rfl⟩ <;>
      simp [escapedCharacter?]
  · right
    refine ⟨rfl, backslash, feed, by simpa using separates, fun atEnd => ?_⟩
    have visible : character ≠ ' ' := by
      intro same
      rcases atEnd with first | last <;> simp_all
    simp [hasEscape, visible, feed, tab, back]

theorem unescape_plain (plain : character ≠ '\\') :
    unescape? (character :: rest) = (unescape? rest).map (character :: ·) := by
  rw [unescape?] <;> simp [plain]

theorem unescape_escape (inList isFirst : Bool) (text : List Char) :
    unescape? (escapeFrom inList isFirst text) = some text := by
  induction text generalizing isFirst with
  | nil => rfl
  | cons character rest induction =>
      rw [escapeFrom]
      rcases escape_character_cases inList ⟨isFirst, rest.isEmpty⟩ character with
        ⟨mark, written, stands⟩ | ⟨written, plain, _⟩
      · simp [written, unescape?, stands, induction false]
      · simp [written, unescape_plain plain, induction false]

theorem escape_one_line (inList isFirst : Bool) (text : List Char) :
    '\n' ∉ escapeFrom inList isFirst text := by
  induction text generalizing isFirst with
  | nil => simp [escapeFrom]
  | cons character rest induction =>
      rw [escapeFrom, List.mem_append, not_or]
      refine ⟨?_, induction false⟩
      rcases escape_character_cases inList ⟨isFirst, rest.isEmpty⟩ character with
        ⟨mark, written, stands⟩ | ⟨written, _, visible, _⟩
      · have shown := (escaped_character_stays stands).2
        have other : '\n' ≠ mark := by
          rintro rfl
          exact absurd shown (by decide)
        simp [written, other]
      · simp [written, Ne.symm visible]

theorem escape_nil_iff : escapeFrom inList isFirst text = [] ↔ text = [] := by
  cases text with
  | nil => simp [escapeFrom]
  | cons character rest =>
      rcases escape_character_cases inList ⟨isFirst, rest.isEmpty⟩ character with
        ⟨mark, written, _⟩ | ⟨written, _⟩ <;> simp [escapeFrom, written]

theorem escape_character_trimmed {position : Position} (stays : staysAtEnd character = true)
    (atEnd : position.isFirst = true ∨ position.isLast = true) :
    Trimmed (escapeCharacter inList position character) := by
  rcases escape_character_cases inList position character with
    ⟨mark, written, stands⟩ | ⟨written, _, _, _, visible⟩
  · have shown := (escaped_character_stays stands).2
    have backslash : isBlank '\\' = false := by decide
    rw [written]
    exact ⟨by simp [backslash], by simp [shown]⟩
  · have shown : isBlank character = false := by simpa [staysAtEnd, visible atEnd] using stays
    rw [written]
    exact ⟨by simp [shown], by simp [shown]⟩

theorem escape_last (text : List Char) (clean : ∀ character, text.getLast? = some character →
    staysAtEnd character = true) (isFirst : Bool) :
    ∀ character, (escapeFrom inList isFirst text).getLast? = some character →
      isBlank character = false := by
  induction text generalizing isFirst with
  | nil => simp [escapeFrom]
  | cons character rest induction =>
      rw [escapeFrom]
      by_cases ends : rest = []
      · subst ends
        have trimmed : Trimmed (escapeCharacter inList ⟨isFirst, true⟩ character) :=
          escape_character_trimmed (clean character rfl) (.inr rfl)
        simpa [escapeFrom] using trimmed.last
      · rw [List.getLast?_append_of_ne_nil _ (by simpa [escape_nil_iff] using ends)]
        apply induction
        intro last found
        exact clean last (by rwa [List.getLast?_cons_of_ne_nil ends])

theorem escape_trimmed (clean : Clean text) : Trimmed (escapeFrom inList true text) := by
  refine ⟨?_, escape_last text clean.last true⟩
  cases text with
  | nil => simp [escapeFrom]
  | cons character rest =>
      intro first found
      have trimmed : Trimmed (escapeCharacter inList ⟨true, rest.isEmpty⟩ character) :=
        escape_character_trimmed (clean.first character rfl) (.inl rfl)
      apply trimmed.first first
      rcases escape_character_cases inList ⟨true, rest.isEmpty⟩ character with
        ⟨mark, written, _⟩ | ⟨written, _⟩ <;> simpa [escapeFrom, written] using found

theorem unescape_trim_escape (clean : Clean text) :
    unescape? (trim (escapeFrom inList true text)) = some text := by
  rw [(escape_trimmed clean).trim_eq, unescape_escape]

theorem cut_items_plain (plain : character ≠ '\\') (inside : isSeparator character = false)
    (current rest : List Char) :
    cutItems current (character :: rest) = cutItems (current ++ [character]) rest := by
  rw [cutItems] <;> simp [plain, inside]

/-- No separator of a written item is taken for the end of the item. -/
theorem cut_items_escape (current item rest : List Char) (isFirst : Bool) :
    cutItems current (escapeFrom true isFirst item ++ rest)
      = cutItems (current ++ escapeFrom true isFirst item) rest := by
  induction item generalizing current isFirst with
  | nil => simp [escapeFrom]
  | cons character others induction =>
      rw [escapeFrom, List.append_assoc]
      rcases escape_character_cases true ⟨isFirst, others.isEmpty⟩ character with
        ⟨mark, written, _⟩ | ⟨written, plain, _, inside, _⟩
      · rw [written, List.cons_append, List.singleton_append, cutItems, induction]
        simp
      · rw [written, List.singleton_append, cut_items_plain plain (inside rfl), induction]
        simp

theorem cut_join_list (clean : CleanList items) :
    cutItems [] (joinList items) = some (items.map escapeItem) := by
  induction items with
  | nil => simp [joinList, cutItems, trim, trimLeft, trimRight]
  | cons item others induction =>
      have whole : ∀ rest, cutItems [] (escapeItem item ++ rest) = cutItems (escapeItem item) rest := by
        intro rest
        rw [escapeItem, cut_items_escape, List.nil_append]
      cases others with
      | nil =>
          have kept : trim (escapeItem item) ≠ [] := by
            rw [escapeItem, (escape_trimmed (clean.each item List.mem_cons_self)).trim_eq]
            rw [ne_eq, escape_nil_iff]
            exact fun nothing => clean.ends (by simp [nothing])
          have ends := whole []
          rw [List.append_nil] at ends
          simp [joinList, ends, cutItems, kept]
      | cons next others =>
          have more : CleanList (next :: others) := clean.tail
          rw [joinList, whole, cutItems, induction more]
          · simp [isSeparator]
          all_goals simp

/-- An empty item at the end is not told from the end of the item before it. -/
theorem cut_join_list_empty (items : List (List Char)) :
    cutItems [] (joinList (items ++ [[]])) = some (items.map escapeItem) := by
  induction items with
  | nil => simp [joinList, escapeItem, escapeFrom, cutItems, trim, trimLeft, trimRight]
  | cons item others induction =>
      have joined : joinList (item :: others ++ [[]])
          = escapeItem item ++ ',' :: joinList (others ++ [[]]) := by
        cases others <;> rfl
      rw [joined, escapeItem, cut_items_escape, List.nil_append, cutItems, induction]
      · simp [isSeparator, escapeItem]
      all_goals simp

theorem map_all_of_each {α β : Type} {change : α → Option β} {write : β → α} {results : List β}
    (each : ∀ result ∈ results, change (write result) = some result) :
    mapAll? change (results.map write) = some results := by
  induction results with
  | nil => rfl
  | cons result others induction =>
      have later := induction fun result member => each result (List.mem_cons_of_mem _ member)
      simp [mapAll?, each result List.mem_cons_self, later]

theorem split_join_list (clean : CleanList items) : splitList? (joinList items) = some items := by
  rw [splitList?, cut_join_list clean, Option.bind_some]
  exact map_all_of_each fun item member => unescape_trim_escape (clean.each item member)

theorem join_list_trimmed (clean : ∀ item ∈ items, Clean item) : Trimmed (joinList items) := by
  induction items with
  | nil => exact trimmed_nil
  | cons item others induction =>
      have first : Trimmed (escapeItem item) := escape_trimmed (clean item List.mem_cons_self)
      have later := induction fun other member => clean other (List.mem_cons_of_mem item member)
      cases others with
      | nil => exact first
      | cons next others =>
          have comma : Trimmed [','] := by decide
          have rest : Trimmed (',' :: joinList (next :: others)) := by
            by_cases empty : joinList (next :: others) = []
            · rwa [empty]
            · exact comma.append later (by simp) empty
          change Trimmed (escapeItem item ++ ',' :: joinList (next :: others))
          by_cases empty : escapeItem item = []
          · rwa [empty]
          · exact first.append rest empty (by simp)

theorem join_list_one_line (items : List (List Char)) : '\n' ∉ joinList items := by
  induction items with
  | nil => simp [joinList]
  | cons item others induction =>
      have line := escape_one_line true true item
      cases others with
      | nil => exact line
      | cons next others => simp_all [joinList, escapeItem]

theorem unescape_cons_cases (decoded : unescape? (character :: rest) = some text) :
    (∃ mark others meant later, character = '\\' ∧ rest = mark :: others ∧
        escapedCharacter? mark = some meant ∧ unescape? others = some later ∧
        text = meant :: later) ∨
      ∃ later, unescape? rest = some later ∧ text = character :: later := by
  by_cases plain : character = '\\'
  · left
    subst plain
    cases rest with
    | nil => cases decoded
    | cons mark others =>
        rw [unescape?] at decoded
        split at decoded
        · rename_i meant later stands more
          cases decoded
          exact ⟨mark, others, meant, later, rfl, rfl, stands, more, rfl⟩
        · cases decoded
  · right
    rw [unescape_plain plain] at decoded
    obtain ⟨later, more, same⟩ := Option.map_eq_some_iff.1 decoded
    exact ⟨later, more, same.symm⟩

theorem last_cons_cases {first last : Char} (found : (first :: rest).getLast? = some last) :
    rest.getLast? = some last ∨ (rest = [] ∧ last = first) := by
  cases rest with
  | nil => simp_all
  | cons next others => simp_all [List.getLast?_cons]

theorem unescape_last {last : Char} (decoded : unescape? raw = some text)
    (trimmed : ∀ character, raw.getLast? = some character → isBlank character = false)
    (found : text.getLast? = some last) : staysAtEnd last = true := by
  induction size : raw.length using Nat.strong_induction_on generalizing raw text with
  | _ size induction =>
      cases raw with
      | nil =>
          cases decoded
          cases found
      | cons character rest =>
          rcases unescape_cons_cases decoded with
            ⟨mark, others, meant, later, _, rfl, stands, more, rfl⟩ | ⟨later, more, rfl⟩
          · rcases last_cons_cases found with deeper | ⟨_, rfl⟩
            · refine induction others.length (by simp_all; omega) more ?_ deeper rfl
              exact fun other ends => trimmed other (by simp [List.getLast?_cons, ends])
            · exact (escaped_character_stays stands).1
          · rcases last_cons_cases found with deeper | ⟨rfl, rfl⟩
            · refine induction rest.length (by simp_all; omega) more ?_ deeper rfl
              exact fun other ends => trimmed other (by simp [List.getLast?_cons, ends])
            · cases rest with
              | nil => simp [staysAtEnd, trimmed last rfl]
              | cons next others => rcases unescape_cons_cases more with cut | cut <;> simp at cut

/-- A string that is read is clean: white space at an end of what is read was escaped. -/
theorem unescape_clean (trimmed : Trimmed raw) (decoded : unescape? raw = some text) :
    Clean text := by
  refine ⟨?_, fun _ found => unescape_last decoded trimmed.last found⟩
  intro first found
  cases raw with
  | nil =>
      cases decoded
      cases found
  | cons character rest =>
      rcases unescape_cons_cases decoded with
        ⟨mark, others, meant, later, _, _, stands, _, rfl⟩ | ⟨later, _, rfl⟩
      · cases found
        exact (escaped_character_stays stands).1
      · cases found
        simp [staysAtEnd, trimmed.first first rfl]

theorem mem_map_all {α β : Type} {change : α → Option β} {sources : List α} {results : List β}
    (mapped : mapAll? change sources = some results) :
    ∀ result ∈ results, ∃ source ∈ sources, change source = some result := by
  induction sources generalizing results with
  | nil => simp_all [mapAll?]
  | cons source others induction =>
      rw [mapAll?] at mapped
      split at mapped
      · rename_i first later changed more
        cases mapped
        intro result member
        rcases List.mem_cons.1 member with rfl | inside
        · exact ⟨source, List.mem_cons_self, changed⟩
        · obtain ⟨origin, among, same⟩ := induction more result inside
          exact ⟨origin, List.mem_cons_of_mem source among, same⟩
      · cases mapped

theorem split_list_clean (read : splitList? raw = some items) : ∀ item ∈ items, Clean item := by
  intro item member
  obtain ⟨cut, _, mapped⟩ := Option.bind_eq_some_iff.1 read
  obtain ⟨piece, _, decoded⟩ := mem_map_all mapped item member
  exact unescape_clean (trim_trimmed piece) decoded

theorem map_all_length {α β : Type} {change : α → Option β} {sources : List α} {results : List β}
    (mapped : mapAll? change sources = some results) : results.length = sources.length := by
  induction sources generalizing results with
  | nil =>
      cases mapped
      rfl
  | cons source others induction =>
      rw [mapAll?] at mapped
      split at mapped
      · rename_i first later changed more
        cases mapped
        simp [induction more]
      · cases mapped

theorem clean_of_split_join_list (back : splitList? (joinList items) = some items) :
    CleanList items := by
  have each : ∀ item ∈ items, Clean item := split_list_clean back
  refine ⟨each, fun empty => ?_⟩
  obtain ⟨front, rfl⟩ := List.getLast?_eq_some_iff.1 empty
  rw [splitList?, cut_join_list_empty, Option.bind_some] at back
  have counted := map_all_length back
  simp at counted

theorem unescape_trim_escape_iff :
    unescape? (trim (escapeFrom inList true text)) = some text ↔ Clean text :=
  ⟨unescape_clean (trim_trimmed _), unescape_trim_escape⟩

theorem split_trim_join_list_iff : splitList? (trim (joinList items)) = some items ↔
    CleanList items := by
  constructor
  · intro back
    have each := split_list_clean back
    rw [(join_list_trimmed each).trim_eq] at back
    exact clean_of_split_join_list back
  · intro clean
    rw [(join_list_trimmed clean.each).trim_eq]
    exact split_join_list clean

/-- Of a list only the end can spoil what is read: nothing marks an empty item there. -/
theorem ends_iff : items.getLast? ≠ some [] ↔
    items = [] ∨ ∃ last, items.getLast? = some last ∧ last ≠ [] := by
  cases items using List.reverseRecOn with
  | nil => simp
  | append_singleton front last => simp

/-- A string takes one line when it is written, and comes back through a trimmed value exactly if it
is clean. A list comes back exactly if its items are clean and it is empty or ends in an item that is
not empty. -/
theorem reading_inverts_writing :
    (∀ text, '\n' ∉ escape text ∧ (unescape? (trim (escape text)) = some text ↔ Clean text)) ∧
    ∀ items, splitList? (trim (joinList items)) = some items ↔
      (∀ item ∈ items, Clean item) ∧
        (items = [] ∨ ∃ last, items.getLast? = some last ∧ last ≠ []) := by
  constructor
  · exact fun text => ⟨escape_one_line false true text, unescape_trim_escape_iff⟩
  · intro items
    rw [split_trim_join_list_iff, ← ends_iff]
    exact ⟨fun clean => ⟨clean.each, clean.ends⟩, fun clean => ⟨clean.1, clean.2⟩⟩

example : splitList? (joinList [['a'], []]) = some [['a']] := by decide

end ConnectionManager.KeyFile
