import ConnectionManager.Proofs.Text.Bytes
import ConnectionManager.Proofs.Text.Identifier
import ConnectionManager.Proofs.Text.Trimming

/-!
Escaped identifiers are read back, and the reader's language. A text spells bytes if it is put
together from letters and digits and from underscores with two hexadecimal digits (`Spells`); what
is escaped is spelled so, and whatever is spelled so is read. The reader is laxer than it should be
in one place: after an underscore it takes a plus sign for the first digit.
-/

namespace ConnectionManager.Text

/-! Texts that spell bytes. -/

/-- The value of a hexadecimal digit, in lower or upper case. -/
def hexadecimal? (digit : Char) : Option Nat :=
  if 48 ≤ digit.toNat ∧ digit.toNat ≤ 57 then some (digit.toNat - 48)
  else if 97 ≤ digit.toNat ∧ digit.toNat ≤ 102 then some (digit.toNat - 87)
  else if 65 ≤ digit.toNat ∧ digit.toNat ≤ 70 then some (digit.toNat - 55)
  else none

/-- A text and the bytes that it spells. In a lax reading a plus sign can stand in place of the first
of two hexadecimal digits. -/
inductive Spells (lax : Prop) : List Char → Bytes → Prop
  | nil : Spells lax [] []
  | plain {character : Char} {rest : List Char} {bytes : Bytes}
      (plain : character.isAlphanum = true) (more : Spells lax rest bytes) :
      Spells lax (character :: rest) (UInt8.ofNat character.toNat :: bytes)
  | escape {high low : Char} {rest : List Char} {bytes : Bytes} {upper lower : Nat}
      (first : hexadecimal? high = some upper) (second : hexadecimal? low = some lower)
      (more : Spells lax rest bytes) :
      Spells lax ('_' :: high :: low :: rest) (UInt8.ofNat (upper * 16 + lower) :: bytes)
  | plus {low : Char} {rest : List Char} {bytes : Bytes} {lower : Nat} (allowed : lax)
      (second : hexadecimal? low = some lower) (more : Spells lax rest bytes) :
      Spells lax ('_' :: '+' :: low :: rest) (UInt8.ofNat lower :: bytes)

def HasPlusEscape (characters : List Char) : Prop :=
  ∃ before low after value, characters = before ++ '_' :: '+' :: low :: after ∧
    hexadecimal? low = some value

variable {lax : Prop} {characters rest : List Char} {bytes : Bytes}

theorem HasPlusEscape.after (start : List Char) (has : HasPlusEscape rest) :
    HasPlusEscape (start ++ rest) := by
  obtain ⟨before, low, after, value, same, digit⟩ := has
  exact ⟨start ++ before, low, after, value, by rw [same, List.append_assoc], digit⟩

theorem Spells.strict_or_plus (spells : Spells lax characters bytes) :
    Spells False characters bytes ∨ HasPlusEscape characters := by
  induction spells with
  | nil => exact .inl .nil
  | @plain character _ _ plain _ induction =>
      exact induction.imp (.plain plain) (HasPlusEscape.after [character])
  | @escape high low _ _ _ _ first second _ induction =>
      exact induction.imp (.escape first second) (HasPlusEscape.after ['_', high, low])
  | plus _ second => exact .inr ⟨[], _, _, _, rfl, second⟩

theorem hexadecimal_word {digit : Char} {value : Nat} (known : hexadecimal? digit = some value) :
    digit.isAlphanum = true := by
  unfold hexadecimal? at known
  rw [alphanum_iff]
  split_ifs at known <;> omega

theorem Spells.made_of (spells : Spells lax characters bytes) : ∀ character ∈ characters,
    (character.isAlphanum = true ∨ character = '_') ∨ (lax ∧ character = '+') := by
  induction spells with
  | nil => exact fun _ member => absurd member List.not_mem_nil
  | plain plain _ induction => exact List.forall_mem_cons.2 ⟨.inl (.inl plain), induction⟩
  | escape first second _ induction =>
      have digits := List.forall_mem_cons.2 ⟨.inl (.inl (hexadecimal_word first)),
        List.forall_mem_cons.2 ⟨.inl (.inl (hexadecimal_word second)), induction⟩⟩
      exact List.forall_mem_cons.2 ⟨.inl (.inr rfl), digits⟩
  | plus allowed second _ induction =>
      have digits := List.forall_mem_cons.2 ⟨.inr ⟨allowed, rfl⟩,
        List.forall_mem_cons.2 ⟨.inl (.inl (hexadecimal_word second)), induction⟩⟩
      exact List.forall_mem_cons.2 ⟨.inl (.inr rfl), digits⟩

/-! The characters of the grammar as bytes. -/

theorem alphanum_ascii {character : Char} (word : character.isAlphanum = true) :
    character.toNat < 128 := by
  have codes := alphanum_iff.1 word
  omega

theorem char_of_code {character : Char} (ascii : character.toNat < 128) :
    byteChar (UInt8.ofNat character.toNat) = character := by
  rw [byteChar, UInt8.toNat_ofNat', Nat.mod_eq_of_lt (by omega)]
  exact Char.ofNat_toNat character

theorem utf8_eq_cons {byte : UInt8} {more : Bytes} (spelled : utf8 characters = byte :: more)
    (ascii : byte.toNat < 128) :
    ∃ others, characters = byteChar byte :: others ∧ utf8 others = more := by
  cases characters with
  | nil => cases spelled
  | cons character others =>
      rw [utf8, List.flatMap_cons] at spelled
      cases encoded : String.utf8EncodeChar character with
      | nil => exact absurd encoded String.utf8EncodeChar_ne_nil
      | cons lead tail =>
          rw [encoded] at spelled
          obtain ⟨same, remaining⟩ := List.cons.inj spelled
          have small : character.toNat < 128 := ascii_of_lead encoded (by rw [same]; omega)
          obtain ⟨code, none⟩ := List.cons.inj (encoded.symm.trans (encode_char_ascii small))
          refine ⟨others, ?_, ?_⟩
          · rw [← same, code, char_of_code small]
          · rw [none] at remaining
            exact remaining

theorem ascii_codes : ∀ code < 128,
    (byteChar (UInt8.ofNat code)).isAlphanum = isPlain false (UInt8.ofNat code) ∧
      hexadecimal? (byteChar (UInt8.ofNat code)) = hexValue? (UInt8.ofNat code) ∧
        (isPlain true (UInt8.ofNat code) = true →
          (byteChar (UInt8.ofNat code)).isDigit = false) := by
  decide +kernel

theorem hex_value_ascii {byte : UInt8} {value : Nat} (known : hexValue? byte = some value) :
    byte.toNat < 128 := by
  simp only [hexValue?, Bool.and_eq_true, decide_eq_true_eq, UInt8.le_iff_toNat_le] at known
  split_ifs at known with decimal lower upper
  · exact Nat.lt_of_le_of_lt decimal.2 (by decide)
  · exact Nat.lt_of_le_of_lt lower.2 (by decide)
  · exact Nat.lt_of_le_of_lt upper.2 (by decide)

theorem byte_alphanum {byte : UInt8} (plain : isPlain false byte = true) :
    (byteChar byte).isAlphanum = true := by
  have codes := (ascii_codes byte.toNat (plain_byte plain).1).1
  rwa [UInt8.ofNat_toNat, plain] at codes

theorem byte_hexadecimal {byte : UInt8} {value : Nat} (known : hexValue? byte = some value) :
    hexadecimal? (byteChar byte) = some value := by
  have codes := (ascii_codes byte.toNat (hex_value_ascii known)).2.1
  rwa [UInt8.ofNat_toNat, known] at codes

theorem alphanum_plain {character : Char} (word : character.isAlphanum = true) :
    isPlain false (UInt8.ofNat character.toNat) = true := by
  have ascii := alphanum_ascii word
  rw [← (ascii_codes character.toNat ascii).1, char_of_code ascii, word]

theorem hexadecimal_value {digit : Char} {value : Nat} (known : hexadecimal? digit = some value) :
    hexValue? (UInt8.ofNat digit.toNat) = some value := by
  have ascii := alphanum_ascii (hexadecimal_word known)
  rw [← (ascii_codes digit.toNat ascii).2.1, char_of_code ascii, known]

/-! The reader and its language. -/

theorem unescape_plain {byte : UInt8} (plain : isPlain false byte = true) (rest : Bytes) :
    unescapeBytes (byte :: rest) = (unescapeBytes rest).map (byte :: ·) := by
  rw [unescapeBytes.eq_def]
  exact (if_neg (plain_byte plain).2).trans (if_pos plain)

theorem unescape_group {high low byte : UInt8} (known : escapedByte? high low = some byte)
    (rest : Bytes) :
    unescapeBytes (95 :: high :: low :: rest) = (unescapeBytes rest).map (byte :: ·) := by
  rw [unescapeBytes, if_pos rfl]
  simp only [known]

theorem escaped_byte_cases {high low byte : UInt8} (known : escapedByte? high low = some byte) :
    (∃ upper lower, hexValue? high = some upper ∧ hexValue? low = some lower ∧
        byte = UInt8.ofNat (upper * 16 + lower)) ∨
      (high = 43 ∧ ∃ lower, hexValue? low = some lower ∧ byte = UInt8.ofNat lower) := by
  unfold escapedByte? at known
  split at known
  · rename_i upper lower first second
    exact .inl ⟨upper, lower, first, second, (Option.some.inj known).symm⟩
  · rename_i lower _ second
    split_ifs at known with sign
    exact .inr ⟨sign, lower, second, (Option.some.inj known).symm⟩
  · cases known

theorem Spells.unescape (spells : Spells lax characters bytes) :
    unescapeBytes (utf8 characters) = .ok bytes := by
  have digit : ∀ {digit value} (rest : List Char), hexadecimal? digit = some value →
      utf8 (digit :: rest) = UInt8.ofNat digit.toNat :: utf8 rest := fun rest known =>
    utf8_cons_ascii (alphanum_ascii (hexadecimal_word known)) rest
  induction spells with
  | nil => rfl
  | plain plain _ induction =>
      rw [utf8_cons_ascii (alphanum_ascii plain), unescape_plain (alphanum_plain plain), induction]
      rfl
  | @escape high low _ _ upper lower first second _ induction =>
      have known : escapedByte? (UInt8.ofNat high.toNat) (UInt8.ofNat low.toNat)
          = some (UInt8.ofNat (upper * 16 + lower)) := by
        simp only [escapedByte?, hexadecimal_value first, hexadecimal_value second]
      rw [utf8_cons_ascii (by decide), digit _ first, digit _ second]
      exact (unescape_group known _).trans (by rw [induction]; rfl)
  | @plus low _ _ lower _ second _ induction =>
      have known : escapedByte? 43 (UInt8.ofNat low.toNat) = some (UInt8.ofNat lower) := by
        simp only [escapedByte?, hexadecimal_value second]
        rfl
      rw [utf8_cons_ascii (by decide), utf8_cons_ascii (by decide), digit _ second]
      exact (unescape_group known _).trans (by rw [induction]; rfl)

theorem read_on {byte : UInt8} {outcome : Except UnescapeError Bytes}
    (mapped : outcome.map (byte :: ·) = .ok bytes) :
    ∃ more, outcome = .ok more ∧ bytes = byte :: more := by
  cases outcome with
  | error error => cases mapped
  | ok more => exact ⟨more, rfl, (Except.ok.inj mapped).symm⟩

theorem spells_of_unescape {read : Bytes} (accepted : unescapeBytes read = .ok bytes)
    (spelled : utf8 characters = read) : Spells True characters bytes := by
  induction read using unescapeBytes.induct generalizing characters bytes with
  | case1 =>
      cases accepted
      cases characters with
      | nil => exact .nil
      | cons character others =>
          exact absurd (List.append_eq_nil_iff.1 spelled).1 String.utf8EncodeChar_ne_nil
  | case2 high low others value known induction =>
      rw [unescape_group known] at accepted
      obtain ⟨more, decoded, rfl⟩ := read_on accepted
      obtain ⟨_, rfl, group⟩ := utf8_eq_cons spelled (by decide)
      rcases escaped_byte_cases known with
        ⟨upper, lower, first, second, rfl⟩ | ⟨rfl, lower, second, rfl⟩
      · obtain ⟨_, rfl, ending⟩ := utf8_eq_cons group (hex_value_ascii first)
        obtain ⟨_, rfl, remaining⟩ := utf8_eq_cons ending (hex_value_ascii second)
        exact .escape (byte_hexadecimal first) (byte_hexadecimal second)
          (induction decoded remaining)
      · obtain ⟨_, rfl, ending⟩ := utf8_eq_cons group (by decide)
        obtain ⟨_, rfl, remaining⟩ := utf8_eq_cons ending (hex_value_ascii second)
        exact .plus trivial (byte_hexadecimal second) (induction decoded remaining)
  | case3 high low others refused =>
      simp [unescapeBytes, refused] at accepted
  | case4 rest short =>
      rw [unescapeBytes, if_pos rfl] at accepted
      · cases accepted
      · exact short
  | case5 first rest other plain induction =>
      rw [unescape_plain plain] at accepted
      obtain ⟨more, decoded, rfl⟩ := read_on accepted
      have ascii : first.toNat < 128 := (@plain_byte false first plain).1
      obtain ⟨_, rfl, remaining⟩ := utf8_eq_cons spelled ascii
      have word := Spells.plain (byte_alphanum plain) (induction decoded remaining)
      rwa [byte_char_code ascii, UInt8.ofNat_toNat] at word
  | case6 first rest other foreign =>
      unfold unescapeBytes at accepted
      rw [if_neg other, if_neg foreign] at accepted
      cases accepted

theorem not_spells_underscore : ¬ Spells lax ['_'] bytes := by
  rintro (_ | word)
  exact absurd word (by decide)

/-- A lone underscore is the empty text, and else what is spelled is read. -/
theorem unescape_eq_ok {text decoded : String} : unescapeIdentifier text = .ok decoded ↔
    (text = "_" ∧ decoded = "") ∨ Spells True text.toList (utf8 decoded.toList) := by
  constructor
  · intro accepted
    unfold unescapeIdentifier at accepted
    split at accepted
    · rename_i lone
      exact .inl ⟨lone, (Except.ok.inj accepted).symm⟩
    · split at accepted
      · cases accepted
      · rename_i bytes read
        split at accepted
        · rename_i characters found
          rw [← Except.ok.inj accepted, String.toList_ofList, ← of_utf8_eq_some.1 found]
          exact .inr (spells_of_unescape read rfl)
        · cases accepted
  · rintro (⟨rfl, rfl⟩ | spells)
    · rfl
    · have more : text ≠ "_" := by
        rintro rfl
        exact not_spells_underscore spells
      unfold unescapeIdentifier
      rw [if_neg more, spells.unescape]
      dsimp only
      rw [of_utf8_utf8]
      exact congrArg Except.ok String.ofList_toList

theorem unescape_error_kind {text : String} {failure : Failure}
    (refused : unescapeIdentifier text = .error failure) : failure.kind = .invalidArgument := by
  unfold unescapeIdentifier at refused
  split at refused
  · cases refused
  · split at refused
    · rename_i error _
      cases refused
      cases error <;> rfl
    · split at refused
      · cases refused
      · cases refused
        rfl

/-! What is escaped is read back. -/

theorem hexadecimal_digit : ∀ value < 16, hexadecimal? (hexDigit value) = some value := by
  decide

theorem escape_byte_spells (isFirst : Bool) (byte : UInt8) (more : Spells lax rest bytes) :
    Spells lax (escapeByte isFirst byte ++ rest) (byte :: bytes) := by
  by_cases plain : isPlain isFirst byte = true
  · have later : isPlain false byte = true := by
      simp only [isPlain, Bool.or_eq_true, Bool.and_eq_true] at plain ⊢
      exact plain.imp id fun digit => ⟨rfl, digit.2⟩
    have word := Spells.plain (byte_alphanum later) more
    rw [byte_char_code (plain_byte later).1, UInt8.ofNat_toNat] at word
    rw [escape_byte_plain plain]
    exact word
  · have bound := byte.toNat_lt
    have group := Spells.escape (hexadecimal_digit (byte.toNat / 16) (by omega))
      (hexadecimal_digit (byte.toNat % 16) (by omega)) more
    rw [Nat.div_add_mod', UInt8.ofNat_toNat] at group
    rw [escape_byte_other plain]
    exact group

theorem escape_bytes_spells (first : UInt8) (rest : Bytes) :
    Spells lax (escapeBytes (first :: rest)) (first :: rest) := by
  refine escape_byte_spells true first ?_
  induction rest with
  | nil => exact .nil
  | cons byte others induction => exact escape_byte_spells false byte induction

theorem unescape_escape (text : String) : unescapeIdentifier (escapeIdentifier text) = .ok text := by
  rw [unescape_eq_ok, escapeIdentifier, String.toList_ofList]
  cases bytes : utf8 text.toList with
  | nil =>
      have none : text.toList = [] := utf8_injective bytes
      exact .inl ⟨rfl, String.toList_eq_nil_iff.1 none⟩
  | cons first rest => exact .inr (escape_bytes_spells first rest)

theorem escape_bytes_first (bytes : Bytes) :
    ∀ character ∈ (escapeBytes bytes).head?, character.isDigit = false := by
  cases bytes with
  | nil =>
      rintro _ ⟨⟩
      rfl
  | cons first rest =>
      rw [escapeBytes]
      by_cases plain : isPlain true first = true
      · have codes := (ascii_codes first.toNat (plain_byte plain).1).2.2
        rw [UInt8.ofNat_toNat] at codes
        rw [escape_byte_plain plain]
        rintro _ ⟨⟩
        exact codes plain
      · rw [escape_byte_other plain]
        rintro _ ⟨⟩
        rfl

/-- Escaping loses nothing and makes safe components of every text: the result is not empty, is made
of letters, digits and underscores, and does not begin with a digit, and the text is read back from
it. So no two texts have the same escaped form. -/
theorem escaping_lossless :
    (∀ text, (escapeIdentifier text).toList ≠ [] ∧
      (∀ character ∈ (escapeIdentifier text).toList,
        character.isAlphanum = true ∨ character = '_') ∧
      (∀ character ∈ (escapeIdentifier text).toList.head?, character.isDigit = false) ∧
      unescapeIdentifier (escapeIdentifier text) = .ok text) ∧
    Function.Injective escapeIdentifier := by
  refine ⟨fun text => ⟨?_, ?_, ?_, unescape_escape text⟩, fun left right same => ?_⟩
  · rw [escapeIdentifier, String.toList_ofList]
    exact escape_bytes_ne_nil _
  · rw [escapeIdentifier, String.toList_ofList]
    intro character member
    have plain := List.all_eq_true.1 (escape_bytes_characters _) character member
    simpa [PathElement.isCharacter] using plain
  · rw [escapeIdentifier, String.toList_ofList]
    exact escape_bytes_first _
  · have texts := (unescape_escape left).symm.trans (same ▸ unescape_escape right)
    exact Except.ok.inj texts

/-- The reader takes the empty text for a lone underscore, and otherwise what the grammar spells, in
which a plus sign may stand for the first digit of an escape. Only a text with such an escape is
accepted beyond letters, digits and underscores with two hexadecimal digits; every other text with a
character that is never written is refused as an invalid argument. -/
theorem unescaping_grammar (text : String) :
    (∀ decoded, unescapeIdentifier text = .ok decoded ↔
      (text = "_" ∧ decoded = "") ∨ Spells True text.toList (utf8 decoded.toList)) ∧
    (∀ decoded, unescapeIdentifier text = .ok decoded →
      text = "_" ∨ (∃ bytes, Spells False text.toList bytes) ∨ HasPlusEscape text.toList) ∧
    ((∃ character ∈ text.toList, ¬ (character.isAlphanum = true ∨ character = '_') ∧
        (character ≠ '+' ∨ ¬ HasPlusEscape text.toList)) →
      ∃ message, unescapeIdentifier text = .error ⟨.invalidArgument, message⟩) := by
  have accepted : ∀ decoded, unescapeIdentifier text = .ok decoded →
      text = "_" ∨ (∃ bytes, Spells False text.toList bytes) ∨ HasPlusEscape text.toList := by
    intro decoded read
    rcases unescape_eq_ok.1 read with ⟨lone, _⟩ | spells
    · exact .inl lone
    · exact .inr (spells.strict_or_plus.imp (fun strict => ⟨_, strict⟩) id)
  refine ⟨fun decoded => unescape_eq_ok, accepted, ?_⟩
  rintro ⟨character, member, foreign, exempt⟩
  cases outcome : unescapeIdentifier text with
  | error failure =>
      obtain ⟨kind, message⟩ := failure
      have same : kind = .invalidArgument := unescape_error_kind outcome
      exact ⟨message, by rw [same]⟩
  | ok decoded =>
      exfalso
      rcases unescape_eq_ok.1 outcome with ⟨rfl, _⟩ | spells
      · exact foreign (.inr (List.mem_singleton.1 member))
      · rcases exempt with other | strict
        · exact (spells.made_of character member).elim foreign fun plus => other plus.2
        · have written := spells.strict_or_plus.resolve_right strict
          exact (written.made_of character member).elim foreign fun plus => plus.1

/-- A plus sign and one digit after an underscore are read as a byte. -/
theorem plus_escape_accepted : unescapeIdentifier "_+f" = .ok "\x0f" ∧
    ¬ ("_+f" = "_" ∨ ∃ bytes, Spells False "_+f".toList bytes) := by
  refine ⟨rfl, ?_⟩
  rintro (lone | ⟨bytes, spells⟩)
  · exact absurd lone (by decide)
  · have made := spells.made_of '+' (by decide)
    exact absurd made (by decide)

end ConnectionManager.Text
