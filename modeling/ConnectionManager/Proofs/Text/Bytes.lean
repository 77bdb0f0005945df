import ConnectionManager.Text.Bytes
import Mathlib.Tactic.SplitIfs

/-!
The bytes of a text are read back as this text, leniently as well as strictly. A character is found
whole, because its first byte says how many bytes follow and the next one is within the bounds.
-/

namespace ConnectionManager.Text

variable {lead second third fourth : UInt8}

theorem continuation_of_bounds (byte : UInt8) (low : 128 ≤ byte.toNat) (high : byte.toNat ≤ 191) :
    isContinuation byte = true := by
  simp [isContinuation, UInt8.le_iff_toNat_le, low, high]

theorem shape_of_lead (lead : UInt8) : SequenceShape.ofLead? lead =
    if lead.toNat < 194 then none
    else if lead.toNat < 224 then some ⟨0x80, 0xBF, 0⟩
    else if lead.toNat = 224 then some ⟨0xA0, 0xBF, 1⟩
    else if lead.toNat = 237 then some ⟨0x80, 0x9F, 1⟩
    else if lead.toNat < 240 then some ⟨0x80, 0xBF, 1⟩
    else if lead.toNat = 240 then some ⟨0x90, 0xBF, 2⟩
    else if lead.toNat < 244 then some ⟨0x80, 0xBF, 2⟩
    else if lead.toNat = 244 then some ⟨0x80, 0x8F, 2⟩
    else none := by
  simp only [SequenceShape.ofLead?, UInt8.lt_iff_toNat_lt, ← UInt8.toNat_inj]
  rfl

theorem count_none (small : lead.toNat < 194) (more : Bytes) : continuationCount lead more = 0 := by
  simp [continuationCount, shape_of_lead, small]

theorem count_of_shape {low high : UInt8} {further : Nat}
    (shape : SequenceShape.ofLead? lead = some ⟨low, high, further⟩) (above : low.toNat ≤ second.toNat)
    (below : second.toNat ≤ high.toNat) (others : Bytes) :
    continuationCount lead (second :: others)
      = 1 + ((others.take further).takeWhile isContinuation).length := by
  simp [continuationCount, shape, UInt8.le_iff_toNat_le, above, below]

theorem count_further (wide : 194 ≤ lead.toNat ∧ lead.toNat < 245)
    (bounds : 128 ≤ second.toNat ∧ second.toNat ≤ 191)
    (overlong : lead.toNat = 224 → 160 ≤ second.toNat)
    (surrogate : lead.toNat = 237 → second.toNat ≤ 159)
    (overlongToo : lead.toNat = 240 → 144 ≤ second.toNat)
    (beyond : lead.toNat = 244 → second.toNat ≤ 143) (others : Bytes) :
    continuationCount lead (second :: others) = 1 + ((others.take
      (if lead.toNat < 224 then 0 else if lead.toNat < 240 then 1 else 2)).takeWhile
        isContinuation).length := by
  have shape := shape_of_lead lead
  rw [if_neg (by omega)] at shape
  split_ifs at shape with two overlong3 surrogates three overlong4 four last
  · rw [count_of_shape shape bounds.1 bounds.2, if_pos two]
  · rw [count_of_shape shape (overlong overlong3) bounds.2, if_neg two, if_pos (by omega)]
  · rw [count_of_shape shape bounds.1 (surrogate surrogates), if_neg two, if_pos (by omega)]
  · rw [count_of_shape shape bounds.1 bounds.2, if_neg two, if_pos three]
  · rw [count_of_shape shape (overlongToo overlong4) bounds.2, if_neg two, if_neg three]
  · rw [count_of_shape shape bounds.1 bounds.2, if_neg two, if_neg three]
  · rw [count_of_shape shape bounds.1 (beyond last), if_neg two, if_neg three]
  · omega

theorem continuation_count_char (character : Char) (more : Bytes) : ∃ lead rest,
    String.utf8EncodeChar character = lead :: rest ∧
      continuationCount lead (rest ++ more) = rest.length := by
  have valid : character.val.toNat < 0xD800 ∨
      0xDFFF < character.val.toNat ∧ character.val.toNat < 0x110000 := character.valid
  have modulo : ∀ value, (UInt8.ofNat value).toNat = value % 256 := fun _ => UInt8.toNat_ofNat'
  unfold String.utf8EncodeChar
  dsimp only
  generalize character.val.toNat = code at *
  split_ifs with one two three
  · refine ⟨_, _, rfl, count_none ?_ _⟩
    rw [modulo]
    omega
  · refine ⟨_, _, rfl, ?_⟩
    have lead := modulo (code / 64 % 32 + 192)
    have second := modulo (code % 64 + 128)
    rw [List.singleton_append, count_further (by omega) (by omega) (by omega) (by omega) (by omega)
      (by omega), if_pos (by omega)]
    simp
  · refine ⟨_, _, rfl, ?_⟩
    have lead := modulo (code / 4096 % 16 + 224)
    have second := modulo (code / 64 % 64 + 128)
    have third := modulo (code % 64 + 128)
    have last := continuation_of_bounds (UInt8.ofNat (code % 64 + 128)) (by omega) (by omega)
    rw [List.cons_append, count_further (by omega) (by omega) (by omega) (by omega) (by omega)
      (by omega), if_neg (by omega), if_pos (by omega)]
    simp [-UInt8.ofNat_add, last]
  · refine ⟨_, _, rfl, ?_⟩
    have lead := modulo (code / 262144 % 8 + 240)
    have second := modulo (code / 4096 % 64 + 128)
    have third := modulo (code / 64 % 64 + 128)
    have fourth := modulo (code % 64 + 128)
    have middle := continuation_of_bounds (UInt8.ofNat (code / 64 % 64 + 128)) (by omega)
      (by omega)
    have last := continuation_of_bounds (UInt8.ofNat (code % 64 + 128)) (by omega) (by omega)
    rw [List.cons_append, count_further (by omega) (by omega) (by omega) (by omega) (by omega)
      (by omega), if_neg (by omega), if_neg (by omega)]
    simp [-UInt8.ofNat_add, middle, last]

theorem encode_char_ascii {character : Char} (ascii : character.toNat < 128) :
    String.utf8EncodeChar character = [UInt8.ofNat character.toNat] := by
  have small : character.val.toNat ≤ 127 := Nat.le_of_lt_succ ascii
  unfold String.utf8EncodeChar
  dsimp only
  rw [if_pos small]
  rfl

theorem ascii_of_lead {character : Char} {rest : Bytes}
    (encoded : String.utf8EncodeChar character = lead :: rest) (small : lead.toNat < 192) :
    character.toNat < 128 := by
  have modulo : ∀ value, (UInt8.ofNat value).toNat = value % 256 := fun _ => UInt8.toNat_ofNat'
  refine Nat.lt_of_not_le fun wide => ?_
  change 128 ≤ character.val.toNat at wide
  have valid : character.val.toNat < 0x110000 := by
    rcases character.valid with low | high
    · omega
    · exact high.2
  unfold String.utf8EncodeChar at encoded
  dsimp only at encoded
  generalize character.val.toNat = code at *
  split_ifs at encoded with one two three
  · omega
  all_goals
    have first := congrArg UInt8.toNat (List.cons.inj encoded).1
    rw [modulo] at first
    omega

theorem utf8_cons_ascii {character : Char} (ascii : character.toNat < 128) (rest : List Char) :
    utf8 (character :: rest) = UInt8.ofNat character.toNat :: utf8 rest := by
  rw [utf8, List.flatMap_cons, encode_char_ascii ascii]
  rfl

theorem utf8_ascii {characters : List Char}
    (ascii : ∀ character ∈ characters, character.toNat < 128) :
    utf8 characters = characters.map fun character => UInt8.ofNat character.toNat := by
  induction characters with
  | nil => rfl
  | cons character rest induction =>
      have others := induction fun other member => ascii other (List.mem_cons_of_mem _ member)
      rw [utf8_cons_ascii (ascii character List.mem_cons_self), others, List.map_cons]

theorem of_utf8_eq_some {bytes : Bytes} {characters : List Char} :
    ofUtf8? bytes = some characters ↔ bytes = utf8 characters := by
  constructor
  · intro read
    obtain ⟨decoded, found, rfl⟩ := Option.map_eq_some_iff.1 read
    have valid : bytes.toByteArray.utf8Decode?.isSome = true := by
      rw [found]
      rfl
    have encoded := @ByteArray.utf8Encode_get_utf8Decode? bytes.toByteArray valid
    rw [Option.get_of_eq_some _ found] at encoded
    exact List.toByteArray_inj.1 encoded.symm
  · rintro rfl
    exact of_utf8_utf8 characters

theorem of_utf8_lossy_utf8 (characters : List Char) : ofUtf8Lossy (utf8 characters) = characters := by
  induction characters with
  | nil =>
      rw [utf8, List.flatMap_nil, ofUtf8Lossy]
  | cons character rest induction =>
      obtain ⟨lead, others, bytes, count⟩ := continuation_count_char character (utf8 rest)
      have single : ofUtf8? (lead :: others) = some [character] := by
        rw [← bytes]
        simpa [utf8] using of_utf8_utf8 [character]
      have whole : utf8 (character :: rest) = lead :: (others ++ utf8 rest) := by
        simp [utf8, bytes]
      rw [whole, ofUtf8Lossy]
      simp [count, single, induction]

end ConnectionManager.Text
