import Chip8.Proofs.Decoding

/-!
# Words and the instructions they stand for

Encoding and decoding undo each other. Only the two shifts have a nibble that decoding does not look
at, so a word comes back from its instruction with this nibble cleared and otherwise as it was. Then
the words that stand for nothing are those that are no instruction's word, whatever their free
nibble holds.
-/
namespace Chip8.Instruction

/-- The words of the forms `8XY6` and `8XYE`, in which the nibble `Y` is free. -/
def HasFreeNibble (word : UInt16) : Prop :=
  word.toNat / 0x1000 = 0x8 ∧ (word.toNat % 0x10 = 0x6 ∨ word.toNat % 0x10 = 0xE)

instance (word : UInt16) : Decidable (HasFreeNibble word) :=
  inferInstanceAs (Decidable (_ ∧ _))

/-- A word with its third nibble cleared, if that is free. -/
def canonical (word : UInt16) : UInt16 :=
  if HasFreeNibble word then UInt16.ofNat (word.toNat / 0x100 * 0x100 + word.toNat % 0x10)
  else word

variable {word : UInt16} {i : Instruction}

/-- The word of a shift of the register that a word with a free nibble names. -/
theorem nibbles_eq_canonical {n : Nat} (kind : word.toNat / 0x1000 = 0x8)
    (last : word.toNat % 0x10 = n) (shift : n = 0x6 ∨ n = 0xE) :
    nibbles 0x8 (Opcode.ofWord word).x.toNat 0 n = canonical word := by
  have bound := word.toNat_lt
  have free : HasFreeNibble word := ⟨kind, last ▸ shift⟩
  rw [canonical, if_pos free, nibbles, Opcode.x_ofWord, ← UInt16.toNat_inj, UInt16.toNat_ofNat',
    UInt16.toNat_ofNat']
  omega

/-- A word with a free nibble is a shift, and the shift's own word has this nibble cleared. -/
theorem ofWord?_of_free (free : HasFreeNibble word) :
    ∃ i, ofWord? word = some i ∧ i.encode = canonical word := by
  obtain ⟨kind, right | left⟩ := free
  · refine ⟨.shiftRight (Opcode.ofWord word).x, ?_, nibbles_eq_canonical kind right (.inl rfl)⟩
    simp [ofWord?, ofOpcode?, arithmetic?, kind, right]
  · refine ⟨.shiftLeft (Opcode.ofWord word).x, ?_, nibbles_eq_canonical kind left (.inr rfl)⟩
    simp [ofWord?, ofOpcode?, arithmetic?, kind, left]

/-- No other word is a shift. -/
theorem hasFreeNibble_of_isShift (decoded : ofWord? word = some i) (shift : i.isShift = true) :
    HasFreeNibble word := by
  unfold ofWord? ofOpcode? control? arithmetic? keySkip? transfer? at decoded
  split at decoded <;> (try split at decoded) <;> cases decoded <;> cases shift
  -- the two shifts are left, each with its first and its last nibble
  all_goals
    simp only [Opcode.kind_ofWord, Opcode.n_ofWord] at *
    unfold HasFreeNibble
    omega

/-- A word that stands for an instruction is that instruction's word, but for a free nibble. -/
theorem encode_eq_canonical (decoded : ofWord? word = some i) : i.encode = canonical word := by
  by_cases free : HasFreeNibble word
  · obtain ⟨j, found, spelled⟩ := ofWord?_of_free free
    cases found.symm.trans decoded
    exact spelled
  · have unfree : i.isShift = false := by
      rw [← Bool.not_eq_true]
      exact fun shift => free (hasFreeNibble_of_isShift decoded shift)
    rw [canonical, if_neg free, encode_of_ofWord? decoded unfree]

/-- What a free nibble holds makes no difference. -/
theorem ofWord?_canonical (word : UInt16) : ofWord? (canonical word) = ofWord? word := by
  by_cases free : HasFreeNibble word
  · obtain ⟨i, decoded, spelled⟩ := ofWord?_of_free free
    rw [← spelled, ofWord?_encode i (ofWord?_encodable decoded), decoded]
  · rw [canonical, if_neg free]

theorem ofWord?_eq_some_iff : ofWord? word = some i ↔ i.Encodable ∧ i.encode = canonical word := by
  constructor
  · exact fun decoded => ⟨ofWord?_encodable decoded, encode_eq_canonical decoded⟩
  · rintro ⟨fits, spelled⟩
    rw [← ofWord?_canonical, ← spelled, ofWord?_encode i fits]

theorem ofWord?_eq_none_iff :
    ofWord? word = none ↔ ¬ ∃ i : Instruction, i.Encodable ∧ i.encode = canonical word := by
  rw [Option.eq_none_iff_forall_ne_some, not_exists]
  exact forall_congr' fun _ => not_congr ofWord?_eq_some_iff

/-- Decoding undoes encoding for every instruction whose operands fit. What any word is decoded to
has operands that fit and is encoded as this word again, but for the third nibble of a shift, which
is then zero. And a word is no instruction exactly if none with fitting operands is encoded so. -/
theorem decoding_inverts_encoding :
    (∀ i : Instruction, i.Encodable → ofWord? i.encode = some i) ∧
    (∀ word i, ofWord? word = some i →
      i.Encodable ∧ i.encode = canonical word ∧ (¬ HasFreeNibble word → i.encode = word)) ∧
    ∀ word, ofWord? word = none ↔
      ¬ ∃ i : Instruction, i.Encodable ∧ i.encode = canonical word := by
  refine ⟨ofWord?_encode, fun word i decoded => ?_, fun word => ofWord?_eq_none_iff⟩
  have spelled := encode_eq_canonical decoded
  refine ⟨ofWord?_encodable decoded, spelled, fun unfree => ?_⟩
  rw [spelled, canonical, if_neg unfree]

/-- `8AB6` shifts `VA` and so does its own word `8A06`, which decoding gets the shift back from;
`5121` is no instruction. -/
theorem shiftOfA_spelled :
    ofWord? 0x8AB6 = some (.shiftRight 0xA) ∧ (shiftRight 0xA).encode = 0x8A06 ∧
      ofWord? (shiftRight 0xA).encode = some (.shiftRight 0xA) ∧
      ¬ ∃ i : Instruction, i.Encodable ∧ i.encode = 0x5121 := by
  obtain ⟨reads, spells, others⟩ := decoding_inverts_encoding
  have decoded : ofWord? 0x8AB6 = some (.shiftRight 0xA) := by decide
  obtain ⟨fits, spelled, _⟩ := spells 0x8AB6 (.shiftRight 0xA) decoded
  exact ⟨decoded, spelled, reads _ fits, (others 0x5121).mp (by decide)⟩

end Chip8.Instruction
