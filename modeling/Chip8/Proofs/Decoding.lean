import Chip8.Instruction.Encoding

/-!
# Decoding

The fields of a word as digits of a number, and what it takes for a word to stand for an
instruction. The operands of a decoded instruction are fields of its word, so they are as small as
these.
-/
namespace Chip8

namespace Opcode

variable (word : UInt16)

@[simp] theorem kind_ofWord : (ofWord word).kind.toNat = word.toNat / 0x1000 := by
  have bound := word.toNat_lt
  simp only [ofWord, UInt16.toNat_toUInt8, UInt16.toNat_shiftRight, UInt16.reduceToNat,
    Nat.reduceMod, Nat.shiftRight_eq_div_pow, Nat.reducePow]
  omega

private theorem and_nibble (n : Nat) : n &&& 15 = n % 16 :=
  Nat.and_two_pow_sub_one_eq_mod n 4

@[simp] theorem x_ofWord : (ofWord word).x.toNat = word.toNat / 0x100 % 0x10 := by
  simp [ofWord, Nat.shiftRight_eq_div_pow, and_nibble]

@[simp] theorem y_ofWord : (ofWord word).y.toNat = word.toNat / 0x10 % 0x10 := by
  simp [ofWord, Nat.shiftRight_eq_div_pow, and_nibble]

@[simp] theorem n_ofWord : (ofWord word).n.toNat = word.toNat % 0x10 := by
  simp [ofWord, and_nibble]

@[simp] theorem nn_ofWord : (ofWord word).nn.toNat = word.toNat % 0x100 := by
  have mask : ∀ n : Nat, n &&& 255 = n % 256 := fun n => Nat.and_two_pow_sub_one_eq_mod n 8
  simp [ofWord, mask]

@[simp] theorem nnn_ofWord : (ofWord word).nnn.toNat = word.toNat % 0x1000 := by
  have mask : ∀ n : Nat, n &&& 4095 = n % 4096 := fun n => Nat.and_two_pow_sub_one_eq_mod n 12
  simp [ofWord, mask]

end Opcode

namespace Instruction

/-- The operands of a decoded instruction fit the fields of a word. -/
theorem ofWord?_encodable {word : UInt16} {i : Instruction} (h : ofWord? word = some i) :
    i.Encodable := by
  unfold ofWord? ofOpcode? control? arithmetic? keySkip? transfer? at h
  split at h <;> (try split at h) <;> cases h <;> simp [Encodable, Nat.mod_lt]

/-- Only the word `00EE` is a return. -/
theorem ofWord?_subReturn_iff {word : UInt16} :
    ofWord? word = some .subReturn ↔ word.toNat = 0x00EE := by
  have bound := word.toNat_lt
  constructor
  · intro h
    unfold ofWord? ofOpcode? control? arithmetic? keySkip? transfer? at h
    split at h <;> (try split at h) <;> cases h
    simp only [Opcode.kind_ofWord, Opcode.nnn_ofWord] at *
    omega
  · intro h
    have kind : (Opcode.ofWord word).kind.toNat = 0 := by simp [h]
    have nnn : (Opcode.ofWord word).nnn.toNat = 0x0EE := by simp [h]
    simp [ofWord?, ofOpcode?, kind, control?, nnn]

/-- The words `2NNN` are the calls. -/
theorem ofWord?_call_iff {word : UInt16} :
    (∃ target, ofWord? word = some (.call target)) ↔ word.toNat / 0x1000 = 2 := by
  constructor
  · rintro ⟨target, h⟩
    unfold ofWord? ofOpcode? control? arithmetic? keySkip? transfer? at h
    split at h <;> (try split at h) <;> cases h
    simp only [Opcode.kind_ofWord] at *
    assumption
  · intro h
    have kind : (Opcode.ofWord word).kind.toNat = 2 := by simp [h]
    refine ⟨(Opcode.ofWord word).nnn, ?_⟩
    simp [ofWord?, ofOpcode?, kind]

/-! ## Decoding what was encoded -/

/-- The fields of a word of a kind and an address. -/
theorem fields_withAddress {kind : Nat} {address : UInt16} (hk : kind < 0x10)
    (small : address.toNat < 0x1000) :
    let op := Opcode.ofWord (withAddress kind address)
    op.kind.toNat = kind ∧ op.nnn = address := by
  have spelled : (withAddress kind address).toNat = kind * 0x1000 + address.toNat := by
    rw [withAddress, UInt16.toNat_ofNat']
    omega
  simp only [← UInt16.toNat_inj, Opcode.kind_ofWord, Opcode.nnn_ofWord, spelled]
  omega

/-- The fields of a word of a kind, a register and a byte. -/
theorem fields_withByte {kind : Nat} {x : UInt8} (byte : UInt8) (hk : kind < 0x10)
    (hx : x.toNat < 0x10) :
    let op := Opcode.ofWord (withByte kind x byte)
    op.kind.toNat = kind ∧ op.x = x ∧ op.nn = byte := by
  have bound := byte.toNat_lt
  have spelled : (withByte kind x byte).toNat = kind * 0x1000 + x.toNat * 0x100 + byte.toNat := by
    rw [withByte, UInt16.toNat_ofNat']
    omega
  simp only [← UInt8.toNat_inj, Opcode.kind_ofWord, Opcode.x_ofWord, Opcode.nn_ofWord, spelled]
  omega

/-- The fields of a word of four nibbles. -/
theorem fields_nibbles {kind : Nat} {x y : UInt8} (n : UInt8) (hk : kind < 0x10)
    (hx : x.toNat < 0x10) (hy : y.toNat < 0x10) (hn : n.toNat < 0x10) :
    let op := Opcode.ofWord (nibbles kind x.toNat y.toNat n.toNat)
    op.kind.toNat = kind ∧ op.x = x ∧ op.y = y ∧ op.n = n := by
  have spelled : (nibbles kind x.toNat y.toNat n.toNat).toNat =
      kind * 0x1000 + x.toNat * 0x100 + y.toNat * 0x10 + n.toNat := by
    rw [nibbles, UInt16.toNat_ofNat']
    omega
  simp only [← UInt8.toNat_inj, Opcode.kind_ofWord, Opcode.x_ofWord, Opcode.y_ofWord,
    Opcode.n_ofWord, spelled]
  omega

/-- The words `8XYN` stand for what their last nibble selects. -/
theorem ofWord?_arithmetic {x : UInt8} (y n : UInt8) (hx : x.toNat < 0x10)
    (hy : y.toNat < 0x10) (hn : n.toNat < 0x10) :
    ofWord? (nibbles 0x8 x.toNat y.toNat n.toNat) = arithmetic? x y n := by
  obtain ⟨kind, first, second, last⟩ := fields_nibbles n (by decide : 0x8 < 0x10) hx hy hn
  simp [ofWord?, ofOpcode?, kind, first, second, last]

/-- The words of kind `E` stand for what their last byte selects. -/
theorem ofWord?_keySkip {x : UInt8} (byte : UInt8) (hx : x.toNat < 0x10) :
    ofWord? (withByte 0xE x byte) = keySkip? x byte := by
  obtain ⟨kind, first, last⟩ := fields_withByte byte (by decide : 0xE < 0x10) hx
  simp [ofWord?, ofOpcode?, kind, first, last]

/-- The words of kind `F` stand for what their last byte selects. -/
theorem ofWord?_transfer {x : UInt8} (byte : UInt8) (hx : x.toNat < 0x10) :
    ofWord? (withByte 0xF x byte) = transfer? x byte := by
  obtain ⟨kind, first, last⟩ := fields_withByte byte (by decide : 0xF < 0x10) hx
  simp [ofWord?, ofOpcode?, kind, first, last]

/-- An instruction is read back from its word. -/
theorem ofWord?_encode (i : Instruction) (fits : i.Encodable) : ofWord? i.encode = some i := by
  cases i with
  | clearScreen | subReturn => decide
  | jump _ =>
    obtain ⟨kind, nnn⟩ := fields_withAddress (by decide : 0x1 < 0x10) fits
    simp [ofWord?, ofOpcode?, encode, kind, nnn]
  | call _ =>
    obtain ⟨kind, nnn⟩ := fields_withAddress (by decide : 0x2 < 0x10) fits
    simp [ofWord?, ofOpcode?, encode, kind, nnn]
  | skipIfEqualByte _ byte =>
    obtain ⟨kind, x, nn⟩ := fields_withByte byte (by decide : 0x3 < 0x10) fits
    simp [ofWord?, ofOpcode?, encode, kind, x, nn]
  | skipIfNotEqualByte _ byte =>
    obtain ⟨kind, x, nn⟩ := fields_withByte byte (by decide : 0x4 < 0x10) fits
    simp [ofWord?, ofOpcode?, encode, kind, x, nn]
  | skipIfEqual _ _ =>
    obtain ⟨kind, x, y, n⟩ := fields_nibbles 0x0 (by decide : 0x5 < 0x10) fits.1 fits.2 (by decide)
    simp only [UInt8.reduceToNat] at kind x y n
    simp [ofWord?, ofOpcode?, encode, kind, x, y, n]
  | loadByte _ byte =>
    obtain ⟨kind, x, nn⟩ := fields_withByte byte (by decide : 0x6 < 0x10) fits
    simp [ofWord?, ofOpcode?, encode, kind, x, nn]
  | addByte _ byte =>
    obtain ⟨kind, x, nn⟩ := fields_withByte byte (by decide : 0x7 < 0x10) fits
    simp [ofWord?, ofOpcode?, encode, kind, x, nn]
  | copy _ y => exact ofWord?_arithmetic y 0x0 fits.1 fits.2 (by decide)
  | or _ y => exact ofWord?_arithmetic y 0x1 fits.1 fits.2 (by decide)
  | and _ y => exact ofWord?_arithmetic y 0x2 fits.1 fits.2 (by decide)
  | xor _ y => exact ofWord?_arithmetic y 0x3 fits.1 fits.2 (by decide)
  | add _ y => exact ofWord?_arithmetic y 0x4 fits.1 fits.2 (by decide)
  | sub _ y => exact ofWord?_arithmetic y 0x5 fits.1 fits.2 (by decide)
  | shiftRight _ => exact ofWord?_arithmetic 0x0 0x6 fits (by decide) (by decide)
  | subReverse _ y => exact ofWord?_arithmetic y 0x7 fits.1 fits.2 (by decide)
  | shiftLeft _ => exact ofWord?_arithmetic 0x0 0xE fits (by decide) (by decide)
  | skipIfNotEqual _ _ =>
    obtain ⟨kind, x, y, n⟩ := fields_nibbles 0x0 (by decide : 0x9 < 0x10) fits.1 fits.2 (by decide)
    simp only [UInt8.reduceToNat] at kind x y n
    simp [ofWord?, ofOpcode?, encode, kind, x, y, n]
  | loadIndex _ =>
    obtain ⟨kind, nnn⟩ := fields_withAddress (by decide : 0xA < 0x10) fits
    simp [ofWord?, ofOpcode?, encode, kind, nnn]
  | jumpOffset _ =>
    obtain ⟨kind, nnn⟩ := fields_withAddress (by decide : 0xB < 0x10) fits
    simp [ofWord?, ofOpcode?, encode, kind, nnn]
  | random _ mask =>
    obtain ⟨kind, x, nn⟩ := fields_withByte mask (by decide : 0xC < 0x10) fits
    simp [ofWord?, ofOpcode?, encode, kind, x, nn]
  | draw _ _ rows =>
    obtain ⟨kind, x, y, n⟩ := fields_nibbles rows (by decide : 0xD < 0x10) fits.1 fits.2.1 fits.2.2
    simp [ofWord?, ofOpcode?, encode, kind, x, y, n]
  | skipIfKeyPressed _ | skipIfKeyNotPressed _ => exact ofWord?_keySkip _ fits
  | loadDelay _ | waitForKey _ | setDelay _ | setSound _ | addIndex _ | loadGlyph _
  | storeDigits _ | storeRegisters _ | loadRegisters _ => exact ofWord?_transfer _ fits

/-- The word of an instruction stands for no other one. -/
theorem eq_of_encode {i : Instruction} (j : Instruction) (decoded : ofWord? j.encode = some i)
    (fits : j.Encodable) : i = j :=
  Option.some.inj (decoded.symm.trans (ofWord?_encode j fits))

/-- The words in which a nibble is free are the shifts. -/
def isShift : Instruction → Bool
  | .shiftRight _ => true
  | .shiftLeft _ => true
  | _ => false

/-- A word that stands for an instruction, other than a shift, is that instruction's word. -/
theorem encode_of_ofWord? {word : UInt16} {i : Instruction} (decoded : ofWord? word = some i)
    (unfree : i.isShift = false) : i.encode = word := by
  have bound := word.toNat_lt
  unfold ofWord? ofOpcode? control? arithmetic? keySkip? transfer? at decoded
  split at decoded <;> (try split at decoded) <;> cases decoded <;>
    simp [encode, withByte, withAddress, nibbles, isShift, ← UInt16.toNat_inj,
      ← UInt8.toNat_inj] at * <;> omega

end Instruction
end Chip8
