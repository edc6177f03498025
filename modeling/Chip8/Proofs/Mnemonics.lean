import Chip8.Event
import Chip8.Proofs.Numerals
import Mathlib.Data.List.Basic

/-!
# Reading assembly

A reader of assembly text and of the log lines that end in it. Commas do not count and blanks stand
between words; the first word is the operation, and what every other one is shows in how it begins
and, for bytes and addresses, in how long it is. The reader gets every instruction back from its
text, also with operands that no word has room for, so two instructions are written alike only if
they are the same.
-/
namespace Chip8

/-! ## The reader -/

def Operand.ofText : List Char → Operand
  | 'V' :: number => .register (Numeral.value 16 number).toUInt8
  | '0' :: 'x' :: number =>
    if number.length = 2 then .byte (Numeral.value 16 number).toUInt8
    else .address (Numeral.value 16 number).toUInt16
  | ['I'] => .index
  | ['[', 'I', ']'] => .atIndex
  | ['D', 'T'] => .delay
  | ['S', 'T'] => .sound
  | ['K'] => .key
  | ['F'] => .glyph
  | ['B'] => .digits
  | number => .rows (Numeral.value 10 number).toUInt8

namespace Assembly

/-- What stands between the blanks of a text, without the commas. -/
def words (text : String) : List (List Char) :=
  (text.toList.filter (· != ',')).splitOn ' '

def ofWords : List (List Char) → Assembly
  | [] => ⟨"", []⟩
  | operation :: operands => ⟨String.ofList operation, operands.map Operand.ofText⟩

end Assembly

namespace Instruction

def ofAssembly? (line : Assembly) : Option Instruction :=
  match line.operation, line.operands with
  | "CLS", [] => some .clearScreen
  | "RET", [] => some .subReturn
  | "JP", [.address target] => some (.jump target)
  | "JP", [.register _, .address base] => some (.jumpOffset base)
  | "CALL", [.address target] => some (.call target)
  | "SE", [.register x, .byte byte] => some (.skipIfEqualByte x byte)
  | "SE", [.register x, .register y] => some (.skipIfEqual x y)
  | "SNE", [.register x, .byte byte] => some (.skipIfNotEqualByte x byte)
  | "SNE", [.register x, .register y] => some (.skipIfNotEqual x y)
  | "SKP", [.register x] => some (.skipIfKeyPressed x)
  | "SKNP", [.register x] => some (.skipIfKeyNotPressed x)
  | "LD", [.register x, .byte byte] => some (.loadByte x byte)
  | "LD", [.register x, .register y] => some (.copy x y)
  | "LD", [.register x, .delay] => some (.loadDelay x)
  | "LD", [.register x, .key] => some (.waitForKey x)
  | "LD", [.register x, .atIndex] => some (.loadRegisters x)
  | "LD", [.index, .address address] => some (.loadIndex address)
  | "LD", [.delay, .register x] => some (.setDelay x)
  | "LD", [.sound, .register x] => some (.setSound x)
  | "LD", [.glyph, .register x] => some (.loadGlyph x)
  | "LD", [.digits, .register x] => some (.storeDigits x)
  | "LD", [.atIndex, .register x] => some (.storeRegisters x)
  | "ADD", [.register x, .byte byte] => some (.addByte x byte)
  | "ADD", [.register x, .register y] => some (.add x y)
  | "ADD", [.index, .register x] => some (.addIndex x)
  | "OR", [.register x, .register y] => some (.or x y)
  | "AND", [.register x, .register y] => some (.and x y)
  | "XOR", [.register x, .register y] => some (.xor x y)
  | "SUB", [.register x, .register y] => some (.sub x y)
  | "SUBN", [.register x, .register y] => some (.subReverse x y)
  | "SHR", [.register x] => some (.shiftRight x)
  | "SHL", [.register x] => some (.shiftLeft x)
  | "RND", [.register x, .byte mask] => some (.random x mask)
  | "DRW", [.register x, .register y, .rows rows] => some (.draw x y rows)
  | _, _ => none

def ofMnemonic? (text : String) : Option Instruction :=
  ofAssembly? (Assembly.ofWords (Assembly.words text))

end Instruction

/-- The event that logs a fetched instruction in this line: the address between a sign and a colon,
the word, and the instruction. -/
def Event.ofFetchedLine? (line : Log.Line) : Option Event :=
  match Assembly.words line.text with
  | place :: word :: rest =>
    (Instruction.ofAssembly? (Assembly.ofWords rest)).map
      (.fetched (Numeral.value 16 (place.drop 2).dropLast).toUInt16
        (Numeral.value 16 word).toUInt16)
  | _ => none

/-! ## Words of a line -/

namespace Assembly

/-- Characters that stay together when a line is read. -/
def IsWord (chars : List Char) : Prop :=
  ∀ char ∈ chars, char ≠ ' ' ∧ char ≠ ','

instance (chars : List Char) : Decidable (IsWord chars) :=
  List.decidableBAll _ chars

theorem IsWord.filter {chars : List Char} (word : IsWord chars) :
    chars.filter (· != ',') = chars :=
  List.filter_eq_self.mpr fun char member => bne_iff_ne.mpr (word char member).2

theorem IsWord.append {first second : String} (one : IsWord first.toList)
    (two : IsWord second.toList) : IsWord (first ++ second).toList := by
  rw [String.toList_append]
  exact List.forall_mem_append.mpr ⟨one, two⟩

/-- Digits stay together, with their letters in either case. -/
theorem isWord_of_digits {b : Nat} (base : b ≤ 16) {digits : List Char}
    (all : ∀ digit ∈ digits, ∃ d < b, digit = Nat.digitChar d) :
    IsWord digits ∧ IsWord (digits.map Char.toUpper) := by
  have apart : ∀ d < 16, (Nat.digitChar d ≠ ' ' ∧ Nat.digitChar d ≠ ',') ∧
      (Nat.digitChar d).toUpper ≠ ' ' ∧ (Nat.digitChar d).toUpper ≠ ',' := by decide
  refine ⟨fun digit member => ?_, List.forall_mem_map.mpr fun digit member => ?_⟩
  all_goals obtain ⟨d, small, rfl⟩ := all digit member
  · exact (apart d (by omega)).1
  · exact (apart d (by omega)).2

theorem isWord_hex (width n : Nat) : IsWord (Numeral.hex width n).toList := by
  rw [Numeral.hex, String.toList_ofList]
  exact (isWord_of_digits (Nat.le_refl 16) fun _ => Numeral.mem_padded (by decide)).1

theorem isWord_hexUpper (width n : Nat) : IsWord (Numeral.hexUpper width n).toList := by
  rw [Numeral.toList_hexUpper]
  exact (isWord_of_digits (Nat.le_refl 16) fun _ => Numeral.mem_padded (by decide)).2

theorem isWord_decimal (n : Nat) : IsWord (Numeral.decimal n).toList := by
  rw [Numeral.decimal, String.toList_ofList]
  exact (isWord_of_digits (by decide) fun _ => Numeral.mem_toDigits (by decide)).1

theorem words_of_isWord {text : String} (word : IsWord text.toList) :
    words text = [text.toList] := by
  have whole : ∀ chars ∈ [text.toList], ' ' ∉ chars := by
    simpa using fun blank => (word ' ' blank).1 rfl
  have alone : [' '].intercalate [text.toList] = text.toList := List.intercalate_singleton
  rw [words, word.filter]
  exact (congrArg _ alone).symm.trans (List.splitOn_intercalate ' ' whole (by simp))

/-- The first word of a line, in front of a blank and perhaps a comma. -/
theorem words_append {first separator : String} (word : IsWord first.toList)
    (blank : separator.toList.filter (· != ',') = [' ']) (rest : String) :
    words (first ++ separator ++ rest) = first.toList :: words rest := by
  have unbroken : ∀ char ∈ first.toList, (char == ' ') = false := fun char member =>
    beq_eq_false_iff_ne.mpr (word char member).1
  rw [words, String.toList_append, String.toList_append, List.filter_append, List.filter_append,
    word.filter, blank, List.append_assoc, List.singleton_append]
  exact List.splitOnP_append_cons_of_forall_mem unbroken ' ' rfl _

theorem words_intercalate {first : String} {rest : List String} (word : IsWord first.toList)
    (others : ∀ part ∈ rest, IsWord part.toList) :
    words (String.intercalate ", " (first :: rest)) = (first :: rest).map String.toList := by
  induction rest generalizing first with
  | nil =>
    rw [String.intercalate_singleton]
    exact words_of_isWord word
  | cons second rest ih =>
    obtain ⟨next, later⟩ := List.forall_mem_cons.mp others
    rw [String.intercalate_cons_cons, words_append word (by decide), ih next later]
    rfl

end Assembly

/-! ## Operands -/

namespace Operand

open Assembly

theorem isWord_text (operand : Operand) : IsWord operand.text.toList := by
  have sign : ∀ text ∈ ["V", "0x"], IsWord text.toList := by decide
  cases operand with
  | register x => exact (sign "V" (by decide)).append (isWord_hexUpper 1 x.toNat)
  | byte value => exact (sign "0x" (by decide)).append (isWord_hexUpper 2 value.toNat)
  | address value => exact (sign "0x" (by decide)).append (isWord_hexUpper 3 value.toNat)
  | rows count => exact isWord_decimal count.toNat
  | index | atIndex | delay | sound | key | glyph | digits => decide

/-- A number is nothing else: every other operand has a character that is no decimal digit. -/
theorem ofText_of_digits {number : List Char} (digits : ∀ char ∈ number, char.isDigit = true) :
    ofText number = .rows (Numeral.value 10 number).toUInt8 := by
  unfold ofText
  split
  case h_10 => rfl
  all_goals simp at digits

theorem ofText_text (operand : Operand) : ofText operand.text.toList = operand := by
  cases operand with
  | register x =>
    have spelled : (register x).text.toList = 'V' :: (Numeral.hexUpper 1 x.toNat).toList :=
      String.toList_append
    rw [spelled, ofText, Numeral.value_hexUpper]
    exact congrArg _ UInt8.ofNat_toNat
  | byte value =>
    have spelled : (byte value).text.toList =
        '0' :: 'x' :: (Numeral.hexUpper 2 value.toNat).toList := String.toList_append
    rw [spelled, ofText, if_pos (Numeral.length_hexUpper_two value.toNat_lt),
      Numeral.value_hexUpper]
    exact congrArg _ UInt8.ofNat_toNat
  | address value =>
    have spelled : (address value).text.toList =
        '0' :: 'x' :: (Numeral.hexUpper 3 value.toNat).toList := String.toList_append
    have long := Numeral.le_length_hexUpper 3 value.toNat
    rw [spelled, ofText, if_neg (by omega), Numeral.value_hexUpper]
    exact congrArg _ UInt16.ofNat_toNat
  | rows count =>
    have spelled : (rows count).text.toList = Nat.toDigits 10 count.toNat := String.toList_ofList
    rw [spelled, ofText_of_digits fun char member =>
      Nat.isDigit_of_mem_toDigits (by decide) (by decide) member,
      Numeral.value_toDigits (by decide) (by decide)]
    exact congrArg _ UInt8.ofNat_toNat
  | index | atIndex | delay | sound | key | glyph | digits => rfl

end Operand

/-! ## Lines -/

namespace Assembly

theorem words_text {line : Assembly} (word : IsWord line.operation.toList) :
    words line.text =
      line.operation.toList :: line.operands.map fun operand => operand.text.toList := by
  obtain ⟨operation, operands⟩ := line
  cases operands with
  | nil => exact words_of_isWord word
  | cons first rest =>
    have parts : ∀ part ∈ rest.map Operand.text, IsWord part.toList :=
      List.forall_mem_map.mpr fun operand _ => operand.isWord_text
    rw [text, words_append word (by decide), List.map_cons,
      words_intercalate first.isWord_text parts, List.map_cons, List.map_map]
    rfl

/-- A line comes back from its text if its operation is one word. -/
theorem ofWords_words_text {line : Assembly} (word : IsWord line.operation.toList) :
    ofWords (words line.text) = line := by
  rw [words_text word, ofWords, String.ofList_toList, List.map_map]
  simp only [Function.comp_def, Operand.ofText_text, List.map_id']

end Assembly

namespace Instruction

theorem isWord_operation (i : Instruction) : Assembly.IsWord i.assembly.operation.toList := by
  cases i <;> (dsimp only [assembly]; decide)

theorem ofAssembly?_assembly (i : Instruction) : ofAssembly? i.assembly = some i := by
  cases i <;> rfl

theorem ofAssembly?_words (i : Instruction) :
    ofAssembly? (Assembly.ofWords (Assembly.words i.mnemonic)) = some i := by
  rw [mnemonic, Assembly.ofWords_words_text i.isWord_operation, ofAssembly?_assembly]

theorem ofMnemonic?_mnemonic (i : Instruction) : ofMnemonic? i.mnemonic = some i := by
  rw [ofMnemonic?, ofAssembly?_words]

end Instruction

namespace Event

theorem fetchedLine_eq (address word : UInt16) (i : Instruction) :
    (fetched address word i).line? =
      some ⟨.trace, ("0x" ++ Numeral.hex 3 address.toNat ++ ":") ++ " " ++
        (Numeral.hex 4 word.toNat ++ " " ++ i.mnemonic)⟩ := by
  have colon : (": " : String) = ":" ++ " " := by decide
  simp only [line?, colon, String.append_assoc]

theorem ofFetchedLine?_line (address word : UInt16) (i : Instruction) :
    (fetched address word i).line?.bind ofFetchedLine? = some (fetched address word i) := by
  have place : Assembly.IsWord ("0x" ++ Numeral.hex 3 address.toNat ++ ":").toList :=
    Assembly.IsWord.append (Assembly.IsWord.append (by decide) (Assembly.isWord_hex _ _))
      (by decide)
  have spelled : ("0x" ++ Numeral.hex 3 address.toNat ++ ":").toList =
      '0' :: 'x' :: (Numeral.padded 16 3 '0' address.toNat ++ [':']) := by
    simp only [String.toList_append, Numeral.hex, String.toList_ofList]
    rfl
  have number : (Numeral.hex 4 word.toNat).toList = Numeral.padded 16 4 '0' word.toNat :=
    String.toList_ofList
  rw [fetchedLine_eq, Option.bind_some, ofFetchedLine?, Assembly.words_append place (by decide),
    Assembly.words_append (Assembly.isWord_hex 4 word.toNat) (by decide), spelled, number]
  simp only [Instruction.ofAssembly?_words, Option.map_some, List.drop_succ_cons, List.drop_zero,
    List.dropLast_concat, Numeral.value_padded (by decide : 1 < 16) (Nat.le_refl 16),
    Nat.toUInt16_eq, UInt16.ofNat_toNat]

end Event

namespace Instruction

/-- Two instructions have the same text only if they are the same, whatever their operands are: a
reader gets each of them back. So does a reader of the line that logs an instruction, which tells
where it was fetched and as what word besides. -/
theorem mnemonics_unambiguous (i j : Instruction) :
    (i.mnemonic = j.mnemonic ↔ i = j) ∧ ofMnemonic? i.mnemonic = some i ∧
    ∀ address word place other,
      (Event.fetched address word i).line? = (Event.fetched place other j).line? ↔
        address = place ∧ word = other ∧ i = j := by
  refine ⟨⟨fun same => ?texts, congrArg mnemonic⟩, ofMnemonic?_mnemonic i,
    fun address word place other => ⟨fun same => ?lines, ?_⟩⟩
  case texts =>
    have read := ofMnemonic?_mnemonic i
    rw [same, ofMnemonic?_mnemonic] at read
    exact (Option.some.inj read).symm
  case lines =>
    have read := Event.ofFetchedLine?_line address word i
    rw [same, Event.ofFetchedLine?_line] at read
    cases read
    exact ⟨rfl, rfl, rfl⟩
  · rintro ⟨rfl, rfl, rfl⟩
    rfl

end Instruction
end Chip8
