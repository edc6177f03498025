import Chip8.Diagnostics
import Chip8.Proofs.Numerals
import Mathlib.Data.List.Basic

/-!
# Reading a dump

A reader of the log lines of a dump. It knows how the lines are laid out and nothing else: the
registers stand in the first line, the screen rows in the last ones, and what stands between are the
memory rows after their addresses, where a row that is not there is one of zeros. It gets back the
registers, the memory and the screen as they were, so two dumps are the same lines only if they are
dumps of the same.
-/
namespace Chip8

structure Dump where
  registers : Registers
  memory : Memory
  screen : Screen

namespace Dump

/-! ## The reader -/

def tokens (line : Log.Line) : List (List Char) :=
  line.text.toList.splitOn ' '

def byteOf (digits : List Char) : UInt8 :=
  (Numeral.value 16 digits).toUInt8

/-- The values of the registers, each behind a letter, a digit and a sign. -/
def registerValues (line : Log.Line) : List UInt8 :=
  (tokens line).map fun token => byteOf (token.drop 3)

/-- The address of a memory row, which ends in a colon, and its bytes. -/
def rowOf (line : Log.Line) : Nat × List UInt8 :=
  (Numeral.value 16 ((tokens line).headD []).dropLast, (tokens line).tail.map byteOf)

/-- The byte at an address, by the row of 32 that it lies in; rows that are not there are zeros. -/
def byteAt (rows : List (Nat × List UInt8)) (address : Nat) : UInt8 :=
  ((rows.lookup (address / 32 * 32)).getD []).getD (address % 32) 0

/-- The pixels of a screen row, behind a number of two places and a blank. -/
def pixelsOf (line : Log.Line) : List Bool :=
  (line.text.toList.drop 3).map (· == '#')

/-- The memory rows of a dump, which stand between the registers and the screen. -/
def memoryRows (lines : List Log.Line) : List (Nat × List UInt8) :=
  (lines.tail.take (lines.tail.length - Screen.height)).map rowOf

def screenRows (lines : List Log.Line) : List (List Bool) :=
  (lines.tail.drop (lines.tail.length - Screen.height)).map pixelsOf

/-- The registers, the memory and the screen of a dump, read from its lines. -/
def read (lines : List Log.Line) : Dump where
  registers := ⟨Vector.ofFn fun x => (lines.head?.elim [] registerValues).getD x 0⟩
  memory := ⟨Vector.ofFn fun address => byteAt (memoryRows lines) address⟩
  screen := ⟨Vector.ofFn fun cell =>
    ((screenRows lines).getD (cell / Screen.width) []).getD (cell % Screen.width) false⟩

/-! ## Lines and tokens -/

def line (text : String) : Log.Line := ⟨.debug, text⟩

theorem byteOf_padded (byte : UInt8) (width : Nat) :
    byteOf (Numeral.padded 16 width '0' byte.toNat) = byte := by
  rw [byteOf, Numeral.value_padded (by decide) (Nat.le_refl 16)]
  exact UInt8.ofNat_toNat

theorem tokens_intercalate {parts : List String} (some : parts ≠ [])
    (whole : ∀ part ∈ parts, ' ' ∉ part.toList) :
    tokens (line (String.intercalate " " parts)) = parts.map String.toList := by
  have text : (String.intercalate " " parts).toList = [' '].intercalate (parts.map String.toList) :=
    String.toList_intercalate
  rw [tokens, line, text]
  exact List.splitOn_intercalate ' ' (List.forall_mem_map.mpr whole) (by simpa using some)

theorem blank_not_mem_hex (width n : Nat) : ' ' ∉ (Numeral.hex width n).toList := by
  rw [Numeral.hex, String.toList_ofList]
  exact Numeral.blank_not_mem_padded (by decide) width n

/-! ## Registers -/

def registerText (entry : UInt8 × Nat) : String :=
  "V" ++ Numeral.hexUpper 1 entry.2 ++ "=" ++ Numeral.hex 2 entry.1.toNat

theorem registersLine_eq (registers : Registers) : Machine.registersLine registers =
    String.intercalate " " (registers.toList.zipIdx.map registerText) := rfl

theorem toList_registerText {entry : UInt8 × Nat} (small : entry.2 < 16) :
    (registerText entry).toList =
      'V' :: Numeral.nibble entry.2 :: '=' :: Numeral.padded 16 2 '0' entry.1.toNat := by
  simp only [registerText, String.toList_append, Numeral.hexUpper, Numeral.hex,
    String.toList_ofList, Numeral.padded_one small, List.map_singleton, Numeral.toUpper_digitChar]
  rfl

theorem blank_not_mem_registerText {entry : UInt8 × Nat} (small : entry.2 < 16) :
    ' ' ∉ (registerText entry).toList := by
  have name : ' ' ≠ Numeral.nibble entry.2 := Numeral.blank_ne_nibble entry.2
  have digits : ' ' ∉ Numeral.padded 16 2 '0' entry.1.toNat :=
    Numeral.blank_not_mem_padded (by decide) 2 _
  rw [toList_registerText small]
  simp [name, digits]

theorem registerValues_registersLine (registers : Registers) :
    registerValues (line (Machine.registersLine registers)) = registers.toList := by
  have length : registers.toList.length = 16 := registers.cells.length_toList
  have small : ∀ entry ∈ registers.toList.zipIdx, entry.2 < 16 := fun entry member => by
    have inside := (List.mem_zipIdx member).2.1
    omega
  have some : registers.toList.zipIdx.map registerText ≠ [] := by
    simp [← List.length_pos_iff, length]
  have cut := tokens_intercalate some (List.forall_mem_map.mpr fun entry member =>
    blank_not_mem_registerText (small entry member))
  rw [registerValues, registersLine_eq, cut, List.map_map, List.map_map]
  calc
    _ = registers.toList.zipIdx.map Prod.fst := List.map_congr_left fun entry member => by
      simp only [Function.comp_apply, toList_registerText (small entry member),
        List.drop_succ_cons, List.drop_zero, byteOf_padded]
    _ = registers.toList := List.zipIdx_map_fst 0 _

/-! ## Memory -/

/-- A memory row is a line of tokens too, the first of which is its address. -/
theorem memoryLine_eq (memory : Memory) (row : Fin 128) :
    Machine.memoryLine memory row = String.intercalate " "
      ((Numeral.hex 3 (row.val * 32) ++ ":") ::
        (Machine.memoryRow memory row).map fun byte => Numeral.hex 2 byte.toNat) := by
  have some : (Machine.memoryRow memory row).map (fun byte => (Numeral.hex 2 byte.toNat).toList) ≠
      [] := by
    simp [Machine.memoryRow]
  apply String.toList_injective
  simp only [Machine.memoryLine, String.toList_append, String.toList_intercalate, List.map_cons,
    List.map_map, Function.comp_def, List.intercalate_cons_of_ne_nil some, List.append_assoc]
  rfl

theorem tokens_memoryLine (memory : Memory) (row : Fin 128) :
    tokens (line (Machine.memoryLine memory row)) =
      (Numeral.padded 16 3 '0' (row.val * 32) ++ [':']) ::
        (Machine.memoryRow memory row).map fun byte => Numeral.padded 16 2 '0' byte.toNat := by
  have colon : ' ' ∉ (Numeral.hex 3 (row.val * 32) ++ ":").toList := by
    rw [String.toList_append]
    exact List.not_mem_append (blank_not_mem_hex _ _) (by decide)
  have bytes : ∀ part ∈ (Machine.memoryRow memory row).map fun byte => Numeral.hex 2 byte.toNat,
      ' ' ∉ part.toList :=
    List.forall_mem_map.mpr fun byte _ => blank_not_mem_hex 2 byte.toNat
  rw [memoryLine_eq, tokens_intercalate (List.cons_ne_nil _ _)
    (List.forall_mem_cons.mpr ⟨colon, bytes⟩)]
  simp only [List.map_cons, List.map_map, Function.comp_def, String.toList_append, Numeral.hex,
    String.toList_ofList]
  rfl

/-- The bytes of a memory row are printed behind its address. -/
theorem rowOf_memoryLine (memory : Memory) (row : Fin 128) :
    rowOf (line (Machine.memoryLine memory row)) =
      (row.val * 32, Machine.memoryRow memory row) := by
  rw [rowOf, tokens_memoryLine, List.headD_cons, List.dropLast_concat, List.tail_cons,
    List.map_map, Numeral.value_padded (by decide) (Nat.le_refl 16)]
  simp only [Function.comp_def, byteOf_padded, List.map_id']

/-- A row is looked up by its address, if it is there. -/
theorem lookup_rows (memory : Memory) (rows : List (Fin 128)) (row : Fin 128) :
    (row ∈ rows → (rows.map fun row => (row.val * 32, Machine.memoryRow memory row)).lookup
      (row.val * 32) = some (Machine.memoryRow memory row)) ∧
    (row ∉ rows → (rows.map fun row => (row.val * 32, Machine.memoryRow memory row)).lookup
      (row.val * 32) = none) := by
  induction rows with
  | nil => exact ⟨nofun, fun _ => rfl⟩
  | cons first rest ih =>
    rw [List.map_cons, List.lookup_cons]
    by_cases same : row = first
    · subst same
      simp
    · have differ : (row.val * 32 == first.val * 32) = false := by
        rw [beq_eq_false_iff_ne]
        intro equal
        exact same (Fin.ext (by omega))
      simpa [differ, same] using ih

theorem getElem?_memoryRow (memory : Memory) {address : Nat} (inside : address < Memory.size)
    (row : Fin 128) (within : row.val = address / 32) :
    (Machine.memoryRow memory row)[address % 32]? = some memory.bytes[address] := by
  have place : row.val * 32 + address % 32 = address := by omega
  have small : address % 32 < 32 := Nat.mod_lt _ (by decide)
  rw [Machine.memoryRow, List.getElem?_ofFn, dif_pos small]
  simp only [place]
  rfl

/-- What the printed rows say of an address is the byte there, also where its row is left out. -/
theorem byteAt_memoryLines (memory : Memory) {address : Nat} (inside : address < Memory.size) :
    byteAt ((Machine.memoryLines memory).map fun text => rowOf (line text)) address =
      memory.bytes[address] := by
  have rows : ((Machine.memoryLines memory).map fun text => rowOf (line text)) =
      ((List.finRange 128).filter fun row => !(Machine.memoryRow memory row).all (· == 0)).map
        fun row => (row.val * 32, Machine.memoryRow memory row) := by
    simp only [Machine.memoryLines, List.map_map, Function.comp_def, rowOf_memoryLine]
  obtain ⟨row, within⟩ : ∃ row : Fin 128, row.val = address / 32 :=
    ⟨⟨address / 32, by simp only [Memory.size] at inside; omega⟩, rfl⟩
  have printed := getElem?_memoryRow memory inside row within
  rw [byteAt, rows, ← within]
  by_cases left : (Machine.memoryRow memory row).all (· == 0) = true
  case neg =>
    rw [(lookup_rows memory _ row).1 (by simpa using left), Option.getD_some,
      List.getD_eq_getElem?_getD, printed, Option.getD_some]
  case pos =>
    have zero := List.all_eq_true.mp left _ (List.mem_of_getElem? printed)
    rw [(lookup_rows memory _ row).2 (by simpa using left)]
    exact (beq_iff_eq.mp zero).symm

/-! ## Screen -/

theorem pixelsOf_screenLine (screen : Screen) {y : Nat} (small : y < Screen.height) :
    pixelsOf (line (Numeral.column 2 y ++ " " ++ screen.rowText y)) = screen.row y := by
  have number : ∀ y < 32, (Numeral.column 2 y ++ " ").toList.length = 3 := by decide
  rw [pixelsOf, line, String.toList_append, List.drop_left' (number y small), Screen.rowText,
    String.toList_ofList, List.map_map]
  exact (List.map_congr_left fun lit _ => by cases lit <;> rfl).trans (List.map_id _)

theorem cellAt_place (cell : Screen.Cell) :
    Screen.cellAt (cell % Screen.width) (cell / Screen.width) = cell := by
  apply Fin.ext
  have inside := cell.isLt
  simp only [Screen.cellAt, Screen.width, Screen.height] at inside ⊢
  omega

theorem pixel_rows (screen : Screen) (cell : Screen.Cell) :
    (((List.range Screen.height).map screen.row).getD (cell / Screen.width) []).getD
      (cell % Screen.width) false = screen.cells.get cell := by
  have row : cell / Screen.width < Screen.height := by
    have inside := cell.isLt
    simp only [Screen.width, Screen.height] at inside ⊢
    omega
  have column : cell % Screen.width < Screen.width := Nat.mod_lt _ (by decide)
  simp only [List.getD_eq_getElem?_getD, List.getElem?_map, List.getElem?_range row,
    Option.map_some, Option.getD_some, Screen.row, List.getElem?_range column, Screen.isLit,
    cellAt_place]

/-! ## The whole dump -/

theorem dumpLines_eq (machine : Machine) :
    machine.dumpLines = line (Machine.registersLine machine.registers) ::
      (((Machine.memoryLines machine.memory).map line) ++
        (Machine.screenLines machine.screen).map line) := by
  simp only [Machine.dumpLines, DumpPart.all, List.flatMap_cons, List.flatMap_nil,
    Machine.dumpText, List.append_nil, List.map_append, List.cons_append, List.nil_append,
    List.map_cons]
  rfl

theorem rows_dumpLines (machine : Machine) :
    memoryRows machine.dumpLines =
        (Machine.memoryLines machine.memory).map (fun text => rowOf (line text)) ∧
      screenRows machine.dumpLines = (List.range Screen.height).map machine.screen.row := by
  have rows : ((Machine.screenLines machine.screen).map line).length = Screen.height := by
    simp [Machine.screenLines]
  have above : (((Machine.memoryLines machine.memory).map line) ++
      (Machine.screenLines machine.screen).map line).length - Screen.height =
        ((Machine.memoryLines machine.memory).map line).length := by
    rw [List.length_append, rows, Nat.add_sub_cancel]
  rw [memoryRows, screenRows, dumpLines_eq, List.tail_cons, above, List.take_left, List.drop_left,
    Machine.screenLines]
  simp only [List.map_map, Function.comp_def, true_and]
  refine List.map_congr_left fun y member => ?_
  exact pixelsOf_screenLine machine.screen (List.mem_range.mp member)

theorem read_registers (machine : Machine) :
    (read machine.dumpLines).registers = machine.registers := by
  have values : machine.dumpLines.head?.elim [] registerValues = machine.registers.toList := by
    rw [dumpLines_eq, List.head?_cons, Option.elim_some, registerValues_registersLine]
  refine congrArg Registers.mk (Vector.ext fun x inside => ?_)
  rw [Vector.getElem_ofFn, values, List.getD_eq_getElem?_getD, Registers.toList,
    Vector.getElem?_toList, Vector.getElem?_eq_getElem inside, Option.getD_some]

theorem read_memory (machine : Machine) : (read machine.dumpLines).memory = machine.memory := by
  refine congrArg Memory.mk (Vector.ext fun address inside => ?_)
  rw [Vector.getElem_ofFn, (rows_dumpLines machine).1, byteAt_memoryLines machine.memory inside]

theorem read_screen (machine : Machine) : (read machine.dumpLines).screen = machine.screen := by
  refine congrArg Screen.mk (Vector.ext fun cell inside => ?_)
  rw [Vector.getElem_ofFn, (rows_dumpLines machine).2]
  exact pixel_rows machine.screen ⟨cell, inside⟩

/-- The reader gets back what was dumped. -/
theorem read_dumpLines (machine : Machine) :
    read machine.dumpLines = ⟨machine.registers, machine.memory, machine.screen⟩ := by
  rw [← read_registers machine, ← read_memory machine, ← read_screen machine]

end Dump

/-- A dump shows all of the registers, the memory and the screen: two machines leave the same lines
exactly if they agree in these, a reader gets them back from the lines, and for each address it
finds the byte in the row that was printed with its address, or zero if no such row was. -/
theorem Machine.dump_lossless (a b : Machine) :
    (a.dumpLines = b.dumpLines ↔
      a.registers = b.registers ∧ a.memory = b.memory ∧ a.screen = b.screen) ∧
    Dump.read a.dumpLines = ⟨a.registers, a.memory, a.screen⟩ ∧
    ∀ address : Fin Memory.size,
      Dump.byteAt (Dump.memoryRows a.dumpLines) address = a.memory.bytes[address] := by
  refine ⟨⟨fun same => ?reads, fun ⟨registers, memory, screen⟩ => ?writes⟩,
    Dump.read_dumpLines a, fun address => ?bytes⟩
  case reads =>
    have equal := (Dump.read_dumpLines a).symm.trans (same ▸ Dump.read_dumpLines b)
    simpa using equal
  case writes => rw [Dump.dumpLines_eq, Dump.dumpLines_eq, registers, memory, screen]
  case bytes =>
    rw [(Dump.rows_dumpLines a).1, Dump.byteAt_memoryLines a.memory address.isLt]
    rfl

end Chip8
