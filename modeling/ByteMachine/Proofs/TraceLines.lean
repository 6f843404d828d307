import ByteMachine.Interface.TraceLine
import ByteMachine.Proofs.Cycle

/-!
# Reading trace lines

A trace line tells everything about the view it shows. It consists of words with a blank
between two of them, so it comes apart at its blanks whatever the words are; the number of a
hexadecimal numeral does not depend on how far it is filled with zeros; and the word of a cell
that does not exist is no numeral. The line is read back by `Machine.Snapshot.ofLine`.

The three cells in the view are those that a fetch looks at. So what the next cycle does, as
far as fetching goes, is told by their words and the program counter alone. At the end of the
addresses a wrapping build shows cells from the beginning of memory, but a fetch that gets so far
misses a cell before it looks at them.
-/

set_option autoImplicit false

namespace ByteMachine

/-! ## Printable texts -/

/-- A text of printable ASCII characters. -/
def Printable (text : String) : Prop :=
  ∀ char ∈ text.toList, 32 ≤ char.toNat ∧ char.toNat < 127

namespace Printable

instance (text : String) : Decidable (Printable text) :=
  List.decidableBAll (fun char : Char => 32 ≤ char.toNat ∧ char.toNat < 127) text.toList

/-- Two printable texts make a printable one. -/
theorem append {text other : String} (h : Printable text) (hother : Printable other) :
    Printable (text ++ other) := by
  intro char hchar
  rw [String.toList_append, List.mem_append] at hchar
  exact hchar.elim (h char) (hother char)

/-- Printable texts make a printable one. -/
theorem join {texts : List String} (h : ∀ text ∈ texts, Printable text) :
    Printable (String.join texts) := by
  induction texts with
  | nil => decide
  | cons text texts ih =>
    rw [List.forall_mem_cons] at h
    rw [String.join_cons]
    exact h.1.append (ih h.2)

/-- Each character of a printable text is one byte. -/
theorem utf8_eq {text : String} (h : Printable text) :
    utf8 text = text.toList.map fun char => UInt8.ofNat char.toNat := by
  have hbyte : ∀ char ∈ text.toList, String.utf8EncodeChar char = [UInt8.ofNat char.toNat] := by
    intro char hchar
    have hlt := (h char hchar).2
    rw [String.utf8EncodeChar, if_pos (by simpa using (by omega : char.toNat ≤ 127))]
    rfl
  rw [utf8, List.map_eq_flatMap, List.flatMap_def, List.flatMap_def, List.map_congr_left hbyte]

/-- A printable text has as many bytes as characters. -/
theorem length_utf8 {text : String} (h : Printable text) : (utf8 text).length = text.length := by
  rw [h.utf8_eq, List.length_map, String.length_toList]

/-- There is no line feed among the bytes of a printable text. -/
theorem newline_notMem_utf8 {text : String} (h : Printable text) : 10 ∉ utf8 text := by
  rw [h.utf8_eq, List.mem_map]
  rintro ⟨char, hchar, hnewline⟩
  have hrange := h char hchar
  have hcode : char.toNat % 256 = 10 := by simpa using congrArg UInt8.toNat hnewline
  omega

end Printable

/-! ## Hexadecimal numerals -/

namespace Numeral

/-- The upper-case hexadecimal digits, each at the place of its number. -/
def upperDigits : List Char :=
  "0123456789ABCDEF".toList

/-- The number that upper-case hexadecimal digits stand for. -/
def upperValue (digits : List Char) : Nat :=
  digits.foldl (fun value digit => 16 * value + upperDigits.idxOf digit) 0

/-- The upper-case digit of a number below 16 is found at the place of that number. -/
theorem upperDigit {digit : Nat} (h : digit < 16) :
    digit.digitChar.toUpper ∈ upperDigits ∧ upperDigits.idxOf digit.digitChar.toUpper = digit := by
  have hall : ∀ digit < 16, digit.digitChar.toUpper ∈ upperDigits ∧
      upperDigits.idxOf digit.digitChar.toUpper = digit := by
    decide
  exact hall digit h

/-- The upper-case digits of a number stand for it. -/
theorem upperValue_toDigits (n : Nat) : upperValue ((Nat.toDigits 16 n).map Char.toUpper) = n := by
  induction n using Nat.strongRecOn with
  | ind n ih =>
    rw [Nat.toDigits_eq_if (by omega)]
    split
    · next hlt =>
      show 16 * 0 + upperDigits.idxOf n.digitChar.toUpper = n
      rw [(upperDigit hlt).2, Nat.mul_zero, Nat.zero_add]
    · next hge =>
      -- the last digit is the remainder, and the others are the numeral of the quotient
      have hquotient := ih (n / 16) (by omega)
      have hremainder := (upperDigit (Nat.mod_lt n (show 0 < 16 by omega))).2
      rw [upperValue, List.map_append, List.foldl_append, ← upperValue, hquotient]
      show 16 * (n / 16) + upperDigits.idxOf (n % 16).digitChar.toUpper = n
      rw [hremainder]
      omega

/-- A numeral reads as its number, however far it is filled. -/
@[simp] theorem upperValue_upperHex (width n : Nat) : upperValue (upperHex width n).toList = n := by
  have hfilled : ∀ count, upperValue (List.replicate count '0') = 0 := by
    intro count
    induction count with
    | zero => rfl
    | succ count ih =>
      rw [List.replicate_succ', upperValue, List.foldl_append, ← upperValue, ih]
      rfl
  rw [upperHex, String.toList_ofList, List.leftpad, upperValue, List.foldl_append, ← upperValue,
    hfilled]
  exact upperValue_toDigits n

/-- A hexadecimal numeral is made of upper-case digits. -/
theorem mem_upperHex {width n : Nat} {char : Char} (h : char ∈ (upperHex width n).toList) :
    char ∈ upperDigits := by
  rw [upperHex, String.toList_ofList, List.leftpad, List.mem_append, List.mem_replicate,
    List.mem_map] at h
  obtain ⟨-, rfl⟩ | ⟨lower, hlower, rfl⟩ := h
  · decide
  · obtain ⟨digit, hlt, rfl⟩ := exists_digitChar (by omega) n hlower
    exact (upperDigit hlt).1

/-- A hexadecimal numeral is printable. -/
theorem printable_upperHex (width n : Nat) : Printable (upperHex width n) := by
  have hdigits : Printable "0123456789ABCDEF" := by decide
  intro char hchar
  exact hdigits char (mem_upperHex hchar)

/-- A numeral filled to a width has that length, unless the number has more digits. -/
theorem length_upperHex {width n : Nat} (hdigits : (Nat.toDigits 16 n).length ≤ width) :
    (upperHex width n).length = width := by
  rw [← String.length_toList, upperHex, String.toList_ofList, List.length_leftpad, List.length_map]
  exact Nat.max_eq_left hdigits

end Numeral

namespace Machine.Snapshot

/-! ## The words of a line -/

/-- The word that shows a cell. -/
def cellText : Option UInt8 → String
  | some value => Numeral.upperHex 2 value.toNat
  | none => "--"

/-- The field of a cell is a blank and the text of the cell. -/
theorem cellField_eq (cell : Option UInt8) : cellField cell = " " ++ cellText cell := by
  cases cell <;> rfl

/-- The field of a byte is printable. -/
theorem printable_byteField (value : UInt8) : Printable (byteField value) := by
  have hblank : Printable " " := by decide
  exact hblank.append (Numeral.printable_upperHex 2 value.toNat)

/-- The field of a cell is printable, whether it exists or not. -/
theorem printable_cellField (cell : Option UInt8) : Printable (cellField cell) := by
  cases cell with
  | none => decide
  | some value => exact printable_byteField value

/-- A trace line is printable. -/
theorem printable_line (view : Snapshot) : Printable view.line := by
  have hhead : Printable "TRACE: " := by decide
  have hbar : Printable " |" := by decide
  have hcells : Printable (String.join (view.window.toList.map cellField)) := by
    apply Printable.join
    rw [List.forall_mem_map]
    exact fun cell _ => printable_cellField cell
  have hregisters : Printable (String.join (view.registers.toList.map byteField)) := by
    apply Printable.join
    rw [List.forall_mem_map]
    exact fun value _ => printable_byteField value
  exact ((((((hhead.append (Numeral.printable_upperHex 2 view.pc)).append hbar).append
    (printable_byteField view.flags)).append hbar).append hcells).append hbar).append hregisters

/-- A trace line is one line. -/
theorem newline_notMem_line (view : Snapshot) : 10 ∉ utf8 view.line :=
  view.printable_line.newline_notMem_utf8

/-- The field of a byte takes three characters. -/
theorem length_byteField (value : UInt8) : (byteField value).length = 3 := by
  have hdigits : (Nat.toDigits 16 value.toNat).length ≤ 2 :=
    (Nat.length_toDigits_le_iff (by omega) (by omega)).mpr value.toNat_lt
  rw [byteField, String.length_append, Numeral.length_upperHex hdigits]
  rfl

/-- The field of a cell takes three characters, whether it exists or not. -/
theorem length_cellField (cell : Option UInt8) : (cellField cell).length = 3 := by
  cases cell with
  | none => rfl
  | some value => exact length_byteField value

/-- The words of a trace line behind the first one. -/
def words (view : Snapshot) : List (List Char) :=
  [(Numeral.upperHex 2 view.pc).toList, ['|'], (Numeral.upperHex 2 view.flags.toNat).toList,
    ['|']] ++
  (view.window.toList.map fun cell => (cellText cell).toList) ++ [['|']] ++
  view.registers.toList.map fun value => (Numeral.upperHex 2 value.toNat).toList

/-- A trace line is its first word and the others behind it, with a blank before each. -/
theorem toList_line (view : Snapshot) :
    view.line.toList = "TRACE:".toList ++ view.words.flatMap (' ' :: ·) := by
  have hcells : (String.join (view.window.toList.map cellField)).toList =
      view.window.toList.flatMap fun cell => ' ' :: (cellText cell).toList := by
    simp [String.toList_join, cellField_eq, List.flatMap_map]
  have hregisters : (String.join (view.registers.toList.map byteField)).toList =
      view.registers.toList.flatMap fun value =>
        ' ' :: (Numeral.upperHex 2 value.toNat).toList := by
    simp [String.toList_join, byteField, List.flatMap_map]
  simp [line, words, hcells, hregisters, byteField, List.flatMap_map]

/-- There is no blank in a hexadecimal numeral. -/
theorem blank_notMem_upperHex (width n : Nat) : ' ' ∉ (Numeral.upperHex width n).toList := by
  intro hblank
  exact absurd (Numeral.mem_upperHex hblank) (by decide)

/-- There is no blank in the text of a cell. -/
theorem blank_notMem_cellText (cell : Option UInt8) : ' ' ∉ (cellText cell).toList := by
  cases cell with
  | none => decide
  | some value => exact blank_notMem_upperHex 2 value.toNat

/-- There is no blank in a word. -/
theorem blank_notMem_words (view : Snapshot) : ∀ word ∈ view.words, ' ' ∉ word := by
  simp only [words, List.forall_mem_append, List.forall_mem_cons, List.forall_mem_map]
  simp [blank_notMem_upperHex, blank_notMem_cellText]

/-- Words with blanks between them come apart at the blanks. -/
theorem splitOn_words {first : List Char} {rest : List (List Char)} (hfirst : ' ' ∉ first)
    (hrest : ∀ word ∈ rest, ' ' ∉ word) :
    (first ++ rest.flatMap (' ' :: ·)).splitOn ' ' = first :: rest := by
  induction rest generalizing first with
  | nil => rw [List.flatMap_nil, List.append_nil, List.splitOn_eq_singleton hfirst]
  | cons word rest ih =>
    rw [List.forall_mem_cons] at hrest
    rw [List.flatMap_cons, List.cons_append, List.splitOn_append_cons_self_of_not_mem hfirst,
      ih hrest.1 hrest.2]

/-- Divided at its blanks, a trace line gives its words. -/
theorem splitOn_line (view : Snapshot) :
    view.line.toList.splitOn ' ' = "TRACE:".toList :: view.words := by
  rw [toList_line]
  exact splitOn_words (by decide) view.blank_notMem_words

/-! ## Reading a line -/

/-- The cell that a word shows. -/
def cellOf? (word : List Char) : Option UInt8 :=
  if word = ['-', '-'] then none else some (UInt8.ofNat (Numeral.upperValue word))

/-- The text of a cell shows the cell. -/
theorem cellOf?_cellText (cell : Option UInt8) : cellOf? (cellText cell).toList = cell := by
  cases cell with
  | none => decide
  | some value =>
    have hdash : (cellText (some value)).toList ≠ ['-', '-'] := by
      intro heq
      have hmem : '-' ∈ (Numeral.upperHex 2 value.toNat).toList := by
        rw [cellText] at heq
        rw [heq]
        exact List.mem_cons_self
      exact absurd (Numeral.mem_upperHex hmem) (by decide)
    rw [cellOf?, if_neg hdash, cellText, Numeral.upperValue_upperHex, UInt8.ofNat_toNat]

/-- The view that a trace line shows, read from its words. -/
def ofLine (line : String) : Snapshot :=
  let word := fun i => ((line.toList.splitOn ' ')[i]?).getD []
  { pc := Numeral.upperValue (word 1)
    flags := UInt8.ofNat (Numeral.upperValue (word 3))
    window := Vector.ofFn fun i => cellOf? (word (i.val + 5))
    registers := Vector.ofFn fun i => UInt8.ofNat (Numeral.upperValue (word (i.val + 9))) }

/-- The words from the fifth on show the window. -/
theorem word_of_window (view : Snapshot) {i : Nat} (hi : i < 3) :
    (view.line.toList.splitOn ' ')[i + 5]? = some (cellText view.window[i]).toList := by
  rw [splitOn_line, words]
  simp [List.getElem?_append, hi]

/-- The words from the ninth on show the registers. -/
theorem word_of_registers (view : Snapshot) {i : Nat} (hi : i < 8) :
    (view.line.toList.splitOn ' ')[i + 9]? =
      some (Numeral.upperHex 2 view.registers[i].toNat).toList := by
  rw [splitOn_line, words]
  simp [List.getElem?_append, hi]

/-- A trace line is read as the view it shows. -/
theorem ofLine_line (view : Snapshot) : ofLine view.line = view := by
  have hwindow : (Vector.ofFn fun i : Fin 3 =>
      cellOf? (((view.line.toList.splitOn ' ')[i.val + 5]?).getD [])) = view.window := by
    apply Vector.ext
    intro i hi
    rw [Vector.getElem_ofFn, view.word_of_window hi, Option.getD_some, cellOf?_cellText]
  have hregisters : (Vector.ofFn fun i : Fin 8 => UInt8.ofNat (Numeral.upperValue
      (((view.line.toList.splitOn ' ')[i.val + 9]?).getD []))) = view.registers := by
    apply Vector.ext
    intro i hi
    rw [Vector.getElem_ofFn, view.word_of_registers hi, Option.getD_some,
      Numeral.upperValue_upperHex, UInt8.ofNat_toNat]
  have hpc : (view.line.toList.splitOn ' ')[1]? = some (Numeral.upperHex 2 view.pc).toList := by
    rw [splitOn_line]
    rfl
  have hflags : (view.line.toList.splitOn ' ')[3]? =
      some (Numeral.upperHex 2 view.flags.toNat).toList := by
    rw [splitOn_line]
    rfl
  simp only [ofLine, hwindow, hregisters, hpc, hflags, Option.getD_some,
    Numeral.upperValue_upperHex, UInt8.ofNat_toNat]

/-- Two machines that look different have different trace lines. -/
theorem line_injective : Function.Injective line :=
  Function.LeftInverse.injective ofLine_line

/-- With a program counter below 256 all lines have the same length. -/
theorem length_line {view : Snapshot} (h : view.pc ≤ 255) : view.line.length = 51 := by
  have hpc : (Numeral.upperHex 2 view.pc).length = 2 := by
    apply Numeral.length_upperHex
    exact (Nat.length_toDigits_le_iff (by omega) (by omega)).mpr (by omega)
  have hjoin : ∀ texts : List String, (∀ text ∈ texts, text.length = 3) →
      (String.join texts).length = 3 * texts.length := by
    intro texts hlength
    induction texts with
    | nil => rfl
    | cons text texts ih =>
      rw [List.forall_mem_cons] at hlength
      rw [String.join_cons, String.length_append, hlength.1, ih hlength.2, List.length_cons]
      omega
  have hcells := hjoin (view.window.toList.map cellField)
    (List.forall_mem_map.mpr fun cell _ => length_cellField cell)
  have hregisters := hjoin (view.registers.toList.map byteField)
    (List.forall_mem_map.mpr fun value _ => length_byteField value)
  simp only [line, String.length_append, hpc, length_byteField, hcells, hregisters,
    List.length_map, Vector.length_toList]
  rfl

/-! ## What a line foretells -/

/-- The cell that one of three words shows. -/
def shownBy? (words : Vector String 3) (i : Nat) : Option UInt8 :=
  words[i]?.bind fun word => cellOf? word.toList

/-- The words of a window show its cells. -/
theorem shownBy?_cellText {cells : Vector (Option UInt8) 3} {i : Nat} (hi : i < 3) :
    shownBy? (cells.map cellText) i = cells[i] := by
  rw [shownBy?, Vector.getElem?_map, Vector.getElem?_eq_getElem hi, Option.map_some,
    Option.bind_some, cellOf?_cellText]

/-- What the next cycle comes to fetch, told by the words of the three cells in a view and the
program counter. -/
def foretold (words : Vector String 3) (pc : Nat) : Except Fault Instruction :=
  match shownBy? words 0 with
  | none => .error (.bus pc)
  | some opcode =>
    let first := shownBy? words 1
    let second := shownBy? words 2
    match Instruction.decode opcode (first.getD 0) (second.getD 0) with
    | .error fault => .error fault
    | .ok instruction =>
      if 1 ≤ operandCount opcode ∧ first.isNone then .error (.bus (pc + 1))
      else if 2 ≤ operandCount opcode ∧ second.isNone then .error (.bus (pc + 2))
      else .ok instruction

end Machine.Snapshot

namespace Machine

open Snapshot

/-- The window holds the cells at the addresses from the program counter on. -/
theorem window_snapshot {machine : Machine} (haddress : machine.cpu.pc < Address.count) {i : Nat}
    (hi : i < 3) :
    machine.snapshot.window[i] = machine.memory.peek? (Address.ahead machine.cpu.pc i) := by
  match i, hi with
  | 0, _ =>
    rw [Address.ahead_of_lt haddress]
    rfl
  | 1, _ => rfl
  | 2, _ => rfl

/-- As long as the window does not reach beyond the last address, its cells follow each other. -/
theorem window_of_fits {machine : Machine} (hfits : machine.cpu.pc + 2 < Address.count) {i : Nat}
    (hi : i < 3) : machine.snapshot.window[i] = machine.memory.peek? (machine.cpu.pc + i) := by
  rw [window_snapshot (by omega) hi, Address.ahead_of_lt (by omega)]

/-- A cell of the window that does not exist has an address beyond memory. -/
theorem window_eq_none_iff {machine : Machine} (haddress : machine.cpu.pc < Address.count)
    {i : Nat} (hi : i < 3) : machine.snapshot.window[i] = none ↔
      machine.memory.cells.size ≤ Address.ahead machine.cpu.pc i := by
  rw [window_snapshot haddress hi, Memory.peek?_eq_none_iff]

/-- A checked build views exactly the machines whose window it can reach. -/
theorem capture_checked_eq_some_iff {machine : Machine} {view : Snapshot} :
    machine.capture .checked = some view ↔
      machine.cpu.pc + 2 < Address.count ∧ view = machine.snapshot := by
  rw [capture_checked]
  by_cases hfits : machine.cpu.pc + 2 < Address.count
  · rw [if_pos hfits, Option.some.injEq]
    exact ⟨fun heq => ⟨hfits, heq.symm⟩, fun h => h.2.symm⟩
  · rw [if_neg hfits]
    simp [hfits]

/-! ## What the next cycle fetches -/

/-- A fetch looks at the cells in the view, if these follow each other. -/
theorem fetch_of_fits {machine : Machine} (hfits : machine.cpu.pc + 2 < Address.count) :
    machine.fetch = foretold (machine.snapshot.window.map cellText) machine.cpu.pc := by
  have hcell : ∀ i < 3, shownBy? (machine.snapshot.window.map cellText) i =
      machine.memory.peek? (machine.cpu.pc + i) := by
    intro i hi
    rw [shownBy?_cellText hi, window_of_fits hfits hi]
  rw [foretold, hcell 0 (by omega), hcell 1 (by omega), hcell 2 (by omega), fetch, Memory.load,
    Nat.add_zero]
  cases machine.memory.peek? machine.cpu.pc with
  | none => rfl
  | some opcode =>
    simp only [bind, Except.bind]
    cases Instruction.decode opcode ((machine.memory.peek? (machine.cpu.pc + 1)).getD 0)
        ((machine.memory.peek? (machine.cpu.pc + 2)).getD 0) with
    | error fault => rfl
    | ok instruction =>
      simp only [Option.isNone_iff_eq_none, pure, Except.pure, throw, throwThe, MonadExceptOf.throw]

/-- Where there is no cell behind the opcode, what the view shows after that does not matter. -/
theorem fetch_of_last {machine : Machine} {opcode : UInt8}
    (hopcode : machine.memory.peek? machine.cpu.pc = some opcode)
    (hlast : machine.memory.cells.size = machine.cpu.pc + 1)
    (hnext : machine.cpu.pc + 1 < Address.count) :
    machine.fetch = foretold (machine.snapshot.window.map cellText) machine.cpu.pc := by
  have haddress : machine.cpu.pc < Address.count := by omega
  have hshown : shownBy? (machine.snapshot.window.map cellText) 0 = some opcode := by
    rw [shownBy?_cellText (by omega), window_snapshot haddress (by omega),
      Address.ahead_of_lt (by omega), Nat.add_zero, hopcode]
  have habsent : shownBy? (machine.snapshot.window.map cellText) 1 = none := by
    rw [shownBy?_cellText (by omega), window_eq_none_iff haddress (by omega),
      Address.ahead_of_lt hnext]
    exact Nat.le_of_eq hlast
  have hfirst : machine.memory.peek? (machine.cpu.pc + 1) = none :=
    (Memory.peek?_eq_none_iff _ _).mpr (by omega)
  have hsecond : machine.memory.peek? (machine.cpu.pc + 2) = none :=
    (Memory.peek?_eq_none_iff _ _).mpr (by omega)
  rw [foretold, hshown, habsent, fetch, Memory.load, hopcode, hfirst, hsecond]
  generalize shownBy? (machine.snapshot.window.map cellText) 2 = second
  simp only [bind, Except.bind, Option.getD_none]
  cases hdecode : Instruction.decode opcode 0 0 with
  | error fault =>
    have hother : Instruction.decode opcode 0 (second.getD 0) = .error fault :=
      Instruction.decode_eq_error_iff.mpr (Instruction.decode_eq_error_iff.mp hdecode)
    simp only [hother]
  | ok instruction =>
    obtain ⟨hcode, hoperands⟩ := Instruction.decode_eq_ok_iff.mp hdecode
    have hcount : operandCount opcode = instruction.operands.length := by
      rw [← hcode, Instruction.operandCount_opcode]
    by_cases hnone : instruction.operands.length = 0
    · -- without operands the bytes after the opcode do not count
      rw [hnone, List.take_zero] at hoperands
      have hother : Instruction.decode opcode 0 (second.getD 0) = .ok instruction := by
        rw [Instruction.decode_eq_ok_iff, hnone, List.take_zero]
        exact ⟨hcode, hoperands⟩
      simp [hother, hcount, hnone, pure, Except.pure]
    · have hmissing : 1 ≤ operandCount opcode := by omega
      cases hother : Instruction.decode opcode 0 (second.getD 0) with
      | error fault =>
        rw [Instruction.decode_eq_error_iff] at hother
        exact absurd hcode (hother.1 instruction)
      | ok other => simp [hmissing, throw, throwThe, MonadExceptOf.throw]

/-- Before a cycle the view tells what it comes to fetch. -/
theorem fetch_eq_foretold {machine : Machine} (haddress : machine.cpu.pc < Address.count)
    (hsize : machine.memory.cells.size < Address.count) :
    machine.fetch = foretold (machine.snapshot.window.map cellText) machine.cpu.pc := by
  by_cases hfits : machine.cpu.pc + 2 < Address.count
  · exact fetch_of_fits hfits
  · cases hopcode : machine.memory.peek? machine.cpu.pc with
    | some opcode =>
      have hpc := Memory.lt_size_of_peek? hopcode
      exact fetch_of_last hopcode (by omega) (by omega)
    | none =>
      have habsent : shownBy? (machine.snapshot.window.map cellText) 0 = none := by
        rw [shownBy?_cellText (by omega), window_snapshot haddress (by omega),
          Address.ahead_of_lt haddress, Nat.add_zero, hopcode]
      rw [foretold, habsent, fetch, Memory.load, hopcode]
      rfl

/-- What a cycle makes of what it has come to fetch. -/
def completed (machine : Machine) : Except Fault Instruction → Signal × Machine
  | .error fault => (.faulted fault, machine)
  | .ok .hlt => (.halted, machine)
  | .ok instruction =>
    match execute instruction machine with
    | .ok _ after => (.running, after)
    | .error fault after => (.faulted fault, after)

/-- A cycle fetches and completes. -/
theorem cycle_eq_completed (machine : Machine) :
    machine.cycle = machine.completed machine.fetch := by
  rw [cycle]
  cases machine.fetch with
  | error fault => rfl
  | ok instruction => cases instruction <;> rfl

/-- The words of the cells in a view and the program counter tell what the next cycle of a machine
comes to fetch, so that it meets a fault and stays where it is, stands at a halt, or carries an
instruction out. -/
def Snapshot.Foretells (view : Snapshot) (machine : Machine) : Prop :=
  machine.fetch = foretold (view.window.map cellText) view.pc ∧
    machine.cycle = machine.completed (foretold (view.window.map cellText) view.pc)

/-- A view that tells what is fetched tells how the cycle goes on. -/
theorem foretells_of_fetch {machine : Machine}
    (h : machine.fetch = foretold (machine.snapshot.window.map cellText) machine.cpu.pc) :
    machine.snapshot.Foretells machine :=
  ⟨h, by rw [cycle_eq_completed, h]; rfl⟩

/-! ## Lines and views -/

/-- A trace line tells the view it shows: two views with one line are the same. A line is printable
ASCII text without an end of line, and the lines of all program counters below 256 have one length.

In a view that a checked build takes, the cells that are absent are those behind the end of memory,
so they come last, and the words of the cells tell with the program counter what the next cycle
fetches. A wrapping build takes a view of every machine. It is the same unless the window reaches
beyond the last address, where a checked build takes none; the cells that are absent are still
those that memory does not have, now at addresses that start again at 0, and the view tells as much
about the next cycle. -/
theorem snapshot_of_line :
    (∀ view other : Snapshot, view.line = other.line → view = other) ∧
    (∀ view : Snapshot, ∀ char ∈ view.line.toList, char.toNat < 128 ∧ char ≠ '\n') ∧
    (∀ view : Snapshot, view.pc ≤ 255 → view.line.length = 51) ∧
    (∀ (machine : Machine) (view : Snapshot), machine.capture .checked = some view →
      (∀ i (hi : i < 3), view.window[i] = none ↔
        machine.memory.cells.size ≤ machine.cpu.pc + i) ∧
      (∀ i j (hi : i < 3) (hj : j < 3), i ≤ j →
        view.window[i] = none → view.window[j] = none) ∧
      view.Foretells machine) ∧
    ∀ machine : Machine, ∃ view : Snapshot, machine.capture .wrapping = some view ∧
      (machine.cpu.pc + 2 < Address.count → machine.capture .checked = some view) ∧
      (Address.count ≤ machine.cpu.pc + 2 → machine.capture .checked = none) ∧
      (machine.cpu.pc < Address.count → machine.memory.cells.size < Address.count →
        (∀ i (hi : i < 3), view.window[i] = none ↔
          machine.memory.cells.size ≤ Address.ahead machine.cpu.pc i) ∧
        view.Foretells machine) := by
  refine ⟨fun view other heq => line_injective heq, ?_, fun view hpc => length_line hpc, ?_, ?_⟩
  · intro view char hchar
    have hrange := view.printable_line char hchar
    refine ⟨by omega, ?_⟩
    rintro rfl
    exact absurd hrange (by decide)
  · intro machine view hview
    obtain ⟨hfits, rfl⟩ := capture_checked_eq_some_iff.mp hview
    have habsent : ∀ i (hi : i < 3), machine.snapshot.window[i] = none ↔
        machine.memory.cells.size ≤ machine.cpu.pc + i := by
      intro i hi
      rw [window_of_fits hfits hi, Memory.peek?_eq_none_iff]
    refine ⟨habsent, ?_, foretells_of_fetch (fetch_of_fits hfits)⟩
    intro i j hi hj hij hnone
    rw [habsent i hi] at hnone
    rw [habsent j hj]
    omega
  · intro machine
    refine ⟨machine.snapshot, machine.capture_wrapping, ?_, ?_, ?_⟩
    · intro hfits
      exact capture_checked_eq_some_iff.mpr ⟨hfits, rfl⟩
    · intro hover
      rw [capture_checked, if_neg (by omega)]
    · intro haddress hsize
      exact ⟨fun i hi => window_eq_none_iff haddress hi,
        foretells_of_fetch (fetch_eq_foretold haddress hsize)⟩

/-- In two cells, an opcode whose second operand has no cell. -/
def cutShort : Machine where
  cpu := Cpu.reset
  memory := { cells := #[0x82, 7], capacity := 2 }

/-- The same cells, with the program counter at the last address. -/
def atLastAddress : Machine :=
  { cutShort with cpu := { Cpu.reset with pc := Address.count - 1 } }

/-- The line of the one machine tells that its second operand is missing. That of the other shows
the cells at addresses 0 and 1, and only a wrapping build shows it. -/
theorem snapshot_of_cutShort :
    cutShort.capture .checked = some cutShort.snapshot ∧
    cutShort.snapshot.line = "TRACE: 00 | 00 | 82 07 -- | 00 00 00 00 00 00 00 F4" ∧
    (∀ other : Snapshot, other.line = "TRACE: 00 | 00 | 82 07 -- | 00 00 00 00 00 00 00 F4" →
      other = cutShort.snapshot) ∧
    cutShort.snapshot.pc ≤ 255 ∧ cutShort.snapshot.line.length = 51 ∧
    cutShort.snapshot.window[1] = some 7 ∧ cutShort.snapshot.window[2] = none ∧
    cutShort.memory.cells.size ≤ cutShort.cpu.pc + 2 ∧
    foretold #v["82", "07", "--"] 0 = .error (.bus 2) ∧
    cutShort.cycle = (.faulted (.bus 2), cutShort) ∧
    atLastAddress.capture .checked = none ∧
    atLastAddress.snapshot.line =
      "TRACE: FFFFFFFFFFFFFFFF | 00 | -- 82 07 | 00 00 00 00 00 00 00 F4" ∧
    atLastAddress.cycle = (.faulted (.bus (Address.count - 1)), atLastAddress) := by
  obtain ⟨htells, -, hlength, hchecked, hwrapping⟩ := snapshot_of_line
  have hview : cutShort.capture .checked = some cutShort.snapshot := by decide +kernel
  obtain ⟨hcells, -, -, hcycle⟩ := hchecked cutShort cutShort.snapshot hview
  have hline : cutShort.snapshot.line =
      "TRACE: 00 | 00 | 82 07 -- | 00 00 00 00 00 00 00 F4" := by
    decide +kernel
  have hsmall : cutShort.snapshot.pc ≤ 255 := by decide
  have habsent : cutShort.snapshot.window[2] = none := by decide +kernel
  have hforetold : foretold #v["82", "07", "--"] 0 = .error (.bus 2) := by decide +kernel
  have hwords : cutShort.snapshot.window.map cellText = #v["82", "07", "--"] := by decide +kernel
  have hpc : cutShort.snapshot.pc = 0 := rfl
  rw [hwords, hpc, hforetold] at hcycle
  obtain ⟨view, hlast, -, hnone, htold⟩ := hwrapping atLastAddress
  obtain ⟨-, -, hcycleLast⟩ := htold (by decide +kernel) (by decide +kernel)
  obtain rfl : atLastAddress.snapshot = view := Option.some.inj hlast
  have hforetoldLast : foretold (atLastAddress.snapshot.window.map cellText)
      atLastAddress.snapshot.pc = .error (.bus (Address.count - 1)) := by
    decide +kernel
  rw [hforetoldLast] at hcycleLast
  refine ⟨hview, hline, ?_, hsmall, hlength _ hsmall, by decide +kernel, habsent,
    (hcells 2 (by omega)).mp habsent, hforetold, hcycle, hnone (by decide +kernel),
    by decide +kernel, hcycleLast⟩
  intro other hother
  exact htells other cutShort.snapshot (hother.trans hline.symm)

end Machine

end ByteMachine
