import ByteMachine.Interface.Listing
import ByteMachine.Proofs.Cycle
import ByteMachine.Proofs.PrintedText

/-!
# Reading byte code

Byte code needs no marks between its instructions: an opcode tells how many operands follow
it, so a sweep that reads each instruction where the one before it ends finds the
instructions that were written, and stops where they end. The two bytes behind the last
instruction are looked at, but what they are makes no difference.

The lines that such a sweep lists are as good as the instructions. A line begins with a
mnemonic, which tells the opcode, and the numbers in it are the operands. A byte that is no
opcode has a line that begins like none of these and ends with its number.
-/

set_option autoImplicit false

namespace ByteMachine

/-! ## Sweeps -/

/-- What a sweep finds: the instructions, the line of each, and the address behind the last
one. -/
structure Disassembly where
  instructions : List Instruction
  lines : List String
  stop : Nat
deriving DecidableEq

/-- What the byte at an address and the two bytes behind it are read as. Where memory has no cell
a zero is read. -/
def Memory.readAt {α : Type} (memory : Memory) (view : UInt8 → UInt8 → UInt8 → α)
    (address : Nat) : α :=
  view (memory.cell address) (memory.cell (address + 1)) (memory.cell (address + 2))

/-- Reads instructions from an address on, each behind the one before it, until an end is
reached or passed. -/
def Memory.sweep (memory : Memory) (address finish : Nat) : Except Fault Disassembly :=
  if finish ≤ address then .ok { instructions := [], lines := [], stop := address }
  else
    match memory.readAt Instruction.decode address with
    | .error fault => .error fault
    | .ok instruction =>
      (memory.sweep (address + instruction.width) finish).map fun rest => {
        instructions := instruction :: rest.instructions
        lines := memory.readAt disassemble address :: rest.lines
        stop := rest.stop }
termination_by finish - address
decreasing_by
  rw [Instruction.width]
  omega

/-- The byte code of a program: that of its instructions, one behind the other. -/
def byteCode (program : List Instruction) : List UInt8 :=
  program.flatMap Instruction.encode

variable {memory : Memory} {address finish : Nat}

/-- Where the byte code of an instruction stands, it is read, whatever stands behind it. -/
theorem Memory.Holds.decode {instruction : Instruction}
    (h : memory.Holds address instruction.encode) :
    memory.readAt Instruction.decode address = .ok instruction := by
  let machine : Machine := { cpu := { Cpu.reset with pc := address }, memory := memory }
  have hfetch : machine.fetch = .ok instruction := Machine.fetch_eq_ok_iff.mpr h
  exact Machine.decode_of_fetch hfetch

/-- Bytes that are an instruction are shown as it. -/
theorem disassemble_of_decode {opcode first second : UInt8} {instruction : Instruction}
    (h : Instruction.decode opcode first second = .ok instruction) :
    disassemble opcode first second = instruction.listing := by
  rw [disassemble, h]

/-- The line at an address shows the instruction that stands there. -/
theorem Memory.listing_readAt {instruction : Instruction}
    (h : memory.readAt Instruction.decode address = .ok instruction) :
    memory.readAt disassemble address = instruction.listing :=
  disassemble_of_decode h

/-- A sweep over the byte code of a program finds the program and stops at its end. -/
theorem Memory.Holds.sweep {program : List Instruction}
    (h : memory.Holds address (byteCode program)) :
    memory.sweep address (address + (byteCode program).length) =
      .ok {
        instructions := program
        lines := program.map Instruction.listing
        stop := address + (byteCode program).length } := by
  induction program generalizing address with
  | nil => rw [Memory.sweep, if_pos (by simp [byteCode])]; rfl
  | cons instruction program ih =>
    obtain ⟨hfirst, hrest⟩ := Memory.holds_append.mp h
    -- the rest of the program stands behind its first instruction
    have hlength : address + (byteCode (instruction :: program)).length =
        address + instruction.width + (byteCode program).length := by
      rw [byteCode, List.flatMap_cons, List.length_append, Instruction.length_encode, byteCode,
        Nat.add_assoc]
    have hwidth : 0 < instruction.width := by
      rw [Instruction.width]
      omega
    rw [Instruction.length_encode] at hrest
    rw [Memory.sweep, if_neg (by omega), hlength]
    simp only [hfirst.decode, Memory.listing_readAt hfirst.decode]
    rw [ih hrest]
    rfl

/-- Programs with the same byte code are the same: a sweep over it finds both. -/
theorem byteCode_injective : Function.Injective byteCode := by
  intro program other heq
  let memory : Memory := { cells := (byteCode program).toArray, capacity := 0 }
  have hholds : memory.Holds 0 (byteCode program) := by
    intro i hi
    rw [Nat.zero_add, Memory.peek?, List.getElem?_toArray]
  have hfound := hholds.sweep
  rw [heq] at hholds hfound
  exact congrArg Disassembly.instructions (Except.ok.inj (hfound.symm.trans hholds.sweep))

/-- Each line of a sweep lists the instruction found there. -/
theorem lines_of_sweep {found : Disassembly} (h : memory.sweep address finish = .ok found) :
    found.lines = found.instructions.map Instruction.listing := by
  fun_induction Memory.sweep memory address finish generalizing found with
  | case1 address hend =>
    cases h
    rfl
  | case2 => cases h
  | case3 address hend instruction hdecode ih =>
    cases hrest : memory.sweep (address + instruction.width) finish with
    | error fault =>
      rw [hrest] at h
      cases h
    | ok rest =>
      rw [hrest] at h
      cases h
      simp only [ih hrest, Memory.listing_readAt hdecode, List.map_cons]

/-! ## Numbers in a text -/

namespace Numeral

/-- The numbers in a text: the values of its runs of decimal digits, in their order. -/
def numbers (text : List Char) : List Nat :=
  (text.splitOnP fun char => !char.isDigit).filterMap value?

/-- There are no numbers in an empty text. -/
@[simp] theorem numbers_nil : numbers [] = [] :=
  rfl

/-- A character that is no digit separates the numbers before it from those behind it. -/
theorem numbers_append_cons (front back : List Char) {char : Char} (h : char.isDigit = false) :
    numbers (front ++ char :: back) = numbers front ++ numbers back := by
  rw [numbers, List.splitOnP_append_cons front back (by simp [h]), List.filterMap_append]
  rfl

/-- A character in front that is no digit belongs to no number. -/
theorem numbers_cons (text : List Char) {char : Char} (h : char.isDigit = false) :
    numbers (char :: text) = numbers text :=
  numbers_append_cons [] text h

/-- The one number in a decimal numeral is its value. -/
@[simp] theorem numbers_decimal (n : Nat) : numbers (decimal n).toList = [n] := by
  have hdigits : ∀ char ∈ (decimal n).toList, (!char.isDigit) = false := by
    intro char hchar
    rw [decimal, String.toList_ofList] at hchar
    simp [Nat.isDigit_of_mem_toDigits (by omega) (by omega) hchar]
  rw [numbers, List.splitOnP_eq_singleton hdigits, List.filterMap_cons, (isDecimal_decimal n).reads]
  rfl

end Numeral

/-! ## Lines of a listing -/

namespace Instruction

/-- The mnemonics, filled to four characters where operands follow, and their opcodes. -/
def mnemonics : List (String × UInt8) :=
  [("LDI ", 0x82), ("PRN ", 0x47), ("PRA ", 0x48), ("MUL ", 0xA2), ("CMP ", 0xA7), ("PUSH", 0x45),
    ("POP ", 0x46), ("JMP ", 0x54), ("JEQ ", 0x55), ("JNE ", 0x56), ("HLT", 0x01)]

/-- The opcode of the mnemonic with which a line begins, if it begins with one. -/
def lineOpcode? (line : String) : Option UInt8 :=
  mnemonics.lookup (String.ofList (line.toList.take 4))

/-- The mnemonic of an instruction's line tells its opcode. -/
theorem lineOpcode?_listing (instruction : Instruction) :
    lineOpcode? instruction.listing = some instruction.opcode := by
  cases instruction <;>
    simp [lineOpcode?, listing, mnemonics, opcode, Operation.opcode, List.lookup_cons]

/-- The numbers in an instruction's line are its operands. -/
theorem numbers_listing (instruction : Instruction) :
    Numeral.numbers instruction.listing.toList = instruction.operands.map UInt8.toNat := by
  cases instruction <;>
    simp [listing, registerName, operands, Numeral.numbers_cons, Numeral.numbers_append_cons]

/-- Two instructions with one line are the same: the line tells the opcode and the operands. -/
theorem listing_injective : Function.Injective listing := by
  intro instruction other heq
  have hopcode : instruction.opcode = other.opcode := by
    apply Option.some.inj
    rw [← lineOpcode?_listing, ← lineOpcode?_listing, heq]
  have hoperands : instruction.operands = other.operands := by
    apply List.map_injective_iff.mpr fun _ _ => UInt8.toNat_inj.mp
    rw [← numbers_listing, ← numbers_listing, heq]
  have hread := decode_opcode instruction 0 0
  rw [hopcode, hoperands, decode_opcode other 0 0] at hread
  exact (Except.ok.inj hread).symm

end Instruction

section Lines

variable {opcode first second otherOpcode otherFirst otherSecond : UInt8}

/-- The line of a byte that is no opcode. -/
theorem disassemble_of_error {fault : Fault}
    (h : Instruction.decode opcode first second = .error fault) :
    disassemble opcode first second =
      ".byte 0x" ++ Numeral.lowerHex 2 opcode.toNat ++ " ; " ++
        ("Instruction unknown " ++ Numeral.decimal opcode.toNat) := by
  obtain ⟨-, rfl⟩ := Instruction.decode_eq_error_iff.mp h
  rw [disassemble, h]
  rfl

/-- The line of a byte that is no opcode begins with no mnemonic. -/
theorem lineOpcode?_of_error {fault : Fault}
    (h : Instruction.decode opcode first second = .error fault) :
    Instruction.lineOpcode? (disassemble opcode first second) = none := by
  rw [disassemble_of_error h]
  simp [Instruction.lineOpcode?, Instruction.mnemonics, List.lookup_cons]

/-- The last number in the line of a byte that is no opcode is that byte. -/
theorem numbers_of_error {fault : Fault}
    (h : Instruction.decode opcode first second = .error fault) :
    (Numeral.numbers (disassemble opcode first second).toList).getLast? = some opcode.toNat := by
  have hsplit : (disassemble opcode first second).toList =
      (".byte 0x" ++ Numeral.lowerHex 2 opcode.toNat ++ " ; Instruction unknown").toList ++
        ' ' :: (Numeral.decimal opcode.toNat).toList := by
    rw [disassemble_of_error h]
    simp
  rw [hsplit, Numeral.numbers_append_cons _ _ (by decide),
    Numeral.numbers_decimal, List.getLast?_append]
  rfl

/-- Bytes have one line exactly if they are the same instruction, or no instruction with the same
first byte. -/
theorem disassemble_eq_iff :
    disassemble opcode first second = disassemble otherOpcode otherFirst otherSecond ↔
      (∃ instruction, Instruction.decode opcode first second = .ok instruction ∧
        Instruction.decode otherOpcode otherFirst otherSecond = .ok instruction) ∨
      (opcode = otherOpcode ∧ (∃ fault, Instruction.decode opcode first second = .error fault) ∧
        ∃ fault, Instruction.decode otherOpcode otherFirst otherSecond = .error fault) := by
  constructor
  · intro heq
    -- the mnemonic keeps instructions apart from other bytes, and the last number those from
    -- one another
    cases hdecode : Instruction.decode opcode first second with
    | ok instruction =>
      left
      refine ⟨instruction, rfl, ?_⟩
      rw [disassemble_of_decode hdecode] at heq
      cases hother : Instruction.decode otherOpcode otherFirst otherSecond with
      | ok other =>
        rw [disassemble_of_decode hother] at heq
        rw [Instruction.listing_injective heq]
      | error fault =>
        have hcode := lineOpcode?_of_error hother
        rw [← heq, Instruction.lineOpcode?_listing] at hcode
        cases hcode
    | error fault =>
      right
      cases hother : Instruction.decode otherOpcode otherFirst otherSecond with
      | ok other =>
        have hcode := lineOpcode?_of_error hdecode
        rw [heq, disassemble_of_decode hother, Instruction.lineOpcode?_listing] at hcode
        cases hcode
      | error fault =>
        have hnumber := numbers_of_error hdecode
        rw [heq, numbers_of_error hother, Option.some.injEq] at hnumber
        exact ⟨(UInt8.toNat_inj.mp hnumber).symm, ⟨_, rfl⟩, ⟨_, rfl⟩⟩
  · rintro (⟨instruction, hdecode, hother⟩ | ⟨rfl, ⟨fault, hdecode⟩, ⟨other, hother⟩⟩)
    · rw [disassemble_of_decode hdecode, disassemble_of_decode hother]
    · rw [disassemble_of_error hdecode, disassemble_of_error hother]

/-- An instruction that is read has the opcode it was read from and, as far as it has operands, the
bytes behind it. The others could be any. -/
theorem operands_of_decode {instruction : Instruction}
    (h : Instruction.decode opcode first second = .ok instruction) :
    instruction.opcode = opcode ∧
      instruction.operands = [first, second].take (instruction.width - 1) ∧
      ∀ other otherSecond, [other, otherSecond].take (instruction.width - 1) =
          [first, second].take (instruction.width - 1) →
        Instruction.decode opcode other otherSecond = .ok instruction := by
  have hwidth : instruction.width - 1 = instruction.operands.length := by
    rw [Instruction.width_eq]
    omega
  obtain ⟨hopcode, hoperands⟩ := Instruction.decode_eq_ok_iff.mp h
  rw [hwidth]
  refine ⟨hopcode, hoperands, ?_⟩
  intro other otherSecond hsame
  exact Instruction.decode_eq_ok_iff.mpr ⟨hopcode, hoperands.trans hsame.symm⟩

end Lines

/-- Sweeps that list the same lines have found the same instructions. -/
theorem instructions_of_lines {other : Memory} {otherAddress otherFinish : Nat}
    {found otherFound : Disassembly} (h : memory.sweep address finish = .ok found)
    (hother : other.sweep otherAddress otherFinish = .ok otherFound)
    (hlines : found.lines = otherFound.lines) : found.instructions = otherFound.instructions := by
  rw [lines_of_sweep h, lines_of_sweep hother] at hlines
  exact List.map_injective_iff.mpr Instruction.listing_injective hlines

/-- Byte code is read in one way, and its listing tells it. A sweep over the byte code of a program
finds the program and stops at its end, whatever stands behind it, and different programs have
different byte code. An instruction that is read has the opcode and the operands it was read from,
and no other byte matters. Two lines are the same only for the same instruction, or for the same
byte where it is no opcode, so the lines of a sweep determine the instructions. -/
theorem faithful_of_sweep :
    (∀ (program : List Instruction) (memory : Memory) (address : Nat),
      memory.Holds address (byteCode program) →
      memory.sweep address (address + (byteCode program).length) =
        .ok {
          instructions := program
          lines := program.map Instruction.listing
          stop := address + (byteCode program).length }) ∧
    (∀ program other : List Instruction, byteCode program = byteCode other → program = other) ∧
    (∀ (opcode first second : UInt8) (instruction : Instruction),
      Instruction.decode opcode first second = .ok instruction →
      instruction.opcode = opcode ∧
        instruction.operands = [first, second].take (instruction.width - 1) ∧
        ∀ other otherSecond, [other, otherSecond].take (instruction.width - 1) =
            [first, second].take (instruction.width - 1) →
          Instruction.decode opcode other otherSecond = .ok instruction) ∧
    (∀ opcode first second otherOpcode otherFirst otherSecond : UInt8,
      disassemble opcode first second = disassemble otherOpcode otherFirst otherSecond ↔
        (∃ instruction, Instruction.decode opcode first second = .ok instruction ∧
          Instruction.decode otherOpcode otherFirst otherSecond = .ok instruction) ∨
        (opcode = otherOpcode ∧
          (∃ fault, Instruction.decode opcode first second = .error fault) ∧
          ∃ fault, Instruction.decode otherOpcode otherFirst otherSecond = .error fault)) ∧
    ∀ (memory other : Memory) (address finish otherAddress otherFinish : Nat)
      (found otherFound : Disassembly), memory.sweep address finish = .ok found →
      other.sweep otherAddress otherFinish = .ok otherFound → found.lines = otherFound.lines →
      found.instructions = otherFound.instructions := by
  refine ⟨?_, ?_, ?_, ?_, ?_⟩
  · intro program memory address hholds
    exact hholds.sweep
  · intro program other heq
    exact byteCode_injective heq
  · intro opcode first second instruction hdecode
    exact operands_of_decode hdecode
  · intro opcode first second otherOpcode otherFirst otherSecond
    exact disassemble_eq_iff
  · intro memory other address finish otherAddress otherFinish found otherFound hfound hother hlines
    exact instructions_of_lines hfound hother hlines

/-- Multiplies a register by itself and halts. -/
def squares : List Instruction :=
  [.ldi 0 8, .mul 0 0, .hlt]

/-- A memory with this program at address 2. Behind it stands an opcode whose operands have no
cells. -/
def squaresBehind : Memory where
  cells := #[0x47, 9, 0x82, 0, 8, 0xA2, 0, 0, 0x01, 0x82]
  capacity := 10

/-- A memory with this program and nothing else. -/
def squaresAlone : Memory where
  cells := #[0x82, 0, 8, 0xA2, 0, 0, 0x01]
  capacity := 7

/-- The program gives the same lines at another address and with other bytes around it, where
the sweep stops before an opcode without operands. The byte behind a printing instruction's
operand makes no difference to it. -/
theorem faithful_of_squares :
    squaresBehind.Holds 2 (byteCode squares) ∧
    squaresAlone.Holds 0 (byteCode squares) ∧
    ∃ found, squaresBehind.sweep 2 9 = .ok found ∧ found.instructions = squares ∧
      found.lines = ["LDI  R0, 8", "MUL  R0, R0", "HLT"] ∧ found.stop = 9 ∧
      (∃ otherFound, squaresAlone.sweep 0 7 = .ok otherFound ∧
        found.lines = otherFound.lines ∧ found.instructions = otherFound.instructions) ∧
      Instruction.decode 0x47 3 0 = .ok (.prn 3) ∧ Instruction.decode 0x47 3 200 = .ok (.prn 3) := by
  obtain ⟨hsweeps, -, hdecodes, -, hlines⟩ := faithful_of_sweep
  have hholds : squaresBehind.Holds 2 (byteCode squares) := by decide
  have hother : squaresAlone.Holds 0 (byteCode squares) := by decide
  have hfound := hsweeps squares squaresBehind 2 hholds
  have hotherFound := hsweeps squares squaresAlone 0 hother
  have hdecode : Instruction.decode 0x47 3 0 = .ok (.prn 3) := by decide
  obtain ⟨-, -, hignores⟩ := hdecodes 0x47 3 0 (.prn 3) hdecode
  refine ⟨hholds, hother, _, hfound, rfl, by decide, rfl, ⟨_, hotherFound, rfl, ?_⟩, hdecode,
    hignores 3 200 rfl⟩
  exact hlines _ _ 2 9 0 7 _ _ hfound hotherFound rfl

end ByteMachine
