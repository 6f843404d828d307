import ByteMachine.Proofs.Placement
import ByteMachine.Proofs.Layout
import ByteMachine.Proofs.Uninterrupted

/-!
# Programs without jumps

What a program means that neither jumps nor uses the stack, said without a machine: every
statement sets a register, sets the equal flag or prints, one after the other. Written as
text, read back, loaded and run, such a program does what it means. It stops behind its
last instruction: at a halt if one is written there, and otherwise at the first zero of
the memory, or past its last cell.
-/

set_option autoImplicit false

namespace ByteMachine

/-! ## Statements -/

/-- An instruction that neither jumps nor uses the stack. It names registers, so that it
cannot name one that there is not. -/
inductive Statement where
  | ldi (register : Fin 8) (value : UInt8)
  | prn (register : Fin 8)
  | pra (register : Fin 8)
  | mul (first second : Fin 8)
  | cmp (first second : Fin 8)
deriving DecidableEq

/-- What statements work on. -/
structure Workspace where
  registers : Vector UInt8 8
  flags : UInt8
  /-- Everything printed so far. -/
  output : List UInt8
deriving DecidableEq

namespace Statement

/-- The operand byte that names a register. -/
def operand (register : Fin 8) : UInt8 :=
  UInt8.ofNat register

def instruction : Statement → Instruction
  | .ldi register value => .ldi (operand register) value
  | .prn register => .prn (operand register)
  | .pra register => .pra (operand register)
  | .mul first second => .mul (operand first) (operand second)
  | .cmp first second => .cmp (operand first) (operand second)

/-- What a statement means. Products are taken modulo 256, and the lowest bit of the flags
is set by values that agree and never cleared. -/
def meaning (work : Workspace) : Statement → Workspace
  | .ldi register value => { work with registers := work.registers.set register value }
  | .prn register =>
    { work with
      output := work.output ++ utf8 (Numeral.decimal work.registers[register].toNat ++ "\n") }
  | .pra register =>
    { work with
      output := work.output ++ utf8 (String.singleton (Char.ofUInt8 work.registers[register])) }
  | .mul first second =>
    let product := work.registers[first] * work.registers[second]
    { work with registers := work.registers.set first product }
  | .cmp first second =>
    if work.registers[first] = work.registers[second] then { work with flags := work.flags ||| 1 }
    else work

/-- The byte of a register is its number. -/
@[simp] theorem toNat_operand (register : Fin 8) : (operand register).toNat = register :=
  UInt8.toNat_ofNat_of_lt (show register.val < 256 by omega)

/-- The byte of a register names one. -/
@[simp] theorem unnamed?_operand (register : Fin 8) : Cpu.unnamed? (operand register) = none := by
  simp [Cpu.unnamed?_eq_none_iff]

/-- The byte of a register reads that register. -/
@[simp] theorem value_operand (cpu : Cpu) (register : Fin 8) :
    cpu.value (operand register) = cpu.registers[register] := by
  simp [Cpu.value]

/-- The byte of a register writes that register. -/
@[simp] theorem put_operand (cpu : Cpu) (register : Fin 8) (value : UInt8) :
    (cpu.put (operand register) value).registers = cpu.registers.set register value := by
  simp [Cpu.put, Vector.set, Vector.setIfInBounds, Array.setIfInBounds]

/-- No statement is the halt. -/
theorem instruction_ne_hlt (statement : Statement) : statement.instruction ≠ .hlt := by
  cases statement <;> simp [instruction]

end Statement

namespace Workspace

/-- The registers and flags of a reset, and nothing printed. -/
def reset : Workspace where
  registers := Cpu.reset.registers
  flags := Cpu.reset.flags
  output := []

/-- A machine that has come to an address with this work. -/
def machine (work : Workspace) (pc : Nat) (memory : Memory) : Machine where
  cpu := { registers := work.registers, pc := pc, flags := work.flags, pending := work.output }
  memory := memory

variable (work : Workspace) (pc : Nat) (memory : Memory)

/-- A statement names only registers that there are. -/
theorem obstacle?_statement (statement : Statement) :
    (work.machine pc memory).obstacle? statement.instruction = none := by
  cases statement <;> simp [Statement.instruction, Machine.obstacle?]

/-- Carrying out the instruction of a statement does what the statement means and moves the
counter past the instruction. -/
theorem perform_statement (statement : Statement) :
    (work.machine pc memory).perform statement.instruction =
      (statement.meaning work).machine (pc + statement.instruction.width) memory := by
  cases statement with
  | cmp first second =>
    by_cases hequal : work.registers[first] = work.registers[second] <;>
      simp only [Statement.instruction, Statement.meaning, Machine.perform, Machine.registersAfter,
        Machine.pcAfter, Machine.flagsAfter, Machine.printed, Machine.memoryAfter, machine,
        Statement.value_operand, hequal, if_true, if_false, List.append_nil]
  | _ =>
    simp [Statement.instruction, Statement.meaning, Machine.perform, Machine.registersAfter,
      Machine.pcAfter, Machine.flagsAfter, Machine.printed, Machine.memoryAfter, machine]

/-- Where the byte code of a statement stands, a cycle does what the statement means. -/
theorem cycle_of_statement {statement : Statement}
    (hcode : memory.Holds pc statement.instruction.encode) :
    (work.machine pc memory).cycle =
      (.running, (statement.meaning work).machine (pc + statement.instruction.width) memory) := by
  have hfetch : (work.machine pc memory).fetch = .ok statement.instruction :=
    Machine.fetch_eq_ok_iff.mpr hcode
  rw [Machine.cycle_of_fetch hfetch statement.instruction_ne_hlt, obstacle?_statement,
    perform_statement]

end Workspace

/-! ## Programs -/

namespace StraightLine

/-- The byte code of a program. -/
def code (program : List Statement) : List UInt8 :=
  program.flatMap fun statement => statement.instruction.encode

/-- The number of bytes the instructions of a program occupy. -/
def width : List Statement → Nat
  | [] => 0
  | statement :: program => statement.instruction.width + width program

/-- What a program means: its statements from the first to the last. -/
def meaning (program : List Statement) (work : Workspace) : Workspace :=
  program.foldl Statement.meaning work

/-- The byte code of a program is as long as its width. -/
theorem length_code (program : List Statement) : (code program).length = width program := by
  induction program with
  | nil => rfl
  | cons statement program ih =>
    show (statement.instruction.encode ++ code program).length = _
    rw [List.length_append, Instruction.length_encode, ih, width]

/-- A program of at most 255 bytes and the halt behind it fit into memory. -/
theorem length_code_halt_le {program : List Statement} (h : width program ≤ 255) :
    (code program ++ Instruction.hlt.encode).length ≤ 256 := by
  rw [List.length_append, length_code]
  exact Nat.succ_le_succ h

/-- Where the code of a program stands, the machine goes through it and does what it means. -/
theorem after_program {memory : Memory} (program : List Statement) (work : Workspace) (pc : Nat)
    (hcode : memory.Holds pc (code program)) :
    (work.machine pc memory).RunsFor program.length ∧
      (work.machine pc memory).after program.length =
        (meaning program work).machine (pc + width program) memory := by
  induction program generalizing work pc with
  | nil =>
    refine ⟨?_, rfl⟩
    intro i hi
    cases hi
  | cons statement program ih =>
    -- the code of the rest begins where the counter goes on after the first statement
    obtain ⟨hfirst, hrest⟩ := Memory.holds_append.mp hcode
    rw [Instruction.length_encode] at hrest
    have hcycle := work.cycle_of_statement pc memory hfirst
    obtain ⟨hrun, hafter⟩ := ih (statement.meaning work) (pc + statement.instruction.width) hrest
    rw [List.length_cons]
    constructor
    · rw [Machine.runsFor_succ_left, hcycle]
      exact ⟨rfl, hrun⟩
    · rw [Machine.after_succ_left, hcycle, hafter]
      simp [meaning, width, Nat.add_assoc]

/-- The machine behind a program, with the given bytes in memory. -/
def behind (program : List Statement) (bytes : List UInt8) : Machine :=
  (meaning program .reset).machine (width program) (Memory.beginning bytes)

/-- Behind a program that ends with the halt, the machine halts and stays. -/
theorem cycle_behind_halt {program : List Statement} (hwidth : width program ≤ 255) :
    (behind program (code program ++ Instruction.hlt.encode)).cycle =
      (.halted, behind program (code program ++ Instruction.hlt.encode)) := by
  have hfits := length_code_halt_le hwidth
  have hcode := Memory.holds_append.mp (Memory.holds_beginning hfits)
  have hbyte := hcode.2 0 (by decide)
  rw [Nat.zero_add, length_code] at hbyte
  have hhalted := (behind program (code program ++ Instruction.hlt.encode)).halted_iff.mpr hbyte
  exact Prod.ext hhalted (Machine.cycle_of_halted hhalted)

/-- The first zero behind a program is no opcode. -/
theorem cycle_behind_zero {program : List Statement} (hwidth : width program < 256) :
    (behind program (code program)).cycle =
      (.faulted (.unknownInstruction 0), behind program (code program)) := by
  apply Machine.cycle_of_fetch_error
  apply (Machine.fetch_eq_unknown_iff _ 0).mpr
  constructor
  · show (Memory.beginning (code program)).peek? (width program) = some 0
    simp [Memory.peek?_beginning, length_code, hwidth, Nat.le_of_lt hwidth]
  · intro instruction
    cases instruction <;> simp [Instruction.opcode, Operation.opcode]

/-- Behind a program that fills the memory, the fetch fails at address 256 and the machine
stays. -/
theorem cycle_behind_full {program : List Statement} (hwidth : width program = 256) :
    (behind program (code program)).cycle =
      (.faulted (.bus 256), behind program (code program)) := by
  apply Machine.cycle_of_fetch_error
  have hcell : (behind program (code program)).memory.peek?
      (behind program (code program)).cpu.pc = none := by
    show (Memory.beginning (code program)).peek? (width program) = none
    simp [Memory.peek?_beginning, length_code, hwidth]
  rw [Machine.fetch_eq, hcell, ← hwidth]
  rfl

/-! ## From text to output -/

/-- Some bytes are run: written as text, read back, loaded into a fresh machine and carried
out. After so many instructions the run answers `result`. The machine then stands at `pc`
with the registers and flags of `work`, nothing is pending, the memory holds the bytes and
zeros behind them, and the output has received what `work` printed. -/
def RunsTo (bytes : List UInt8) (console : Console) (count pc : Nat) (work : Workspace)
    (result : Session.Result) : Prop :=
  ∃ memory ended, Loading.programOf (Source.render bytes) = .ok bytes ∧
    Loading.place Memory.ram 0 bytes = (memory, none) ∧
    (∀ fuel, (Session.start (Machine.start memory) console).run fuel =
      if count < fuel then some (ended, result) else none) ∧
    ended.machine.cpu =
      { registers := work.registers, pc := pc, flags := work.flags, pending := [] } ∧
    ended.machine.memory = Memory.beginning bytes ∧
    ended.console.out.held.toList = console.out.held.toList ++ work.output

/-- A program does what it means, and the run ends with what the cycle behind it signals. -/
theorem runsTo_of_cycle {program : List Statement} {bytes : List UInt8} {console : Console}
    {signal : Signal} {result : Session.Result} (hquiet : console.Quiet)
    (hout : console.out.Unlimited) (hfits : bytes.length ≤ 256)
    (hcode : (Memory.beginning bytes).Holds 0 (code program))
    (hlast : (behind program bytes).cycle = (signal, behind program bytes))
    (hresult : Session.resultOf program.length signal = some result) :
    RunsTo bytes console program.length (width program) (meaning program .reset) result := by
  let fresh := Workspace.reset.machine 0 (Memory.beginning bytes)
  obtain ⟨hrun, hafter⟩ : fresh.RunsFor program.length ∧
      fresh.after program.length = behind program bytes := by
    simpa [behind] using after_program program .reset 0 hcode
  have hends : fresh.Ends program.length result := by
    refine ⟨hrun, ?_⟩
    rw [hafter, hlast, hresult]
  have hstop : fresh.after (program.length + 1) = behind program bytes := by
    rw [Machine.after, hafter, hlast]
  obtain ⟨ended, hmachine, hheld, hanswer⟩ := Session.run_of_ends hquiet hout hends
  rw [hstop] at hmachine hheld
  refine ⟨Memory.beginning bytes, ended, ?_, Loading.place_ram hfits, hanswer, ?_, ?_, hheld⟩
  · rw [Loading.programOf, Source.parse_render]
  · rw [hmachine]
    rfl
  · rw [hmachine]
    rfl

/-- A program that neither jumps nor uses the stack does what it means. With a halt behind
it the run answers the number of its instructions. Without one it goes on into the zeros
behind the program, or past the last cell of a memory that the program fills. -/
theorem runsTo_of_text (program : List Statement) {console : Console} (hquiet : console.Quiet)
    (hout : console.out.Unlimited) :
    (width program ≤ 255 →
      RunsTo (code program ++ Instruction.hlt.encode) console program.length (width program)
        (meaning program .reset) (.ok program.length)) ∧
    (width program < 256 →
      RunsTo (code program) console program.length (width program) (meaning program .reset)
        (.error (.fault (.unknownInstruction 0)))) ∧
    (width program = 256 →
      RunsTo (code program) console program.length 256 (meaning program .reset)
        (.error (.fault (.bus 256)))) := by
  have hlength := length_code program
  refine ⟨?_, ?_, ?_⟩
  · intro hwidth
    have hfits := length_code_halt_le hwidth
    have hcode := Memory.holds_append.mp (Memory.holds_beginning hfits)
    exact runsTo_of_cycle hquiet hout hfits hcode.1 (cycle_behind_halt hwidth) rfl
  · intro hwidth
    have hfits : (code program).length ≤ 256 := by omega
    exact runsTo_of_cycle hquiet hout hfits (Memory.holds_beginning hfits)
      (cycle_behind_zero hwidth) rfl
  · intro hwidth
    have hfits : (code program).length ≤ 256 := by omega
    have hruns := runsTo_of_cycle hquiet hout hfits (Memory.holds_beginning hfits)
      (cycle_behind_full hwidth) rfl
    rwa [hwidth] at hruns

/-- Prints the product of 8 and 9 and compares it with one of its factors. -/
def multiplies : List Statement :=
  [.ldi 0 8, .ldi 1 9, .mul 0 1, .prn 0, .cmp 0 1]

/-- Fills the memory with instructions that print the character of code 65. -/
def fills : List Statement :=
  .ldi 2 65 :: .cmp 3 3 :: List.replicate 125 (.pra 2)

/-- The program halts after five instructions if the halt stands behind it, and meets the zero
there as an unknown instruction if not. A program of 256 bytes prints all its characters and
leaves the memory. -/
theorem runsTo_of_multiplies :
    Session.unlimited.Quiet ∧ Session.unlimited.out.Unlimited ∧ width multiplies ≤ 255 ∧
    width fills = 256 ∧
    RunsTo (code multiplies ++ [0x01]) Session.unlimited 5 14
      ⟨#v[72, 9, 0, 0, 0, 0, 0, 0xF4], 0, [0x37, 0x32, 0x0A]⟩ (.ok 5) ∧
    RunsTo (code multiplies) Session.unlimited 5 14
      ⟨#v[72, 9, 0, 0, 0, 0, 0, 0xF4], 0, [0x37, 0x32, 0x0A]⟩
      (.error (.fault (.unknownInstruction 0))) ∧
    RunsTo (code fills) Session.unlimited 127 256
      ⟨#v[0, 0, 65, 0, 0, 0, 0, 0xF4], 1, List.replicate 125 65⟩ (.error (.fault (.bus 256))) := by
  have hquiet := Session.unlimited_quiet
  have hout := Session.unlimited_out
  have hmultiplies : width multiplies ≤ 255 := by decide
  have hfills : width fills = 256 := by decide +kernel
  obtain ⟨hhalts, hzero, -⟩ := runsTo_of_text multiplies hquiet hout
  obtain ⟨-, -, hfull⟩ := runsTo_of_text fills hquiet hout
  refine ⟨hquiet, hout, hmultiplies, hfills, hhalts hmultiplies, hzero (by omega), ?_⟩
  have hwork : meaning fills .reset =
      ⟨#v[0, 0, 65, 0, 0, 0, 0, 0xF4], 1, List.replicate 125 65⟩ := by
    decide +kernel
  rw [← hwork]
  exact hfull hfills

end StraightLine

end ByteMachine
