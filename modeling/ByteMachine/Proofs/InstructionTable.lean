import ByteMachine.Proofs.EqualFlag
import ByteMachine.Proofs.Outcome
import ByteMachine.Proofs.Placement

/-!
# The instruction table

What an opcode and the bytes behind it do to a machine, written down as a table: a row says
which bytes have to stand at the program counter, which registers and cells there have to be,
and which machine comes of it. The table does without decoding, without the order of the
checks and without the arithmetic unit.

`Machine.cycle_eq_running_iff` says that a cycle goes on exactly where a row applies, and that
it leaves the machine of that row. What a row does not name it leaves alone.
-/

set_option autoImplicit false

namespace ByteMachine

/-! ## Registers and cells that there are -/

/-- A register that exists holds what stands at its index. -/
theorem Cpu.value_eq (cpu : Cpu) {index : UInt8} (h : index.toNat < 8) :
    cpu.value index = cpu.registers[index.toNat] := by
  simp [value, h]

/-- Putting a value into a register that exists replaces it at its index. -/
theorem Cpu.registers_put (cpu : Cpu) {index : UInt8} (value : UInt8) (h : index.toNat < 8) :
    (cpu.put index value).registers = cpu.registers.set index.toNat value := by
  simp [put, Vector.set, Vector.setIfInBounds, Array.setIfInBounds, h]

/-- Putting a byte into a cell that exists replaces it at its address. -/
theorem Memory.put_eq (memory : Memory) {address : Nat} (value : UInt8)
    (h : address < memory.cells.size) :
    memory.put address value = { memory with cells := memory.cells.set address value } := by
  simp [put, Array.setIfInBounds, h]

namespace Machine

/-! ## The table -/

/-- Some bytes stand at the program counter. -/
def Reads (machine : Machine) (bytes : List UInt8) : Prop :=
  machine.memory.Holds machine.cpu.pc bytes

instance (machine : Machine) (bytes : List UInt8) : Decidable (machine.Reads bytes) :=
  inferInstanceAs (Decidable (machine.memory.Holds machine.cpu.pc bytes))

/-- The rows of the table, with the machine that each of them makes of the one before. -/
inductive Row (before : Machine) : Machine → Prop
  /-- Set a register. -/
  | ldi {a value : UInt8} (code : before.Reads [0x82, a, value]) (ha : a.toNat < 8) :
      Row before { before with cpu := { before.cpu with
        registers := before.cpu.registers.set a.toNat value
        pc := before.cpu.pc + 3 } }
  /-- Print a register as a number. -/
  | prn {a : UInt8} (code : before.Reads [0x47, a]) (ha : a.toNat < 8) :
      Row before { before with cpu := { before.cpu with
        pending := before.cpu.pending ++
          utf8 (Numeral.decimal before.cpu.registers[a.toNat].toNat ++ "\n")
        pc := before.cpu.pc + 2 } }
  /-- Print a register as a character. -/
  | pra {a : UInt8} (code : before.Reads [0x48, a]) (ha : a.toNat < 8) :
      Row before { before with cpu := { before.cpu with
        pending := before.cpu.pending ++
          utf8 (String.singleton (Char.ofUInt8 before.cpu.registers[a.toNat]))
        pc := before.cpu.pc + 2 } }
  /-- Multiply the first register by the second. -/
  | mul {a b : UInt8} (code : before.Reads [0xA2, a, b]) (ha : a.toNat < 8) (hb : b.toNat < 8) :
      Row before { before with cpu := { before.cpu with
        registers := before.cpu.registers.set a.toNat
          (before.cpu.registers[a.toNat] * before.cpu.registers[b.toNat])
        pc := before.cpu.pc + 3 } }
  /-- Compare two registers, which sets the equal flag or leaves the flags as they are. -/
  | cmp {a b : UInt8} (code : before.Reads [0xA7, a, b]) (ha : a.toNat < 8) (hb : b.toNat < 8) :
      Row before { before with cpu := { before.cpu with
        flags := if before.cpu.registers[a.toNat] = before.cpu.registers[b.toNat] then
          before.cpu.flags ||| 1 else before.cpu.flags
        pc := before.cpu.pc + 3 } }
  /-- Move the stack pointer down, then store a register where it points. -/
  | push {a : UInt8} {lowered : Vector UInt8 8} (code : before.Reads [0x45, a]) (ha : a.toNat < 8)
      (moved : lowered = before.cpu.registers.set 7 (before.cpu.registers[7] - 1))
      (cell : lowered[7].toNat < before.memory.cells.size) :
      Row before {
        cpu := { before.cpu with registers := lowered, pc := before.cpu.pc + 2 }
        memory := { before.memory with
          cells := before.memory.cells.set lowered[7].toNat lowered[a.toNat] } }
  /-- Set a register to the byte at the stack pointer, then move the stack pointer up. -/
  | pop {a top : UInt8} {written : Vector UInt8 8} (code : before.Reads [0x46, a])
      (ha : a.toNat < 8) (cell : before.memory.peek? before.cpu.registers[7].toNat = some top)
      (taken : written = before.cpu.registers.set a.toNat top) :
      Row before { before with cpu := { before.cpu with
        registers := written.set 7 (written[7] + 1)
        pc := before.cpu.pc + 2 } }
  /-- Go to the address in a register. -/
  | jmp {a : UInt8} (code : before.Reads [0x54, a]) (ha : a.toNat < 8) :
      Row before { before with cpu := { before.cpu with
        pc := before.cpu.registers[a.toNat].toNat } }
  /-- Go there if the equal flag is set. -/
  | jeq {a : UInt8} (code : before.Reads [0x55, a]) (ha : a.toNat < 8) :
      Row before { before with cpu := { before.cpu with
        pc := if before.cpu.flags &&& 1 = 0 then before.cpu.pc + 2
          else before.cpu.registers[a.toNat].toNat } }
  /-- Go there if the equal flag is clear. -/
  | jne {a : UInt8} (code : before.Reads [0x56, a]) (ha : a.toNat < 8) :
      Row before { before with cpu := { before.cpu with
        pc := if before.cpu.flags &&& 1 = 0 then before.cpu.registers[a.toNat].toNat
          else before.cpu.pc + 2 } }

/-! ## Rows and cycles -/

variable {before after : Machine}

/-- An instruction at the counter that meets no obstacle is carried out, and the machine goes
on. -/
theorem cycle_of_reads (before : Machine) (instruction : Instruction) (hhlt : instruction ≠ .hlt)
    (hcode : before.Reads instruction.encode) (hpasses : before.obstacle? instruction = none) :
    before.cycle = (.running, before.perform instruction) := by
  rw [cycle_of_fetch (fetch_eq_ok_iff.mpr hcode) hhlt, hpasses]

section Effects

attribute [local simp] perform registersAfter pcAfter flagsAfter printed memoryAfter jumps
  Instruction.width_eq Instruction.operands Cpu.value_eq Cpu.registers_put

/-- Where a row applies, a cycle goes on and leaves the machine of that row. -/
theorem Row.cycle (h : before.Row after) : before.cycle = (.running, after) := by
  have named : ∀ {index : UInt8}, index.toNat < 8 → Cpu.unnamed? index = none :=
    fun {index} => (Cpu.unnamed?_eq_none_iff index).mpr
  cases h with
  | @ldi a value code ha =>
    rw [cycle_of_reads before (.ldi a value) (by simp) code (named ha)]
    simp [ha]
  | @prn a code ha =>
    rw [cycle_of_reads before (.prn a) (by simp) code (named ha)]
    simp [ha]
  | @pra a code ha =>
    rw [cycle_of_reads before (.pra a) (by simp) code (named ha)]
    simp [ha]
  | @mul a b code ha hb =>
    have hpasses : before.obstacle? (.mul a b) = none := by simp [obstacle?, named ha, named hb]
    rw [cycle_of_reads before (.mul a b) (by simp) code hpasses]
    simp [ha, hb]
  | @cmp a b code ha hb =>
    have hpasses : before.obstacle? (.cmp a b) = none := by simp [obstacle?, named ha, named hb]
    rw [cycle_of_reads before (.cmp a b) (by simp) code hpasses]
    simp [ha, hb]
  | @push a lowered code ha moved cell =>
    subst moved
    have hcell : (before.cpu.registers[7] - 1).toNat < before.memory.cells.size := by
      simpa using cell
    have hpasses : before.obstacle? (.push a) = none := by
      simp [obstacle?, named ha, Memory.missing?_eq_none_iff, hcell, Cpu.sp]
    rw [cycle_of_reads before (.push a) (by simp) code hpasses]
    simp [pushed_eq, Memory.put_eq _ _ hcell, ha, Cpu.setSp, Cpu.sp]
  | @pop a top written code ha cell taken =>
    subst taken
    have hcell : before.memory.missing? before.cpu.sp.toNat = none :=
      (before.memory.missing?_eq_none_iff _).mpr (Memory.lt_size_of_peek? cell)
    have hpasses : before.obstacle? (.pop a) = none := by simp [obstacle?, named ha, hcell]
    rw [cycle_of_reads before (.pop a) (by simp) code hpasses]
    simp [Memory.cell_of_peek? cell, ha, Cpu.setSp, Cpu.sp]
  | @jmp a code ha =>
    rw [cycle_of_reads before (.jmp a) (by simp) code (named ha)]
    simp [ha]
  | @jeq a code ha =>
    rw [cycle_of_reads before (.jeq a) (by simp) code (named ha)]
    simp [ha, Cpu.equal]
  | @jne a code ha =>
    rw [cycle_of_reads before (.jne a) (by simp) code (named ha)]
    simp [ha, Cpu.equal]

end Effects

/-- For an instruction that meets no obstacle there is a row. -/
theorem exists_row {instruction : Instruction} (hhlt : instruction ≠ .hlt)
    (hcode : before.Reads instruction.encode) (hpasses : before.obstacle? instruction = none) :
    ∃ after, before.Row after := by
  have named : ∀ {index : UInt8}, Cpu.unnamed? index = none → index.toNat < 8 :=
    fun {index} => (Cpu.unnamed?_eq_none_iff index).mp
  cases instruction with
  | ldi a value => exact ⟨_, .ldi hcode (named hpasses)⟩
  | prn a => exact ⟨_, .prn hcode (named hpasses)⟩
  | pra a => exact ⟨_, .pra hcode (named hpasses)⟩
  | mul a b =>
    obtain ⟨ha, hb⟩ := Option.or_eq_none_iff.mp hpasses
    exact ⟨_, .mul hcode (named ha) (named hb)⟩
  | cmp a b =>
    obtain ⟨ha, hb⟩ := Option.or_eq_none_iff.mp hpasses
    exact ⟨_, .cmp hcode (named ha) (named hb)⟩
  | push a =>
    obtain ⟨ha, hcell⟩ := Option.or_eq_none_iff.mp hpasses
    rw [Memory.missing?_eq_none_iff] at hcell
    exact ⟨_, .push hcode (named ha) rfl (by simpa [Cpu.sp] using hcell)⟩
  | pop a =>
    obtain ⟨hcell, ha⟩ := Option.or_eq_none_iff.mp hpasses
    rw [Memory.missing?_eq_none_iff] at hcell
    have htop := before.memory.peek?_eq before.cpu.sp.toNat
    rw [if_pos hcell] at htop
    exact ⟨_, .pop hcode (named ha) htop rfl⟩
  | jmp a => exact ⟨_, .jmp hcode (named hpasses)⟩
  | jeq a => exact ⟨_, .jeq hcode (named hpasses)⟩
  | jne a => exact ⟨_, .jne hcode (named hpasses)⟩
  | hlt => exact absurd rfl hhlt

/-- A cycle goes on exactly where a row applies, to the machine of that row. -/
theorem cycle_eq_running_iff (before after : Machine) :
    before.cycle = (.running, after) ↔ before.Row after := by
  refine ⟨?_, Row.cycle⟩
  intro hcycle
  obtain ⟨instruction, hfetch, hhlt, hpasses, -⟩ := cycle_of_running (congrArg Prod.fst hcycle)
  obtain ⟨other, hrow⟩ := exists_row hhlt (fetch_eq_ok_iff.mp hfetch) hpasses
  have hother := hrow.cycle
  rw [hcycle] at hother
  cases hother
  exact hrow

/-! ## What a row leaves alone -/

/-- The registers that an opcode replaces, given the byte behind it. -/
def replaced (opcode a : UInt8) : List Nat :=
  if opcode = 0x82 ∨ opcode = 0xA2 then [a.toNat]
  else if opcode = 0x45 then [7]
  else if opcode = 0x46 then [a.toNat, 7]
  else []

/-- What an opcode leaves alone, given the byte behind it: all registers but those it replaces,
all cells but the one to which a push moves the stack pointer, all flags but the equal flag,
which a comparison may set, and what was printed before. -/
structure Spares (opcode a : UInt8) (before after : Machine) : Prop where
  registers : ∀ i (hi : i < 8), i ∉ replaced opcode a →
    after.cpu.registers[i] = before.cpu.registers[i]
  cells : ∀ address, (opcode = 0x45 → address ≠ (before.cpu.sp - 1).toNat) →
    after.memory.peek? address = before.memory.peek? address
  flags : after.cpu.flags &&& 0xFE = before.cpu.flags &&& 0xFE
  equal : opcode ≠ 0xA7 → after.cpu.flags = before.cpu.flags
  printed : before.cpu.pending <+: after.cpu.pending
  silent : opcode ≠ 0x47 → opcode ≠ 0x48 → after.cpu.pending = before.cpu.pending

/-- The first two bytes of an instruction are what the cells at the counter and behind it hold. -/
theorem Reads.bytes {opcode a : UInt8} {rest : List UInt8}
    (h : before.Reads (opcode :: a :: rest)) :
    before.memory.cell before.cpu.pc = opcode ∧ before.memory.cell (before.cpu.pc + 1) = a :=
  ⟨Memory.cell_of_peek? (h 0 (by simp)), Memory.cell_of_peek? (h 1 (by simp))⟩

/-- A row of the table leaves alone what the opcode in it spares. -/
theorem Row.spares (h : before.Row after) :
    Spares (before.memory.cell before.cpu.pc) (before.memory.cell (before.cpu.pc + 1)) before
      after := by
  cases h with
  | @ldi a _ code ha | @mul a _ code ha =>
    rw [code.bytes.1, code.bytes.2]
    constructor
    case registers =>
      intro i hi hnot
      have hne : i ≠ a.toNat := by simpa [replaced] using hnot
      exact Vector.getElem_set_ne ha hi hne.symm
    all_goals simp
  | @cmp a b code ha hb =>
    rw [code.bytes.1]
    constructor
    case flags =>
      simp only []
      split
      · exact or_one_and_rest before.cpu.flags
      · rfl
    all_goals simp
  | @push a lowered code ha moved cell =>
    rw [code.bytes.1]
    subst moved
    constructor
    case registers =>
      intro i hi hnot
      have hne : i ≠ 7 := by simpa [replaced] using hnot
      exact Vector.getElem_set_ne (by omega) hi hne.symm
    case cells =>
      intro address hother
      have hne : address ≠ (before.cpu.registers[7] - 1).toNat := hother rfl
      simp [Memory.peek?, Array.getElem?_set_ne, hne.symm]
    all_goals simp
  | @pop a top written code ha cell taken =>
    rw [code.bytes.1, code.bytes.2]
    subst taken
    constructor
    case registers =>
      intro i hi hnot
      have hne : i ≠ a.toNat ∧ i ≠ 7 := by simpa [replaced] using hnot
      simp [Vector.getElem_set, hne.1.symm, hne.2.symm]
    all_goals simp
  | @prn _ code | @pra _ code | @jmp _ code | @jeq _ code | @jne _ code =>
    rw [code.bytes.1]
    constructor <;> simp

/-! ## Conditional jumps -/

/-- With another opcode in its cell the machine reads the same operands behind that one. -/
theorem Reads.put_opcode {opcode other : UInt8} {rest : List UInt8}
    (h : before.Reads (opcode :: rest)) :
    Reads { before with memory := before.memory.put before.cpu.pc other } (other :: rest) := by
  intro i hi
  cases i with
  | zero =>
    have hcell : before.cpu.pc < before.memory.cells.size := Memory.lt_size_of_peek? (h 0 hi)
    simp [Memory.peek?_put, hcell]
  | succ i =>
    have hbyte := h (i + 1) hi
    simpa [Memory.peek?_put] using hbyte

/-- Of the two conditional jumps on one register, carried out in one state, one goes to the
address in the register and the other goes on behind its operand. -/
theorem cycle_of_conditional {machine other : Machine} {register : UInt8}
    (hregister : register.toNat < 8) (hcode : machine.Reads [0x55, register])
    (hcodeOther : other.Reads [0x56, register]) (hcpu : other.cpu = machine.cpu) :
    machine.cycle.1 = .running ∧ other.cycle.1 = .running ∧
      if machine.cpu.flags &&& 1 = 0 then
        machine.cycle.2.cpu.pc = machine.cpu.pc + 2 ∧
          other.cycle.2.cpu.pc = (machine.cpu.value register).toNat
      else
        machine.cycle.2.cpu.pc = (machine.cpu.value register).toNat ∧
          other.cycle.2.cpu.pc = machine.cpu.pc + 2 := by
  have hjeq := (Row.jeq hcode hregister).cycle
  have hjne := (Row.jne hcodeOther hregister).cycle
  rw [hjeq, hjne, machine.cpu.value_eq hregister]
  simp only [hcpu]
  refine ⟨trivial, trivial, ?_⟩
  split
  · simp [*]
  · simp [*]

/-! ## The table and the cycles -/

/-- With a memory of any size a cycle goes on exactly where a row of the table applies, and
leaves the machine of that row, with everything that the row does not name as it was. If no
jump is carried out, the program counter goes on behind the operands that the opcode counts.
A halt changes nothing at all. Of the two conditional jumps on one register, carried out in
one state, exactly one is taken. -/
theorem table_of_cycle (machine : Machine) :
    (∀ after, machine.cycle = (.running, after) ↔ machine.Row after) ∧
    (∀ after, machine.Row after →
      Spares (machine.memory.cell machine.cpu.pc) (machine.memory.cell (machine.cpu.pc + 1))
        machine after) ∧
    (∀ opcode ∈ Instruction.oneOperand, 1 + operandCount opcode = 2) ∧
    (∀ opcode ∈ Instruction.twoOperands, 1 + operandCount opcode = 3) ∧
    (machine.cycle.1 = .halted → machine.cycle.2 = machine) ∧
    ∀ (other : Machine) (register : UInt8), register.toNat < 8 →
      machine.Reads [0x55, register] →
      other = { machine with memory := machine.memory.put machine.cpu.pc 0x56 } →
      machine.cycle.1 = .running ∧ other.cycle.1 = .running ∧
        if machine.cpu.flags &&& 1 = 0 then
          machine.cycle.2.cpu.pc = machine.cpu.pc + 2 ∧
            other.cycle.2.cpu.pc = (machine.cpu.value register).toNat
        else
          machine.cycle.2.cpu.pc = (machine.cpu.value register).toNat ∧
            other.cycle.2.cpu.pc = machine.cpu.pc + 2 := by
  refine ⟨machine.cycle_eq_running_iff, fun after => Row.spares, ?_, ?_, cycle_of_halted, ?_⟩
  · intro opcode hmem
    obtain ⟨instruction, rfl, hwidth⟩ := Instruction.exists_of_mem_oneOperand hmem
    exact hwidth
  · intro opcode hmem
    obtain ⟨instruction, rfl, hwidth⟩ := Instruction.exists_of_mem_twoOperands hmem
    exact hwidth
  · rintro other register hregister hcode rfl
    exact cycle_of_conditional hregister hcode hcode.put_opcode rfl

/-- Takes the top of the stack into the stack pointer. -/
def popsPointer : Machine where
  cpu := Cpu.reset
  memory := (Memory.beginning [0x46, 7]).put 0xF4 20

/-- Jumps to 64 if the equal flag is set, which it is not. -/
def jumpsIfEqual : Machine where
  cpu := { Cpu.reset with registers := #v[0, 0, 64, 0, 0, 0, 0, 0xF4] }
  memory := Memory.beginning [0x55, 2]

/-- The same jump if the equal flag is clear. -/
def jumpsIfClear : Machine :=
  { jumpsIfEqual with memory := jumpsIfEqual.memory.put 0 0x56 }

/-- A pop into the stack pointer leaves the popped value plus one there. Of two conditional
jumps that differ in the opcode alone, one is taken and the other one is not. -/
theorem table_of_popsPointer :
    popsPointer.Row popsPointer.cycle.2 ∧ popsPointer.cycle.2.cpu.sp = 21 ∧
    Spares 0x46 7 popsPointer popsPointer.cycle.2 ∧
    (2 : UInt8).toNat < 8 ∧ jumpsIfEqual.Reads [0x55, 2] ∧
    jumpsIfEqual.cycle.2.cpu.pc = 2 ∧ jumpsIfClear.cycle.2.cpu.pc = 64 := by
  obtain ⟨hrows, hspares, -⟩ := table_of_cycle popsPointer
  obtain ⟨-, -, -, -, -, hjumps⟩ := table_of_cycle jumpsIfEqual
  have hrunning : popsPointer.cycle.1 = .running := by decide +kernel
  have hcycle : popsPointer.cycle = (.running, popsPointer.cycle.2) := by rw [← hrunning]
  have hrow := (hrows popsPointer.cycle.2).mp hcycle
  have hopcode : popsPointer.memory.cell popsPointer.cpu.pc = 0x46 := by decide +kernel
  have hregister : popsPointer.memory.cell (popsPointer.cpu.pc + 1) = 7 := by decide +kernel
  have hspared := hspares _ hrow
  rw [hopcode, hregister] at hspared
  have hcode : jumpsIfEqual.Reads [0x55, 2] := Memory.holds_beginning (by decide)
  obtain ⟨-, -, htaken⟩ := hjumps jumpsIfClear 2 (by decide) hcode rfl
  rw [if_pos (by decide)] at htaken
  exact ⟨hrow, by decide +kernel, hspared, by decide, hcode, htaken⟩

end Machine

end ByteMachine
