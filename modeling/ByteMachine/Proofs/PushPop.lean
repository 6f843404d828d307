import ByteMachine.Proofs.InstructionTable

/-!
# A push and the pop behind it

A push and a pop that follow each other move a byte from one register to another and leave the
stack pointer where it was, as long as neither of the registers is the stack pointer. A push
moves the stack pointer before it reads its register, so what it puts on the stack of the stack
pointer is the moved value; and a pop moves the stack pointer after it has written its register,
so a byte that it takes into the stack pointer is moved on by one. The two make up for each
other only where both registers are the stack pointer.

The cell of the push may be any cell but those of the pop, also one of the push itself.
-/

set_option autoImplicit false

namespace ByteMachine

/-- A byte that is put beside some bytes leaves them where they stand. -/
theorem Memory.Holds.put {memory : Memory} {address target : Nat} {bytes : List UInt8}
    (h : memory.Holds address bytes) (value : UInt8)
    (hbeside : target < address ∨ address + bytes.length ≤ target) :
    (memory.put target value).Holds address bytes := by
  intro i hi
  rw [peek?_put, if_neg (by omega), h i hi]

namespace Machine

variable {machine : Machine} {a b : UInt8}

/-! ## Both instructions -/

/-- A pop gives back the stack pointer that a push has moved, unless it takes its byte into the
stack pointer, which it then moves on. -/
theorem registers_pop_push (cpu : Cpu) (hb : b.toNat < 8) (value : UInt8) :
    let written := (cpu.setSp (cpu.sp - 1)).put b value
    (written.setSp (written.sp + 1)).registers =
      (cpu.put b (if b = 7 then value + 1 else value)).registers := by
  intro written
  have hseven : b = 7 ↔ b.toNat = 7 := UInt8.toNat_inj.symm
  apply Vector.ext
  intro i hi
  rw [Cpu.registers_put _ _ hb]
  simp only [written, Cpu.setSp, Cpu.sp, Cpu.registers_put _ _ hb, Vector.getElem_set]
  -- the stack pointer is written up to three times, the register of the pop once
  by_cases hi7 : 7 = i
  · subst hi7
    by_cases hb7 : b.toNat = 7
    · simp [hseven, hb7]
    · simp [hb7]
  · by_cases hib : b.toNat = i
    · simp [hseven, hi7, hib, Ne.symm hi7]
    · simp [hi7, hib]

/-- The machine after a push of the first register and a pop into the second. -/
def transferred (machine : Machine) (a b : UInt8) : Machine where
  cpu := { machine.cpu.put b (if b = 7 then machine.pushed a + 1 else machine.pushed a) with
    pc := machine.cpu.pc + 4 }
  memory := machine.memory.put (machine.cpu.sp - 1).toNat (machine.pushed a)

/-- A push of a register that exists goes on if there is a cell below the stack pointer. -/
theorem cycle_push (ha : a.toNat < 8) (hcode : machine.Reads [0x45, a])
    (hcell : (machine.cpu.sp - 1).toNat < machine.memory.cells.size) :
    machine.cycle = (.running, machine.perform (.push a)) := by
  apply cycle_of_reads machine (.push a) (by simp) hcode
  simp [obstacle?, Cpu.unnamed?_eq_none_iff, Memory.missing?_eq_none_iff, ha, hcell]

/-- A pop into a register that exists goes on if there is a cell at the stack pointer. -/
theorem cycle_pop (hb : b.toNat < 8) (hcode : machine.Reads [0x46, b])
    (hcell : machine.cpu.sp.toNat < machine.memory.cells.size) :
    machine.cycle = (.running, machine.perform (.pop b)) := by
  apply cycle_of_reads machine (.pop b) (by simp) hcode
  simp [obstacle?, Cpu.unnamed?_eq_none_iff, Memory.missing?_eq_none_iff, hb, hcell]

/-- The push has stored its byte where the stack pointer points to when the pop looks for it. -/
theorem perform_pop_push (hb : b.toNat < 8)
    (hcell : (machine.cpu.sp - 1).toNat < machine.memory.cells.size) :
    (machine.perform (.push a)).perform (.pop b) = machine.transferred a b := by
  have hsp : (machine.perform (.push a)).cpu.sp = machine.cpu.sp - 1 := Cpu.sp_setSp _ _
  have htop : (machine.perform (.push a)).memory.cell (machine.perform (.push a)).cpu.sp.toNat =
      machine.pushed a := by
    rw [hsp]
    apply Memory.cell_of_peek?
    exact (machine.memory.peek?_put _ _ _).trans (if_pos ⟨rfl, hcell⟩)
  have hregisters : (machine.perform (.push a)).registersAfter (.pop b) =
      (machine.transferred a b).cpu.registers := by
    rw [registersAfter, htop]
    exact registers_pop_push machine.cpu hb (machine.pushed a)
  rw [perform, hregisters]
  simp [transferred, perform, pcAfter, flagsAfter, printed, memoryAfter, Instruction.width_eq,
    Instruction.operands, Cpu.put]

/-- Both cycles go on, in a memory of any size that has a cell for the byte. -/
theorem after_transfer (ha : a.toNat < 8) (hb : b.toNat < 8)
    (hcode : machine.Reads [0x45, a, 0x46, b])
    (hcell : (machine.cpu.sp - 1).toNat < machine.memory.cells.size)
    (hbeside : (machine.cpu.sp - 1).toNat < machine.cpu.pc + 2 ∨
      machine.cpu.pc + 4 ≤ (machine.cpu.sp - 1).toNat) :
    machine.RunsFor 2 ∧ machine.after 2 = machine.transferred a b := by
  obtain ⟨hpush, hpop⟩ := Memory.holds_append.mp (show machine.memory.Holds machine.cpu.pc
    ([0x45, a] ++ [0x46, b]) from hcode)
  have hfirst := cycle_push ha hpush hcell
  have hpc : (machine.perform (.push a)).cpu.pc = machine.cpu.pc + 2 := by
    simp [perform, pcAfter, Instruction.width_eq, Instruction.operands]
  -- the byte of the push lies beside the pop, though perhaps over the push
  have hstands : (machine.perform (.push a)).Reads [0x46, b] := by
    rw [Reads, hpc]
    exact hpop.put _ hbeside
  have hsecond : (machine.perform (.push a)).cycle = (.running, machine.transferred a b) := by
    rw [← perform_pop_push hb hcell]
    apply cycle_pop hb hstands
    simpa [perform, memoryAfter, Memory.put, registersAfter, Cpu.sp, Cpu.setSp] using hcell
  constructor
  · rw [runsFor_succ_left, hfirst, runsFor_succ_left, hsecond]
    simp [RunsFor]
  · rw [after_succ_left, hfirst, after_succ_left, hsecond]
    rfl

/-! ## What the pair leaves -/

/-- The register popped into holds what was pushed, unless it is the stack pointer. -/
theorem value_transferred (machine : Machine) (a : UInt8) (hb : b.toNat < 8) :
    (machine.transferred a b).cpu.value b =
      if b = 7 then machine.pushed a + 1 else machine.pushed a :=
  machine.cpu.value_put_self _ hb

/-- The stack pointer is where it was before the push, unless it was popped into. -/
theorem sp_transferred (machine : Machine) (a b : UInt8) :
    (machine.transferred a b).cpu.sp =
      if b = 7 then machine.pushed a + 1 else machine.cpu.sp := by
  by_cases hb7 : b = 7
  · subst hb7
    simp [transferred, Cpu.put, Cpu.sp]
  · rw [if_neg hb7]
    exact machine.cpu.sp_put_of_ne _ hb7

/-- What a push takes from the stack pointer, a pop into it gives back. -/
theorem registers_transferred_self (machine : Machine) :
    (machine.transferred 7 7).cpu.registers = machine.cpu.registers := by
  apply Vector.ext
  intro i hi
  by_cases hi7 : i = 7
  · subst hi7
    simp [transferred, pushed, Cpu.put, Cpu.sp]
  · simp [transferred, Cpu.put, Ne.symm hi7]

/-- The other registers hold what they held. -/
theorem getElem_transferred_of_ne (machine : Machine) (a : UInt8) {i : Nat} (hi : i < 8)
    (hib : i ≠ b.toNat) :
    (machine.transferred a b).cpu.registers[i] = machine.cpu.registers[i] :=
  Vector.getElem_setIfInBounds_ne hi hib.symm

/-- The cell below the stack pointer holds what was pushed, and the other cells look as before. -/
theorem peek?_transferred (machine : Machine) (a b : UInt8) (address : Nat)
    (hcell : (machine.cpu.sp - 1).toNat < machine.memory.cells.size) :
    (machine.transferred a b).memory.peek? address =
      if address = (machine.cpu.sp - 1).toNat then some (machine.pushed a)
      else machine.memory.peek? address := by
  simp [transferred, Memory.peek?_put, hcell, eq_comm]

/-- A push and the pop behind it, in the machine's own memory of 256 cells and for all pairs of
registers. If the push does not put its byte over the pop, both cycles go on, and they change
nothing but the cell of the push, the register of the pop and the stack pointer. What these hold
then depends on which of the two registers is the stack pointer. -/
theorem transfer_of_pushPop {machine : Machine} {a b : UInt8}
    (hram : machine.memory.cells.size = 256) (ha : a.toNat < 8) (hb : b.toNat < 8)
    (hcode : machine.Reads [0x45, a, 0x46, b])
    (hopcode : (machine.cpu.sp - 1).toNat ≠ machine.cpu.pc + 2)
    (hoperand : (machine.cpu.sp - 1).toNat ≠ machine.cpu.pc + 3) :
    machine.RunsFor 2 ∧
    (machine.after 2).cpu.pc = machine.cpu.pc + 4 ∧
    (machine.after 2).cpu.flags = machine.cpu.flags ∧
    (machine.after 2).cpu.pending = machine.cpu.pending ∧
    (∀ address, (machine.after 2).memory.peek? address =
      if address = (machine.cpu.sp - 1).toNat then
        some (if a = 7 then machine.cpu.sp - 1 else machine.cpu.value a)
      else machine.memory.peek? address) ∧
    (a ≠ 7 → b ≠ 7 → (machine.after 2).cpu.value b = machine.cpu.value a ∧
      (machine.after 2).cpu.sp = machine.cpu.sp) ∧
    (a = 7 → b ≠ 7 → (machine.after 2).cpu.value b = machine.cpu.sp - 1 ∧
      (machine.after 2).cpu.sp = machine.cpu.sp) ∧
    (a ≠ 7 → b = 7 → (machine.after 2).cpu.sp = machine.cpu.value a + 1) ∧
    (a = 7 → b = 7 → (machine.after 2).cpu.registers = machine.cpu.registers) ∧
    ∀ i (hi : i < 8), i ≠ b.toNat → i ≠ 7 →
      (machine.after 2).cpu.registers[i] = machine.cpu.registers[i] := by
  have hcell : (machine.cpu.sp - 1).toNat < machine.memory.cells.size := by
    rw [hram]
    exact (machine.cpu.sp - 1).toNat_lt
  obtain ⟨hrun, hafter⟩ := after_transfer ha hb hcode hcell (by omega)
  have hvalue := machine.value_transferred a hb
  have hsp := machine.sp_transferred a b
  rw [hafter]
  refine ⟨hrun, rfl, rfl, rfl, fun address => machine.peek?_transferred a b address hcell,
    ?_, ?_, ?_, ?_, fun i hi hib _ => machine.getElem_transferred_of_ne a hi hib⟩
  · intro ha7 hb7
    rw [if_neg hb7] at hvalue hsp
    exact ⟨hvalue.trans (if_neg ha7), hsp⟩
  · intro ha7 hb7
    rw [if_neg hb7] at hvalue hsp
    exact ⟨hvalue.trans (if_pos ha7), hsp⟩
  · intro ha7 hb7
    rw [if_pos hb7, pushed, if_neg ha7] at hsp
    exact hsp
  · rintro rfl rfl
    exact machine.registers_transferred_self

/-- Pushes a register and pops another one, with the stack pointer at 0. -/
def transfers (a b : UInt8) : Machine where
  cpu := { Cpu.reset with registers := #v[40, 0, 0, 0, 0, 0, 0, 0] }
  memory := Memory.beginning [0x45, a, 0x46, b]

/-- With the stack pointer at 0, a push of it stores 255 and a push of another register stores
its value. A pop into the stack pointer adds one, which undoes the push of the stack pointer. -/
theorem transfer_of_transfers :
    (transfers 7 1).memory.cells.size = 256 ∧ (transfers 7 1).Reads [0x45, 7, 0x46, 1] ∧
    (transfers 7 1).RunsFor 2 ∧
    ((transfers 7 1).after 2).cpu.value 1 = 255 ∧ ((transfers 7 1).after 2).cpu.sp = 0 ∧
    ((transfers 0 1).after 2).cpu.value 1 = 40 ∧ ((transfers 0 1).after 2).cpu.sp = 0 ∧
    ((transfers 0 7).after 2).cpu.sp = 41 ∧
    ((transfers 7 7).after 2).cpu.registers = (transfers 7 7).cpu.registers := by
  have hram : ∀ a b, (transfers a b).memory.cells.size = 256 :=
    fun a b => Memory.size_beginning (by simp)
  have hcode : ∀ a b, (transfers a b).Reads [0x45, a, 0x46, b] :=
    fun a b => Memory.holds_beginning (by simp)
  have hpair := fun (a b : UInt8) (ha : a.toNat < 8) (hb : b.toNat < 8) =>
    transfer_of_pushPop (hram a b) ha hb (hcode a b)
      (show 255 ≠ 2 by decide) (show 255 ≠ 3 by decide)
  obtain ⟨hrun, -, -, -, -, -, hfirst, -⟩ := hpair 7 1 (by decide) (by decide)
  obtain ⟨-, -, -, -, -, hneither, -⟩ := hpair 0 1 (by decide) (by decide)
  obtain ⟨-, -, -, -, -, -, -, hsecond, -⟩ := hpair 0 7 (by decide) (by decide)
  obtain ⟨-, -, -, -, -, -, -, -, hboth, -⟩ := hpair 7 7 (by decide) (by decide)
  have htaken := hfirst rfl (by decide)
  have hmoved := hneither (by decide) (by decide)
  exact ⟨hram 7 1, hcode 7 1, hrun, htaken.1, htaken.2, hmoved.1, hmoved.2,
    hsecond (by decide) rfl, hboth rfl rfl⟩

end Machine

end ByteMachine
