import ByteMachine.Proofs.InstructionTable
import ByteMachine.Proofs.Resumption

/-!
# What a fault leaves behind

A cycle that meets a fault leaves the machine as it was, with one exception: a push moves the
stack pointer before it looks at its register and at the cell it is to store into, so a push
that meets a fault leaves the stack pointer moved. Every other instruction makes all of its
checks before it changes anything.

So where a run ends with a fault, the machine is what the cycles before the last one have made
of it, but for the stack pointer of a push.
-/

set_option autoImplicit false

namespace ByteMachine

namespace Machine

variable {machine : Machine} {fault : Fault}

/-! ## One cycle -/

/-- A push that meets a fault leaves the stack pointer moved. What stops it is its register or,
if there is such a register, the cell. -/
theorem cycle_of_push_fault {a : UInt8} (hcode : machine.Reads [0x45, a])
    (h : machine.cycle.1 = .faulted fault) :
    machine.cycle.2 = machine.lowered ∧
      ((8 ≤ a.toNat ∧ fault = .invalidRegister a) ∨
        (a.toNat < 8 ∧ machine.memory.cells.size ≤ (machine.cpu.sp - 1).toNat ∧
          fault = .bus (machine.cpu.sp - 1).toNat)) := by
  have hpush : machine.fetch = .ok (.push a) := fetch_eq_ok_iff.mpr hcode
  obtain ⟨hfetch, -⟩ | ⟨instruction, hfetch, -, hobstacle, hleft⟩ := cycle_of_faulted h
  · rw [hpush] at hfetch
    cases hfetch
  rw [hpush] at hfetch
  cases hfetch
  refine ⟨hleft, ?_⟩
  obtain hname | ⟨hname, hcell⟩ := Option.or_eq_some_iff.mp hobstacle
  · left
    exact Cpu.unnamed?_eq_some_iff.mp hname
  · right
    exact ⟨(Cpu.unnamed?_eq_none_iff a).mp hname, Memory.missing?_eq_some_iff.mp hcell⟩

/-- Any other cycle that meets a fault changes nothing. -/
theorem cycle_of_other_fault (hcode : ∀ a, ¬ machine.Reads [0x45, a])
    (h : machine.cycle.1 = .faulted fault) : machine.cycle.2 = machine := by
  obtain ⟨-, hstays⟩ | ⟨instruction, hfetch, -, -, hleft⟩ := cycle_of_faulted h
  · exact hstays
  · rw [hleft]
    cases instruction with
    | push a => exact absurd (fetch_eq_ok_iff.mp hfetch) (hcode a)
    | _ => rfl

/-- Moving the stack pointer leaves everything else alone. -/
theorem lowered_keeps (machine : Machine) :
    machine.lowered.memory = machine.memory ∧ machine.lowered.cpu.pc = machine.cpu.pc ∧
      machine.lowered.cpu.flags = machine.cpu.flags ∧
      machine.lowered.cpu.pending = machine.cpu.pending ∧
      (∀ i (hi : i < 8), i ≠ 7 →
        machine.lowered.cpu.registers[i] = machine.cpu.registers[i]) ∧
      machine.lowered.cpu.sp = machine.cpu.sp - 1 := by
  refine ⟨rfl, rfl, rfl, rfl, ?_, machine.cpu.sp_setSp _⟩
  intro i hi hne
  exact Vector.getElem_set_ne (by omega) hi hne.symm

/-! ## Faults by their cause -/

/-- An obstacle to the instruction at the counter ends the cycle with the obstacle's fault,
and the machine has stumbled over it. -/
theorem cycle_of_obstacle (instruction : Instruction) (hhlt : instruction ≠ .hlt)
    (hcode : machine.Reads instruction.encode)
    (hobstacle : machine.obstacle? instruction = some fault) :
    machine.cycle = (.faulted fault, machine.stumbled instruction) := by
  rw [cycle_of_fetch (fetch_eq_ok_iff.mpr hcode) hhlt, hobstacle]

/-- An opcode whose operands do not fit in memory ends the cycle with the fault of the first
address behind it. -/
theorem cycle_of_missing_operand {opcode : UInt8}
    (hopcode : machine.memory.peek? machine.cpu.pc = some opcode)
    (hmem : opcode ∈ Instruction.oneOperand ++ Instruction.twoOperands)
    (hend : machine.memory.cells.size ≤ machine.cpu.pc + operandCount opcode) :
    machine.cycle = (.faulted (.bus machine.memory.cells.size), machine) := by
  obtain ⟨instruction, -, rfl⟩ := (Instruction.mem_tables_iff opcode).mp hmem
  have hbeyond : machine.memory.cells.size < machine.cpu.pc + instruction.width := by
    rw [Instruction.width]
    omega
  apply cycle_of_fetch_error
  rw [fetch_eq_bus_iff]
  exact .inr ⟨rfl, instruction, hopcode, hbeyond⟩

/-- A byte from 8 on names no register. -/
theorem unnamed?_of_le {index : UInt8} (h : 8 ≤ index.toNat) :
    Cpu.unnamed? index = some (.invalidRegister index) :=
  Cpu.unnamed?_eq_some_iff.mpr ⟨h, rfl⟩

/-- A multiplication or a comparison whose second register does not exist changes nothing. -/
theorem cycle_of_unnamed_second {a b : UInt8} (ha : a.toNat < 8) (hb : 8 ≤ b.toNat)
    (hcode : machine.Reads [0xA2, a, b] ∨ machine.Reads [0xA7, a, b]) :
    machine.cycle = (.faulted (.invalidRegister b), machine) := by
  have hnames : (Cpu.unnamed? a).or (Cpu.unnamed? b) = some (.invalidRegister b) := by
    rw [(Cpu.unnamed?_eq_none_iff a).mpr ha, unnamed?_of_le hb, Option.none_or]
  obtain hmul | hcmp := hcode
  · exact cycle_of_obstacle (.mul a b) (by simp) hmul hnames
  · exact cycle_of_obstacle (.cmp a b) (by simp) hcmp hnames

/-- A conditional jump through a register that does not exist changes nothing, whether it
would be taken or not. -/
theorem cycle_of_unnamed_target {a : UInt8} (ha : 8 ≤ a.toNat)
    (hcode : machine.Reads [0x55, a] ∨ machine.Reads [0x56, a]) :
    machine.cycle = (.faulted (.invalidRegister a), machine) := by
  obtain hjeq | hjne := hcode
  · exact cycle_of_obstacle (.jeq a) (by simp) hjeq (unnamed?_of_le ha)
  · exact cycle_of_obstacle (.jne a) (by simp) hjne (unnamed?_of_le ha)

/-- A pop into a register that does not exist has looked at its cell before. -/
theorem cycle_of_unnamed_pop {a : UInt8} (ha : 8 ≤ a.toNat) (hcode : machine.Reads [0x46, a]) :
    machine.cycle = (.faulted (if machine.memory.cells.size ≤ machine.cpu.sp.toNat then
      .bus machine.cpu.sp.toNat else .invalidRegister a), machine) := by
  apply cycle_of_obstacle (.pop a) (by simp) hcode
  rw [obstacle?, unnamed?_of_le ha, Memory.missing?_eq]
  split
  · rfl
  · rfl

/-! ## Whole runs -/

/-- Where a run ends with a fault, whatever its console refuses, its machine has made the
cycles before that of the fault, and then that one. -/
theorem machine_of_fault {console : Console} {fuel : Nat} {ended : Session}
    (h : (Session.start machine console).run fuel = some (ended, .error (.fault fault))) :
    ∃ count < fuel, machine.RunsFor count ∧ (machine.after count).cycle.1 = .faulted fault ∧
      ended.machine = (machine.after count).cycle.2.collected := by
  obtain ⟨count, hlt, hnone, hanswer⟩ := Session.cycle_of_run h
  obtain ⟨hrun, hstate⟩ := Session.runsFor_of_no_answer hnone
  have hfaulted := Session.fault_of_advance (congrArg Prod.snd hanswer)
  have hended := Session.machine_of_answer hanswer (by simp)
  rw [hstate, cycle_delivered] at hfaulted hended
  exact ⟨count, hlt, hrun, hfaulted, hended⟩

/-- With a memory of any size, a cycle that meets a fault changes nothing, unless the opcode at
the program counter is that of a push and its operand has a cell. Then the stack pointer has
moved down by one, and nothing else has changed. In particular an opcode that belongs to no
instruction, a missing operand, a pop into a register that does not exist, a conditional jump
by one, taken or not, and a multiplication or comparison whose second register does not exist
leave no trace. A run that ends with a fault leaves the machine as the cycles before the last
one have made it, but for the stack pointer of a push. -/
theorem atomic_of_fault (machine : Machine) :
    (∀ fault, machine.cycle.1 = .faulted fault →
      (∀ a, machine.Reads [0x45, a] → machine.cycle.2 = machine.lowered ∧
        ((8 ≤ a.toNat ∧ fault = .invalidRegister a) ∨
          (a.toNat < 8 ∧ machine.memory.cells.size ≤ (machine.cpu.sp - 1).toNat ∧
            fault = .bus (machine.cpu.sp - 1).toNat))) ∧
      ((∀ a, ¬ machine.Reads [0x45, a]) → machine.cycle.2 = machine) ∧
      ∀ code, fault = .unknownInstruction code → machine.cycle.2 = machine) ∧
    (machine.lowered.memory = machine.memory ∧ machine.lowered.cpu.pc = machine.cpu.pc ∧
      machine.lowered.cpu.flags = machine.cpu.flags ∧
      machine.lowered.cpu.pending = machine.cpu.pending ∧
      (∀ i (hi : i < 8), i ≠ 7 →
        machine.lowered.cpu.registers[i] = machine.cpu.registers[i]) ∧
      machine.lowered.cpu.sp = machine.cpu.sp - 1) ∧
    (∀ opcode, machine.memory.peek? machine.cpu.pc = some opcode →
      opcode ∈ Instruction.oneOperand ++ Instruction.twoOperands →
      machine.memory.cells.size ≤ machine.cpu.pc + operandCount opcode →
      machine.cycle = (.faulted (.bus machine.memory.cells.size), machine)) ∧
    (∀ a, 8 ≤ a.toNat →
      (machine.Reads [0x46, a] → machine.cycle =
        (.faulted (if machine.memory.cells.size ≤ machine.cpu.sp.toNat then
          .bus machine.cpu.sp.toNat else .invalidRegister a), machine)) ∧
      (machine.Reads [0x55, a] ∨ machine.Reads [0x56, a] →
        machine.cycle = (.faulted (.invalidRegister a), machine)) ∧
      ∀ first, first.toNat < 8 →
        machine.Reads [0xA2, first, a] ∨ machine.Reads [0xA7, first, a] →
        machine.cycle = (.faulted (.invalidRegister a), machine)) ∧
    ∀ (console : Console) (fuel : Nat) (ended : Session) (fault : Fault),
      (Session.start machine console).run fuel = some (ended, .error (.fault fault)) →
      ∃ count < fuel, machine.RunsFor count ∧ (machine.after count).cycle.1 = .faulted fault ∧
        (∀ a, (machine.after count).Reads [0x45, a] →
          ended.machine = (machine.after count).lowered.collected) ∧
        ((∀ a, ¬ (machine.after count).Reads [0x45, a]) →
          ended.machine = (machine.after count).collected) := by
  refine ⟨?_, machine.lowered_keeps, fun opcode => cycle_of_missing_operand, ?_, ?_⟩
  · intro fault hfault
    refine ⟨fun a hcode => cycle_of_push_fault hcode hfault,
      fun hcode => cycle_of_other_fault hcode hfault, ?_⟩
    rintro code rfl
    exact (fetch_of_unknown hfault).2
  · intro a ha
    exact ⟨cycle_of_unnamed_pop ha, cycle_of_unnamed_target ha,
      fun first hfirst => cycle_of_unnamed_second hfirst ha⟩
  · intro console fuel ended fault hanswer
    obtain ⟨count, hlt, hrun, hfault, hended⟩ := machine_of_fault hanswer
    refine ⟨count, hlt, hrun, hfault, ?_, ?_⟩
    · intro a hcode
      rw [hended, (cycle_of_push_fault hcode hfault).1]
    · intro hcode
      rw [hended, cycle_of_other_fault hcode hfault]

/-- Prints a register and pushes one that does not exist. -/
def pushesUnnamed : Machine :=
  Machine.start (Memory.beginning [0x47, 0, 0x45, 9])

/-- Multiplies by a register that does not exist. -/
def multipliesUnnamed : Machine :=
  Machine.start (Memory.beginning [0xA2, 0, 8])

/-- A multiplication and a pop that fail leave the machine as it was. A push that fails has
moved the stack pointer, and the run that ends with it keeps the machine so, but for the output
before it. -/
theorem atomic_of_pushesUnnamed :
    multipliesUnnamed.Reads [0xA2, 0, 8] ∧
    multipliesUnnamed.cycle = (.faulted (.invalidRegister 8), multipliesUnnamed) ∧
    popsOutside.Reads [0x46, 9] ∧ popsOutside.cycle = (.faulted (.bus 0xF4), popsOutside) ∧
    (pushesUnnamed.after 1).Reads [0x45, 9] ∧
    ∃ ended, (Session.start pushesUnnamed Session.unlimited).run 2 =
        some (ended, .error (.fault (.invalidRegister 9))) ∧
      ended.machine = (pushesUnnamed.after 1).lowered.collected ∧
      ended.machine.cpu.sp = 0xF3 := by
  have hmul : multipliesUnnamed.Reads [0xA2, 0, 8] := by decide +kernel
  have hpop : popsOutside.Reads [0x46, 9] := by decide +kernel
  have hpush : (pushesUnnamed.after 1).Reads [0x45, 9] := by decide +kernel
  obtain ⟨-, -, -, hmultiplies, -⟩ := atomic_of_fault multipliesUnnamed
  obtain ⟨-, -, -, hpops, -⟩ := atomic_of_fault popsOutside
  obtain ⟨-, -, -, -, hends⟩ := atomic_of_fault pushesUnnamed
  have hpopped := (hpops 9 (by decide)).1 hpop
  rw [if_pos (by decide +kernel)] at hpopped
  have hresult : ((Session.start pushesUnnamed Session.unlimited).run 2).map Prod.snd =
      some (.error (.fault (.invalidRegister 9))) := by
    decide +kernel
  obtain ⟨⟨ended, result⟩, hrun, rfl⟩ := Option.map_eq_some_iff.mp hresult
  obtain ⟨count, -, hgoes, hfault, hpushes, -⟩ := hends _ 2 ended _ hrun
  -- the first cycle goes on and the second one meets the fault
  obtain rfl : count = 1 := by
    have hstops : (pushesUnnamed.after 1).cycle.1 ≠ .running := by decide +kernel
    have hone : pushesUnnamed.RunsFor 1 := by decide +kernel
    exact hone.unique hgoes hstops (by simp [hfault])
  have hleft := hpushes 9 hpush
  refine ⟨hmul, (hmultiplies 8 (by decide)).2.2 0 (by decide) (.inl hmul), hpop, hpopped, hpush,
    ended, hrun, hleft, ?_⟩
  rw [hleft]
  decide +kernel

end Machine

end ByteMachine
