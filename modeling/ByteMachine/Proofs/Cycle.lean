import Mathlib.Tactic.Common
import ByteMachine.Proofs.Effect

/-!
# What a cycle does

The instruction that is fetched and the cycle that carries it out, as equations.
`Machine.fetch_eq` is the order of the checks of a fetch, `Machine.fetch_eq_ok_iff`
says that an instruction is fetched exactly where its byte code stands, and
`Machine.cycle_cases` lists everything a cycle can do: carry an instruction out,
stand at a halt, fail to fetch, or meet an obstacle.
-/

set_option autoImplicit false

namespace ByteMachine

/-! ## Decoding -/

namespace Instruction

/-- No instruction has more than two operands. -/
theorem length_operands_le (instruction : Instruction) : instruction.operands.length ≤ 2 := by
  cases instruction <;> simp [operands]

/-- An instruction is as wide as its opcode and its operands. -/
theorem width_eq (instruction : Instruction) :
    instruction.width = 1 + instruction.operands.length := by
  rw [width, operandCount_opcode]

/-- Decoding gives the instruction that has the opcode and, as far as it has
operands, the bytes after it. -/
theorem decode_eq_ok_iff {code first second : UInt8} {instruction : Instruction} :
    decode code first second = .ok instruction ↔
      instruction.opcode = code ∧
        instruction.operands = [first, second].take instruction.operands.length := by
  constructor
  · intro h
    refine ⟨opcode_of_decode h, ?_⟩
    unfold decode at h
    split at h
    · next found hfound =>
      cases h
      have hmem := List.mem_of_find?_eq_some hfound
      simp only [all, List.mem_cons, List.not_mem_nil, or_false] at hmem
      obtain rfl | rfl | rfl | rfl | rfl | rfl | rfl | rfl | rfl | rfl | rfl := hmem <;> rfl
    · cases h
  · rintro ⟨rfl, hoperands⟩
    have h := decode_opcode instruction first second
    rw [hoperands] at h
    cases instruction <;> simpa [operands] using h

/-- Decoding fails for the bytes that are the opcode of no instruction. -/
theorem decode_eq_error_iff {code first second : UInt8} {fault : Fault} :
    decode code first second = .error fault ↔
      (∀ instruction : Instruction, instruction.opcode ≠ code) ∧
        fault = .unknownInstruction code := by
  constructor
  · intro h
    unfold decode at h
    split at h
    · cases h
    · next hnone =>
      cases h
      refine ⟨?_, rfl⟩
      rintro instruction rfl
      rw [List.find?_eq_none] at hnone
      cases instruction <;> simp [all, opcode] at hnone
  · rintro ⟨hcode, rfl⟩
    cases h : decode code first second with
    | ok instruction => exact absurd (opcode_of_decode h) (hcode instruction)
    | error other =>
      unfold decode at h
      split at h
      · cases h
      · exact h.symm

end Instruction

namespace Machine

/-! ## Fetching -/

/-- A fetch looks at the cell of the opcode, at the opcode, and at the cells of the
operands, in this order. -/
theorem fetch_eq (machine : Machine) :
    machine.fetch =
      match machine.memory.peek? machine.cpu.pc with
      | none => .error (.bus machine.cpu.pc)
      | some opcode =>
        match Instruction.decode opcode (machine.memory.cell (machine.cpu.pc + 1))
            (machine.memory.cell (machine.cpu.pc + 2)) with
        | .error fault => .error fault
        | .ok instruction =>
          if machine.cpu.pc + instruction.width ≤ machine.memory.cells.size then .ok instruction
          else .error (.bus machine.memory.cells.size) := by
  unfold fetch Memory.load Memory.cell
  cases hopcode : machine.memory.peek? machine.cpu.pc with
  | none => simp [hopcode, bind, Except.bind]
  | some opcode =>
    have hpc := Memory.lt_size_of_peek? hopcode
    cases hdecode : Instruction.decode opcode
        ((machine.memory.peek? (machine.cpu.pc + 1)).getD 0)
        ((machine.memory.peek? (machine.cpu.pc + 2)).getD 0) with
    | error fault => simp [hopcode, hdecode, bind, Except.bind]
    | ok instruction =>
      have hcount : operandCount opcode = instruction.operands.length := by
        rw [← Instruction.opcode_of_decode hdecode, Instruction.operandCount_opcode]
      have hle := instruction.length_operands_le
      simp only [hopcode, hdecode, bind, Except.bind, hcount, Memory.peek?_eq_none_iff,
        Instruction.width_eq, pure, Except.pure, throw, throwThe, MonadExceptOf.throw]
      -- the missing operand cell with the lowest address is the first cell past the end
      by_cases hfirst : 1 ≤ instruction.operands.length ∧
          machine.memory.cells.size ≤ machine.cpu.pc + 1
      · have hsize : machine.memory.cells.size = machine.cpu.pc + 1 := by omega
        rw [if_pos hfirst, if_neg (by omega), hsize]
      rw [if_neg hfirst]
      by_cases hsecond : 2 ≤ instruction.operands.length ∧
          machine.memory.cells.size ≤ machine.cpu.pc + 2
      · have hsize : machine.memory.cells.size = machine.cpu.pc + 2 := by omega
        rw [if_pos hsecond, if_neg (by omega), hsize]
      rw [if_neg hsecond, if_pos (by omega)]

/-- An instruction whose bytes are in memory fits between the counter and the end. -/
theorem width_of_bytes {machine : Machine} {instruction : Instruction}
    (h : machine.memory.Holds machine.cpu.pc instruction.encode) :
    machine.cpu.pc + instruction.width ≤ machine.memory.cells.size := by
  rw [← Instruction.length_encode]
  exact h.le_size (List.cons_ne_nil _ _)

/-- An instruction is fetched exactly where its byte code stands. -/
theorem fetch_eq_ok_iff {machine : Machine} {instruction : Instruction} :
    machine.fetch = .ok instruction ↔
      machine.memory.Holds machine.cpu.pc instruction.encode := by
  have hle := instruction.length_operands_le
  have hlength : instruction.encode.length = instruction.operands.length + 1 := rfl
  have hcells : ∀ i < instruction.operands.length,
      ([machine.memory.cell (machine.cpu.pc + 1), machine.memory.cell (machine.cpu.pc + 2)].take
        instruction.operands.length)[i]? =
          some (machine.memory.cell (machine.cpu.pc + (i + 1))) := by
    intro i hi
    rw [List.getElem?_take_of_lt hi]
    obtain rfl | rfl : i = 0 ∨ i = 1 := by omega
    · rfl
    · rfl
  rw [fetch_eq, Memory.Holds, hlength]
  constructor
  · intro h
    split at h
    · cases h
    · next opcode hopcode =>
      split at h
      · cases h
      · next found hdecode =>
        split at h
        · next hwidth =>
          cases h
          obtain ⟨rfl, hoperands⟩ := Instruction.decode_eq_ok_iff.mp hdecode
          rw [Instruction.width_eq] at hwidth
          intro i hi
          cases i with
          | zero => exact hopcode
          | succ i =>
            rw [Memory.peek?_eq, if_pos (by omega), ← hcells i (by omega), ← hoperands]
            rfl
        · cases h
  · intro h
    have hopcode : machine.memory.peek? machine.cpu.pc = some instruction.opcode :=
      h 0 (by omega)
    have hoperands : instruction.operands =
        [machine.memory.cell (machine.cpu.pc + 1), machine.memory.cell (machine.cpu.pc + 2)].take
          instruction.operands.length := by
      apply List.ext_getElem?
      intro i
      by_cases hi : i < instruction.operands.length
      · have hpeek := h (i + 1) (by omega)
        rw [hcells i hi, Memory.cell, hpeek, Instruction.encode, List.getElem?_cons_succ,
          List.getElem?_eq_getElem hi]
        rfl
      · rw [List.getElem?_eq_none (by omega), List.getElem?_eq_none (by simp; omega)]
    rw [hopcode]
    simp only [Instruction.decode_eq_ok_iff.mpr ⟨rfl, hoperands⟩, if_pos (width_of_bytes h)]

/-- A fetched instruction has its opcode at the counter. -/
theorem opcode_of_fetch {machine : Machine} {instruction : Instruction}
    (h : machine.fetch = .ok instruction) :
    machine.memory.peek? machine.cpu.pc = some instruction.opcode :=
  fetch_eq_ok_iff.mp h 0 (Nat.zero_lt_succ _)

/-- A fetched instruction fits between the counter and the end of the memory. -/
theorem width_of_fetch {machine : Machine} {instruction : Instruction}
    (h : machine.fetch = .ok instruction) :
    machine.cpu.pc + instruction.width ≤ machine.memory.cells.size :=
  width_of_bytes (fetch_eq_ok_iff.mp h)

/-- A fetch meets a bus fault where there is no opcode cell, and where the bytes of
the instruction go beyond memory. -/
theorem fetch_eq_bus_iff (machine : Machine) (address : Nat) :
    machine.fetch = .error (.bus address) ↔
      (machine.memory.cells.size ≤ machine.cpu.pc ∧ address = machine.cpu.pc) ∨
      (address = machine.memory.cells.size ∧ ∃ instruction : Instruction,
        machine.memory.peek? machine.cpu.pc = some instruction.opcode ∧
          machine.memory.cells.size < machine.cpu.pc + instruction.width) := by
  have hnone := machine.memory.peek?_eq_none_iff machine.cpu.pc
  rw [fetch_eq]
  cases hopcode : machine.memory.peek? machine.cpu.pc with
  | none =>
    have hsize := hnone.mp hopcode
    simp only [hsize, true_and, Except.error.injEq, Fault.bus.injEq, reduceCtorEq, false_and,
      exists_false, and_false, or_false]
    exact eq_comm
  | some opcode =>
    have hsize : ¬ machine.memory.cells.size ≤ machine.cpu.pc :=
      Nat.not_le.mpr (Memory.lt_size_of_peek? hopcode)
    simp only [hsize, false_and, false_or, Option.some.injEq]
    cases hdecode : Instruction.decode opcode (machine.memory.cell (machine.cpu.pc + 1))
        (machine.memory.cell (machine.cpu.pc + 2)) with
    | error fault =>
      obtain ⟨hcode, rfl⟩ := Instruction.decode_eq_error_iff.mp hdecode
      simp only [Except.error.injEq, reduceCtorEq, false_iff]
      rintro ⟨-, instruction, heq, -⟩
      exact hcode instruction heq.symm
    | ok instruction =>
      have hcode := Instruction.opcode_of_decode hdecode
      have hwidths : ∀ other : Instruction, opcode = other.opcode →
          other.width = instruction.width := by
        intro other hother
        unfold Instruction.width
        rw [hcode, hother]
      by_cases hwidth : machine.cpu.pc + instruction.width ≤ machine.memory.cells.size
      · simp only [hwidth, if_true, reduceCtorEq, false_iff]
        rintro ⟨-, other, hother, hlt⟩
        rw [hwidths other hother] at hlt
        omega
      · simp only [hwidth, if_false, Except.error.injEq, Fault.bus.injEq]
        constructor
        · rintro rfl
          exact ⟨rfl, instruction, hcode.symm, by omega⟩
        · rintro ⟨rfl, -⟩
          rfl

/-- A fetch meets an opcode that belongs to no instruction, whatever stands behind it. -/
theorem fetch_eq_unknown_iff (machine : Machine) (code : UInt8) :
    machine.fetch = .error (.unknownInstruction code) ↔
      machine.memory.peek? machine.cpu.pc = some code ∧
        ∀ instruction : Instruction, instruction.opcode ≠ code := by
  rw [fetch_eq]
  cases hopcode : machine.memory.peek? machine.cpu.pc with
  | none => simp
  | some opcode =>
    simp only [Option.some.injEq]
    cases hdecode : Instruction.decode opcode (machine.memory.cell (machine.cpu.pc + 1))
        (machine.memory.cell (machine.cpu.pc + 2)) with
    | error fault =>
      obtain ⟨hcode, rfl⟩ := Instruction.decode_eq_error_iff.mp hdecode
      simp only [Except.error.injEq, Fault.unknownInstruction.injEq]
      constructor
      · rintro rfl
        exact ⟨rfl, hcode⟩
      · rintro ⟨rfl, -⟩
        rfl
    | ok instruction =>
      have hcode := Instruction.opcode_of_decode hdecode
      constructor
      · intro h
        simp only [] at h
        split at h <;> cases h
      · rintro ⟨heq, hno⟩
        exact absurd (hcode.trans heq) (hno instruction)

/-- Nothing else can go wrong in a fetch. -/
theorem fetch_error_cases {machine : Machine} {fault : Fault} (h : machine.fetch = .error fault) :
    (∃ address, fault = .bus address) ∨ ∃ code, fault = .unknownInstruction code := by
  rw [fetch_eq] at h
  split at h
  · cases h
    exact .inl ⟨_, rfl⟩
  · split at h
    · next hdecode =>
      cases h
      exact .inr ⟨_, (Instruction.decode_eq_error_iff.mp hdecode).2⟩
    · split at h <;> cases h
      exact .inl ⟨_, rfl⟩

/-- What is fetched is spelled by the three cells from the program counter on. -/
theorem decode_of_fetch {machine : Machine} {instruction : Instruction}
    (h : machine.fetch = .ok instruction) :
    Instruction.decode (machine.memory.cell machine.cpu.pc)
      (machine.memory.cell (machine.cpu.pc + 1)) (machine.memory.cell (machine.cpu.pc + 2)) =
        .ok instruction := by
  rw [fetch_eq] at h
  split at h
  · cases h
  · next opcode hopcode =>
    rw [show machine.memory.cell machine.cpu.pc = opcode by rw [Memory.cell, hopcode]; rfl]
    split at h
    · cases h
    · next hdecode =>
      split at h <;> cases h
      exact hdecode

/-! ## Cycles -/

/-- A cycle carries out the instruction it fetches, if that is no halt. -/
theorem cycle_of_fetch {machine : Machine} {instruction : Instruction}
    (hfetch : machine.fetch = .ok instruction) (hhlt : instruction ≠ .hlt) :
    machine.cycle =
      match machine.obstacle? instruction with
      | none => (.running, machine.perform instruction)
      | some fault => (.faulted fault, machine.stumbled instruction) := by
  unfold cycle
  rw [hfetch]
  simp only [execute_eq]
  cases machine.obstacle? instruction <;> rfl

/-- Everything a cycle can do: carry out an instruction that meets no obstacle, stand
at a halt, fail to fetch, or leave an instruction at its obstacle. -/
theorem cycle_cases (machine : Machine) :
    (∃ instruction, machine.fetch = .ok instruction ∧ instruction ≠ .hlt ∧
      machine.obstacle? instruction = none ∧
      machine.cycle = (.running, machine.perform instruction)) ∨
    (machine.fetch = .ok .hlt ∧ machine.cycle = (.halted, machine)) ∨
    (∃ fault, machine.fetch = .error fault ∧ machine.cycle = (.faulted fault, machine)) ∨
    (∃ instruction fault, machine.fetch = .ok instruction ∧ instruction ≠ .hlt ∧
      machine.obstacle? instruction = some fault ∧
      machine.cycle = (.faulted fault, machine.stumbled instruction)) := by
  cases hfetch : machine.fetch with
  | error fault => exact .inr (.inr (.inl ⟨fault, rfl, by rw [cycle, hfetch]⟩))
  | ok instruction =>
    by_cases hhlt : instruction = .hlt
    · subst hhlt
      exact .inr (.inl ⟨rfl, by rw [cycle, hfetch]⟩)
    · have hcycle := cycle_of_fetch hfetch hhlt
      cases hobstacle : machine.obstacle? instruction with
      | none =>
        rw [hobstacle] at hcycle
        exact .inl ⟨instruction, rfl, hhlt, hobstacle, hcycle⟩
      | some fault =>
        rw [hobstacle] at hcycle
        exact .inr (.inr (.inr ⟨instruction, fault, rfl, hhlt, hobstacle, hcycle⟩))

/-- A cycle that goes on has carried out the instruction it fetched. -/
theorem cycle_of_running {machine : Machine} (h : machine.cycle.1 = .running) :
    ∃ instruction, machine.fetch = .ok instruction ∧ instruction ≠ .hlt ∧
      machine.obstacle? instruction = none ∧ machine.cycle.2 = machine.perform instruction := by
  rcases machine.cycle_cases with ⟨instruction, hfetch, hhlt, hobstacle, hcycle⟩ | ⟨-, hcycle⟩ |
    ⟨fault, -, hcycle⟩ | ⟨instruction, fault, -, -, -, hcycle⟩
  · exact ⟨instruction, hfetch, hhlt, hobstacle, by rw [hcycle]⟩
  all_goals
    rw [hcycle] at h
    cases h

/-- A cycle meets a fault while it fetches, or at the obstacle of what it has fetched. -/
theorem cycle_of_faulted {machine : Machine} {fault : Fault}
    (h : machine.cycle.1 = .faulted fault) :
    (machine.fetch = .error fault ∧ machine.cycle.2 = machine) ∨
      ∃ instruction, machine.fetch = .ok instruction ∧ instruction ≠ .hlt ∧
        machine.obstacle? instruction = some fault ∧
        machine.cycle.2 = machine.stumbled instruction := by
  rcases machine.cycle_cases with ⟨instruction, -, -, -, hcycle⟩ | ⟨-, hcycle⟩ |
    ⟨other, hfetch, hcycle⟩ | ⟨instruction, other, hfetch, hhlt, hobstacle, hcycle⟩
  · rw [hcycle] at h
    cases h
  · rw [hcycle] at h
    cases h
  · rw [hcycle] at h ⊢
    cases h
    exact .inl ⟨hfetch, rfl⟩
  · rw [hcycle] at h ⊢
    cases h
    exact .inr ⟨instruction, hfetch, hhlt, hobstacle, rfl⟩

/-- If the fetch fails, the cycle reports the fault and changes nothing. -/
theorem cycle_of_fetch_error {machine : Machine} {fault : Fault}
    (h : machine.fetch = .error fault) : machine.cycle = (.faulted fault, machine) := by
  rw [cycle, h]

/-- A cycle keeps the size of the memory. -/
theorem size_cycle (machine : Machine) :
    machine.cycle.2.memory.cells.size = machine.memory.cells.size := by
  have hperform : ∀ instruction,
      (machine.perform instruction).memory.cells.size = machine.memory.cells.size := by
    intro instruction
    cases instruction <;> simp [perform, memoryAfter, Memory.put]
  rcases machine.cycle_cases with ⟨instruction, -, -, -, hcycle⟩ | ⟨-, hcycle⟩ |
    ⟨fault, -, hcycle⟩ | ⟨instruction, fault, -, -, -, hcycle⟩
  · rw [hcycle]
    exact hperform instruction
  · rw [hcycle]
  · rw [hcycle]
  · rw [hcycle]
    cases instruction <;> rfl

end Machine

end ByteMachine
