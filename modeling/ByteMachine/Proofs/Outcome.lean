import ByteMachine.Proofs.AddressBound
import ByteMachine.Proofs.Uninterrupted

/-!
# The signal of a cycle

Which signal a cycle gives, read off the bytes at the program counter, the stack pointer
and the number of cells. `Machine.outcome` lists the checks of a cycle in the order in
which they are made, so it also says which fault is met where several could be. It is
about memories of any size.
-/

set_option autoImplicit false

namespace ByteMachine

/-- An opcode is in one of the tables exactly if it belongs to an instruction that is
carried out. -/
theorem Instruction.mem_tables_iff (code : UInt8) :
    code ∈ oneOperand ++ twoOperands ↔
      ∃ instruction : Instruction, instruction ≠ .hlt ∧ instruction.opcode = code := by
  constructor
  · intro hmem
    have hexists : ∃ instruction : Instruction,
        code = instruction.opcode ∧ instruction.width ≠ 1 := by
      obtain hone | htwo := List.mem_append.mp hmem
      · obtain ⟨instruction, hcode, hwidth⟩ := exists_of_mem_oneOperand hone
        exact ⟨instruction, hcode, by omega⟩
      · obtain ⟨instruction, hcode, hwidth⟩ := exists_of_mem_twoOperands htwo
        exact ⟨instruction, hcode, by omega⟩
    obtain ⟨instruction, hcode, hwidth⟩ := hexists
    refine ⟨instruction, ?_, hcode.symm⟩
    rintro rfl
    exact hwidth rfl
  · rintro ⟨instruction, hhlt, rfl⟩
    cases instruction with
    | hlt => exact absurd rfl hhlt
    | _ => simp [opcode, Operation.opcode, oneOperand, twoOperands]

/-- No other instruction has the opcode of the halt. -/
theorem Instruction.opcode_eq_hlt_iff (instruction : Instruction) :
    instruction.opcode = 0x01 ↔ instruction = .hlt := by
  cases instruction <;> simp [opcode, Operation.opcode]

namespace Machine

/-- The first check that the operands of an opcode do not pass, if there is one. A pop
(`0x46`) looks at the cell it takes from before its register, a push (`0x45`) looks at
the cell it puts into after its register; a multiplication (`0xA2`) and a comparison
(`0xA7`) look at two registers. -/
def operandFault? (machine : Machine) (opcode first second : UInt8) : Option Fault :=
  let cells := machine.memory.cells.size
  let top := machine.cpu.sp.toNat
  let below := (machine.cpu.sp - 1).toNat
  if opcode = 0x46 ∧ cells ≤ top then some (.bus top)
  else if 8 ≤ first.toNat then some (.invalidRegister first)
  else if opcode ∈ [0xA2, 0xA7] ∧ 8 ≤ second.toNat then some (.invalidRegister second)
  else if opcode = 0x45 ∧ cells ≤ below then some (.bus below)
  else none

/-- What a cycle signals. The opcode comes first, then the cells of the operands it
counts, then the operands. -/
def outcome (machine : Machine) : Signal :=
  let cells := machine.memory.cells.size
  let pc := machine.cpu.pc
  let opcode := machine.memory.cell pc
  if cells ≤ pc then .faulted (.bus pc)
  else if opcode = 0x01 then .halted
  else if opcode ∉ Instruction.oneOperand ++ Instruction.twoOperands then
    .faulted (.unknownInstruction opcode)
  else if cells ≤ pc + operandCount opcode then .faulted (.bus cells)
  else
    match machine.operandFault? opcode (machine.memory.cell (pc + 1)) (machine.memory.cell (pc + 2))
    with
    | some fault => .faulted fault
    | none => .running

/-- What an instruction meets is told by its opcode and the two bytes behind it. -/
theorem obstacle?_eq_operandFault? (machine : Machine) {instruction : Instruction}
    (hhlt : instruction ≠ .hlt) {first second : UInt8}
    (hoperands : instruction.operands = [first, second].take instruction.operands.length) :
    machine.obstacle? instruction = machine.operandFault? instruction.opcode first second := by
  have hor : ∀ (p : Prop) [Decidable p] (fault : Fault) (more : Option Fault),
      (if p then some fault else none).or more = if p then some fault else more := by
    intro p _ fault more
    split <;> rfl
  cases instruction with
  | ldi left right | mul left right | cmp left right =>
    obtain ⟨rfl, rfl⟩ : left = first ∧ right = second := by
      simpa [Instruction.operands] using hoperands
    simp [obstacle?, operandFault?, Cpu.unnamed?_eq, hor, Instruction.opcode, Operation.opcode]
  | prn register | pra register | push register | pop register | jmp register | jeq register
  | jne register =>
    obtain rfl : register = first := by simpa [Instruction.operands] using hoperands
    simp [obstacle?, operandFault?, Cpu.unnamed?_eq, Memory.missing?_eq, hor, Instruction.opcode]
  | hlt => exact absurd rfl hhlt

/-- An instruction that is carried out passes the checks of its opcode. -/
theorem outcome_of_opcode {machine : Machine} {instruction : Instruction}
    (hopcode : machine.memory.peek? machine.cpu.pc = some instruction.opcode)
    (hhlt : instruction ≠ .hlt) :
    machine.outcome =
      if machine.memory.cells.size < machine.cpu.pc + instruction.width then
        .faulted (.bus machine.memory.cells.size)
      else
        match machine.operandFault? instruction.opcode (machine.memory.cell (machine.cpu.pc + 1))
          (machine.memory.cell (machine.cpu.pc + 2)) with
        | some fault => .faulted fault
        | none => .running := by
  have hpc := Memory.lt_size_of_peek? hopcode
  have hcell := Memory.cell_of_peek? hopcode
  have hone : instruction.opcode ≠ 0x01 := by
    intro heq
    exact hhlt ((Instruction.opcode_eq_hlt_iff instruction).mp heq)
  have hmem : instruction.opcode ∈ Instruction.oneOperand ++ Instruction.twoOperands :=
    (Instruction.mem_tables_iff _).mpr ⟨instruction, hhlt, rfl⟩
  have hwidth : machine.memory.cells.size < machine.cpu.pc + instruction.width ↔
      machine.memory.cells.size ≤ machine.cpu.pc + operandCount instruction.opcode := by
    rw [Instruction.width]
    omega
  simp only [outcome, hcell, Nat.not_le.mpr hpc, if_neg hone, hmem, not_true_eq_false, if_false,
    hwidth]

/-- The signal of a cycle is what its bytes say. -/
theorem cycle_eq_outcome (machine : Machine) : machine.cycle.1 = machine.outcome := by
  cases hfetch : machine.fetch with
  | error fault =>
    rw [cycle_of_fetch_error hfetch]
    obtain ⟨address, rfl⟩ | ⟨code, rfl⟩ := fetch_error_cases hfetch
    · obtain ⟨hend, rfl⟩ | ⟨rfl, instruction, hopcode, hwidth⟩ :=
        (machine.fetch_eq_bus_iff address).mp hfetch
      · rw [outcome, if_pos hend]
      · have hpc := Memory.lt_size_of_peek? hopcode
        have hhlt : instruction ≠ .hlt := by
          rintro rfl
          have hone : Instruction.hlt.width = 1 := rfl
          omega
        rw [outcome_of_opcode hopcode hhlt, if_pos hwidth]
    · obtain ⟨hopcode, hno⟩ := (machine.fetch_eq_unknown_iff code).mp hfetch
      have hpc := Memory.lt_size_of_peek? hopcode
      have hcell := Memory.cell_of_peek? hopcode
      have hone : code ≠ 0x01 := (hno .hlt).symm
      have hmem : code ∉ Instruction.oneOperand ++ Instruction.twoOperands := by
        rw [Instruction.mem_tables_iff]
        rintro ⟨instruction, -, heq⟩
        exact hno instruction heq
      simp only [outcome, hcell, Nat.not_le.mpr hpc, if_false, if_neg hone, hmem,
        not_false_eq_true, if_true]
  | ok instruction =>
    have hopcode := opcode_of_fetch hfetch
    obtain ⟨-, hoperands⟩ := Instruction.decode_eq_ok_iff.mp (decode_of_fetch hfetch)
    by_cases hhlt : instruction = .hlt
    · subst hhlt
      have hpc := Memory.lt_size_of_peek? hopcode
      have hcell := Memory.cell_of_peek? hopcode
      rw [machine.halted_iff.mpr hopcode]
      simp only [outcome, hcell, Nat.not_le.mpr hpc, if_false]
      rfl
    · have hwidth := width_of_fetch hfetch
      rw [cycle_of_fetch hfetch hhlt, machine.obstacle?_eq_operandFault? hhlt hoperands,
        outcome_of_opcode hopcode hhlt, if_neg (by omega)]
      cases machine.operandFault? instruction.opcode (machine.memory.cell (machine.cpu.pc + 1))
        (machine.memory.cell (machine.cpu.pc + 2)) <;> rfl

/-- The operands of an instruction are refused for a cell that is missing or for a byte that
names no register. -/
theorem obstacle?_cases {machine : Machine} {instruction : Instruction} {fault : Fault}
    (h : machine.obstacle? instruction = some fault) :
    (∃ address, fault = .bus address) ∨ ∃ index, fault = .invalidRegister index := by
  have hhlt : instruction ≠ .hlt := by
    rintro rfl
    cases h
  have hoperands : instruction.operands =
      [instruction.operands[0]?.getD 0, instruction.operands[1]?.getD 0].take
        instruction.operands.length := by
    cases instruction <;> rfl
  rw [machine.obstacle?_eq_operandFault? hhlt hoperands, operandFault?] at h
  split at h
  · cases h
    exact .inl ⟨_, rfl⟩
  split at h
  · cases h
    exact .inr ⟨_, rfl⟩
  split at h
  · cases h
    exact .inr ⟨_, rfl⟩
  split at h
  · cases h
    exact .inl ⟨_, rfl⟩
  · cases h

/-- An instruction that was decoded never fails as an unknown one. -/
theorem execute_ne_unknown (instruction : Instruction) (before after : Machine) (code : UInt8) :
    execute instruction before ≠ .error (.unknownInstruction code) after := by
  intro h
  rw [execute_eq] at h
  split at h
  · cases h
  · next fault hobstacle =>
    cases h
    obtain ⟨address, hfault⟩ | ⟨index, hfault⟩ := obstacle?_cases hobstacle
    · cases hfault
    · cases hfault

/-- No byte code reaches the operations that are not supported. -/
theorem cycle_ne_unsupported (machine : Machine) (operation : Operation) :
    machine.cycle.1 ≠ .faulted (.unsupported operation) := by
  intro h
  obtain ⟨hfetch, -⟩ | ⟨instruction, -, -, hobstacle, -⟩ := cycle_of_faulted h
  · obtain ⟨address, hfault⟩ | ⟨code, hfault⟩ := fetch_error_cases hfetch
    · cases hfault
    · cases hfault
  · obtain ⟨address, hfault⟩ | ⟨index, hfault⟩ := obstacle?_cases hobstacle
    · cases hfault
    · cases hfault

/-- A cycle that reports an unknown instruction has fetched none and changes nothing. -/
theorem fetch_of_unknown {machine : Machine} {code : UInt8}
    (h : machine.cycle.1 = .faulted (.unknownInstruction code)) :
    machine.fetch = .error (.unknownInstruction code) ∧ machine.cycle.2 = machine := by
  obtain hfetch | ⟨instruction, -, -, hobstacle, -⟩ := cycle_of_faulted h
  · exact hfetch
  · obtain ⟨address, hfault⟩ | ⟨index, hfault⟩ := obstacle?_cases hobstacle
    · cases hfault
    · cases hfault

/-- With a memory of any size a cycle signals what its bytes say, in the order of the
checks. An operation that is not carried out is never met. An instruction is unknown only
if the byte at the program counter is the opcode of none, nothing has changed then, and
carrying an instruction out never ends so. A run whose output refuses nothing is
interrupted only by the faults of its machine. -/
theorem outcome_of_cycle (machine : Machine) :
    machine.cycle.1 = machine.outcome ∧
    (∀ operation, machine.cycle.1 ≠ .faulted (.unsupported operation)) ∧
    (∀ code, machine.cycle.1 = .faulted (.unknownInstruction code) →
      machine.memory.peek? machine.cpu.pc = some code ∧
      (∀ instruction : Instruction, instruction.opcode ≠ code) ∧ machine.cycle.2 = machine) ∧
    (∀ instruction after code,
      execute instruction machine ≠ .error (.unknownInstruction code) after) ∧
    ∀ (console : Console) (fuel : Nat) (ended : Session) (cause : Interruption),
      console.Quiet → console.out.Unlimited →
      (Session.start machine console).run fuel = some (ended, .error cause) →
      (∀ reason, cause ≠ .output reason) ∧
        ∀ operation, cause ≠ .fault (.unsupported operation) := by
  refine ⟨machine.cycle_eq_outcome, machine.cycle_ne_unsupported, ?_, ?_, ?_⟩
  · intro code hunknown
    obtain ⟨hfetch, hstays⟩ := fetch_of_unknown hunknown
    obtain ⟨hopcode, hno⟩ := (machine.fetch_eq_unknown_iff code).mp hfetch
    exact ⟨hopcode, hno, hstays⟩
  · intro instruction after code
    exact execute_ne_unknown instruction machine after code
  · intro console fuel ended cause hquiet hout hanswer
    obtain ⟨count, -, hends, -⟩ := Session.ends_of_run hquiet hout hanswer
    obtain ⟨fault, rfl, -, hfaulted⟩ := (machine.ends_error_iff count cause).mp hends
    constructor
    · intro reason hcause
      cases hcause
    · intro operation hcause
      cases hcause
      exact (machine.after count).cycle_ne_unsupported operation hfaulted

/-- In two cells, pops into a register that there is not, from a cell that there is not. -/
def popsOutside : Machine where
  cpu := Cpu.reset
  memory := { cells := #[0x46, 9], capacity := 2 }

/-- A pop from a missing cell into a register that there is not is a bus fault, on the bare
machine and in a session. -/
theorem outcome_of_popsOutside :
    popsOutside.cycle.1 = .faulted (.bus 0xF4) ∧
    Session.unlimited.Quiet ∧ Session.unlimited.out.Unlimited ∧
    ∃ ended, (Session.start popsOutside Session.unlimited).run 1 =
        some (ended, .error (.fault (.bus 0xF4))) ∧
      ∀ operation, Interruption.fault (.bus 0xF4) ≠ .fault (.unsupported operation) := by
  obtain ⟨hsignal, -, -, -, hruns⟩ := outcome_of_cycle popsOutside
  have hquiet := Session.unlimited_quiet
  have hout := Session.unlimited_out
  have hresult : ((Session.start popsOutside Session.unlimited).run 1).map Prod.snd =
      some (.error (.fault (.bus 0xF4))) := by
    decide +kernel
  obtain ⟨⟨ended, result⟩, hanswer, rfl⟩ := Option.map_eq_some_iff.mp hresult
  exact ⟨hsignal.trans (by decide +kernel), hquiet, hout, ended, hanswer,
    (hruns Session.unlimited 1 ended _ hquiet hout hanswer).2⟩

end Machine

end ByteMachine
