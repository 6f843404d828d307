import ByteMachine.Proofs.Course

/-!
# The addresses a machine can reach

In a memory of 256 cells the program counter never passes 256, and 256 is the only
address at which a bus fault can happen: jumps go to addresses that a byte holds, the
stack pointer is a byte, and an instruction is only carried out if all its bytes are
cells. This holds of every state that is reached and of every run, and
`Machine.fetch_bus_iff` says exactly which states meet the fault.
-/

set_option autoImplicit false

namespace ByteMachine

namespace Instruction

/-- The opcodes of the instructions with one operand. -/
def oneOperand : List UInt8 :=
  [0x45, 0x46, 0x47, 0x48, 0x54, 0x55, 0x56]

/-- The opcodes of the instructions with two operands. -/
def twoOperands : List UInt8 :=
  [0x82, 0xA2, 0xA7]

/-- A code of the first list is the opcode of an instruction of two bytes. -/
theorem exists_of_mem_oneOperand {code : UInt8} (h : code ∈ oneOperand) :
    ∃ instruction : Instruction, code = instruction.opcode ∧ instruction.width = 2 := by
  simp only [oneOperand, List.mem_cons, List.not_mem_nil, or_false] at h
  obtain rfl | rfl | rfl | rfl | rfl | rfl | rfl := h
  · exact ⟨.push 0, rfl, rfl⟩
  · exact ⟨.pop 0, rfl, rfl⟩
  · exact ⟨.prn 0, rfl, rfl⟩
  · exact ⟨.pra 0, rfl, rfl⟩
  · exact ⟨.jmp 0, rfl, rfl⟩
  · exact ⟨.jeq 0, rfl, rfl⟩
  · exact ⟨.jne 0, rfl, rfl⟩

/-- A code of the second list is the opcode of an instruction of three bytes. -/
theorem exists_of_mem_twoOperands {code : UInt8} (h : code ∈ twoOperands) :
    ∃ instruction : Instruction, code = instruction.opcode ∧ instruction.width = 3 := by
  simp only [twoOperands, List.mem_cons, List.not_mem_nil, or_false] at h
  obtain rfl | rfl | rfl := h
  · exact ⟨.ldi 0 0, rfl, rfl⟩
  · exact ⟨.mul 0 0, rfl, rfl⟩
  · exact ⟨.cmp 0 0, rfl, rfl⟩

/-- The width of an instruction tells in which of the tables its opcode is. -/
theorem width_cases (instruction : Instruction) :
    instruction.width = 1 ∨ (instruction.width = 2 ∧ instruction.opcode ∈ oneOperand) ∨
      (instruction.width = 3 ∧ instruction.opcode ∈ twoOperands) := by
  cases instruction <;>
    simp [width_eq, operands, opcode, Operation.opcode, oneOperand, twoOperands]

end Instruction

namespace Machine

/-! ## One cycle -/

/-- With 256 cells no instruction that was fetched misses a cell. -/
theorem obstacle?_ne_bus {machine : Machine} (hram : machine.memory.cells.size = 256)
    (instruction : Instruction) (address : Nat) :
    machine.obstacle? instruction ≠ some (.bus address) := by
  have hcell : ∀ pointer : UInt8, machine.memory.missing? pointer.toNat = none := by
    intro pointer
    have hlt := pointer.toNat_lt
    rw [Memory.missing?_eq_none_iff]
    omega
  have hname : ∀ index : UInt8, Cpu.unnamed? index ≠ some (.bus address) := by
    intro index hname
    obtain ⟨-, hfault⟩ := Cpu.unnamed?_eq_some_iff.mp hname
    cases hfault
  cases instruction with
  | mul first second | cmp first second =>
    intro h
    obtain h | ⟨-, h⟩ := Option.or_eq_some_iff.mp h
    · exact hname _ h
    · exact hname _ h
  | push register =>
    simp only [obstacle?, hcell, Option.or_none]
    exact hname register
  | pop register =>
    simp only [obstacle?, hcell, Option.none_or]
    exact hname register
  | hlt => simp [obstacle?]
  | _ => exact hname _

/-- With 256 cells a cycle meets a bus fault only while it fetches, and the machine
stays as it is. -/
theorem faulted_bus_iff {machine : Machine} (hram : machine.memory.cells.size = 256)
    (address : Nat) :
    machine.cycle.1 = .faulted (.bus address) ↔ machine.fetch = .error (.bus address) := by
  rcases machine.cycle_cases with ⟨instruction, hfetch, -, -, hcycle⟩ | ⟨hfetch, hcycle⟩ |
    ⟨fault, hfetch, hcycle⟩ | ⟨instruction, fault, hfetch, -, hobstacle, hcycle⟩
  · simp [hfetch, hcycle]
  · simp [hfetch, hcycle]
  · simp [hfetch, hcycle]
  · have hne := obstacle?_ne_bus hram instruction address
    rw [hobstacle, ne_eq, Option.some.injEq] at hne
    simp [hfetch, hcycle, hne]

/-- An instruction either jumps to an address that a byte holds or goes on behind its
last byte. -/
theorem pcAfter_cases (machine : Machine) {instruction : Instruction}
    (h : instruction ≠ .hlt) :
    (machine.jumps instruction = true ∧ machine.pcAfter instruction < 256) ∨
      (machine.jumps instruction = false ∧
        machine.pcAfter instruction = machine.cpu.pc + instruction.width) := by
  cases instruction with
  | jmp register | jeq register | jne register =>
    have hlt := (machine.cpu.value register).toNat_lt
    simp only [pcAfter]
    split
    · next htaken => exact .inl ⟨htaken, hlt⟩
    · next hnot => exact .inr ⟨by simpa using hnot, rfl⟩
  | hlt => exact absurd rfl h
  | _ => exact .inr ⟨rfl, rfl⟩

/-- An instruction that is carried out leaves the program counter at an address that a byte
holds, or at one that is not beyond the end of memory. -/
theorem pc_of_running {machine : Machine} (h : machine.cycle.1 = .running) :
    machine.cycle.2.cpu.pc < 256 ∨ machine.cycle.2.cpu.pc ≤ machine.memory.cells.size := by
  obtain ⟨instruction, hfetch, hhlt, -, hcycle⟩ := cycle_of_running h
  have hwidth := width_of_fetch hfetch
  have hpc : machine.cycle.2.cpu.pc = machine.pcAfter instruction := by rw [hcycle]; rfl
  obtain ⟨-, hlt⟩ | ⟨-, hnext⟩ := machine.pcAfter_cases hhlt
  · exact .inl (by omega)
  · exact .inr (by omega)

/-- A machine whose program counter is beyond the end of memory does nothing but miss a cell. -/
theorem cycle_of_absent {machine : Machine} (h : machine.memory.cells.size ≤ machine.cpu.pc) :
    machine.cycle = (.faulted (.bus machine.cpu.pc), machine) :=
  cycle_of_fetch_error ((fetch_eq_bus_iff machine _).mpr (.inl ⟨h, rfl⟩))

/-- If memory leaves two addresses, the two behind the program counter are addresses throughout a
run, unless the run begins so near to the last address that its first cycle ends it. -/
theorem fits_of_runsFor {machine : Machine}
    (hsize : machine.memory.cells.size + 2 < Address.count) {count : Nat}
    (hrun : machine.RunsFor count) :
    (machine.after count).cpu.pc + 2 < Address.count ∨
      (count = 0 ∧ Address.count ≤ machine.cpu.pc + 2 ∧
        machine.cycle = (.faulted (.bus machine.cpu.pc), machine)) := by
  cases count with
  | zero =>
    by_cases hfits : machine.cpu.pc + 2 < Address.count
    · exact .inl hfits
    · exact .inr ⟨rfl, by omega, cycle_of_absent (by omega)⟩
  | succ count =>
    have hcells := machine.size_after count
    have hcount : 258 < Address.count := by decide
    obtain hlt | hle := pc_of_running (hrun count (by omega))
    · exact .inl (by rw [after]; omega)
    · exact .inl (by rw [after]; omega)

/-- A machine with 256 cells whose program counter has not passed them. -/
structure Bounded (machine : Machine) : Prop where
  cells : machine.memory.cells.size = 256
  pc : machine.cpu.pc ≤ 256

/-- Where a cycle leaves the program counter. -/
theorem pc_cycle {machine : Machine} (h : machine.Bounded) :
    machine.cycle.2.cpu.pc < 256 ∨ machine.cycle.2.cpu.pc = machine.cpu.pc ∨
      (machine.cycle.1 = .running ∧ ∃ instruction, machine.fetch = .ok instruction ∧
        machine.cpu.pc + instruction.width = 256 ∧ machine.jumps instruction = false ∧
        machine.cycle.2.cpu.pc = 256) := by
  rcases machine.cycle_cases with ⟨instruction, hfetch, hhlt, -, hcycle⟩ | ⟨-, hcycle⟩ |
    ⟨fault, -, hcycle⟩ | ⟨instruction, fault, -, -, -, hcycle⟩
  · have hwidth := width_of_fetch hfetch
    have hcells := h.cells
    have hpc : machine.cycle.2.cpu.pc = machine.pcAfter instruction := by rw [hcycle]; rfl
    obtain ⟨-, hlt⟩ | ⟨hjumps, hnext⟩ := machine.pcAfter_cases hhlt
    · exact .inl (by omega)
    · rcases Nat.lt_or_eq_of_le (show machine.cpu.pc + instruction.width ≤ 256 by omega)
        with hlt | heq
      · exact .inl (by omega)
      · exact .inr (.inr ⟨by rw [hcycle], instruction, hfetch, heq, hjumps, by omega⟩)
  · exact .inr (.inl (by rw [hcycle]))
  · exact .inr (.inl (by rw [hcycle]))
  · refine .inr (.inl ?_)
    rw [hcycle]
    cases instruction <;> rfl

/-- One cycle keeps the counter within the bound, whether or not it ends the run. -/
theorem Bounded.cycle {machine : Machine} (h : machine.Bounded) : machine.cycle.2.Bounded := by
  refine ⟨(size_cycle machine).trans h.cells, ?_⟩
  have hpc := h.pc
  obtain hlt | heq | ⟨-, instruction, -, -, -, heq⟩ := pc_cycle h
  · omega
  · omega
  · omega

/-- The states in which the bytes of an instruction would go beyond memory. -/
def OutOfBytes (machine : Machine) : Prop :=
  machine.cpu.pc = 256 ∨
  (machine.cpu.pc = 255 ∧ ∃ code ∈ Instruction.oneOperand ++ Instruction.twoOperands,
    machine.memory.peek? 255 = some code) ∨
  (machine.cpu.pc = 254 ∧ ∃ code ∈ Instruction.twoOperands,
    machine.memory.peek? 254 = some code)

/-- A bounded machine meets a bus fault at 256, exactly if it is out of bytes. -/
theorem fetch_bus_iff {machine : Machine} (h : machine.Bounded) (address : Nat) :
    machine.fetch = .error (.bus address) ↔ address = 256 ∧ machine.OutOfBytes := by
  have hpc := h.pc
  rw [fetch_eq_bus_iff, h.cells]
  unfold OutOfBytes
  constructor
  · rintro (⟨hge, heq⟩ | ⟨heq, instruction, hopcode, hwidth⟩)
    · exact ⟨by omega, .inl (by omega)⟩
    · refine ⟨heq, ?_⟩
      have hlt := Memory.lt_size_of_peek? hopcode
      rw [h.cells] at hlt
      -- two bytes are too many at 255, and three at 254 as well
      obtain hone | ⟨htwo, hmem⟩ | ⟨hthree, hmem⟩ := instruction.width_cases
      · omega
      · have h255 : machine.cpu.pc = 255 := by omega
        rw [h255] at hopcode
        exact .inr (.inl ⟨h255, _, List.mem_append_left _ hmem, hopcode⟩)
      · obtain h255 | h254 := (show machine.cpu.pc = 255 ∨ machine.cpu.pc = 254 by omega)
        · rw [h255] at hopcode
          exact .inr (.inl ⟨h255, _, List.mem_append_right _ hmem, hopcode⟩)
        · rw [h254] at hopcode
          exact .inr (.inr ⟨h254, _, hmem, hopcode⟩)
  · rintro ⟨rfl, h256 | ⟨h255, code, hmem, hcode⟩ | ⟨h254, code, hmem, hcode⟩⟩
    · exact .inl ⟨by omega, h256.symm⟩
    · right
      rw [h255]
      obtain hone | htwo := List.mem_append.mp hmem
      · obtain ⟨instruction, rfl, hwidth⟩ := Instruction.exists_of_mem_oneOperand hone
        exact ⟨rfl, instruction, hcode, by omega⟩
      · obtain ⟨instruction, rfl, hwidth⟩ := Instruction.exists_of_mem_twoOperands htwo
        exact ⟨rfl, instruction, hcode, by omega⟩
    · right
      rw [h254]
      obtain ⟨instruction, rfl, hwidth⟩ := Instruction.exists_of_mem_twoOperands hmem
      exact ⟨rfl, instruction, hcode, by omega⟩

/-! ## Whole runs -/

/-- The machine of a session keeps the bound as long as the session goes on. -/
theorem bounded_session {session : Session} (h : session.machine.Bounded) (count : Nat) :
    (session.after count).machine.Bounded := by
  refine Session.after_induction (fun other => other.machine.Bounded) ?_ h count
  intro other hother
  obtain hstays | hcycle := other.machine_advance
  · rwa [hstays]
  · rw [hcycle]
    exact ⟨hother.cycle.cells, hother.cycle.pc⟩

/-- With 256 cells the program counter stays within 256 from any state in which it is.
It gets to 256 only behind an instruction that ends in the last cell and does not jump.
A bus fault is met exactly by the states that are out of bytes, at 256, and changes
nothing; an instruction that has all its bytes never meets one, and no run ends with
one at another address. -/
theorem bus_fault_bound {machine : Machine} (hram : machine.memory.cells.size = 256)
    (hpc : machine.cpu.pc ≤ 256) :
    (∀ count,
      (machine.after count).cpu.pc ≤ 256 ∧
      ((machine.after count).cpu.pc ≠ 256 → (machine.after (count + 1)).cpu.pc = 256 →
        (machine.after count).cycle.1 = .running ∧
        ∃ instruction, (machine.after count).fetch = .ok instruction ∧
          (machine.after count).cpu.pc + instruction.width - 1 = 255 ∧
          (machine.after count).jumps instruction = false) ∧
      ((∃ address, (machine.after count).cycle.1 = .faulted (.bus address)) ↔
        (machine.after count).OutOfBytes) ∧
      (∀ address, (machine.after count).cycle.1 = .faulted (.bus address) →
        address = 256 ∧ machine.after (count + 1) = machine.after count) ∧
      (∀ instruction, (machine.after count).fetch = .ok instruction →
        ∀ address, (machine.after count).cycle.1 ≠ .faulted (.bus address))) ∧
    ∀ (console : Console) (fuel : Nat) (ended : Session) (address : Nat),
      (Session.start machine console).run fuel =
        some (ended, .error (.fault (.bus address))) → address = 256 := by
  have hbounded : machine.Bounded := ⟨hram, hpc⟩
  constructor
  · intro count
    have h := after_induction Bounded (fun other hother => hother.cycle) hbounded count
    have hfault := faulted_bus_iff h.cells
    refine ⟨h.pc, ?_, ?_, ?_, ?_⟩
    · intro hne heq
      rw [after] at heq
      obtain hlt | hsame | ⟨hrunning, instruction, hfetch, hlast, hjumps, -⟩ := pc_cycle h
      · omega
      · omega
      · exact ⟨hrunning, instruction, hfetch, by omega, hjumps⟩
    · constructor
      · rintro ⟨address, haddress⟩
        exact ((fetch_bus_iff h address).mp ((hfault address).mp haddress)).2
      · intro hout
        exact ⟨256, (hfault 256).mpr ((fetch_bus_iff h 256).mpr ⟨rfl, hout⟩)⟩
    · intro address haddress
      have hfetch := (hfault address).mp haddress
      refine ⟨((fetch_bus_iff h address).mp hfetch).1, ?_⟩
      rw [after, cycle, hfetch]
    · intro instruction hfetch address haddress
      rw [hfault, hfetch] at haddress
      cases haddress
  · intro console fuel ended address hrun
    obtain ⟨count, -, -, hanswer⟩ := Session.cycle_of_run hrun
    have h : ((Session.start machine console).after count).machine.Bounded :=
      bounded_session hbounded count
    have hfault := Session.fault_of_advance (congrArg Prod.snd hanswer)
    exact ((fetch_bus_iff h address).mp ((faulted_bus_iff h.cells address).mp hfault)).1

/-- Stands at the second last cell, which holds an opcode with two operands. -/
def cutOff : Machine where
  cpu := { Cpu.reset with pc := 254 }
  memory := (Memory.beginning []).put 254 0x82

/-- Stands at the second last cell, which holds an opcode with one operand. -/
def fallsOff : Machine where
  cpu := { Cpu.reset with pc := 254 }
  memory := (Memory.beginning []).put 254 0x47

/-- The one machine misses a cell at once. The other carries out the last instruction there is
room for, which takes it to 256, and misses the cell there. -/
theorem bus_fault_of_cutOff :
    cutOff.memory.cells.size = 256 ∧ cutOff.cpu.pc ≤ 256 ∧
    cutOff.cycle.1 = .faulted (.bus 256) ∧ cutOff.OutOfBytes ∧ cutOff.after 1 = cutOff ∧
    fallsOff.memory.cells.size = 256 ∧ fallsOff.cpu.pc ≤ 256 ∧
    (fallsOff.after 1).cpu.pc = 256 ∧ fallsOff.cycle.1 = .running ∧
    (fallsOff.after 1).OutOfBytes ∧ (fallsOff.after 1).cycle.1 = .faulted (.bus 256) ∧
    fallsOff.after 2 = fallsOff.after 1 := by
  have hram : cutOff.memory.cells.size = 256 := by decide +kernel
  have hpc : cutOff.cpu.pc ≤ 256 := by decide
  have hfault : cutOff.cycle.1 = .faulted (.bus 256) := by decide +kernel
  obtain ⟨-, -, hout, hstays, -⟩ := (bus_fault_bound hram hpc).1 0
  have hramOff : fallsOff.memory.cells.size = 256 := by decide +kernel
  have hpcOff : fallsOff.cpu.pc ≤ 256 := by decide
  have hbefore : (fallsOff.after 0).cpu.pc ≠ 256 := by decide +kernel
  have hmoved : (fallsOff.after 1).cpu.pc = 256 := by decide +kernel
  have hfaultOff : (fallsOff.after 1).cycle.1 = .faulted (.bus 256) := by decide +kernel
  obtain ⟨-, hpasses, -⟩ := (bus_fault_bound hramOff hpcOff).1 0
  rw [Nat.zero_add] at hpasses
  obtain ⟨-, -, houtOff, hstaysOff, -⟩ := (bus_fault_bound hramOff hpcOff).1 1
  exact ⟨hram, hpc, hfault, hout.mp ⟨256, hfault⟩, (hstays 256 hfault).2, hramOff, hpcOff, hmoved,
    (hpasses hbefore hmoved).1, houtOff.mp ⟨256, hfaultOff⟩, hfaultOff,
    (hstaysOff 256 hfaultOff).2⟩

end Machine

end ByteMachine
