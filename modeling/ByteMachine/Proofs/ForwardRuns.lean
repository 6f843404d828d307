import ByteMachine.Proofs.Outcome

/-!
# Runs that only go forward

A cycle that goes on and does not jump leaves the program counter two bytes further at
least, and so does a jump that goes forward, unless it goes to the operand of the jump
itself. That operand names a register, and of the bytes that do, one is the opcode of a halt
and the others are none: there the run ends.

So the program counter measures a run without backward jumps, even one that overwrites its
own code. With 256 cells such a run has at most 128 cycles that go on, and it has ended
after 129.
-/

set_option autoImplicit false

namespace ByteMachine

/-- Every instruction but the halt has an operand. -/
theorem Instruction.two_le_width (instruction : Instruction) (h : instruction ≠ .hlt) :
    2 ≤ instruction.width := by
  cases instruction <;> simp [width_eq, operands] at h ⊢

namespace Machine

variable {machine : Machine} {register target : UInt8} {count : Nat}

/-! ## Jumps -/

/-- The next cycle carries out a jump to the address that a register holds: a jump without
a condition, or one whose condition the equal flag meets. -/
def JumpsBy (machine : Machine) (register target : UInt8) : Prop :=
  machine.cycle.1 = .running ∧ machine.cpu.read register = .ok target ∧
    (machine.fetch = .ok (.jmp register) ∨
      (machine.fetch = .ok (.jeq register) ∧ machine.cpu.equal = true) ∨
      (machine.fetch = .ok (.jne register) ∧ machine.cpu.equal = false))

/-- The next cycle jumps to the address of its own instruction or to one before it. -/
def JumpsBack (machine : Machine) : Prop :=
  ∃ register target, machine.JumpsBy register target ∧ target.toNat ≤ machine.cpu.pc

/-- A jump goes to the address in its register and leaves memory as it is. -/
theorem JumpsBy.cycle (h : machine.JumpsBy register target) :
    machine.cycle.2.cpu.pc = target.toNat ∧ machine.cycle.2.memory = machine.memory := by
  obtain ⟨hrunning, hread, hjump⟩ := h
  obtain ⟨instruction, hfetch, -, -, hcycle⟩ := cycle_of_running hrunning
  obtain ⟨-, rfl⟩ := Cpu.read_eq_ok_iff.mp hread
  rw [hfetch] at hjump
  rw [hcycle]
  obtain hjmp | ⟨hjeq, hequal⟩ | ⟨hjne, hequal⟩ := hjump
  · cases hjmp
    exact ⟨rfl, rfl⟩
  · cases hjeq
    refine ⟨?_, rfl⟩
    simp [perform, pcAfter, jumps, hequal]
  · cases hjne
    refine ⟨?_, rfl⟩
    simp [perform, pcAfter, jumps, hequal]

/-- A cycle that goes on either jumps or goes on behind an instruction of two bytes at
least. -/
theorem jumpsBy_or_passes (h : machine.cycle.1 = .running) :
    (∃ register target, machine.JumpsBy register target) ∨
      machine.cpu.pc + 2 ≤ machine.cycle.2.cpu.pc := by
  obtain ⟨instruction, hfetch, hhlt, hobstacle, hcycle⟩ := cycle_of_running h
  have htwo := instruction.two_le_width hhlt
  have hpasses : machine.jumps instruction = false →
      machine.cpu.pc + 2 ≤ machine.cycle.2.cpu.pc := by
    intro hjumps
    obtain ⟨htaken, -⟩ | ⟨-, hnext⟩ := machine.pcAfter_cases hhlt
    · rw [hjumps] at htaken
      cases htaken
    · rw [hcycle]
      show machine.cpu.pc + 2 ≤ machine.pcAfter instruction
      omega
  cases instruction with
  | jmp register => exact .inl ⟨register, _, h, machine.cpu.read_of_named hobstacle, .inl hfetch⟩
  | jeq register =>
    cases hequal : machine.cpu.equal with
    | true =>
      exact .inl ⟨register, _, h, machine.cpu.read_of_named hobstacle, .inr (.inl ⟨hfetch, hequal⟩)⟩
    | false => exact .inr (hpasses hequal)
  | jne register =>
    cases hequal : machine.cpu.equal with
    | true => exact .inr (hpasses (by simp [jumps, hequal]))
    | false =>
      exact .inl ⟨register, _, h, machine.cpu.read_of_named hobstacle, .inr (.inr ⟨hfetch, hequal⟩)⟩
  | _ => exact .inr (hpasses rfl)

/-- A jump back does not move the counter forward. -/
theorem JumpsBack.pc_le (h : machine.JumpsBack) : machine.cycle.2.cpu.pc ≤ machine.cpu.pc := by
  obtain ⟨register, target, hjumps, hback⟩ := h
  rw [hjumps.cycle.1]
  exact hback

/-! ## Jumps to their own operand -/

/-- The byte behind the opcode of a jump names the register it goes by. -/
theorem JumpsBy.operand (h : machine.JumpsBy register target) :
    machine.memory.peek? (machine.cpu.pc + 1) = some register ∧ register.toNat < 8 := by
  obtain ⟨-, hread, hjump⟩ := h
  refine ⟨?_, (Cpu.read_eq_ok_iff.mp hread).1⟩
  obtain hfetch | ⟨hfetch, -⟩ | ⟨hfetch, -⟩ := hjump <;>
    exact fetch_eq_ok_iff.mp hfetch 1 (by simp [Instruction.encode, Instruction.operands])

/-- A byte that names a register is no opcode, except that of a halt. -/
theorem signal_of_register (hbyte : machine.memory.peek? machine.cpu.pc = some register)
    (hregister : register.toNat < 8) :
    machine.cycle.1 =
      if register = 1 then .halted else .faulted (.unknownInstruction register) := by
  split
  · next hone =>
    rw [hone] at hbyte
    exact machine.halted_iff.mpr hbyte
  · next hne =>
    have hno : ∀ instruction : Instruction, instruction.opcode ≠ register := by
      rintro instruction rfl
      cases instruction <;> simp [Instruction.opcode, Operation.opcode] at hregister hne
    rw [cycle_of_fetch_error ((machine.fetch_eq_unknown_iff register).mpr ⟨hbyte, hno⟩)]

/-- Behind a jump by one byte the run ends. -/
theorem JumpsBy.signal_of_next (h : machine.JumpsBy register target)
    (hnext : target.toNat = machine.cpu.pc + 1) :
    machine.cycle.2.cycle.1 =
      if register = 1 then .halted else .faulted (.unknownInstruction register) := by
  obtain ⟨hpc, hmemory⟩ := h.cycle
  obtain ⟨hbyte, hregister⟩ := h.operand
  apply signal_of_register _ hregister
  rw [hmemory, hpc, hnext, hbyte]

/-! ## The program counter as a measure -/

/-- Between two cycles that go on the program counter grows by two at least, unless the
first jumps back. -/
theorem pc_add_two_le (h : machine.cycle.1 = .running) (hnext : machine.cycle.2.cycle.1 = .running)
    (hforward : ¬ machine.JumpsBack) : machine.cpu.pc + 2 ≤ machine.cycle.2.cpu.pc := by
  obtain ⟨register, target, hjumps⟩ | hpasses := jumpsBy_or_passes h
  · have hbeyond : machine.cpu.pc < target.toNat := by
      by_contra hback
      exact hforward ⟨register, target, hjumps, by omega⟩
    have hne : target.toNat ≠ machine.cpu.pc + 1 := by
      intro heq
      have hends := hjumps.signal_of_next heq
      rw [hnext] at hends
      split at hends <;> cases hends
    rw [hjumps.cycle.1]
    omega
  · exact hpasses

/-- Every cycle of a run that does not jump back moves the counter at least two ahead. -/
theorem pc_add_double_le (hrun : machine.RunsFor (count + 1))
    (hforward : ∀ i < count, ¬ (machine.after i).JumpsBack) :
    machine.cpu.pc + 2 * count ≤ (machine.after count).cpu.pc := by
  induction count with
  | zero => exact Nat.le_refl _
  | succ count ih =>
    have hbefore := ih (hrun.mono (by omega)) fun i hi => hforward i (by omega)
    have hgrows := pc_add_two_le (hrun count (by omega)) (hrun (count + 1) (by omega))
      (hforward count (by omega))
    show machine.cpu.pc + 2 * (count + 1) ≤ (machine.after count).cycle.2.cpu.pc
    omega

/-- A run that never jumps back has at most one cycle for every two cells. -/
theorem double_le_size (hrun : machine.RunsFor count)
    (hforward : ∀ i < count, ¬ (machine.after i).JumpsBack) :
    2 * count ≤ machine.memory.cells.size := by
  cases count with
  | zero => omega
  | succ count =>
    have hgrows := pc_add_double_le hrun fun i hi => hforward i (by omega)
    -- the bytes of the last instruction are cells
    obtain ⟨instruction, hfetch, hhlt, -⟩ := hrun.step (Nat.lt_succ_self count)
    have hwidth := width_of_fetch hfetch
    rw [size_after] at hwidth
    have htwo : 2 ≤ instruction.width := instruction.two_le_width hhlt
    omega

/-! ## Whole runs -/

/-- With 256 cells, one of any 129 cycles in a row that go on jumps to its own address or to
one before it. So if all jumps of a run go forward, at most 128 of its cycles go on, and it
ends with its 129th cycle at the latest, whatever it writes to memory and whatever its
console refuses. A jump forward by one goes to its own operand, where the run halts or
meets a byte that is no opcode. -/
theorem jumpsBack_of_run {machine : Machine} (hram : machine.memory.cells.size = 256) :
    (∀ first, (machine.after first).RunsFor 129 →
      ∃ i < 129, (machine.after (first + i)).JumpsBack) ∧
    ((∀ i, machine.RunsFor (i + 1) → ¬ (machine.after i).JumpsBack) →
      (∀ count, machine.RunsFor count → count ≤ 128) ∧
      (∃ count ≤ 128, machine.RunsFor count ∧ (machine.after count).cycle.1 ≠ .running) ∧
      ∀ (console : Console) (fuel : Nat), 129 ≤ fuel →
        ∃ ended result, (Session.start machine console).run fuel = some (ended, result)) ∧
    ∀ i register target, (machine.after i).JumpsBy register target →
      target.toNat = (machine.after i).cpu.pc + 1 →
      (machine.after (i + 1)).memory.peek? (machine.after (i + 1)).cpu.pc = some register ∧
        register.toNat < 8 ∧
        (machine.after (i + 1)).cycle.1 =
          if register = 1 then .halted else .faulted (.unknownInstruction register) := by
  refine ⟨?_, ?_, ?_⟩
  · intro first hrun
    by_contra hnone
    push Not at hnone
    have hforward : ∀ i < 129, ¬ ((machine.after first).after i).JumpsBack := by
      intro i hi
      rw [← after_add]
      exact hnone i hi
    have hbound := double_le_size hrun hforward
    rw [size_after, hram] at hbound
    omega
  · intro hforward
    have hmost : ∀ count, machine.RunsFor count → count ≤ 128 := by
      intro count hrun
      have hbound := double_le_size hrun fun i hi => hforward i (hrun.mono hi)
      omega
    refine ⟨hmost, ?_, ?_⟩
    · obtain hrun | ⟨count, hlt, hrun, hlast⟩ := machine.runsFor_cases 129
      · exact absurd (hmost 129 hrun) (by omega)
      · exact ⟨count, by omega, hrun, hlast⟩
    · intro console fuel hfuel
      cases hanswer : (Session.start machine console).run fuel with
      | some ending => exact ⟨ending.1, ending.2, rfl⟩
      | none =>
        have hnone := Session.no_answer_of_run hanswer
        exact absurd (hmost fuel (Session.runsFor_of_no_answer hnone).1) (by omega)
  · intro i register target hjumps hnext
    obtain ⟨hbyte, hregister⟩ := hjumps.operand
    obtain ⟨hpc, hmemory⟩ := hjumps.cycle
    refine ⟨?_, hregister, hjumps.signal_of_next hnext⟩
    rw [after, hmemory, hpc, hnext, hbyte]

/-- Jumps to its own address for ever. -/
def jumpsInPlace : Machine :=
  Machine.start (Memory.beginning [0x54, 0])

/-- Sets a register to 6 and jumps over a byte to a halt. -/
def jumpsAhead : Machine :=
  Machine.start (Memory.beginning [0x82, 0, 6, 0x54, 0, 0xFF, 0x01])

/-- A program that runs for 129 cycles has jumped back, and one that only jumps ahead ends
within 129 cycles on every console. -/
theorem jumpsBack_of_jumpsInPlace :
    jumpsInPlace.memory.cells.size = 256 ∧ jumpsInPlace.RunsFor 129 ∧
    (∃ i < 129, (jumpsInPlace.after i).JumpsBack) ∧
    jumpsAhead.memory.cells.size = 256 ∧
    (∀ i, jumpsAhead.RunsFor (i + 1) → ¬ (jumpsAhead.after i).JumpsBack) ∧
    ∀ console, ∃ ended result,
      (Session.start jumpsAhead console).run 129 = some (ended, result) := by
  have hfetch : jumpsInPlace.fetch = .ok (.jmp 0) := by decide +kernel
  have hcycle : jumpsInPlace.cycle = (.running, jumpsInPlace) := cycle_of_fetch hfetch (by simp)
  have hstays : ∀ i, jumpsInPlace.after i = jumpsInPlace := by
    intro i
    induction i with
    | zero => rfl
    | succ i ih => rw [after, ih, hcycle]
  have hrun : jumpsInPlace.RunsFor 129 := by
    intro i hi
    rw [hstays, hcycle]
  have hram : jumpsInPlace.memory.cells.size = 256 := by decide +kernel
  have hramAhead : jumpsAhead.memory.cells.size = 256 := by decide +kernel
  have hforward : ∀ i, jumpsAhead.RunsFor (i + 1) → ¬ (jumpsAhead.after i).JumpsBack := by
    intro i hrun hback
    have hhalts : (jumpsAhead.after 2).cycle.1 = .halted := by decide +kernel
    have hi : i < 2 := by
      by_contra hge
      have hrunning := hrun 2 (by omega)
      rw [hhalts] at hrunning
      cases hrunning
    have hgrows : ∀ i < 2, (jumpsAhead.after i).cpu.pc < (jumpsAhead.after (i + 1)).cpu.pc := by
      decide +kernel
    exact absurd hback.pc_le (Nat.not_le.mpr (hgrows i hi))
  obtain ⟨i, hi, hback⟩ := (jumpsBack_of_run hram).1 0 hrun
  rw [Nat.zero_add] at hback
  exact ⟨hram, hrun, ⟨i, hi, hback⟩, hramAhead, hforward,
    fun console => ((jumpsBack_of_run hramAhead).2.1 hforward).2.2 console 129 (Nat.le_refl _)⟩

end Machine

end ByteMachine
