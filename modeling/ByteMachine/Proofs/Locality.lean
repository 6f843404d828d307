import ByteMachine.Proofs.Outcome

/-!
# The cells that a run depends on

A cycle looks at three cells whatever stands in the first of them, but it consumes only
the opcode, the operands that the opcode counts, and the cell that a pop takes from. Two
machines with the same processor that at first hold the same bytes in the cells consumed
by the cycles of one of them go through the same cycles: the other cells do not matter,
nor how many more of them the second has. Only where the first meets a bus fault can the
two be told apart.
-/

set_option autoImplicit false

namespace ByteMachine

namespace Machine

/-! ## What a cycle consumes and what it stores -/

/-- The addresses of the cells that the next cycle consumes. A byte in none of the tables
of opcodes has no operands, and a pop (`0x46`) also takes the byte at the stack pointer. -/
def consumed (machine : Machine) : List Nat :=
  let opcode := machine.memory.cell machine.cpu.pc
  if opcode ∈ Instruction.oneOperand ++ Instruction.twoOperands then
    (List.range (1 + operandCount opcode)).map (machine.cpu.pc + ·) ++
      if opcode = 0x46 then [machine.cpu.sp.toNat] else []
  else [machine.cpu.pc]

/-- The address and the byte of what the next cycle writes to memory, if it does so. -/
def stored? (machine : Machine) : Option (Nat × UInt8) :=
  match machine.fetch with
  | .ok (.push register) =>
    match machine.obstacle? (.push register) with
    | none => some ((machine.cpu.sp - 1).toNat, machine.pushed register)
    | some _ => none
  | _ => none

/-- The cell at the counter is always consumed. -/
theorem pc_mem_consumed (machine : Machine) : machine.cpu.pc ∈ machine.consumed := by
  unfold consumed
  simp only []
  split
  · apply List.mem_append_left
    exact List.mem_map.mpr ⟨0, List.mem_range.mpr (by omega), rfl⟩
  · exact List.mem_singleton.mpr rfl

/-- Every byte of a fetched instruction is consumed. -/
theorem mem_consumed_of_fetch {machine : Machine} {instruction : Instruction}
    (h : machine.fetch = .ok instruction) {i : Nat} (hi : i < instruction.encode.length) :
    machine.cpu.pc + i ∈ machine.consumed := by
  have hcell := Memory.cell_of_peek? (opcode_of_fetch h)
  rw [Instruction.length_encode] at hi
  by_cases hhlt : instruction = .hlt
  · subst hhlt
    obtain rfl : i = 0 := Nat.lt_one_iff.mp hi
    exact machine.pc_mem_consumed
  · have hmem := (Instruction.mem_tables_iff instruction.opcode).mpr ⟨instruction, hhlt, rfl⟩
    simp only [consumed, hcell, if_pos hmem]
    apply List.mem_append_left
    exact List.mem_map.mpr ⟨i, List.mem_range.mpr hi, rfl⟩

/-- A pop consumes the cell at the stack pointer. -/
theorem sp_mem_consumed {machine : Machine} {register : UInt8}
    (h : machine.fetch = .ok (.pop register)) : machine.cpu.sp.toNat ∈ machine.consumed := by
  have hcell := Memory.cell_of_peek? (opcode_of_fetch h)
  have hmem : (0x46 : UInt8) ∈ Instruction.oneOperand ++ Instruction.twoOperands := by decide
  simp only [consumed, hcell, Instruction.opcode, if_pos hmem]
  apply List.mem_append_right
  exact List.mem_singleton.mpr rfl

/-- A cycle changes memory by what it stores and by nothing else. -/
theorem memory_cycle (machine : Machine) :
    machine.cycle.2.memory =
      machine.stored?.elim machine.memory fun write => machine.memory.put write.1 write.2 := by
  unfold stored?
  rcases machine.cycle_cases with ⟨instruction, hfetch, -, hnone, hcycle⟩ | ⟨hfetch, hcycle⟩ |
    ⟨fault, hfetch, hcycle⟩ | ⟨instruction, fault, hfetch, -, hsome, hcycle⟩
  · rw [hcycle, hfetch]
    cases instruction with
    | push register =>
      simp only [hnone]
      rfl
    | _ => rfl
  · rw [hcycle, hfetch]
    rfl
  · rw [hcycle, hfetch]
    rfl
  · rw [hcycle, hfetch]
    cases instruction with
    | push register =>
      simp only [hsome]
      rfl
    | _ => rfl

/-! ## Machines that agree -/

/-- Two machines with the same processor, the second with no fewer cells, that hold the
same bytes in the cells that are needed. -/
structure Agree (needed : Nat → Prop) (first second : Machine) : Prop where
  cpu : second.cpu = first.cpu
  cells : first.memory.cells.size ≤ second.memory.cells.size
  bytes : ∀ address, needed address → second.memory.peek? address = first.memory.peek? address

variable {needed : Nat → Prop} {first second : Machine}

/-- If the consumed cells are needed, both machines fetch the same. -/
theorem Agree.fetch (h : Agree needed first second)
    (hneeded : ∀ address ∈ first.consumed, needed address)
    (hbus : ∀ address, first.fetch ≠ .error (.bus address)) : second.fetch = first.fetch := by
  cases hfetch : first.fetch with
  | ok instruction =>
    rw [fetch_eq_ok_iff]
    intro i hi
    rw [h.cpu, h.bytes _ (hneeded _ (mem_consumed_of_fetch hfetch hi))]
    exact fetch_eq_ok_iff.mp hfetch i hi
  | error fault =>
    obtain ⟨address, rfl⟩ | ⟨code, rfl⟩ := fetch_error_cases hfetch
    · exact absurd hfetch (hbus address)
    · rw [fetch_eq_unknown_iff, h.cpu, h.bytes _ (hneeded _ first.pc_mem_consumed)]
      exact (first.fetch_eq_unknown_iff code).mp hfetch

/-- Where the first memory has a cell, the second has one. -/
theorem Agree.missing? (h : Agree needed first second) {address : Nat}
    (hcell : first.memory.missing? address = none) : second.memory.missing? address = none := by
  have hcells := h.cells
  rw [Memory.missing?_eq_none_iff] at hcell ⊢
  omega

/-- Both machines find the same obstacle, unless the first misses a cell. -/
theorem Agree.obstacle? (h : Agree needed first second) (instruction : Instruction)
    (hbus : ∀ address, first.obstacle? instruction ≠ some (.bus address)) :
    second.obstacle? instruction = first.obstacle? instruction := by
  cases instruction with
  | push register =>
    simp only [Machine.obstacle?, h.cpu] at hbus ⊢
    cases hname : Cpu.unnamed? register with
    | some fault => rfl
    | none =>
      obtain hcell | hcell := first.memory.missing?_cases (first.cpu.sp - 1).toNat
      · rw [h.missing? hcell, hcell]
      · exact absurd (by rw [hname, hcell]; rfl) (hbus (first.cpu.sp - 1).toNat)
  | pop register =>
    simp only [Machine.obstacle?, h.cpu] at hbus ⊢
    obtain hcell | hcell := first.memory.missing?_cases first.cpu.sp.toNat
    · rw [h.missing? hcell, hcell]
    · exact absurd (by rw [hcell]; rfl) (hbus first.cpu.sp.toNat)
  | _ => rfl

/-- An instruction does the same to both processors if a pop takes the same byte. -/
theorem Agree.cpu_perform (h : Agree needed first second) {instruction : Instruction}
    (hpop : ∀ register, instruction = .pop register →
      second.memory.cell first.cpu.sp.toNat = first.memory.cell first.cpu.sp.toNat) :
    (second.perform instruction).cpu = (first.perform instruction).cpu := by
  obtain ⟨cpu, memory⟩ := first
  obtain ⟨_, other⟩ := second
  obtain rfl := h.cpu
  cases instruction with
  | pop register =>
    have hcell := hpop register rfl
    simp only [perform, registersAfter, hcell]
    rfl
  | _ => rfl

/-- Both machines store the same if they fetch the same and find the same obstacle. -/
theorem Agree.stored? (h : Agree needed first second) (hfetch : second.fetch = first.fetch)
    (hobstacle : ∀ instruction, first.fetch = .ok instruction →
      second.obstacle? instruction = first.obstacle? instruction) :
    second.stored? = first.stored? := by
  have hpushed : ∀ register, second.pushed register = first.pushed register := by
    intro register
    rw [pushed_eq, pushed_eq, h.cpu]
  unfold Machine.stored?
  rw [hfetch, h.cpu]
  split
  · next register hpush =>
    rw [hobstacle _ hpush, hpushed]
  · rfl

/-- What a cycle writes goes to a cell. -/
theorem lt_size_of_stored? {machine : Machine} {write : Nat × UInt8}
    (h : machine.stored? = some write) : write.1 < machine.memory.cells.size := by
  unfold Machine.stored? at h
  split at h
  · split at h
    · next hnone =>
      cases h
      have hcell := (Option.or_eq_none_iff.mp hnone).2
      exact (machine.memory.missing?_eq_none_iff _).mp hcell
    · cases h
  · cases h

/-- The same write keeps the needed cells the same. -/
theorem Agree.bytes_stored (h : Agree needed first second)
    (hstored : second.stored? = first.stored?) (address : Nat) (hneeded : needed address) :
    second.cycle.2.memory.peek? address = first.cycle.2.memory.peek? address := by
  have hcells := h.cells
  rw [memory_cycle, memory_cycle, hstored]
  cases hwrite : first.stored? with
  | none => exact h.bytes address hneeded
  | some write =>
    have hlt := lt_size_of_stored? hwrite
    show (second.memory.put write.1 write.2).peek? address =
      (first.memory.put write.1 write.2).peek? address
    rw [Memory.peek?_put, Memory.peek?_put, h.bytes address hneeded]
    by_cases heq : write.1 = address
    · rw [if_pos ⟨heq, by omega⟩, if_pos ⟨heq, hlt⟩]
    · rw [if_neg fun hboth => heq hboth.1, if_neg fun hboth => heq hboth.1]

/-- One cycle: unless the first machine meets a bus fault, both signal the same, store the
same and agree again. -/
theorem Agree.cycle (h : Agree needed first second)
    (hneeded : ∀ address ∈ first.consumed, needed address)
    (hbus : ∀ address, first.cycle.1 ≠ .faulted (.bus address)) :
    second.cycle.1 = first.cycle.1 ∧ second.stored? = first.stored? ∧
      Agree needed first.cycle.2 second.cycle.2 := by
  have hfetch : second.fetch = first.fetch := by
    apply h.fetch hneeded
    intro address hfault
    exact hbus address (congrArg Prod.fst (cycle_of_fetch_error hfault))
  have hobstacle : ∀ instruction, first.fetch = .ok instruction →
      second.obstacle? instruction = first.obstacle? instruction := by
    intro instruction hfetched
    by_cases hhlt : instruction = .hlt
    · rw [hhlt]
      rfl
    · apply h.obstacle?
      intro address hfault
      apply hbus address
      rw [cycle_of_fetch hfetched hhlt, hfault]
  have hstored := h.stored? hfetch hobstacle
  have hcells : first.cycle.2.memory.cells.size ≤ second.cycle.2.memory.cells.size := by
    rw [size_cycle, size_cycle]
    exact h.cells
  have hsame : second.cycle.1 = first.cycle.1 ∧ second.cycle.2.cpu = first.cycle.2.cpu := by
    rcases first.cycle_cases with ⟨instruction, hfetched, hhlt, hnone, hcycle⟩ |
      ⟨hfetched, hcycle⟩ | ⟨fault, hfetched, hcycle⟩ |
      ⟨instruction, fault, hfetched, hhlt, hsome, hcycle⟩
    · rw [cycle_of_fetch (hfetch.trans hfetched) hhlt, hobstacle instruction hfetched, hnone,
        hcycle]
      refine ⟨rfl, h.cpu_perform ?_⟩
      rintro register rfl
      rw [Memory.cell, Memory.cell, h.bytes _ (hneeded _ (sp_mem_consumed hfetched))]
    · rw [Machine.cycle, hfetch.trans hfetched, hcycle]
      exact ⟨rfl, h.cpu⟩
    · rw [cycle_of_fetch_error (hfetch.trans hfetched), hcycle]
      exact ⟨rfl, h.cpu⟩
    · rw [cycle_of_fetch (hfetch.trans hfetched) hhlt, hobstacle instruction hfetched, hsome,
        hcycle]
      refine ⟨rfl, ?_⟩
      show (second.stumbled instruction).cpu = (first.stumbled instruction).cpu
      cases instruction with
      | push register =>
        simp only [stumbled, h.cpu]
      | _ => exact h.cpu
  exact ⟨hsame.1, hstored, hsame.2, hcells, h.bytes_stored hstored⟩

/-! ## Whole runs -/

/-- Machines that agree on what the first cycles of one consume agree after each of them. -/
theorem Agree.after {count : Nat} (h : Agree needed first second)
    (hneeded : ∀ i < count, ∀ address ∈ (first.after i).consumed, needed address)
    (hbus : ∀ i < count, ∀ address, (first.after i).cycle.1 ≠ .faulted (.bus address)) :
    Agree needed (first.after count) (second.after count) := by
  induction count with
  | zero => exact h
  | succ count ih =>
    have hbefore := ih (fun i hi => hneeded i (by omega)) fun i hi => hbus i (by omega)
    exact (hbefore.cycle (hneeded count (by omega)) (hbus count (by omega))).2.2

/-- Where the cycles of the first machine end without a bus fault, those of the second end
in the same way. -/
theorem Agree.ends {count : Nat} {result : Session.Result} (h : Agree needed first second)
    (hneeded : ∀ i ≤ count, ∀ address ∈ (first.after i).consumed, needed address)
    (hends : first.Ends count result)
    (hresult : ∀ address, result ≠ .error (.fault (.bus address))) :
    second.Ends count result ∧
      Agree needed (first.after (count + 1)) (second.after (count + 1)) := by
  have hbus : ∀ i ≤ count, ∀ address, (first.after i).cycle.1 ≠ .faulted (.bus address) := by
    intro i hi address hfault
    obtain hlt | rfl := Nat.lt_or_eq_of_le hi
    · rw [hends.running i hlt] at hfault
      cases hfault
    · have hlast := hends.last
      rw [hfault] at hlast
      exact hresult address (Option.some.inj hlast).symm
  have hsame : ∀ i ≤ count, (second.after i).cycle.1 = (first.after i).cycle.1 := by
    intro i hi
    have hagree : Agree needed (first.after i) (second.after i) :=
      h.after (fun j hj => hneeded j (by omega)) fun j hj => hbus j (by omega)
    exact (hagree.cycle (hneeded i hi) (hbus i hi)).1
  refine ⟨⟨?_, ?_⟩, ?_⟩
  · intro i hi
    rw [hsame i (by omega)]
    exact hends.running i hi
  · rw [hsame count (Nat.le_refl count)]
    exact hends.last
  · exact h.after (fun i hi => hneeded i (by omega)) fun i hi => hbus i (by omega)

/-- Let two machines have the same processor, and the second no fewer cells. If no cycle
among the first so many meets a bus fault on the first machine, and the second machine at
first holds the same bytes at the addresses that these cycles consume, then each of these
cycles signals the same on the second machine, leaves the same processor and makes the same
write to memory, and writes are all that happens to memory. A run into an output that
refuses nothing, if it ends otherwise than with a bus fault, prints and answers the same. -/
theorem locality_of_run {first second : Machine} (hcpu : second.cpu = first.cpu)
    (hcells : first.memory.cells.size ≤ second.memory.cells.size) :
    (∀ count, (∀ i < count, ∀ address, (first.after i).cycle.1 ≠ .faulted (.bus address)) →
      (∀ i < count, ∀ address ∈ (first.after i).consumed,
        second.memory.peek? address = first.memory.peek? address) →
      ∀ i < count, (second.after i).cycle.1 = (first.after i).cycle.1 ∧
        (second.after (i + 1)).cpu = (first.after (i + 1)).cpu ∧
        (second.after i).stored? = (first.after i).stored?) ∧
    (∀ machine : Machine, machine.cycle.2.memory =
      machine.stored?.elim machine.memory fun write => machine.memory.put write.1 write.2) ∧
    ∀ (console : Console) (fuel : Nat) (ended : Session) (result : Session.Result),
      console.Quiet → console.out.Unlimited →
      (Session.start first console).run fuel = some (ended, result) →
      (∀ address, result ≠ .error (.fault (.bus address))) →
      (∀ count, first.RunsFor count → ∀ address ∈ (first.after count).consumed,
        second.memory.peek? address = first.memory.peek? address) →
      ∃ other, (Session.start second console).run fuel = some (other, result) ∧
        other.console.out.held.toList = ended.console.out.held.toList ∧
        other.machine.cpu = ended.machine.cpu := by
  refine ⟨?_, memory_cycle, ?_⟩
  · intro count hbus hbytes i hi
    -- what is needed are the addresses that any of these cycles consumes
    have hagree : Agree (fun address => ∃ i < count, address ∈ (first.after i).consumed)
        first second :=
      ⟨hcpu, hcells, fun address ⟨j, hj, hmem⟩ => hbytes j hj address hmem⟩
    have hneeded : ∀ j < count, ∀ address ∈ (first.after j).consumed,
        ∃ i < count, address ∈ (first.after i).consumed :=
      fun j hj address hmem => ⟨j, hj, hmem⟩
    have hbefore := hagree.after (fun j (hj : j < i) => hneeded j (by omega))
      fun j hj => hbus j (by omega)
    obtain ⟨hsignal, hstored, hafter⟩ := hbefore.cycle (hneeded i hi) (hbus i hi)
    exact ⟨hsignal, hafter.cpu, hstored⟩
  · intro console fuel ended result hquiet hout hanswer hresult hbytes
    obtain ⟨count, hlt, hends, hmachine, hheld⟩ := Session.ends_of_run hquiet hout hanswer
    have hagree : Agree (fun address => ∃ i ≤ count, address ∈ (first.after i).consumed)
        first second :=
      ⟨hcpu, hcells, fun address ⟨i, hi, hmem⟩ => hbytes i (hends.running.mono hi) address hmem⟩
    obtain ⟨hendsOther, hafter⟩ :=
      hagree.ends (fun i hi address hmem => ⟨i, hi, hmem⟩) hends hresult
    obtain ⟨other, hmachineOther, hheldOther, hrun⟩ := Session.run_of_ends hquiet hout hendsOther
    refine ⟨other, by rw [hrun, if_pos hlt], ?_, ?_⟩
    · rw [hheldOther, hheld, hafter.cpu]
    · rw [hmachineOther, hmachine]
      simp only [collected, hafter.cpu]

/-- Pushes a register and pops it in seven cells, and halts in front of the two cells that it
does not consume as code. -/
def sevenCells : Machine where
  cpu := { Cpu.reset with registers := #v[9, 0, 0, 0, 0, 0, 0, 7] }
  memory := { cells := #[0x45, 0, 0x46, 1, 0x01, 0xAA, 0], capacity := 7 }

/-- The same in nine cells, with another byte behind the halt. -/
def nineCells : Machine where
  cpu := sevenCells.cpu
  memory := { cells := #[0x45, 0, 0x46, 1, 0x01, 0x55, 0, 0xFF, 0xFF], capacity := 9 }

/-- The machine with two cells more and another byte behind the halt writes the same byte, has
the same processor after two cycles and halts like the other one. -/
theorem locality_of_sevenCells :
    nineCells.cpu = sevenCells.cpu ∧ sevenCells.memory.cells.size ≤ nineCells.memory.cells.size ∧
    nineCells.memory.peek? 5 ≠ sevenCells.memory.peek? 5 ∧
    ((nineCells.after 0).stored? = (sevenCells.after 0).stored? ∧
      (sevenCells.after 0).stored? = some (6, 9)) ∧
    (nineCells.after 2).cpu = (sevenCells.after 2).cpu ∧
    Session.unlimited.Quiet ∧ Session.unlimited.out.Unlimited ∧
    ∃ ended other, (Session.start sevenCells Session.unlimited).run 3 = some (ended, .ok 2) ∧
      (Session.start nineCells Session.unlimited).run 3 = some (other, .ok 2) ∧
      other.machine.cpu = ended.machine.cpu := by
  have hcpu : nineCells.cpu = sevenCells.cpu := rfl
  have hcells : sevenCells.memory.cells.size ≤ nineCells.memory.cells.size := by decide
  have hrun : sevenCells.RunsFor 2 := by decide +kernel
  have hhalt : (sevenCells.after 2).cycle.1 = .halted := by decide +kernel
  have hbytes : ∀ i < 3, ∀ address ∈ (sevenCells.after i).consumed,
      nineCells.memory.peek? address = sevenCells.memory.peek? address := by decide +kernel
  have hbus : ∀ i < 2, ∀ address, (sevenCells.after i).cycle.1 ≠ .faulted (.bus address) := by
    intro i hi address hfault
    rw [hrun i hi] at hfault
    cases hfault
  have hwithin : ∀ count, sevenCells.RunsFor count → count < 3 := by
    intro count hcount
    by_contra hge
    have hrunning := hcount 2 (by omega)
    rw [hhalt] at hrunning
    cases hrunning
  obtain ⟨hcycles, -, hruns⟩ := locality_of_run hcpu hcells
  have hsame := hcycles 2 hbus fun i hi => hbytes i (by omega)
  have hquiet := Session.unlimited_quiet
  have hout := Session.unlimited_out
  have hresult :
      ((Session.start sevenCells Session.unlimited).run 3).map Prod.snd = some (.ok 2) := by
    decide +kernel
  obtain ⟨⟨ended, result⟩, hanswer, rfl⟩ := Option.map_eq_some_iff.mp hresult
  obtain ⟨other, hother, -, hleft⟩ := hruns Session.unlimited 3 ended (.ok 2) hquiet hout hanswer
    (fun address hfault => by cases hfault) fun count hcount => hbytes count (hwithin count hcount)
  exact ⟨hcpu, hcells, by decide, ⟨(hsame 0 (by omega)).2.2, by decide +kernel⟩,
    (hsame 1 (by omega)).2.1, hquiet, hout, ended, other, hanswer, hother, hleft⟩

end Machine

end ByteMachine
