import ByteMachine.Proofs.Delivery

/-!
# Runs that nothing interrupts

An output that refuses nothing lets a run go exactly as far as the bare cycles of its
machine. The run ends with the first cycle that does not go on and answers what that
cycle signals. It leaves the machine as the bare cycles leave it, and the output holds
what was pending at first and then everything the cycles printed.
-/

set_option autoImplicit false

namespace ByteMachine

/-- A sink that refuses nothing. -/
structure Sink.Unlimited (sink : Sink) : Prop where
  tireless : sink.Tireless
  flushes : sink.policy.refusesFlush = none

namespace Machine

/-! ## The end of the bare cycles -/

/-- How the cycles of a machine end: so many go on, and the next one signals what the
result says. -/
structure Ends (machine : Machine) (count : Nat) (result : Session.Result) : Prop where
  running : machine.RunsFor count
  last : Session.resultOf count (machine.after count).cycle.1 = some result

/-- The cycles end without a fault exactly if they go on up to a halt, and the result is their
number. -/
theorem ends_ok_iff (machine : Machine) (count steps : Nat) :
    machine.Ends count (.ok steps) ↔
      steps = count ∧ machine.RunsFor count ∧ (machine.after count).cycle.1 = .halted := by
  constructor
  · rintro ⟨hrun, hlast⟩
    cases hsignal : (machine.after count).cycle.1 <;> rw [hsignal] at hlast <;> cases hlast
    exact ⟨rfl, hrun, rfl⟩
  · rintro ⟨rfl, hrun, hhalted⟩
    exact ⟨hrun, by rw [hhalted]; rfl⟩

/-- The cycles end with an error exactly if they go on up to a fault, which is the cause. -/
theorem ends_error_iff (machine : Machine) (count : Nat) (cause : Interruption) :
    machine.Ends count (.error cause) ↔
      ∃ fault, cause = .fault fault ∧ machine.RunsFor count ∧
        (machine.after count).cycle.1 = .faulted fault := by
  constructor
  · rintro ⟨hrun, hlast⟩
    cases hsignal : (machine.after count).cycle.1 <;> rw [hsignal] at hlast <;> cases hlast
    exact ⟨_, rfl, hrun, rfl⟩
  · rintro ⟨fault, rfl, hrun, hfaulted⟩
    exact ⟨hrun, by rw [hfaulted]; rfl⟩

/-- The last cycle does not go on. -/
theorem Ends.not_running {machine : Machine} {count : Nat} {result : Session.Result}
    (h : machine.Ends count result) : (machine.after count).cycle.1 ≠ .running := by
  intro hrunning
  have hlast := h.last
  rw [hrunning] at hlast
  cases hlast

/-- The cycles end once, and with one result. -/
theorem Ends.unique {machine : Machine} {count other : Nat} {result found : Session.Result}
    (h : machine.Ends count result) (hother : machine.Ends other found) :
    other = count ∧ found = result := by
  obtain rfl := h.running.unique hother.running h.not_running hother.not_running
  exact ⟨rfl, Option.some.inj (hother.last.symm.trans h.last)⟩

/-- The first cycles all go on, or the machine ends within them. -/
theorem ends_cases (machine : Machine) (fuel : Nat) :
    machine.RunsFor fuel ∨ ∃ count < fuel, ∃ result, machine.Ends count result := by
  obtain hrun | ⟨count, hlt, hrun, hlast⟩ := machine.runsFor_cases fuel
  · exact .inl hrun
  · right
    cases hsignal : (machine.after count).cycle.1 with
    | running => exact absurd hsignal hlast
    | halted =>
      exact ⟨count, hlt, .ok count, (machine.ends_ok_iff count count).mpr ⟨rfl, hrun, hsignal⟩⟩
    | faulted fault =>
      exact ⟨count, hlt, .error (.fault fault),
        (machine.ends_error_iff count (.fault fault)).mpr ⟨fault, rfl, hrun, hsignal⟩⟩

/-- What a run hands over in its first cycles is what the bare cycles leave pending. -/
theorem sent_succ_eq_pending (machine : Machine) (count : Nat) :
    machine.sent (count + 1) = (machine.after (count + 1)).cpu.pending := by
  induction count with
  | zero => simp [sent, chunk, after, pending_cycle]
  | succ count ih =>
    rw [sent_succ, ih, chunk]
    exact (machine.after (count + 1)).pending_cycle.symm

/-- A sink that never tires has no verdict on a chunk. -/
theorem verdict_of_tireless (machine : Machine) {sink : Sink} (h : sink.Tireless) (count : Nat) :
    machine.verdict sink count = none :=
  h _ _ _

end Machine

namespace Session

variable {machine : Machine} {console : Console}

/-! ## Runs into an unlimited output -/

/-- A run is on its way while its machine goes on. -/
theorem midway_of_runsFor (hquiet : console.Quiet) (hout : console.out.Unlimited) {count : Nat}
    (hrun : machine.RunsFor count) :
    (∀ i < count, ((start machine console).after i).advance.2 = none) ∧
      Midway machine console count ((start machine console).after count) :=
  midway_after hquiet hrun fun i _ => machine.verdict_of_tireless hout.tireless i

/-- A run does not end while its machine goes on. -/
theorem run_of_runsFor (hquiet : console.Quiet) (hout : console.out.Unlimited) {fuel : Nat}
    (hrun : machine.RunsFor fuel) : (start machine console).run fuel = none :=
  run_of_no_answer (midway_of_runsFor hquiet hout hrun).1

/-- Where the bare cycles end, the run ends, with everything printed in the output. -/
theorem run_of_ends (hquiet : console.Quiet) (hout : console.out.Unlimited) {count : Nat}
    {result : Result} (h : machine.Ends count result) :
    ∃ ended : Session,
      ended.machine = (machine.after (count + 1)).collected ∧
      ended.console.out.held.toList =
        console.out.held.toList ++ (machine.after (count + 1)).cpu.pending ∧
      ∀ fuel, (start machine console).run fuel =
        if count < fuel then some (ended, result) else none := by
  obtain ⟨hnone, hmidway⟩ := midway_of_runsFor hquiet hout h.running
  obtain ⟨hanswer, hmachine, hheld⟩ :=
    hmidway.ends (machine.verdict_of_tireless hout.tireless count) h.last
  have hflushed : flushed console.out result = result := by
    rw [flushed, hout.flushes]
  rw [hflushed] at hanswer
  refine ⟨_, hmachine, ?_, run_of_answer hnone (Prod.ext rfl hanswer)⟩
  rw [hheld, machine.sent_succ_eq_pending]
  simp [Sink.flush, Sink.received]

/-- While a run has not ended, its machine goes on. -/
theorem runsFor_of_run (hquiet : console.Quiet) (hout : console.out.Unlimited) {fuel : Nat}
    (hrun : (start machine console).run fuel = none) : machine.RunsFor fuel := by
  obtain hgoes | ⟨count, hlt, result, hends⟩ := machine.ends_cases fuel
  · exact hgoes
  · obtain ⟨ended, -, -, hanswer⟩ := run_of_ends hquiet hout hends
    rw [hanswer, if_pos hlt] at hrun
    cases hrun

/-- A run that ends has come to the end of the bare cycles. -/
theorem ends_of_run (hquiet : console.Quiet) (hout : console.out.Unlimited) {fuel : Nat}
    {ended : Session} {result : Result}
    (hanswer : (start machine console).run fuel = some (ended, result)) :
    ∃ count < fuel, machine.Ends count result ∧
      ended.machine = (machine.after (count + 1)).collected ∧
      ended.console.out.held.toList =
        console.out.held.toList ++ (machine.after (count + 1)).cpu.pending := by
  obtain hrun | ⟨count, hlt, found, hends⟩ := machine.ends_cases fuel
  · rw [run_of_runsFor hquiet hout hrun] at hanswer
    cases hanswer
  · obtain ⟨other, hmachine, hheld, hrun⟩ := run_of_ends hquiet hout hends
    rw [hrun fuel, if_pos hlt] at hanswer
    obtain ⟨rfl, rfl⟩ := Prod.mk.inj (Option.some.inj hanswer)
    exact ⟨count, hlt, hends, hmachine, hheld⟩

/-- Some fuel makes a session end with a result exactly if the bare cycles end with it. -/
theorem exists_run_iff (hquiet : console.Quiet) (hout : console.out.Unlimited) (result : Result) :
    (∃ fuel ended, (start machine console).run fuel = some (ended, result)) ↔
      ∃ count, machine.Ends count result := by
  constructor
  · rintro ⟨fuel, ended, hanswer⟩
    obtain ⟨count, -, hends, -⟩ := ends_of_run hquiet hout hanswer
    exact ⟨count, hends⟩
  · rintro ⟨count, hends⟩
    obtain ⟨ended, -, -, hrun⟩ := run_of_ends hquiet hout hends
    exact ⟨count + 1, ended, by rw [hrun, if_pos (by omega)]⟩

end Session

namespace Machine

/-! ## Halts -/

/-- A cycle halts exactly where the byte at the program counter is the opcode of a halt. -/
theorem halted_iff (machine : Machine) :
    machine.cycle.1 = .halted ↔
      machine.memory.peek? machine.cpu.pc = some Instruction.hlt.opcode := by
  have hfetch : machine.fetch = .ok .hlt ↔
      machine.memory.peek? machine.cpu.pc = some Instruction.hlt.opcode := by
    rw [fetch_eq_ok_iff]
    constructor
    · intro h
      exact h 0 (by decide)
    · intro h i hi
      obtain rfl : i = 0 := Nat.lt_one_iff.mp hi
      exact h
  rw [← hfetch]
  rcases machine.cycle_cases with ⟨instruction, hfetched, hhlt, -, hcycle⟩ |
    ⟨hfetched, hcycle⟩ | ⟨fault, hfetched, hcycle⟩ | ⟨instruction, fault, hfetched, hhlt, -, hcycle⟩
  · simp [hcycle, hfetched, hhlt]
  · simp [hcycle, hfetched]
  · simp [hcycle, hfetched]
  · simp [hcycle, hfetched, hhlt]

/-- The halt changes nothing. -/
theorem cycle_of_halted {machine : Machine} (h : machine.cycle.1 = .halted) :
    machine.cycle.2 = machine := by
  rcases machine.cycle_cases with ⟨instruction, -, -, -, hcycle⟩ | ⟨-, hcycle⟩ |
    ⟨fault, -, hcycle⟩ | ⟨instruction, fault, -, -, -, hcycle⟩
  · rw [hcycle] at h
    cases h
  · rw [hcycle]
  · rw [hcycle] at h
    cases h
  · rw [hcycle] at h
    cases h

end Machine

namespace Session

variable {machine : Machine} {console : Console}

/-! ## The run and the bare cycles -/

/-- A run into an output that refuses nothing is its machine cycling by itself. It ends
with a number exactly if so many cycles go on and the next one halts, and with a fault
exactly if some cycles go on and the next one meets it; it is interrupted by nothing
else. The machine it leaves differs from the one the bare cycles leave in having nothing
pending, and the output holds what was pending at first followed by what the cycles
printed. A halt is counted out: it is the only cycle of the run that begins at one. -/
theorem iterated_of_run (machine : Machine) {console : Console} (hquiet : console.Quiet)
    (hout : console.out.Unlimited) :
    (∀ count, (∃ fuel ended, (start machine console).run fuel = some (ended, .ok count)) ↔
      machine.RunsFor count ∧ (machine.after count).cycle.1 = .halted) ∧
    (∀ cause, (∃ fuel ended, (start machine console).run fuel = some (ended, .error cause)) ↔
      ∃ count fault, cause = .fault fault ∧ machine.RunsFor count ∧
        (machine.after count).cycle.1 = .faulted fault) ∧
    ∀ fuel ended result, (start machine console).run fuel = some (ended, result) →
      ∃ count < fuel, machine.RunsFor count ∧
        resultOf count (machine.after count).cycle.1 = some result ∧
        ended.machine.memory = (machine.after (count + 1)).memory ∧
        ended.machine.cpu = { (machine.after (count + 1)).cpu with pending := [] } ∧
        (∀ i, (machine.after (i + 1)).cpu.pending =
          (machine.after i).cpu.pending ++ (machine.after i).output) ∧
        ended.console.out.held.toList = console.out.held.toList ++ (machine.cpu.pending ++
          (List.range (count + 1)).flatMap fun i => (machine.after i).output) ∧
        ∀ steps, result = .ok steps → steps = count ∧
          ended.machine.memory.peek? ended.machine.cpu.pc = some 0x01 ∧
          ∀ i < count, (machine.after i).memory.peek? (machine.after i).cpu.pc ≠ some 0x01 := by
  refine ⟨?_, ?_, ?_⟩
  · intro count
    rw [exists_run_iff hquiet hout]
    simp only [Machine.ends_ok_iff]
    constructor
    · rintro ⟨other, rfl, hends⟩
      exact hends
    · intro hends
      exact ⟨count, rfl, hends⟩
  · intro cause
    rw [exists_run_iff hquiet hout]
    simp only [Machine.ends_error_iff]
  · intro fuel ended result hanswer
    obtain ⟨count, hlt, hends, hmachine, hheld⟩ := ends_of_run hquiet hout hanswer
    refine ⟨count, hlt, hends.running, hends.last, by rw [hmachine]; rfl, by rw [hmachine]; rfl,
      fun i => (machine.after i).pending_cycle, ?_, ?_⟩
    · rw [hheld, machine.pending_after]
      rfl
    · rintro steps rfl
      obtain ⟨hsteps, hrun, hhalted⟩ := (machine.ends_ok_iff count steps).mp hends
      have hstays : machine.after (count + 1) = machine.after count :=
        Machine.cycle_of_halted hhalted
      refine ⟨hsteps, ?_, ?_⟩
      · rw [hmachine, hstays]
        show (machine.after count).memory.peek? (machine.after count).cpu.pc = some 0x01
        exact (machine.after count).halted_iff.mp hhalted
      · intro i hi hhlt
        have hearly := (machine.after i).halted_iff.mpr hhlt
        rw [hrun i hi] at hearly
        cases hearly

/-- Has something pending, prints a register that holds 65 as a number and as a character,
and meets a byte that is no opcode. -/
def printsAndFaults : Machine where
  cpu := { Cpu.reset with registers := #v[65, 0, 0, 0, 0, 0, 0, 0xF4], pending := [0x3E, 0x20] }
  memory := Memory.beginning [0x47, 0, 0x48, 0, 0xFF]

/-- Accepts everything and shows nothing. -/
def unlimited : Console where
  out := Sink.empty Sink.Policy.accepting
  err := Sink.empty Sink.Policy.accepting
  tracing := false
  filter := Log.Filter.silent

/-- The console that accepts everything does not trace, so it is quiet. -/
theorem unlimited_quiet : unlimited.Quiet :=
  .inl rfl

/-- The output of the console that accepts everything has no limit. -/
theorem unlimited_out : unlimited.out.Unlimited :=
  ⟨fun _ _ _ => rfl, rfl⟩

/-- The session ends as the bare cycles do, and its output has received what was pending, then
the number and its line feed, then the character. -/
theorem iterated_of_printsAndFaults :
    unlimited.Quiet ∧ unlimited.out.Unlimited ∧
    ∃ fuel ended, (start printsAndFaults unlimited).run fuel =
        some (ended, .error (.fault (.unknownInstruction 0xFF))) ∧
      ended.console.out.held.toList = [0x3E, 0x20, 0x36, 0x35, 0x0A, 0x41] := by
  have hquiet := unlimited_quiet
  have hout := unlimited_out
  obtain ⟨-, hfaults, hends⟩ := iterated_of_run printsAndFaults hquiet hout
  have hrun : printsAndFaults.RunsFor 2 := by decide +kernel
  have hfaulted : (printsAndFaults.after 2).cycle.1 = .faulted (.unknownInstruction 0xFF) := by
    decide +kernel
  obtain ⟨fuel, ended, hanswer⟩ := (hfaults (.fault (.unknownInstruction 0xFF))).mpr
    ⟨2, .unknownInstruction 0xFF, rfl, hrun, hfaulted⟩
  obtain ⟨count, -, hcount, hresult, -, -, -, hheld, -⟩ := hends fuel ended _ hanswer
  -- the run has made as many cycles as the machine
  have htwo : printsAndFaults.Ends 2 (.error (.fault (.unknownInstruction 0xFF))) :=
    ⟨hrun, by rw [hfaulted]; rfl⟩
  obtain ⟨rfl, -⟩ := htwo.unique ⟨hcount, hresult⟩
  exact ⟨hquiet, hout, fuel, ended, hanswer, hheld.trans (by decide +kernel)⟩

end Session

end ByteMachine
