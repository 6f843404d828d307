import ByteMachine.Proofs.Uninterrupted

/-!
# Runs that are interrupted and taken up again

Everything a run goes by is in its machine. A run of a machine that has already made some
cycles comes to what the whole run comes to, less those cycles and what they printed. So
a run that its output has interrupted is completed by a second one, and of what the whole
run prints only the refused bytes are missing.

A machine that stands at a halt, or that has met a fault, does so again when it is run
again. It stays as it is, unless it pushes a register that does not exist: such a push
moves the stack pointer each time before it fails.
-/

set_option autoImplicit false

namespace ByteMachine

namespace Session

/-! ## What a run comes to -/

/-- What a run comes to: the machine it leaves, what is in its output, and its result. -/
structure Yield where
  machine : Machine
  output : List UInt8
  result : Result
deriving DecidableEq

/-- What the end of a run comes to. -/
def yield (ending : Session × Result) : Yield where
  machine := ending.1.machine
  output := ending.1.console.out.held.toList
  result := ending.2

/-- What a run comes to if so many instructions have been carried out before it, and these
bytes printed. -/
def Yield.following (rest : Yield) (steps : Nat) (output : List UInt8) : Yield where
  machine := rest.machine
  output := output ++ rest.output
  result := rest.result.map (steps + ·)

end Session

/-- A console with an empty output that refuses nothing, and whose trace lines are not
refused either. -/
structure Console.Fresh (console : Console) : Prop where
  quiet : console.Quiet
  unlimited : console.out.Unlimited
  empty : console.out.held = #[]

namespace Machine

variable {machine : Machine} {done count : Nat}

/-! ## Machines with nothing pending -/

/-- If nothing is pending at first, a run has the machine of the bare cycles without what
they printed. -/
theorem delivered_eq_collected (hpending : machine.cpu.pending = []) (count : Nat) :
    machine.delivered count = (machine.after count).collected := by
  cases count with
  | zero =>
    show machine = machine.withPending []
    rw [← hpending]
    rfl
  | succ count => rfl

/-- If nothing is pending at first, what is sent is what is printed. -/
theorem sent_eq_prints (hpending : machine.cpu.pending = []) (count : Nat) :
    machine.sent count = machine.prints count := by
  cases count with
  | zero => rfl
  | succ count => rw [sent_succ_eq_pending, pending_after, hpending, List.nil_append]

/-- What is printed later comes behind what is printed before. -/
theorem prints_add (machine : Machine) (count more : Nat) :
    machine.prints (count + more) = machine.prints count ++ (machine.after count).prints more := by
  simp [prints, List.range_add, List.flatMap_append, List.flatMap_map, after_add]

/-- A cycle that does not go on prints nothing. -/
theorem output_of_not_running (h : machine.cycle.1 ≠ .running) : machine.output = [] := by
  unfold output
  rcases machine.cycle_cases with ⟨instruction, -, -, -, hcycle⟩ | ⟨hfetch, -⟩ |
    ⟨fault, hfetch, -⟩ | ⟨instruction, fault, hfetch, -, hobstacle, -⟩
  · rw [hcycle] at h
    exact absurd rfl h
  · rw [hfetch]
    rfl
  · rw [hfetch]
  · rw [hfetch]
    simp only [hobstacle]

/-! ## The cycles that are left -/

/-- What was printed before does not influence the cycles that are left. -/
theorem signal_collected (machine : Machine) (done count : Nat) :
    ((machine.after done).collected.after count).cycle.1 =
      (machine.after (done + count)).cycle.1 := by
  rw [after_add]
  exact (machine.after done).signal_withPending [] count

/-- Only what is pending tells the cycles that are left from those of the whole run. -/
theorem collected_after (machine : Machine) (done count : Nat) :
    ((machine.after done).collected.after count).collected =
      (machine.after (done + count)).collected := by
  have hafter := congrArg collected ((machine.after done).after_withPending [] count)
  rw [after_add]
  exact hafter

/-- What was printed before is not printed again. -/
theorem prints_collected (machine : Machine) (count : Nat) :
    machine.collected.prints count = machine.prints count := by
  have houtput : ∀ i, (machine.collected.after i).output = (machine.after i).output := by
    intro i
    have hafter := congrArg output (machine.after_withPending [] i)
    exact hafter
  simp only [prints, houtput]

/-- Cycles that go on before and behind an interruption go on in the whole run. -/
theorem RunsFor.whole (hrun : machine.RunsFor done)
    (h : (machine.after done).collected.RunsFor count) : machine.RunsFor (done + count) := by
  rw [runsFor_add hrun]
  intro i hi
  rw [← after_add, ← signal_collected]
  exact h i hi

/-- Where the cycles that are left end, the cycles of the whole run end. -/
theorem Ends.whole {result : Session.Result} (hrun : machine.RunsFor done)
    (h : (machine.after done).collected.Ends count result) :
    machine.Ends (done + count) (result.map (done + ·)) := by
  refine ⟨hrun.whole h.running, ?_⟩
  have hlast := h.last
  rw [signal_collected] at hlast
  cases hcycle : (machine.after (done + count)).cycle.1 with
  | running =>
    rw [hcycle] at hlast
    cases hlast
  | halted | faulted fault =>
    rw [hcycle] at hlast
    cases hlast
    rfl

end Machine

namespace Session

variable {machine : Machine} {console again : Console} {done : Nat}

/-! ## A run that is taken up -/

/-- A run on a fresh console comes to the machine behind its last cycle, its whole output, and
its result. -/
theorem yield_of_ends (hpending : machine.cpu.pending = []) (hconsole : console.Fresh)
    {count : Nat} {result : Result} (h : machine.Ends count result) (fuel : Nat) :
    ((start machine console).run fuel).map yield =
      if count < fuel then
        some ⟨(machine.after (count + 1)).collected, machine.prints (count + 1), result⟩
      else none := by
  obtain ⟨ended, hmachine, hheld, hrun⟩ := run_of_ends hconsole.quiet hconsole.unlimited h
  rw [hconsole.empty, machine.pending_after, hpending] at hheld
  rw [hrun]
  split
  · simp [yield, hmachine, hheld]
  · rfl

/-- A run that has not ended has the machine of the bare cycles, and what they printed is in
its output. -/
theorem after_of_run (hpending : machine.cpu.pending = []) (hconsole : console.Fresh)
    (hrun : (start machine console).run done = none) :
    ((start machine console).after done).machine = (machine.after done).collected ∧
      ((start machine console).after done).console.out.held.toList = machine.prints done ∧
      ((start machine console).after done).console.out.flushes = console.out.flushes := by
  have hgoes := runsFor_of_run hconsole.quiet hconsole.unlimited hrun
  obtain ⟨-, hmidway⟩ := midway_of_runsFor hconsole.quiet hconsole.unlimited hgoes
  refine ⟨hmidway.state.trans (Machine.delivered_eq_collected hpending done), ?_, ?_⟩
  · rw [hmidway.taken, ← machine.sent_eq_prints hpending]
    simp [Sink.received, hconsole.empty]
  · rw [hmidway.taken]
    rfl

/-- A run of a machine that has made some cycles, all of which went on, comes to what the
whole run comes to, less those cycles and what they printed. -/
theorem yield_resumed (hrun : machine.RunsFor done) (hpending : machine.cpu.pending = [])
    (hconsole : console.Fresh) (hagain : again.Fresh) (fuel : Nat) :
    ((start machine console).run (done + fuel)).map yield =
      (((start (machine.after done).collected again).run fuel).map yield).map
        (·.following done (machine.prints done)) := by
  -- whether and how the cycles that are left end decides about both runs
  obtain hrest | ⟨count, hlt, result, hends⟩ := (machine.after done).collected.ends_cases fuel
  · rw [run_of_runsFor hagain.quiet hagain.unlimited hrest,
      run_of_runsFor hconsole.quiet hconsole.unlimited (hrun.whole hrest)]
    rfl
  · rw [yield_of_ends rfl hagain hends, yield_of_ends hpending hconsole (hends.whole hrun),
      if_pos hlt, if_pos (by omega), Machine.collected_after, Machine.prints_collected,
      Nat.add_assoc, Machine.prints_add]
    rfl

/-! ## A run that is repeated -/

/-- A run of the machine halts at once, prints nothing and leaves the machine as it is. -/
def HaltsAgain (machine : Machine) (console : Console) : Prop :=
  ∀ fuel, ((start machine console).run fuel).map yield =
    if 0 < fuel then some ⟨machine, [], .ok 0⟩ else none

end Session

namespace Machine

variable {machine : Machine} {fault : Fault}

/-- The machine is about to push a register that does not exist. -/
def PushesUnnamed (machine : Machine) : Prop :=
  ∃ register, machine.fetch = .ok (.push register) ∧ 8 ≤ register.toNat

/-- The machine with its stack pointer moved down by one. -/
def lowered (machine : Machine) : Machine :=
  { machine with cpu := machine.cpu.setSp (machine.cpu.sp - 1) }

/-- A last cycle is the same one without what was printed before. -/
theorem cycle_collected (h : machine.cycle.1 ≠ .running) :
    machine.collected.cycle = (machine.cycle.1, machine.cycle.2.collected) := by
  have hcycle := machine.cycle_withPending []
  rw [output_of_not_running h] at hcycle
  exact hcycle

/-- A machine of 256 cells that has met a fault meets it again. Only a push of a register
that does not exist changes it. -/
theorem cycle_of_faulted_again (hram : machine.memory.cells.size = 256)
    (h : machine.cycle.1 = .faulted fault) :
    machine.cycle.2.cycle.1 = .faulted fault ∧
      (¬ machine.cycle.2.PushesUnnamed → machine.cycle.2.cycle.2 = machine.cycle.2) ∧
      (machine.cycle.2.PushesUnnamed → machine.cycle.2.cycle.2 = machine.cycle.2.lowered) := by
  obtain ⟨hfetch, hstays⟩ | ⟨instruction, hfetch, hhlt, hobstacle, hstumbled⟩ := cycle_of_faulted h
  · rw [hstays]
    refine ⟨h, fun _ => hstays, ?_⟩
    rintro ⟨register, hpush, -⟩
    rw [hfetch] at hpush
    cases hpush
  · rw [hstumbled]
    cases instruction with
    | push register =>
      -- the pushed cell exists, so the obstacle is the register, which is still not there
      have hcell : machine.memory.missing? (machine.cpu.sp - 1).toNat = none := by
        rw [Memory.missing?_eq_none_iff, hram]
        exact (machine.cpu.sp - 1).toNat_lt
      have hunnamed : Cpu.unnamed? register = some fault := by
        rwa [obstacle?, hcell, Option.or_none] at hobstacle
      have hpush : (machine.stumbled (.push register)).fetch = .ok (.push register) := hfetch
      have hagain : (machine.stumbled (.push register)).obstacle? (.push register) = some fault := by
        rw [obstacle?, hunnamed]
        rfl
      rw [cycle_of_fetch hpush hhlt, hagain]
      refine ⟨rfl, fun hnamed => ?_, fun _ => rfl⟩
      refine absurd ⟨register, hpush, ?_⟩ hnamed
      rw [Cpu.unnamed?] at hunnamed
      split at hunnamed
      · cases hunnamed
      · next hge => exact Nat.not_lt.mp hge
    | _ =>
      refine ⟨h, fun _ => hstumbled, ?_⟩
      rintro ⟨register, hpush, -⟩
      have hsame := hfetch.symm.trans hpush
      cases hsame

end Machine

namespace Session

variable {machine : Machine} {console : Console} {fault : Fault}

/-- A run of the machine meets the fault at once and prints nothing. It leaves the machine
as it is, or, if it pushes a register that does not exist, with its stack pointer moved. -/
structure FaultsAgain (machine : Machine) (console : Console) (fault : Fault) : Prop where
  stays : ¬ machine.PushesUnnamed → ∀ fuel, ((start machine console).run fuel).map yield =
    if 0 < fuel then some ⟨machine, [], .error (.fault fault)⟩ else none
  moves : machine.PushesUnnamed → ∀ fuel, ((start machine console).run fuel).map yield =
    if 0 < fuel then some ⟨machine.lowered, [], .error (.fault fault)⟩ else none

/-- A run that does not come further than its first cycle. -/
theorem yield_of_first (hconsole : console.Fresh) {result : Result}
    (hlast : resultOf 0 machine.cycle.1 = some result) (fuel : Nat) :
    ((start machine.collected console).run fuel).map yield =
      if 0 < fuel then some ⟨machine.cycle.2.collected, [], result⟩ else none := by
  have hstop : machine.cycle.1 ≠ .running := by
    intro hrunning
    rw [hrunning] at hlast
    cases hlast
  have hcycle := Machine.cycle_collected hstop
  have hends : machine.collected.Ends 0 result := by
    refine ⟨fun i hi => absurd hi (Nat.not_lt_zero i), ?_⟩
    rw [Machine.after, hcycle]
    exact hlast
  have hprints : machine.collected.prints 1 = [] := by
    rw [Machine.prints_succ, Machine.output_of_not_running hends.not_running]
    rfl
  rw [yield_of_ends rfl hconsole hends, hprints, Machine.after, Machine.after, hcycle]
  rfl

/-- A machine that stands at a halt halts again. -/
theorem haltsAgain_of_halted (h : machine.cycle.1 = .halted) (hconsole : console.Fresh) :
    HaltsAgain machine.cycle.2.collected console := by
  intro fuel
  have hstays := Machine.cycle_of_halted h
  have hlast : resultOf 0 machine.cycle.1 = some (.ok 0) := by
    rw [h]
    rfl
  have hyield := yield_of_first hconsole hlast fuel
  rwa [hstays] at hyield ⊢

/-- A machine that has met a fault meets it again. -/
theorem faultsAgain_of_faulted (hram : machine.memory.cells.size = 256)
    (h : machine.cycle.1 = .faulted fault) (hconsole : console.Fresh) :
    FaultsAgain machine.cycle.2.collected console fault := by
  obtain ⟨hfaulted, hstays, hmoves⟩ := Machine.cycle_of_faulted_again hram h
  have hlast : resultOf 0 machine.cycle.2.cycle.1 = some (.error (.fault fault)) := by
    rw [hfaulted]
    rfl
  have hyield := yield_of_first hconsole hlast
  constructor
  · intro hnamed fuel
    rw [hyield, hstays hnamed]
  · intro hunnamed fuel
    rw [hyield, hmoves hunnamed]
    rfl

/-! ## Whole runs -/

/-- The machine that a run has before any of its cycles has as many cells as at first. -/
theorem size_session (machine : Machine) (console : Console) (count : Nat) :
    ((start machine console).after count).machine.memory.cells.size =
      machine.memory.cells.size := by
  refine after_induction (fun session => session.machine.memory.cells.size =
    machine.memory.cells.size) ?_ rfl count
  intro session h
  obtain hstays | hcycle := session.machine_advance
  · rw [hstays]
    exact h
  · rw [hcycle]
    exact session.machine.size_cycle.trans h

/-- A machine of 256 cells is run into an output that refuses one of its writes and holds
nothing of it, and then again into one that refuses nothing. If the cycle of that write
goes on, the second run completes the first: with the refused bytes between what the two
have printed, and the instructions of both counted, they come to what one whole run comes
to, and both end or neither does. After a halt the second run halts at once, and after a
fault it meets the fault at once, whether or not the first run could tell of it. -/
theorem resumption_of_run {machine : Machine} (hram : machine.memory.cells.size = 256)
    (hpending : machine.cpu.pending = []) {first whole again : Console} (hfirst : first.Quiet)
    (hempty : first.out.held = #[]) (hwhole : whole.Fresh) (hagain : again.Fresh)
    {k : Nat} {reason : String} (hrun : machine.RunsFor k)
    (htaken : ∀ i < k, machine.verdict first.out i = none)
    (hrefused : machine.verdict first.out k = some (0, reason)) :
    (∃ stopped : Session,
      (∀ fuel, (start machine first).run fuel =
        if k < fuel then some (stopped, .error (.output reason)) else none) ∧
      ((machine.after k).cycle.1 = .running →
        (start machine whole).run (k + 1) = none ∧
        ∀ fuel, ((start machine whole).run (k + 1 + fuel)).map yield =
          (((start stopped.machine again).run fuel).map yield).map
            (·.following (k + 1)
              (stopped.console.out.held.toList ++ (machine.after k).output))) ∧
      ((machine.after k).cycle.1 = .halted → HaltsAgain stopped.machine again) ∧
      ∀ fault, (machine.after k).cycle.1 = .faulted fault →
        FaultsAgain stopped.machine again fault) ∧
    ∀ console fuel ended,
      (∀ steps, (start machine console).run fuel = some (ended, .ok steps) →
        HaltsAgain ended.machine again) ∧
      ∀ fault, (start machine console).run fuel = some (ended, .error (.fault fault)) →
        FaultsAgain ended.machine again fault := by
  constructor
  · obtain ⟨hnone, hmidway⟩ := midway_after hfirst hrun htaken
    obtain ⟨hanswer, hmachine, hout⟩ := hmidway.refused hrefused
    refine ⟨_, run_of_answer hnone (Prod.ext rfl hanswer), ?_, ?_, ?_⟩
    · intro hrunning
      have hmore : machine.RunsFor (k + 1) := (machine.runsFor_succ_iff k).mpr ⟨hrun, hrunning⟩
      refine ⟨run_of_runsFor hwhole.quiet hwhole.unlimited hmore, fun fuel => ?_⟩
      rw [hmachine, hout, yield_resumed hmore hpending hwhole hagain, machine.prints_succ]
      simp [Sink.received, hempty, machine.sent_eq_prints hpending]
    · intro hhalted
      rw [hmachine]
      exact haltsAgain_of_halted hhalted hagain
    · intro fault hfaulted
      rw [hmachine]
      exact faultsAgain_of_faulted ((machine.size_after k).trans hram) hfaulted hagain
  · intro console fuel ended
    constructor
    · intro steps hanswered
      obtain ⟨count, -, -, hanswer⟩ := cycle_of_run hanswered
      rw [machine_of_answer hanswer (by simp)]
      exact haltsAgain_of_halted (halt_of_advance (congrArg Prod.snd hanswer)).1 hagain
    · intro fault hanswered
      obtain ⟨count, -, -, hanswer⟩ := cycle_of_run hanswered
      rw [machine_of_answer hanswer (by simp)]
      exact faultsAgain_of_faulted ((size_session machine console count).trans hram)
        (fault_of_advance (congrArg Prod.snd hanswer)) hagain

/-- Prints three registers and halts. -/
def printsThrice : Machine where
  cpu := { Cpu.reset with registers := #v[1, 2, 3, 0, 0, 0, 0, 0xF4] }
  memory := Memory.beginning [0x47, 0, 0x47, 1, 0x47, 2, 0x01]

/-- Takes one write and refuses those after it. -/
def oneWrite : Console :=
  { unlimited with out := Sink.empty (Sink.Policy.accepting.withWriteLimit 1 "sink full") }

/-- The console that accepts everything is fresh. -/
theorem unlimited_fresh : unlimited.Fresh :=
  ⟨unlimited_quiet, unlimited_out, rfl⟩

/-- The run that was refused its second number, resumed on another console, comes with what
was held and that number to what the whole run comes to. -/
theorem resumption_of_printsThrice :
    printsThrice.memory.cells.size = 256 ∧ printsThrice.cpu.pending = [] ∧ oneWrite.Quiet ∧
    oneWrite.out.held = #[] ∧ unlimited.Fresh ∧ printsThrice.RunsFor 1 ∧
    (∀ i < 1, printsThrice.verdict oneWrite.out i = none) ∧
    printsThrice.verdict oneWrite.out 1 = some (0, "sink full") ∧
    ∃ stopped : Session,
      (start printsThrice oneWrite).run 2 = some (stopped, .error (.output "sink full")) ∧
      ((start printsThrice unlimited).run 4).map yield =
        (((start stopped.machine unlimited).run 2).map yield).map
          (·.following 2 (stopped.console.out.held.toList ++ [0x32, 0x0A])) ∧
      ((start printsThrice unlimited).run 4).map (fun ending => (yield ending).output) =
        some [0x31, 0x0A, 0x32, 0x0A, 0x33, 0x0A] := by
  have hram : printsThrice.memory.cells.size = 256 := by decide +kernel
  have hrun : printsThrice.RunsFor 1 := by decide +kernel
  have htaken : ∀ i < 1, printsThrice.verdict oneWrite.out i = none := by decide +kernel
  have hrefused : printsThrice.verdict oneWrite.out 1 = some (0, "sink full") := by decide +kernel
  have hrunning : (printsThrice.after 1).cycle.1 = .running := by decide +kernel
  have hlost : (printsThrice.after 1).output = [0x32, 0x0A] := by decide +kernel
  obtain ⟨⟨stopped, hstopped, hcompleted, -⟩, -⟩ := resumption_of_run hram rfl (.inl rfl) rfl
    unlimited_fresh unlimited_fresh hrun htaken hrefused
  have hyield := (hcompleted hrunning).2 2
  rw [hlost] at hyield
  exact ⟨hram, rfl, .inl rfl, rfl, unlimited_fresh, hrun, htaken, hrefused, stopped, hstopped 2,
    hyield, by decide +kernel⟩

end Session

end ByteMachine
