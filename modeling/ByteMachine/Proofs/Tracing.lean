import ByteMachine.Proofs.AddressBound
import ByteMachine.Proofs.Journal
import ByteMachine.Proofs.TraceLines

/-!
# Tracing

What a session shows on its error sink has no influence on what it does, as long as
that sink takes it: two sessions that differ in nothing else answer alike and print
alike. A tracing session shows one line for each cycle it begins, and the line shows
the machine as it is before that cycle.
-/

set_option autoImplicit false

namespace ByteMachine

open Entry

/-! ## Trace lines -/

namespace Machine

/-- The trace line of a machine, with its end. -/
def traceLine (machine : Machine) : List UInt8 :=
  utf8 (machine.snapshot.line ++ "\n")

/-- The trace lines of the first `count` cycles. -/
def transcript (machine : Machine) (count : Nat) : List UInt8 :=
  (List.range count).flatMap fun i => (machine.after i).traceLine

/-- One cycle more has its line behind those before it. -/
theorem transcript_succ (machine : Machine) (count : Nat) :
    machine.transcript (count + 1) =
      machine.transcript count ++ (machine.after count).traceLine := by
  simp [transcript, List.range_succ, List.flatMap_append]

/-- Pending bytes are not shown. -/
theorem traceLine_delivered (machine : Machine) (count : Nat) :
    (machine.delivered count).traceLine = (machine.after count).traceLine := by
  cases count <;> rfl

variable {filter : Log.Filter}

/-- What a tracing session writes under a terse filter is one line for each cycle. -/
theorem written_account_of_terse (machine : Machine) (h : Log.Terse filter.admits)
    (before count : Nat) :
    written filter before (machine.account true filter count) = machine.transcript count := by
  induction count with
  | zero => rfl
  | succ count ih =>
    rw [account_succ, written_append, ih, transcript_succ, told_of_terse _ _ h, if_pos rfl,
      written_singleton]
    rfl

end Machine

namespace Session

variable {session : Session}

/-! ## One cycle of a quiet session -/

/-- Each cycle writes to the output once. -/
theorem writes_advance (hquiet : session.console.Quiet) :
    session.advance.1.console.out.writes = session.console.out.writes + 1 := by
  have hover : session.handedOver.console.out.writes = session.console.out.writes + 1 := by
    have hwrite : session.handOver.1.writes = session.announced.out.writes + 1 := by
      unfold handOver Sink.write
      split <;> rfl
    rw [session.announced_keeps.1] at hwrite
    exact hwrite
  rw [advance_eq (hquiet.trace session.machine)]
  split
  · exact hover
  · exact hover
  · next result _ _ =>
    obtain ⟨-, -, hout, -, -⟩ := session.handedOver.finish_eq result
    rw [hout]
    exact hover

/-- A step of a quiet session that gives no answer counts one instruction. -/
theorem steps_advance (hquiet : session.console.Quiet) (hnone : session.advance.2 = none) :
    session.advance.1.steps = session.steps + 1 := by
  rw [advance_eq (hquiet.trace session.machine)] at hnone ⊢
  split at hnone
  · cases hnone
  · rfl
  · cases hnone

variable {machine : Machine} {console : Console} {count : Nat}

/-- As long as no cycle answers, each counts as a step and as a write. -/
theorem counts_after (hquiet : console.Quiet)
    (hnone : ∀ i < count, ((start machine console).after i).advance.2 = none) :
    ((start machine console).after count).steps = count ∧
      ((start machine console).after count).console.out.writes = console.out.writes + count := by
  induction count with
  | zero => exact ⟨rfl, rfl⟩
  | succ count ih =>
    obtain ⟨hsteps, hwrites⟩ := ih fun i hi => hnone i (by omega)
    have hquietNow : ((start machine console).after count).console.Quiet :=
      hquiet.of_settings (settings_after (start machine console) count)
    rw [after, steps_advance hquietNow (hnone count (by omega)), writes_advance hquietNow, hsteps,
      hwrites]
    exact ⟨rfl, Nat.add_assoc _ _ _⟩

/-! ## Two sessions side by side -/

/-- Two quiet sessions that differ in nothing but in what they show. -/
structure Alike (session other : Session) : Prop where
  machine : session.machine = other.machine
  out : session.console.out = other.console.out
  steps : session.steps = other.steps
  quiet : session.console.Quiet
  quiet_other : other.console.Quiet

/-- What is told of the end of a run, apart from what it has shown. -/
def outcome (ending : Session × Result) : Machine × Sink × Nat × Result :=
  (ending.1.machine, ending.1.console.out, ending.1.steps, ending.2)

variable {other : Session}

/-- After a cycle two sessions that are alike answer the same and are alike. -/
theorem Alike.advance (h : Alike session other) :
    session.advance.2 = other.advance.2 ∧ Alike session.advance.1 other.advance.1 := by
  have htrace := h.quiet.trace session.machine
  have htraceOther := h.quiet_other.trace other.machine
  obtain ⟨hanswer, hout, hsteps⟩ := advance_parallel htrace htraceOther
    (congrArg (fun machine => machine.cycle.1) h.machine)
    (congrArg (fun machine => machine.cycle.2.cpu.pending) h.machine) h.out h.steps
  refine ⟨hanswer, ?_, hout, hsteps, h.quiet.of_settings session.settings_advance,
    h.quiet_other.of_settings other.settings_advance⟩
  rw [machine_advance_of_announced htrace, machine_advance_of_announced htraceOther, h.machine]

/-- Sessions that are alike have the same outcome, whatever they answer. -/
theorem Alike.outcome_eq (h : Alike session other) (result : Result) :
    outcome (session, result) = outcome (other, result) := by
  simp only [outcome, h.machine, h.out, h.steps]

/-- Two sessions that are alike end together, and with the same outcome. -/
theorem Alike.run (h : Alike session other) (fuel : Nat) :
    (session.run fuel).map outcome = (other.run fuel).map outcome := by
  obtain ⟨hrun, hrunOther⟩ | ⟨ended, endedOther, result, hrun, hrunOther, halike⟩ :=
    run_parallel (fun _ _ => Alike.advance) h fuel
  · rw [hrun, hrunOther]
  · rw [hrun, hrunOther]
    exact congrArg some (halike.outcome_eq result)

/-! ## Whole runs -/

/-- A tracing session and one that does not trace end together and with the same
outcome. Before each of its cycles, the one that halts or fails included, the tracing
session shows one line with the program counter, the flags, three cells and the
registers of the machine as it is then.

The three cells are those at the program counter and at the two addresses behind it. A checked
build, which stops at the end of the addresses, shows the same lines. The one exception is a run
that begins there: its first cycle meets a bus fault, and a checked build that is to trace it
stops before that. -/
theorem tracing_of_run (machine : Machine) {traced plain : Console}
    (htracing : traced.tracing = true) (hplain : plain.tracing = false)
    (hout : traced.out = plain.out) (htireless : traced.err.Tireless) :
    (∀ fuel, ((start machine traced).run fuel).map outcome =
      ((start machine plain).run fuel).map outcome) ∧
    (∀ count, (start machine traced).run count = none →
      ((start machine traced).after count).console.err.held.toList =
        traced.err.held.toList ++ written traced.filter traced.err.writes
          (machine.account true traced.filter count)) ∧
    (∀ fuel ended result, (start machine traced).run fuel = some (ended, result) →
      ∃ count < fuel, (start machine traced).run count = none ∧
        (start machine traced).run (count + 1) = some (ended, result) ∧
        ended.console.out.writes = traced.out.writes + (count + 1) ∧
        ended.console.err.held.toList =
          traced.err.held.toList ++ written traced.filter traced.err.writes
            (machine.account true traced.filter (count + 1) ++ ending traced.filter result) ∧
        (∀ steps, result = .ok steps →
          (machine.after count).cycle.1 = .halted ∧ steps = count) ∧
        ∀ fault, result = .error (.fault fault) →
          (machine.after count).cycle.1 = .faulted fault) ∧
    ((∀ record, traced.filter.admits record = false) → ∀ before count result,
      written traced.filter before
          (machine.account true traced.filter count ++ ending traced.filter result) =
        (List.range count).flatMap fun i => utf8 (machine.after i).snapshot.line ++ [10]) ∧
    (∀ other : Machine, 10 ∉ utf8 other.snapshot.line ∧
      other.snapshot.line = "TRACE: " ++ Numeral.upperHex 2 other.cpu.pc ++ " |"
        ++ Machine.Snapshot.byteField other.cpu.flags ++ " |"
        ++ String.join ([other.cpu.pc, Address.ahead other.cpu.pc 1,
            Address.ahead other.cpu.pc 2].map fun address =>
          Machine.Snapshot.cellField (other.memory.peek? address))
        ++ " |" ++ String.join (other.cpu.registers.toList.map Machine.Snapshot.byteField)) ∧
    (∀ address distance, address + distance < Address.count →
      Address.ahead address distance = address + distance) ∧
    (machine.memory.cells.size + 2 < Address.count → ∀ count, machine.RunsFor count →
      (machine.after count).capture .checked = some (machine.after count).snapshot ∨
      (count = 0 ∧ Address.count ≤ machine.cpu.pc + 2 ∧
        machine.cycle = (.faulted (.bus machine.cpu.pc), machine))) := by
  have hquiet : traced.Quiet := .inr htireless
  refine ⟨?_, ?_, ?_, ?_, ?_, fun _ _ => Address.ahead_of_lt, ?_⟩
  · intro fuel
    have halike : Alike (start machine traced) (start machine plain) :=
      ⟨rfl, hout, rfl, hquiet, .inl hplain⟩
    exact halike.run fuel
  · intro count hrun
    rw [noted_after htireless (no_answer_of_run hrun), Sink.toList_held_noting, htracing]
  · intro fuel ended result hrun
    obtain ⟨count, hlt, hnone, hanswer⟩ := cycle_of_run hrun
    obtain ⟨-, hstate⟩ := runsFor_of_no_answer hnone
    obtain ⟨hsteps, hwrites⟩ := counts_after hquiet hnone
    -- the cycle that answers is the one with this number of the bare machine
    have hcycle := congrArg Prod.fst (machine.cycle_delivered count)
    rw [← hstate] at hcycle
    have hnoted := noted_succ htireless hnone (noted_after htireless hnone)
    have hwrite := writes_advance (hquiet.of_settings (settings_after (start machine traced) count))
    rw [after, hanswer, htracing] at hnoted
    rw [hanswer, hwrites] at hwrite
    refine ⟨count, hlt, run_of_no_answer hnone, ?_, hwrite, ?_, ?_, ?_⟩
    · rw [run_of_answer hnone hanswer, if_pos (by omega)]
    · rw [hnoted, Sink.toList_held_noting]
      rfl
    · rintro steps rfl
      obtain ⟨hhalted, hcounted⟩ := halt_of_advance (congrArg Prod.snd hanswer)
      exact ⟨hcycle.symm.trans hhalted, hcounted.trans hsteps⟩
    · rintro fault rfl
      exact hcycle.symm.trans (fault_of_advance (congrArg Prod.snd hanswer))
  · intro hsilent before count result
    have hterse : Log.Terse traced.filter.admits := fun record _ => hsilent record
    rw [ending_of_terse hterse, List.append_nil, machine.written_account_of_terse hterse]
    simp only [Machine.transcript, Machine.traceLine, utf8_append, show utf8 "\n" = [10] by decide]
  · intro other
    exact ⟨other.snapshot.newline_notMem_line, rfl⟩
  · intro hsize count hrun
    obtain hfits | hends := Machine.fits_of_runsFor hsize hrun
    · exact .inl (Machine.capture_checked_eq_some_iff.mpr ⟨hfits, rfl⟩)
    · exact .inr hends

/-- Prints a register and halts. -/
def printsOnce : Machine :=
  Machine.start (Memory.beginning [0x47, 0, 0x01])

/-- Shows trace lines and nothing else. -/
def showing : Console where
  out := Sink.empty Sink.Policy.accepting
  err := Sink.empty Sink.Policy.accepting
  tracing := true
  filter := Log.Filter.silent

/-- The two cycles are shown by two lines, in either build. -/
theorem tracing_of_printsOnce :
    showing.tracing = true ∧ showing.err.Tireless ∧
    ((start printsOnce showing).run 2).map outcome =
      ((start printsOnce { showing with tracing := false }).run 2).map outcome ∧
    (printsOnce.after 1).capture .checked = some (printsOnce.after 1).snapshot ∧
    ∃ ended : Session, (start printsOnce showing).run 2 = some (ended, .ok 1) ∧
      ended.console.err.held.toList =
        ("TRACE: 00 | 00 | 47 00 01 | 00 00 00 00 00 00 00 F4\n" ++
          "TRACE: 02 | 00 | 01 00 00 | 00 00 00 00 00 00 00 F4\n").toUTF8.toList := by
  have htireless : showing.err.Tireless := fun _ _ _ => rfl
  obtain ⟨halike, -, hends, hlines, -, -, hchecked⟩ :=
    @tracing_of_run printsOnce showing { showing with tracing := false } rfl rfl rfl htireless
  have hsize : printsOnce.memory.cells.size + 2 < Address.count := by decide +kernel
  have hrunning : printsOnce.RunsFor 1 := by decide +kernel
  have hviewed : (printsOnce.after 1).capture .checked = some (printsOnce.after 1).snapshot := by
    obtain hviewed | ⟨hzero, -⟩ := hchecked hsize 1 hrunning
    · exact hviewed
    · cases hzero
  have hresult : ((start printsOnce showing).run 2).map Prod.snd = some (.ok 1) := by
    decide +kernel
  obtain ⟨⟨ended, result⟩, hrun, rfl⟩ := Option.map_eq_some_iff.mp hresult
  obtain ⟨count, -, -, -, -, hheld, hsteps, -⟩ := hends 2 ended (.ok 1) hrun
  obtain ⟨-, rfl⟩ := hsteps 1 rfl
  rw [hlines (fun _ => rfl)] at hheld
  exact ⟨rfl, htireless, halike 2, hviewed, ended, hrun, hheld.trans (by decide +kernel)⟩

end Session

end ByteMachine
