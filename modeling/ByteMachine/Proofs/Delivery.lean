import ByteMachine.Proofs.Course

/-!
# What a run hands over

After every cycle a run writes what is pending to the output: what the cycle printed
and, after the first cycle, whatever was pending before. The sink decides about each
of these writes by what it holds and what it is offered, so its verdicts are known
from the bare cycles of the machine.

They decide how the run ends: with the first refusal, whatever the cycle signalled, or
else with one flush behind the halt or the fault. `Session.Midway` is what holds of a
run until then.
-/

set_option autoImplicit false

namespace ByteMachine

/-! ## Sinks -/

namespace Sink

/-- The sink after so many writes that left these bytes in it. -/
def received (sink : Sink) (count : Nat) (bytes : List UInt8) : Sink :=
  { sink with held := sink.held ++ bytes, writes := sink.writes + count }

/-- A sink that refuses no write. -/
def Tireless (sink : Sink) : Prop :=
  ∀ writes held chunk, sink.policy.refusesWrite writes held chunk = none

/-- Whether a sink tires depends on its policy alone. -/
theorem Tireless.of_policy {sink other : Sink} (h : sink.Tireless)
    (hpolicy : other.policy = sink.policy) : other.Tireless := by
  unfold Tireless
  rw [hpolicy]
  exact h

/-- A write after others is decided by what they left. -/
theorem write_received (sink : Sink) (count : Nat) (bytes chunk : List UInt8) :
    (sink.received count bytes).write chunk =
      match sink.policy.refusesWrite (sink.writes + count) (sink.held ++ bytes) chunk with
      | none => (sink.received (count + 1) (bytes ++ chunk), none)
      | some (kept, reason) =>
        (sink.received (count + 1) (bytes ++ chunk.take kept), some reason) := by
  have happend : ∀ more : List UInt8, sink.held ++ bytes ++ more = sink.held ++ (bytes ++ more) :=
    fun more => Array.ext' (by simp)
  rw [write]
  cases hverdict : (sink.received count bytes).policy.refusesWrite
      (sink.received count bytes).writes (sink.received count bytes).held chunk with
  | none =>
    have h : sink.policy.refusesWrite (sink.writes + count) (sink.held ++ bytes) chunk = none :=
      hverdict
    simp only [h, received, happend, Nat.add_assoc]
  | some refusal =>
    have h : sink.policy.refusesWrite (sink.writes + count) (sink.held ++ bytes) chunk =
        some refusal := hverdict
    simp only [h, received, happend, Nat.add_assoc]

end Sink

namespace Machine

/-! ## What a machine hands over -/

/-- The machine as a run has it before its cycle of that number: what the cycles before
printed has been handed over. -/
def delivered (machine : Machine) : Nat → Machine
  | 0 => machine
  | count + 1 => (machine.after (count + 1)).collected

/-- The bytes that a run hands over after its cycle of that number. -/
def chunk (machine : Machine) : Nat → List UInt8
  | 0 => machine.cpu.pending ++ machine.output
  | count + 1 => (machine.after (count + 1)).output

/-- The bytes that a run hands over in its first `count` cycles. -/
def sent (machine : Machine) (count : Nat) : List UInt8 :=
  (List.range count).flatMap machine.chunk

/-- What a sink says to the bytes of the cycle of that number, if it has taken all
bytes before them. -/
def verdict (machine : Machine) (sink : Sink) (count : Nat) : Option (Nat × String) :=
  sink.policy.refusesWrite (sink.writes + count) (sink.held ++ machine.sent count)
    (machine.chunk count)

/-- One more cycle sends its chunk behind those before it. -/
theorem sent_succ (machine : Machine) (count : Nat) :
    machine.sent (count + 1) = machine.sent count ++ machine.chunk count := by
  simp [sent, List.range_succ, List.flatMap_append]

/-- The cycles of a run are those of the bare machine, with a chunk pending. -/
theorem cycle_delivered (machine : Machine) (count : Nat) :
    (machine.delivered count).cycle =
      ((machine.after count).cycle.1,
        (machine.after (count + 1)).withPending (machine.chunk count)) := by
  cases count with
  | zero => exact machine.cycle_withPending machine.cpu.pending
  | succ count => exact (machine.after (count + 1)).cycle_withPending []

end Machine

/-! ## Consoles -/

/-- A console whose trace lines, if it writes any, are never refused. -/
def Console.Quiet (console : Console) : Prop :=
  console.tracing = false ∨ console.err.Tireless

/-- The trace line of a quiet console is not refused. -/
theorem Console.Quiet.trace {console : Console} (h : console.Quiet) (machine : Machine) :
    (console.trace machine).2 = none := by
  unfold Console.trace
  obtain hoff | htireless := h
  · simp [hoff]
  · split
    · simp [Sink.write, htireless _ _ _]
    · rfl

/-- Whether a console is quiet depends on its settings alone. -/
theorem Console.Quiet.of_settings {console other : Console} (h : console.Quiet)
    (hsettings : other.settings = console.settings) : other.Quiet := by
  obtain ⟨htracing, -, hpolicy⟩ := settings_eq_iff.mp hsettings
  obtain hoff | htireless := h
  · exact .inl (htracing.trans hoff)
  · exact .inr (htireless.of_policy hpolicy)

namespace Session

/-! ## A run on its way -/

/-- A session that has run a machine for `count` cycles: everything printed has been
taken by the output, and the cycles have all gone on. -/
structure Midway (machine : Machine) (console : Console) (count : Nat) (session : Session) :
    Prop where
  state : session.machine = machine.delivered count
  taken : session.console.out = console.out.received count (machine.sent count)
  quiet : session.console.Quiet
  steps : session.steps = count

variable {machine : Machine} {console : Console} {count : Nat} {session : Session}

/-- Before its first cycle a session has delivered nothing. -/
theorem midway_start (machine : Machine) {console : Console} (hquiet : console.Quiet) :
    Midway machine console 0 (start machine console) where
  state := rfl
  taken := by simp [start, Sink.received, Machine.sent]
  quiet := hquiet
  steps := rfl

/-- The output decides about the chunk of the cycle. -/
theorem Midway.handOver (h : Midway machine console count session) :
    session.handOver =
      match machine.verdict console.out count with
      | none => (console.out.received (count + 1) (machine.sent (count + 1)), none)
      | some (kept, reason) =>
        (console.out.received (count + 1) (machine.sent count ++ (machine.chunk count).take kept),
          some reason) := by
  have hpending : session.machine.cycle.2.cpu.pending = machine.chunk count := by
    rw [h.state, machine.cycle_delivered]
    rfl
  rw [Session.handOver, session.announced_keeps.1, hpending, h.taken, Sink.write_received,
    machine.sent_succ]
  rfl

/-- Midway, the session's machine differs from the bare one in what is pending only, so its
next cycle has the same signal. -/
theorem Midway.cycle (h : Midway machine console count session) :
    session.machine.cycle.1 = (machine.after count).cycle.1 ∧
      session.machine.cycle.2.collected = (machine.after (count + 1)).collected := by
  rw [h.state, machine.cycle_delivered]
  exact ⟨rfl, rfl⟩

/-- If the machine goes on and its chunk is taken, so does the run. -/
theorem Midway.next (h : Midway machine console count session)
    (hrunning : (machine.after count).cycle.1 = .running)
    (htaken : machine.verdict console.out count = none) :
    session.advance.2 = none ∧ Midway machine console (count + 1) session.advance.1 := by
  have hover := h.handOver
  have hquiet := h.quiet.of_settings session.settings_advance
  obtain ⟨hsignal, hmachine⟩ := h.cycle
  rw [htaken] at hover
  rw [advance_eq (h.quiet.trace session.machine), hover, hsignal, hrunning] at hquiet ⊢
  exact ⟨rfl, hmachine, congrArg Prod.fst hover, hquiet, congrArg (· + 1) h.steps⟩

/-- If the chunk is refused, the run ends with the refusal, whatever the machine signals. -/
theorem Midway.refused (h : Midway machine console count session) {kept : Nat} {reason : String}
    (hrefused : machine.verdict console.out count = some (kept, reason)) :
    session.advance.2 = some (.error (.output reason)) ∧
      session.advance.1.machine = (machine.after (count + 1)).collected ∧
      session.advance.1.console.out = console.out.received (count + 1)
        (machine.sent count ++ (machine.chunk count).take kept) := by
  have hover := h.handOver
  rw [hrefused] at hover
  rw [advance_eq (h.quiet.trace session.machine), hover]
  exact ⟨rfl, h.cycle.2, congrArg Prod.fst hover⟩

/-- If the chunk is taken and the machine does not go on, the run ends with a flush. -/
theorem Midway.ends (h : Midway machine console count session) {result : Result}
    (htaken : machine.verdict console.out count = none)
    (hresult : resultOf count (machine.after count).cycle.1 = some result) :
    session.advance.2 = some (flushed console.out result) ∧
      session.advance.1.machine = (machine.after (count + 1)).collected ∧
      session.advance.1.console.out =
        (console.out.received (count + 1) (machine.sent (count + 1))).flush.1 := by
  have hover := h.handOver
  rw [htaken] at hover
  have hout : session.handedOver.console.out =
      console.out.received (count + 1) (machine.sent (count + 1)) := congrArg Prod.fst hover
  obtain ⟨hsignal, hmachine⟩ := h.cycle
  obtain ⟨hstate, -, hflush, -, hanswer⟩ := session.handedOver.finish_eq result
  rw [advance_eq (h.quiet.trace session.machine), hover, hsignal, h.steps, hresult]
  rw [hout] at hflush hanswer
  exact ⟨congrArg some hanswer, hstate.trans hmachine, hflush⟩

/-- While a run has no answer, whatever its console refuses, its machine goes on. -/
theorem runsFor_of_no_answer
    (hnone : ∀ i < count, ((start machine console).after i).advance.2 = none) :
    machine.RunsFor count ∧
      ((start machine console).after count).machine = machine.delivered count := by
  induction count with
  | zero =>
    refine ⟨?_, rfl⟩
    intro i hi
    cases hi
  | succ count ih =>
    obtain ⟨hrun, hstate⟩ := ih fun i hi => hnone i (by omega)
    obtain ⟨hrunning, hnext⟩ := running_of_no_answer (hnone count (by omega))
    rw [hstate, machine.cycle_delivered] at hrunning hnext
    exact ⟨(machine.runsFor_succ_iff count).mpr ⟨hrun, hrunning⟩, hnext⟩

/-- As long as the machine goes on and its chunks are taken, the run is on its way. -/
theorem midway_after (hquiet : console.Quiet) (hrun : machine.RunsFor count)
    (htaken : ∀ i < count, machine.verdict console.out i = none) :
    (∀ i < count, ((start machine console).after i).advance.2 = none) ∧
      Midway machine console count ((start machine console).after count) := by
  induction count with
  | zero => exact ⟨by omega, midway_start machine hquiet⟩
  | succ count ih =>
    obtain ⟨hnone, hmidway⟩ := ih (hrun.mono (by omega)) fun i hi => htaken i (by omega)
    obtain ⟨hlast, hnext⟩ := hmidway.next (hrun count (by omega)) (htaken count (by omega))
    exact ⟨Nat.forall_lt_succ_right.mpr ⟨hnone, hlast⟩, hnext⟩

/-- As long as no cycle answers, the run is on its way. -/
theorem midway_of_no_answer (hquiet : console.Quiet)
    (hnone : ∀ i < count, ((start machine console).after i).advance.2 = none) :
    Midway machine console count ((start machine console).after count) := by
  induction count with
  | zero => exact midway_start machine hquiet
  | succ count ih =>
    have hmidway := ih fun i hi => hnone i (by omega)
    have hlast := hnone count (by omega)
    cases hverdict : machine.verdict console.out count with
    | some refusal =>
      rw [(hmidway.refused hverdict).1] at hlast
      cases hlast
    | none => exact (hmidway.next ((runsFor_of_no_answer hnone).1 count (by omega)) hverdict).2

/-! ## Whole runs -/

/-- A run offers the output one chunk after each cycle: what the cycle printed, and
first of all what was pending. With the first chunk that is refused it ends in the
refusal, unflushed, whatever that cycle signalled. If all are taken it ends behind the
halt or the fault with one flush, whose refusal takes the place of the result alone.
While neither happens it does not end. -/
theorem delivery_of_run (machine : Machine) {console : Console} (hquiet : console.Quiet) :
    (∀ count, (machine.after (count + 1)).cpu.pending =
      (machine.after count).cpu.pending ++ (machine.after count).output) ∧
    (∀ count kept reason, machine.RunsFor count →
      (∀ i < count, machine.verdict console.out i = none) →
      machine.verdict console.out count = some (kept, reason) →
      ∃ ended : Session,
        ended.machine = (machine.after (count + 1)).collected ∧
        ended.console.out = { console.out with
          held := console.out.held ++ (machine.sent count ++ (machine.chunk count).take kept)
          writes := console.out.writes + (count + 1) } ∧
        ∀ fuel, (start machine console).run fuel =
          if count < fuel then some (ended, .error (.output reason)) else none) ∧
    (∀ count result, machine.RunsFor count →
      resultOf count (machine.after count).cycle.1 = some result →
      (∀ i ≤ count, machine.verdict console.out i = none) →
      ∃ ended : Session,
        ended.machine = (machine.after (count + 1)).collected ∧
        ended.console.out = { console.out with
          held := console.out.held ++ machine.sent (count + 1)
          writes := console.out.writes + (count + 1)
          flushes := console.out.flushes + 1 } ∧
        ∀ fuel, (start machine console).run fuel =
          if count < fuel then some (ended, flushed console.out result) else none) ∧
    ∀ fuel, machine.RunsFor fuel → (∀ i < fuel, machine.verdict console.out i = none) →
      (start machine console).run fuel = none := by
  refine ⟨fun count => (machine.after count).pending_cycle, ?_, ?_, ?_⟩
  · intro count kept reason hrun htaken hrefused
    obtain ⟨hnone, hmidway⟩ := midway_after hquiet hrun htaken
    obtain ⟨hanswer, hmachine, hout⟩ := hmidway.refused hrefused
    exact ⟨_, hmachine, hout, run_of_answer hnone (Prod.ext rfl hanswer)⟩
  · intro count result hrun hresult htaken
    obtain ⟨hnone, hmidway⟩ := midway_after hquiet hrun fun i hi => htaken i (by omega)
    obtain ⟨hanswer, hmachine, hout⟩ := hmidway.ends (htaken count (Nat.le_refl count)) hresult
    exact ⟨_, hmachine, hout, run_of_answer hnone (Prod.ext rfl hanswer)⟩
  · intro fuel hrun htaken
    exact run_of_no_answer (midway_after hquiet hrun htaken).1

/-- Prints its stack pointer twice and halts. -/
def printsTwice : Machine :=
  Machine.start (Memory.beginning [0x47, 7, 0x47, 7, 0x01])

/-- Has room for six bytes. -/
def sixBytes : Console where
  out := Sink.empty (Sink.Policy.accepting.withByteLimit 6 "sink full")
  err := Sink.empty Sink.Policy.accepting
  tracing := false
  filter := Log.Filter.silent

/-- The second write is cut off after two of its bytes, so the run ends there, with six bytes
held and without a flush. -/
theorem delivery_of_printsTwice :
    sixBytes.Quiet ∧ printsTwice.RunsFor 1 ∧
    (∀ i < 1, printsTwice.verdict sixBytes.out i = none) ∧
    printsTwice.verdict sixBytes.out 1 = some (2, "sink full") ∧
    ∃ ended : Session, ended.console.out.held.toList = [0x32, 0x34, 0x34, 0x0A, 0x32, 0x34] ∧
      ended.console.out.flushes = 0 ∧
      ∀ fuel, (start printsTwice sixBytes).run fuel =
        if 1 < fuel then some (ended, .error (.output "sink full")) else none := by
  have hquiet : sixBytes.Quiet := .inl rfl
  have hrun : printsTwice.RunsFor 1 := by decide +kernel
  have htaken : ∀ i < 1, printsTwice.verdict sixBytes.out i = none := by decide +kernel
  have hrefused : printsTwice.verdict sixBytes.out 1 = some (2, "sink full") := by decide +kernel
  obtain ⟨ended, -, hout, hanswer⟩ :=
    (delivery_of_run printsTwice hquiet).2.1 1 2 "sink full" hrun htaken hrefused
  refine ⟨hquiet, hrun, htaken, hrefused, ended, ?_, ?_, hanswer⟩
  · rw [hout]
    decide +kernel
  · rw [hout]
    rfl

end Session

end ByteMachine
