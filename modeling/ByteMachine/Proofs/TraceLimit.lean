import Mathlib.Order.Monotone.Basic
import ByteMachine.Proofs.Resumption
import ByteMachine.Proofs.Tracing

/-!
# Runs whose trace is cut off

The sink that takes the trace may have room for so many bytes only. As long as the trace
fits, the limit makes no difference: it commutes with a cycle. The first trace line that does
not fit is held as far as it goes, and it stops the run in front of the cycle it announces.
Trace lines hold no newline but the one at their end, so the newlines that are held count the
cycles that were carried out.
-/

set_option autoImplicit false

namespace ByteMachine

open Entry

/-! ## Sinks with a limit -/

namespace Sink

/-- The sink with room for so many bytes only. -/
def limited (sink : Sink) (limit : Nat) (reason : String) : Sink :=
  { sink with policy := sink.policy.withByteLimit limit reason }

variable {sink : Sink} {limit : Nat} {chunk : List UInt8} (reason : String)

/-- A limit makes no difference to a write that fits. -/
theorem Tireless.write_limited (h : sink.Tireless)
    (hfits : sink.held.size + chunk.length ≤ limit) :
    (sink.limited limit reason).write chunk = ((sink.write chunk).1.limited limit reason, none) := by
  have hroom : ¬ limit < sink.held.size + chunk.length := by omega
  simp [write, limited, Policy.withByteLimit, hroom, h _ _ _]

/-- A write that does not fit is held up to the limit. -/
theorem write_limited_of_lt (hover : limit < sink.held.size + chunk.length) :
    (sink.limited limit reason).write chunk =
      ({ sink.limited limit reason with
          held := sink.held ++ chunk.take (limit - sink.held.size)
          writes := sink.writes + 1 }, some reason) := by
  simp [write, limited, Policy.withByteLimit, hover]

end Sink

/-! ## Consoles that take nothing but the trace -/

namespace Console

/-- The console with room for so many bytes on its error sink. -/
def limited (console : Console) (limit : Nat) (reason : String) : Console :=
  { console with err := console.err.limited limit reason }

/-- A tracing console whose error sink takes every trace line, and nothing else. -/
structure TracesOnly (console : Console) : Prop where
  tracing : console.tracing = true
  silent : ∀ record, console.filter.admits record = false
  tireless : console.err.Tireless

variable {console other : Console} {machine : Machine} {limit : Nat} (reason : String)

/-- A console that takes nothing but the trace tells of no record. -/
theorem TracesOnly.terse (h : console.TracesOnly) : Log.Terse console.filter.admits :=
  fun record _ => h.silent record

/-- A console that takes nothing but the trace never tires, so it is quiet. -/
theorem TracesOnly.quiet (h : console.TracesOnly) : console.Quiet :=
  .inr h.tireless

/-- Whether a console takes nothing but the trace depends on its settings alone. -/
theorem TracesOnly.of_settings (h : console.TracesOnly)
    (hsettings : other.settings = console.settings) : other.TracesOnly := by
  obtain ⟨htracing, hfilter, hpolicy⟩ := settings_eq_iff.mp hsettings
  refine ⟨htracing.trans h.tracing, ?_, h.tireless.of_policy hpolicy⟩
  rw [hfilter]
  exact h.silent

/-- A record that the filter does not admit leaves the console as it was. -/
theorem log_of_admits_none (hsilent : ∀ record, console.filter.admits record = false)
    (record : Log.Record) : console.log record = console := by
  simp [log, hsilent]

/-- A trace line that fits is written as without a limit. -/
theorem TracesOnly.trace_limited (h : console.TracesOnly)
    (hfits : console.err.held.size + machine.traceLine.length ≤ limit) :
    (console.limited limit reason).trace machine =
      ((console.trace machine).1.limited limit reason, none) := by
  rw [Machine.traceLine] at hfits
  have hwrite := h.tireless.write_limited reason hfits
  have htracing : (console.limited limit reason).tracing = true := h.tracing
  have herr : (console.limited limit reason).err = console.err.limited limit reason := rfl
  rw [trace, trace, if_pos htracing, if_pos h.tracing, herr, hwrite]
  rfl

/-- A trace line that does not fit is written as far as it does, and refused. -/
theorem TracesOnly.trace_limited_of_lt (h : console.TracesOnly)
    (hover : limit < console.err.held.size + machine.traceLine.length) :
    (console.limited limit reason).trace machine =
      ({ console with err := { console.err.limited limit reason with
          held := console.err.held ++ machine.traceLine.take (limit - console.err.held.size)
          writes := console.err.writes + 1 } }, some reason) := by
  rw [Machine.traceLine] at hover ⊢
  have htracing : (console.limited limit reason).tracing = true := h.tracing
  have herr : (console.limited limit reason).err = console.err.limited limit reason := rfl
  rw [trace, if_pos htracing, herr, Sink.write_limited_of_lt reason hover]
  rfl

end Console

namespace Session

/-! ## One cycle under a limit -/

/-- The session with room for so many bytes on its error sink. -/
def limited (session : Session) (limit : Nat) (reason : String) : Session :=
  { session with console := session.console.limited limit reason }

variable {session : Session} {limit : Nat} (reason : String)

/-- If no record is admitted, what is announced of a cycle is its trace line. -/
theorem announced_of_admits_none
    (hsilent : ∀ record, session.console.filter.admits record = false) :
    session.announced = (session.console.trace session.machine).1 := by
  obtain ⟨-, hsettings⟩ := session.console.trace_keeps session.machine
  obtain ⟨-, hfilter, -⟩ := Console.settings_eq_iff.mp hsettings
  rw [← hfilter] at hsilent
  unfold announced
  cases dispatchRecord? session.machine with
  | none => rfl
  | some record => exact Console.log_of_admits_none hsilent record

/-- A console that takes nothing but the trace does not flush it. -/
theorem flushes_advance (h : session.console.TracesOnly) :
    session.advance.1.console.err.flushes = session.console.err.flushes := by
  rw [noted_advance h.tireless]
  rfl

/-- If no record is admitted, finishing a session has nothing to write, so a limit makes no
difference. -/
theorem finish_limited (hsilent : ∀ record, session.console.filter.admits record = false)
    (result : Result) :
    (session.limited limit reason).finish result =
      ((session.finish result).1.limited limit reason, (session.finish result).2) := by
  have hrefuses : (session.limited limit reason).console.out.policy.refusesFlush =
      session.console.out.policy.refusesFlush := rfl
  unfold finish Sink.flush
  rw [hrefuses]
  cases session.console.out.policy.refusesFlush with
  | some refusal => rfl
  | none =>
    cases result with
    | error cause => rfl
    | ok steps => simp [Console.log, limited, Console.limited, hsilent]

/-- A cycle shows one trace line. -/
theorem held_advance_of_tracesOnly (h : session.console.TracesOnly) :
    session.advance.1.console.err.held.toList =
      session.console.err.held.toList ++ session.machine.traceLine := by
  have hending : session.advance.2.elim [] (ending session.console.filter) = [] := by
    cases session.advance.2 with
    | none => rfl
    | some result => exact ending_of_terse h.terse result
  rw [noted_advance h.tireless, hending, List.append_nil, h.tracing,
    session.machine.told_of_terse true h.terse, if_pos rfl, Sink.toList_held_noting,
    written_singleton]
  rfl

/-- A step makes the trace longer by the line of its cycle. -/
theorem size_advance_of_tracesOnly (h : session.console.TracesOnly) :
    session.advance.1.console.err.held.size =
      session.console.err.held.size + session.machine.traceLine.length := by
  have hlength := congrArg List.length (held_advance_of_tracesOnly h)
  rwa [List.length_append, Array.length_toList, Array.length_toList] at hlength

/-- If the trace line of a cycle fits, the limit makes no difference to the cycle. -/
theorem advance_limited (h : session.console.TracesOnly)
    (hfits : session.advance.1.console.err.held.size ≤ limit) :
    (session.limited limit reason).advance =
      (session.advance.1.limited limit reason, session.advance.2) := by
  rw [size_advance_of_tracesOnly h] at hfits
  have htraced := h.trace_limited reason hfits
  have htrace : ((session.limited limit reason).console.trace
      (session.limited limit reason).machine).2 = none := congrArg Prod.snd htraced
  have hannounced : (session.limited limit reason).announced =
      session.announced.limited limit reason := by
    rw [announced_of_admits_none h.silent, announced_of_admits_none]
    · exact congrArg Prod.fst htraced
    · exact h.silent
  have hover : (session.limited limit reason).handOver = session.handOver := by
    rw [handOver, hannounced]
    rfl
  have hhanded : (session.limited limit reason).handedOver =
      session.handedOver.limited limit reason := by
    rw [handedOver, hover, hannounced]
    rfl
  have hsilent : ∀ record, session.handedOver.console.filter.admits record = false :=
    (h.of_settings session.announced_keeps.2).silent
  have hresult : resultOf (session.limited limit reason).steps
      (session.limited limit reason).machine.cycle.1 =
        resultOf session.steps session.machine.cycle.1 := rfl
  -- both cycles are decided by the output and the signal, which know of no limit
  rw [advance_eq htrace, advance_eq (h.quiet.trace session.machine), hover, hhanded, hresult]
  cases session.handOver.2 with
  | some refusal => rfl
  | none =>
    cases resultOf session.steps session.machine.cycle.1 with
    | none => rfl
    | some result =>
      simp only [finish_limited reason hsilent]

/-- A trace line that does not fit ends the run in front of its cycle. It is held up to the
limit, and nothing else is done. -/
theorem advance_limited_of_lt (h : session.console.TracesOnly)
    (hfits : session.console.err.held.size ≤ limit)
    (hover : limit < session.advance.1.console.err.held.size) :
    ∃ stopped : Session,
      (session.limited limit reason).advance = (stopped, some (.error (.output reason))) ∧
      stopped.machine = session.machine ∧ stopped.console.out = session.console.out ∧
      stopped.console.err.flushes = session.console.err.flushes ∧
      stopped.console.err.held.toList =
        session.advance.1.console.err.held.toList.take limit := by
  have hheld := held_advance_of_tracesOnly h
  rw [size_advance_of_tracesOnly h] at hover
  have htraced := h.trace_limited_of_lt reason hover
  have htrace : ((session.limited limit reason).console.trace
      (session.limited limit reason).machine).2 = some reason := congrArg Prod.snd htraced
  have hconsole := congrArg Prod.fst htraced
  refine ⟨_, advance_of_refusal htrace, rfl, ?_, ?_, ?_⟩
  · have hout := congrArg Console.out hconsole
    exact hout
  · have hflushes := congrArg (fun console => console.err.flushes) hconsole
    exact hflushes
  · have hkept := congrArg (fun console => console.err.held.toList) hconsole
    rw [hheld, List.take_append, Array.length_toList,
      List.take_of_length_le (by rwa [Array.length_toList])]
    exact hkept.trans (by simp)

/-! ## Some cycles under a limit -/

/-- The console takes nothing but the trace as long as the session goes on. -/
theorem tracesOnly_after (h : session.console.TracesOnly) (count : Nat) :
    (session.after count).console.TracesOnly :=
  after_induction (fun other => other.console.TracesOnly)
    (fun other hother => hother.of_settings other.settings_advance) h count

/-- The trace is not flushed as long as the session goes on. -/
theorem flushes_after (h : session.console.TracesOnly) (count : Nat) :
    (session.after count).console.err.flushes = session.console.err.flushes := by
  induction count with
  | zero => rfl
  | succ count ih => rw [after, flushes_advance (tracesOnly_after h count), ih]

/-- One more step does not make the trace shorter. -/
theorem size_after_le_succ (h : session.console.TracesOnly) (count : Nat) :
    (session.after count).console.err.held.size ≤
      (session.after (count + 1)).console.err.held.size := by
  rw [after, size_advance_of_tracesOnly (tracesOnly_after h count)]
  exact Nat.le_add_right _ _

/-- The trace never gets shorter. -/
theorem size_after_mono (h : session.console.TracesOnly) {count more : Nat} (hle : count ≤ more) :
    (session.after count).console.err.held.size ≤ (session.after more).console.err.held.size :=
  monotone_nat_of_le_succ (size_after_le_succ h) hle

/-- As long as the trace fits, the limit makes no difference. -/
theorem after_limited (h : session.console.TracesOnly) {count : Nat}
    (hfits : (session.after count).console.err.held.size ≤ limit) :
    (session.limited limit reason).after count = (session.after count).limited limit reason := by
  induction count with
  | zero => rfl
  | succ count ih =>
    rw [after, ih ((size_after_le_succ h count).trans hfits),
      advance_limited reason (tracesOnly_after h count) hfits]
    rfl

/-- As long as the trace fits, the limit makes no difference to a step. -/
theorem advance_after_limited (h : session.console.TracesOnly) {count : Nat}
    (hfits : (session.after (count + 1)).console.err.held.size ≤ limit) :
    ((session.limited limit reason).after count).advance =
      ((session.after count).advance.1.limited limit reason, (session.after count).advance.2) := by
  rw [after_limited reason h ((size_after_le_succ h count).trans hfits),
    advance_limited reason (tracesOnly_after h count) hfits]

/-- If all of the trace fits, the limit makes no difference to the run. -/
theorem run_limited (h : session.console.TracesOnly)
    (hfits : ∀ count, session.run count = none →
      (session.after (count + 1)).console.err.held.size ≤ limit) (fuel : Nat) :
    (session.limited limit reason).run fuel =
      (session.run fuel).map fun ending => (ending.1.limited limit reason, ending.2) := by
  have hsame : ∀ count, (∀ i < count, (session.after i).advance.2 = none) →
      ((session.limited limit reason).after count).advance =
        ((session.after count).advance.1.limited limit reason, (session.after count).advance.2) :=
    fun count hnone => advance_after_limited reason h (hfits count (run_of_no_answer hnone))
  have hnoneLimited : ∀ count, (∀ i < count, (session.after i).advance.2 = none) →
      ∀ i < count, ((session.limited limit reason).after i).advance.2 = none := by
    intro count hnone i hi
    rw [hsame i fun j hj => hnone j (by omega)]
    exact hnone i hi
  obtain hnone | ⟨count, hlt, ended, result, hnone, hanswer⟩ := session.answer_cases fuel
  · rw [run_of_no_answer (hnoneLimited fuel hnone), run_of_no_answer hnone]
    rfl
  · have hanswerLimited := hsame count hnone
    rw [hanswer] at hanswerLimited
    rw [run_of_answer (hnoneLimited count hnone) hanswerLimited, run_of_answer hnone hanswer,
      if_pos hlt, if_pos hlt]
    rfl

/-- If a trace line does not fit, the run stops in front of its cycle. -/
theorem run_limited_of_lt (h : session.console.TracesOnly) {executed : Nat}
    (hnone : ∀ i < executed, (session.after i).advance.2 = none)
    (hfits : (session.after executed).console.err.held.size ≤ limit)
    (hover : limit < (session.after (executed + 1)).console.err.held.size) :
    ∃ stopped : Session,
      (∀ fuel, (session.limited limit reason).run fuel =
        if executed < fuel then some (stopped, .error (.output reason)) else none) ∧
      stopped.machine = (session.after executed).machine ∧
      stopped.console.out = (session.after executed).console.out ∧
      stopped.console.err.flushes = session.console.err.flushes ∧
      stopped.console.err.held.toList =
        (session.after (executed + 1)).console.err.held.toList.take limit := by
  have hnoneLimited : ∀ i < executed,
      ((session.limited limit reason).after i).advance.2 = none := by
    intro i hi
    rw [advance_after_limited reason h (Nat.le_trans (size_after_mono h hi) hfits)]
    exact hnone i hi
  obtain ⟨stopped, hanswer, hmachine, hout, hflushes, hheld⟩ :=
    advance_limited_of_lt reason (tracesOnly_after h executed) hfits hover
  rw [← after_limited reason h hfits] at hanswer
  exact ⟨stopped, run_of_answer hnoneLimited hanswer, hmachine, hout,
    hflushes.trans (flushes_after h executed), hheld⟩

/-- A trace that does not fit has a first line that does not. -/
theorem exists_overrun {count : Nat} (hfits : session.console.err.held.size ≤ limit)
    (hover : limit < (session.after (count + 1)).console.err.held.size) :
    ∃ executed ≤ count, (session.after executed).console.err.held.size ≤ limit ∧
      limit < (session.after (executed + 1)).console.err.held.size := by
  induction count with
  | zero => exact ⟨0, Nat.le_refl 0, hfits, hover⟩
  | succ count ih =>
    by_cases hearlier : limit < (session.after (count + 1)).console.err.held.size
    · obtain ⟨executed, hle, hfirst⟩ := ih hearlier
      exact ⟨executed, by omega, hfirst⟩
    · exact ⟨count + 1, Nat.le_refl _, Nat.not_lt.mp hearlier, hover⟩

end Session

namespace Machine

/-! ## Lines and newlines -/

variable {machine : Machine} {count limit : Nat}

/-- The transcript of fewer cycles is the beginning of that of more. -/
theorem transcript_prefix (machine : Machine) {count more : Nat} (hle : count ≤ more) :
    machine.transcript count <+: machine.transcript more := by
  induction hle with
  | refl => exact List.prefix_refl _
  | step _ ih =>
    rw [transcript_succ]
    exact ih.trans (List.prefix_append _ _)

/-- A trace line has one line feed, at its end. -/
theorem count_newline_traceLine (machine : Machine) : machine.traceLine.count 10 = 1 := by
  rw [traceLine, utf8_append, List.count_append,
    List.count_eq_zero.mpr machine.snapshot.newline_notMem_line]
  decide

/-- There are as many newlines as lines. -/
theorem count_newline_transcript (machine : Machine) (count : Nat) :
    (machine.transcript count).count 10 = count := by
  induction count with
  | zero => rfl
  | succ count ih =>
    rw [transcript_succ, List.count_append, ih, count_newline_traceLine]

/-- A line that is cut off, be it just before its newline, adds none. -/
theorem count_newline_take_traceLine (hcut : limit < machine.traceLine.length) :
    (machine.traceLine.take limit).count 10 = 0 := by
  rw [traceLine, utf8_append] at hcut ⊢
  have hnewline : (utf8 "\n").length = 1 := by decide
  rw [List.length_append, hnewline] at hcut
  rw [List.take_append_of_le_length (by omega), List.count_eq_zero]
  intro hmem
  exact machine.snapshot.newline_notMem_line (List.mem_of_mem_take hmem)

/-- What a limit leaves of some lines has as many newlines as there are lines that fit. -/
theorem count_newline_take_transcript (hfits : (machine.transcript count).length ≤ limit)
    (hover : limit < (machine.transcript (count + 1)).length) :
    ((machine.transcript (count + 1)).take limit).count 10 = count := by
  rw [transcript_succ, List.length_append] at hover
  rw [transcript_succ, List.take_append, List.take_of_length_le hfits, List.count_append,
    count_newline_transcript, count_newline_take_traceLine (by omega), Nat.add_zero]

end Machine

namespace Session

variable {machine : Machine} {console : Console} {count : Nat}

/-! ## Whole runs -/

/-- The error sink holds the lines of the cycles that have begun. -/
theorem held_after_of_tracesOnly (h : console.TracesOnly) (hblank : console.err.held = #[])
    (hrun : (start machine console).run count = none) {begun : Nat} (hle : begun ≤ count + 1) :
    ((start machine console).after begun).console.err.held.toList = machine.transcript begun := by
  have hnone := no_answer_of_run hrun
  cases begun with
  | zero =>
    show console.err.held.toList = []
    rw [hblank]
  | succ begun =>
    have hfirst : ∀ i < begun, ((start machine console).after i).advance.2 = none :=
      fun i hi => hnone i (by omega)
    have hnoted := noted_after h.tireless hfirst
    rw [h.tracing] at hnoted
    rw [after, held_advance_of_tracesOnly (tracesOnly_after h begun), hnoted,
      Sink.toList_held_noting, hblank, machine.written_account_of_terse h.terse,
      (runsFor_of_no_answer hfirst).2, machine.traceLine_delivered, machine.transcript_succ]
    rfl

/-- A machine is traced into a sink with room for so many bytes, and its output refuses
nothing. If the trace of the run without the limit outgrows the room, the run stops with the
refusal in front of the first cycle whose line does not fit, wherever in the line that is.
The sink holds the trace up to the limit, with one newline for each cycle carried out; the
machine and the output are those before the cycle, and nothing has been flushed. A run of the
machine as it is left completes the run without the limit. If the trace fits, the limit makes
no difference. -/
theorem traceLimit_of_run {machine : Machine} (hpending : machine.cpu.pending = [])
    {whole again : Console} (hwhole : whole.Fresh) (htraces : whole.TracesOnly)
    (hblank : whole.err.held = #[]) (hagain : again.Fresh) (limit : Nat) (reason : String) :
    (∀ count, (start machine whole).run count = none →
      limit < ((start machine whole).after (count + 1)).console.err.held.size →
      ∃ executed ≤ count, ∃ stopped : Session,
        (∀ fuel, (start machine (whole.limited limit reason)).run fuel =
          if executed < fuel then some (stopped, .error (.output reason)) else none) ∧
        ((start machine whole).after executed).console.err.held.size ≤ limit ∧
        limit < ((start machine whole).after (executed + 1)).console.err.held.size ∧
        stopped.console.err.held.toList =
          ((start machine whole).after (count + 1)).console.err.held.toList.take limit ∧
        stopped.console.err.held.toList.count 10 = executed ∧
        machine.RunsFor executed ∧ stopped.machine = (machine.after executed).collected ∧
        stopped.console.out.held.toList = machine.prints executed ∧
        stopped.console.out.flushes = whole.out.flushes ∧
        stopped.console.err.flushes = whole.err.flushes ∧
        ∀ fuel, ((start machine whole).run (executed + fuel)).map yield =
          (((start stopped.machine again).run fuel).map yield).map
            (·.following executed stopped.console.out.held.toList)) ∧
    ((∀ count, (start machine whole).run count = none →
        ((start machine whole).after (count + 1)).console.err.held.size ≤ limit) →
      ∀ fuel, (start machine (whole.limited limit reason)).run fuel =
        ((start machine whole).run fuel).map
          fun ending => (ending.1.limited limit reason, ending.2)) := by
  constructor
  · intro count hrun hover
    -- before the line that does not fit the run is the one without the limit
    obtain ⟨executed, hle, hfits, hcross⟩ := exists_overrun (by simp [start, hblank]) hover
    have hnone : ∀ i < executed, ((start machine whole).after i).advance.2 = none :=
      fun i hi => no_answer_of_run hrun i (by omega)
    have hrunOn := run_of_no_answer hnone
    have hgoes := runsFor_of_run hwhole.quiet hwhole.unlimited hrunOn
    obtain ⟨hstate, hprints, hflushes⟩ := after_of_run hpending hwhole hrunOn
    obtain ⟨stopped, hanswer, hmachine, hout, hflushesErr, hkept⟩ :=
      @run_limited_of_lt (start machine whole) limit reason htraces executed hnone hfits hcross
    -- the lines that have been shown are the beginning of the whole trace
    have hheld : ∀ begun ≤ count + 1,
        ((start machine whole).after begun).console.err.held.toList =
          machine.transcript begun :=
      fun begun hbegun => held_after_of_tracesOnly htraces hblank hrun hbegun
    have hfitsLines : (machine.transcript executed).length ≤ limit := by
      rwa [← hheld executed (by omega), Array.length_toList]
    have hcrossLines : limit < (machine.transcript (executed + 1)).length := by
      rwa [← hheld (executed + 1) (by omega), Array.length_toList]
    rw [hheld (executed + 1) (by omega)] at hkept
    refine ⟨executed, hle, stopped, hanswer, hfits, hcross, ?_, ?_, hgoes, hmachine.trans hstate,
      by rw [hout, hprints], by rw [hout, hflushes], hflushesErr, ?_⟩
    · obtain ⟨rest, hrest⟩ := machine.transcript_prefix (Nat.succ_le_succ hle)
      rw [hkept, hheld (count + 1) (Nat.le_refl _), ← hrest,
        List.take_append_of_le_length (Nat.le_of_lt hcrossLines)]
    · rw [hkept]
      exact Machine.count_newline_take_transcript hfitsLines hcrossLines
    · intro fuel
      rw [hmachine, hout, hprints, hstate]
      exact yield_resumed hgoes hpending hwhole hagain fuel
  · intro hfits fuel
    exact @run_limited (start machine whole) limit reason htraces hfits fuel

/-- Has room for two trace lines, but for the last newline. -/
def cutLine : Console :=
  showing.limited 103 "sink full"

/-- The second trace line lacks its line feed, so the run ends after one cycle, whose output
is there in full. The halt is left, and the rest of the run makes it. -/
theorem traceLimit_of_printsOnce :
    printsOnce.cpu.pending = [] ∧ showing.Fresh ∧ showing.TracesOnly ∧
    showing.err.held = #[] ∧ unlimited.Fresh ∧ (start printsOnce showing).run 1 = none ∧
    103 < ((start printsOnce showing).after (1 + 1)).console.err.held.size ∧
    ∃ stopped : Session,
      (start printsOnce cutLine).run 2 = some (stopped, .error (.output "sink full")) ∧
      stopped.console.err.held.toList =
        ("TRACE: 00 | 00 | 47 00 01 | 00 00 00 00 00 00 00 F4\n" ++
          "TRACE: 02 | 00 | 01 00 00 | 00 00 00 00 00 00 00 F4").toUTF8.toList ∧
      stopped.console.out.held.toList = [0x30, 0x0A] ∧
      ((start printsOnce showing).run 2).map yield =
        (((start stopped.machine unlimited).run 1).map yield).map (·.following 1 [0x30, 0x0A]) := by
  have htraces : showing.TracesOnly := ⟨rfl, fun _ => rfl, fun _ _ _ => rfl⟩
  have hfresh : showing.Fresh := ⟨htraces.quiet, ⟨htraces.tireless, rfl⟩, rfl⟩
  have hrun : (start printsOnce showing).run 1 = none := by
    have hnone : (start printsOnce showing).advance.2 = none := by decide +kernel
    exact run_of_no_answer fun i hi => Nat.lt_one_iff.mp hi ▸ hnone
  have hover : 103 < ((start printsOnce showing).after (1 + 1)).console.err.held.size := by
    decide +kernel
  obtain ⟨executed, -, stopped, hanswer, -, -, hheld, hnewlines, -, -, hprints, -, -, hresumed⟩ :=
    (traceLimit_of_run rfl hfresh htraces rfl unlimited_fresh 103 "sink full").1 1 hrun hover
  have hlines : stopped.console.err.held.toList =
      ("TRACE: 00 | 00 | 47 00 01 | 00 00 00 00 00 00 00 F4\n" ++
        "TRACE: 02 | 00 | 01 00 00 | 00 00 00 00 00 00 00 F4").toUTF8.toList :=
    hheld.trans (by decide +kernel)
  obtain rfl : executed = 1 := by
    rw [← hnewlines, hlines]
    decide +kernel
  have hzero : printsOnce.prints 1 = [0x30, 0x0A] := by decide +kernel
  rw [hzero] at hprints
  have hcompleted := hresumed 1
  rw [hprints] at hcompleted
  exact ⟨rfl, hfresh, htraces, rfl, unlimited_fresh, hrun, hover, stopped, hanswer 2, hlines,
    hprints, hcompleted⟩

end Session

end ByteMachine
