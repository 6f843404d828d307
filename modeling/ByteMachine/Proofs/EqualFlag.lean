import ByteMachine.Proofs.Tracing

/-!
# The equal flag

A comparison of two registers that hold the same value sets the equal flag, and nothing
clears it. So it tells whether any comparison so far has found its registers equal, not
what the last one has found, and the conditional jumps go by that for the rest of a run.

The other seven bits of the flags stay as they are and have no influence. Two machines
that differ in nothing else signal the same and print the same, cycle after cycle, and
two sessions that run them end alike. A trace line shows the flags, but it is as long
for any value of them.
-/

set_option autoImplicit false

namespace ByteMachine

/-! ## The flag and its byte -/

/-- Setting the equal flag leaves the other bits alone. -/
theorem or_one_and_rest (flags : UInt8) : (flags ||| 1) &&& 0xFE = flags &&& 0xFE := by
  apply UInt8.toBitVec_inj.mp
  ext i hi
  have hbits : i = 0 ∨ i = 1 ∨ i = 2 ∨ i = 3 ∨ i = 4 ∨ i = 5 ∨ i = 6 ∨ i = 7 := by omega
  rcases hbits with rfl | rfl | rfl | rfl | rfl | rfl | rfl | rfl <;> simp

/-- The lowest bit is set once one has been or-ed into it. -/
theorem or_one_and_one (flags : UInt8) : (flags ||| 1) &&& 1 = 1 := by
  apply UInt8.toBitVec_inj.mp
  ext i hi
  simp only [UInt8.toBitVec_and, UInt8.toBitVec_or, BitVec.getElem_and, BitVec.getElem_or]
  cases (1 : UInt8).toBitVec[i] <;> simp

namespace Machine

variable {machine other : Machine} {count : Nat}

/-! ## What comparisons have found -/

/-- The machine is about to compare two registers that hold the same value. -/
def FindsEqual (machine : Machine) : Prop :=
  ∃ first second value, machine.fetch = .ok (.cmp first second) ∧
    machine.cpu.read first = .ok value ∧ machine.cpu.read second = .ok value

/-- The next cycle goes to the address that a register holds. -/
def GoesTo (machine : Machine) (register : UInt8) : Prop :=
  ∃ target, machine.cpu.read register = .ok target ∧ machine.cycle.2.cpu.pc = target.toNat

/-- The next cycle goes on behind the two bytes at the program counter. -/
def GoesPast (machine : Machine) : Prop :=
  machine.cycle.2.cpu.pc = machine.cpu.pc + 2

/-- A cycle sets the equal flag if it finds two registers equal, and otherwise leaves the
flags as they are. -/
theorem flags_of_running (h : machine.cycle.1 = .running) :
    (machine.FindsEqual ∧ machine.cycle.2.cpu.flags = machine.cpu.flags ||| 1) ∨
      (¬ machine.FindsEqual ∧ machine.cycle.2.cpu.flags = machine.cpu.flags) := by
  obtain ⟨instruction, hfetch, -, hobstacle, hcycle⟩ := cycle_of_running h
  rw [hcycle]
  cases instruction with
  | cmp first second =>
    obtain ⟨hfirst, hsecond⟩ := Option.or_eq_none_iff.mp hobstacle
    by_cases hequal : machine.cpu.value first = machine.cpu.value second
    · left
      refine ⟨⟨first, second, machine.cpu.value first, hfetch, ?_, ?_⟩, if_pos hequal⟩
      · exact machine.cpu.read_of_named hfirst
      · rw [hequal, machine.cpu.read_of_named hsecond]
    · right
      refine ⟨?_, if_neg hequal⟩
      rintro ⟨left, right, value, hcompared, hleft, hright⟩
      rw [hfetch] at hcompared
      cases hcompared
      rw [Cpu.read_eq_ok_iff] at hleft hright
      exact hequal (hleft.2.trans hright.2.symm)
  | _ =>
    right
    refine ⟨?_, rfl⟩
    rintro ⟨left, right, value, hcompared, -⟩
    rw [hfetch] at hcompared
    cases hcompared

/-- A conditional jump that is carried out goes by the equal flag. -/
theorem jump_of_running (h : machine.cycle.1 = .running) (register : UInt8) :
    (machine.fetch = .ok (.jeq register) →
      if machine.cpu.equal then machine.GoesTo register else machine.GoesPast) ∧
    (machine.fetch = .ok (.jne register) →
      if machine.cpu.equal then machine.GoesPast else machine.GoesTo register) := by
  obtain ⟨instruction, hfetch, -, hobstacle, hcycle⟩ := cycle_of_running h
  unfold GoesTo GoesPast
  rw [hfetch, hcycle]
  constructor
  · intro hjump
    cases hjump
    cases hequal : machine.cpu.equal with
    | true =>
      exact ⟨_, machine.cpu.read_of_named hobstacle, by simp [perform, pcAfter, jumps, hequal]⟩
    | false => simp [perform, pcAfter, jumps, hequal, Instruction.width_eq, Instruction.operands]
  · intro hjump
    cases hjump
    cases hequal : machine.cpu.equal with
    | true => simp [perform, pcAfter, jumps, hequal, Instruction.width_eq, Instruction.operands]
    | false =>
      exact ⟨_, machine.cpu.read_of_named hobstacle, by simp [perform, pcAfter, jumps, hequal]⟩

/-- The seven other bits stay as they are, and the equal flag is set exactly if it was set
at first or some comparison has found its registers equal. -/
theorem flags_after (hrun : machine.RunsFor count) :
    (machine.after count).cpu.flags &&& 0xFE = machine.cpu.flags &&& 0xFE ∧
      ((machine.after count).cpu.equal = true ↔
        machine.cpu.equal = true ∨ ∃ i < count, (machine.after i).FindsEqual) := by
  induction count with
  | zero => simp [after]
  | succ count ih =>
    obtain ⟨hrest, hequal⟩ := ih (hrun.mono (by omega))
    rw [Nat.exists_lt_succ_right, ← or_assoc, ← hequal, after]
    obtain ⟨hfinds, hflags⟩ | ⟨hfinds, hflags⟩ := flags_of_running (hrun count (by omega))
    · rw [hflags, or_one_and_rest]
      refine ⟨hrest, ?_⟩
      simp [Cpu.equal, hflags, or_one_and_one, hfinds]
    · rw [hflags]
      refine ⟨hrest, ?_⟩
      simp [Cpu.equal, hflags, hfinds]

/-! ## Machines that differ in the other bits -/

/-- The machine with other flags. -/
def withFlags (machine : Machine) (flags : UInt8) : Machine :=
  { machine with cpu := { machine.cpu with flags := flags } }

/-- Two machines that agree in everything but the seven unused bits of the flags. -/
structure SameButUnused (machine other : Machine) : Prop where
  state : other = machine.withFlags other.cpu.flags
  equal : other.cpu.equal = machine.cpu.equal

/-- Flags that agree in the equal flag make no difference to an instruction, and agree in it
behind the instruction. -/
theorem perform_withFlags {flags : UInt8} (hequal : (machine.withFlags flags).cpu.equal =
    machine.cpu.equal) (instruction : Instruction) :
    SameButUnused (machine.perform instruction)
      ((machine.withFlags flags).perform instruction) := by
  -- the flags are read by the conditional jumps alone, which look at the equal flag
  have hpc : (machine.withFlags flags).pcAfter instruction = machine.pcAfter instruction := by
    cases instruction with
    | jeq register | jne register =>
      simp only [pcAfter, jumps, hequal]
      rfl
    | _ => rfl
  have hprinted : (machine.withFlags flags).printed instruction = machine.printed instruction := by
    cases instruction <;> rfl
  have hregisters : (machine.withFlags flags).registersAfter instruction =
      machine.registersAfter instruction := by
    cases instruction <;> rfl
  have hmemory : (machine.withFlags flags).memoryAfter instruction =
      machine.memoryAfter instruction := by
    cases instruction <;> rfl
  constructor
  · simp only [perform, hpc, hprinted, hregisters, hmemory]
    rfl
  -- and they are written by the comparison alone
  · cases instruction with
    | cmp first second =>
      by_cases hvalues : machine.cpu.value first = machine.cpu.value second
      · have hboth : (machine.withFlags flags).cpu.value first =
            (machine.withFlags flags).cpu.value second := hvalues
        simp [perform, flagsAfter, Cpu.equal, hvalues, hboth, or_one_and_one]
      · have hneither : ¬ (machine.withFlags flags).cpu.value first =
            (machine.withFlags flags).cpu.value second := hvalues
        simp only [perform, flagsAfter, if_neg hvalues, if_neg hneither]
        exact hequal
    | _ => exact hequal

/-- Nor do they make a difference to a cycle. -/
theorem cycle_withFlags {flags : UInt8} (hequal : (machine.withFlags flags).cpu.equal =
    machine.cpu.equal) :
    (machine.withFlags flags).cycle.1 = machine.cycle.1 ∧
      SameButUnused machine.cycle.2 (machine.withFlags flags).cycle.2 := by
  have hfetch : (machine.withFlags flags).fetch = machine.fetch := rfl
  have hobstacle : ∀ instruction,
      (machine.withFlags flags).obstacle? instruction = machine.obstacle? instruction := by
    intro instruction
    cases instruction <;> rfl
  have hstumbled : ∀ instruction, SameButUnused (machine.stumbled instruction)
      ((machine.withFlags flags).stumbled instruction) := by
    intro instruction
    cases instruction <;> exact ⟨rfl, hequal⟩
  rcases machine.cycle_cases with ⟨instruction, hfetched, hhlt, hnone, hcycle⟩ |
    ⟨hfetched, hcycle⟩ | ⟨fault, hfetched, hcycle⟩ |
    ⟨instruction, fault, hfetched, hhlt, hsome, hcycle⟩
  · rw [cycle_of_fetch (hfetch.trans hfetched) hhlt, hobstacle, hnone, hcycle]
    exact ⟨rfl, perform_withFlags hequal instruction⟩
  · rw [cycle, hfetch, hcycle, hfetched]
    exact ⟨rfl, rfl, hequal⟩
  · rw [cycle, hfetch, hcycle, hfetched]
    exact ⟨rfl, rfl, hequal⟩
  · rw [cycle_of_fetch (hfetch.trans hfetched) hhlt, hobstacle, hsome, hcycle]
    exact ⟨rfl, hstumbled instruction⟩

/-- A cycle gives the same signal with other unused flags, and they stay the only difference. -/
theorem SameButUnused.cycle (h : SameButUnused machine other) :
    other.cycle.1 = machine.cycle.1 ∧ SameButUnused machine.cycle.2 other.cycle.2 := by
  obtain ⟨hstate, hequal⟩ := h
  rw [hstate] at hequal ⊢
  exact cycle_withFlags hequal

/-- After any number of cycles the unused flags are still the only difference. -/
theorem SameButUnused.after (h : SameButUnused machine other) (count : Nat) :
    SameButUnused (machine.after count) (other.after count) := by
  induction count with
  | zero => exact h
  | succ count ih => exact ih.cycle.2

/-- Taking what is pending leaves the unused flags the only difference. -/
theorem SameButUnused.collected (h : SameButUnused machine other) :
    SameButUnused machine.collected other.collected := by
  obtain ⟨hstate, hequal⟩ := h
  exact ⟨congrArg Machine.collected hstate, hequal⟩

/-- What is pending does not depend on the unused flags. -/
theorem SameButUnused.pending (h : SameButUnused machine other) :
    other.cpu.pending = machine.cpu.pending := by
  rw [h.state]
  rfl

end Machine

/-! ## The length of a trace line -/

namespace Machine

/-- The trace lines of machines that agree but for unused flags have one length. -/
theorem SameButUnused.length_line {machine other : Machine} (h : SameButUnused machine other) :
    (utf8 (other.snapshot.line ++ "\n")).length = (utf8 (machine.snapshot.line ++ "\n")).length := by
  have hfield : ∀ value : UInt8, (utf8 (Snapshot.byteField value)).length = 3 := by
    intro value
    rw [(Snapshot.printable_byteField value).length_utf8, Snapshot.length_byteField]
  have hsnapshot : other.snapshot = { machine.snapshot with flags := other.cpu.flags } := by
    rw [h.state]
    rfl
  rw [hsnapshot]
  simp only [Snapshot.line, utf8_append, List.length_append, hfield]

/-- The unused flags are not told when an instruction is announced. -/
theorem SameButUnused.dispatchRecord? {machine other : Machine} (h : SameButUnused machine other) :
    Session.dispatchRecord? other = Session.dispatchRecord? machine := by
  rw [h.state]
  rfl

end Machine

/-! ## Sinks that count -/

namespace Sink

variable {sink other : Sink} {chunk chunkOther : List UInt8}

/-- A sink that goes by how many bytes it holds and is offered, not by which. -/
def Counting (sink : Sink) : Prop :=
  ∀ writes held heldOther chunk chunkOther, held.size = heldOther.size →
    chunk.length = chunkOther.length →
    sink.policy.refusesWrite writes held chunk = sink.policy.refusesWrite writes heldOther chunkOther

/-- Two counting sinks of one policy that have been offered and hold as much. -/
structure Even (sink other : Sink) : Prop where
  counting : sink.Counting
  policy : other.policy = sink.policy
  writes : other.writes = sink.writes
  size : other.held.size = sink.held.size

/-- Chunks of one length are both taken or both refused, for the same reason and after as many
bytes, and the sinks stay even. -/
theorem Even.write (h : Even sink other) (hlength : chunkOther.length = chunk.length) :
    (other.write chunkOther).2 = (sink.write chunk).2 ∧
      Even (sink.write chunk).1 (other.write chunkOther).1 := by
  have hsize : ∀ (held : Array UInt8) (bytes : List UInt8),
      (held ++ bytes).size = held.size + bytes.length := by
    intro held bytes
    simp [← Array.length_toList]
  have hverdict : other.policy.refusesWrite other.writes other.held chunkOther =
      sink.policy.refusesWrite sink.writes sink.held chunk := by
    rw [h.policy, h.writes]
    exact h.counting _ _ _ _ _ h.size hlength
  have hwrites : other.writes + 1 = sink.writes + 1 := congrArg (· + 1) h.writes
  unfold Sink.write
  rw [hverdict]
  cases sink.policy.refusesWrite sink.writes sink.held chunk with
  | none =>
    refine ⟨rfl, h.counting, h.policy, hwrites, ?_⟩
    simp only [hsize, h.size, hlength]
  | some refusal =>
    refine ⟨rfl, h.counting, h.policy, hwrites, ?_⟩
    simp only [hsize, h.size, List.length_take, hlength]

end Sink

namespace Console

variable {console other : Console} {machine machineOther : Machine}

/-- A console that does not trace, or whose trace sink counts. -/
def Impartial (console : Console) : Prop :=
  console.tracing = true → console.err.Counting

/-- Two consoles that take the trace lines of their runs alike. -/
structure Even (console other : Console) : Prop where
  tracing : other.tracing = console.tracing
  filter : other.filter = console.filter
  err : console.tracing = true → Sink.Even console.err other.err

/-- An impartial console is even with itself. -/
theorem Impartial.even (h : console.Impartial) : Even console console :=
  ⟨rfl, rfl, fun htracing => ⟨h htracing, rfl, rfl, rfl⟩⟩

/-- What is done with the error sinks alone leaves the rest of the two consoles alike. -/
theorem Even.of_err (h : Even console other) {after afterOther : Console}
    (hsettings : after.settings = console.settings)
    (hsettingsOther : afterOther.settings = other.settings)
    (herr : console.tracing = true → Sink.Even after.err afterOther.err) :
    Even after afterOther := by
  obtain ⟨htracing, hfilter, -⟩ := settings_eq_iff.mp hsettings
  obtain ⟨htracingOther, hfilterOther, -⟩ := settings_eq_iff.mp hsettingsOther
  exact ⟨htracingOther.trans (h.tracing.trans htracing.symm),
    hfilterOther.trans (h.filter.trans hfilter.symm),
    fun htraced => herr (htracing.symm.trans htraced)⟩

/-- Trace lines of one length are both taken or both refused, and the consoles stay even. -/
theorem Even.trace (h : Even console other)
    (hlength : (utf8 (machineOther.snapshot.line ++ "\n")).length =
      (utf8 (machine.snapshot.line ++ "\n")).length) :
    (other.trace machineOther).2 = (console.trace machine).2 ∧
      Even (console.trace machine).1 (other.trace machineOther).1 := by
  have hkept := h.of_err (console.trace_keeps machine).2 (other.trace_keeps machineOther).2
  unfold Console.trace at hkept ⊢
  rw [h.tracing] at hkept ⊢
  by_cases htracing : console.tracing = true
  · obtain ⟨hanswer, heven⟩ := (h.err htracing).write hlength
    rw [if_pos htracing, if_pos htracing] at hkept ⊢
    exact ⟨hanswer, hkept fun _ => heven⟩
  · rw [if_neg htracing, if_neg htracing]
    exact ⟨rfl, h⟩

/-- A record is logged alike, and the consoles stay even. -/
theorem Even.log (h : Even console other) (record : Log.Record) :
    Even (console.log record) (other.log record) := by
  refine h.of_err (console.log_keeps record).2 (other.log_keeps record).2 fun htracing => ?_
  -- the text of the record may depend on how much has been written, which is as much in both
  unfold Console.log
  rw [h.filter, (h.err htracing).writes]
  split
  · exact ((h.err htracing).write rfl).2
  · exact h.err htracing

/-- Closing a session keeps the settings of its console. -/
theorem settings_closed (console : Console) (answer : Option Session.Result) :
    (Session.closed console answer).settings = console.settings := by
  unfold Session.closed
  split
  · exact (console.log_keeps _).2
  · rfl
  · rfl

/-- Two sessions with one answer close their consoles alike. -/
theorem Even.closed (h : Even console other) (answer : Option Session.Result) :
    Even (Session.closed console answer) (Session.closed other answer) := by
  unfold Session.closed
  split
  · exact h.log _
  · exact h
  · exact h

end Console

namespace Session

variable {session other : Session}

/-! ## Sessions that differ in the other bits -/

/-- Two sessions whose machines agree but for unused flags, with the same output and
consoles that take their trace lines alike. -/
structure SameButUnused (session other : Session) : Prop where
  machine : Machine.SameButUnused session.machine other.machine
  out : session.console.out = other.console.out
  steps : session.steps = other.steps
  console : Console.Even session.console other.console

/-- The trace lines of the next cycle are taken alike, since the machines' lines are equally
long. -/
theorem SameButUnused.announced (h : SameButUnused session other) :
    Console.Even session.announced other.announced := by
  have heven := (h.console.trace h.machine.length_line).2
  unfold Session.announced
  rw [h.machine.dispatchRecord?]
  cases dispatchRecord? session.machine with
  | none => exact heven
  | some record => exact heven.log record

/-- After a cycle two such sessions answer the same and are such again. -/
theorem SameButUnused.advance (h : SameButUnused session other) :
    session.advance.2 = other.advance.2 ∧ SameButUnused session.advance.1 other.advance.1 := by
  obtain ⟨hsignal, hmachine⟩ := h.machine.cycle
  obtain ⟨htraced, heven⟩ := h.console.trace h.machine.length_line
  cases htrace : (session.console.trace session.machine).2 with
  | some reason =>
    rw [advance_of_refusal htrace, advance_of_refusal (htraced.trans htrace)]
    refine ⟨rfl, h.machine, ?_, h.steps, heven⟩
    rw [(session.console.trace_keeps session.machine).1,
      (other.console.trace_keeps other.machine).1]
    exact h.out
  | none =>
    have htraceOther := htraced.trans htrace
    obtain ⟨hanswer, hout, hsteps⟩ := advance_parallel htrace htraceOther hsignal.symm
      hmachine.pending.symm h.out h.steps
    refine ⟨hanswer, ?_, hout, hsteps, ?_⟩
    · rw [machine_advance_of_announced htrace, machine_advance_of_announced htraceOther]
      exact hmachine.collected
    -- the trace lines differ, so the error sinks hold different bytes, but as many
    · refine h.console.of_err session.settings_advance other.settings_advance fun htracing => ?_
      rw [err_advance htrace, err_advance htraceOther, hanswer]
      refine (h.announced.closed other.advance.2).err ?_
      have hsettings := (session.announced.settings_closed other.advance.2).trans
        session.announced_keeps.2
      exact (Console.settings_eq_iff.mp hsettings).1.trans htracing

/-! ## Whole runs -/

/-- Over cycles that go on, the equal flag becomes set with the first comparison of two
registers that hold the same value, and stays set. Nothing else changes the flags. So a
conditional jump goes by whether there has been such a comparison, however long ago. The
other bits of the flags have no say in what a machine does, nor in how a run of it ends,
unless its trace sink looks at more than the number of bytes. -/
theorem equalFlag_of_run {machine : Machine} {count : Nat} (hrun : machine.RunsFor count) :
    (machine.after count).cpu.flags &&& 0xFE = machine.cpu.flags &&& 0xFE ∧
    ((machine.after count).cpu.equal = true ↔
      machine.cpu.equal = true ∨ ∃ i < count, (machine.after i).FindsEqual) ∧
    (∀ i < count,
      ((machine.after i).FindsEqual ∧
        (machine.after (i + 1)).cpu.flags = (machine.after i).cpu.flags ||| 1) ∨
      (¬ (machine.after i).FindsEqual ∧
        (machine.after (i + 1)).cpu.flags = (machine.after i).cpu.flags)) ∧
    (∀ i < count, (machine.cpu.equal = true ∨ ∃ k < i, (machine.after k).FindsEqual) →
      ∀ register,
        ((machine.after i).fetch = .ok (.jeq register) → (machine.after i).GoesTo register) ∧
        ((machine.after i).fetch = .ok (.jne register) → (machine.after i).GoesPast)) ∧
    (∀ i < count, machine.cpu.equal = false → (∀ k < i, ¬ (machine.after k).FindsEqual) →
      ∀ register,
        ((machine.after i).fetch = .ok (.jeq register) → (machine.after i).GoesPast) ∧
        ((machine.after i).fetch = .ok (.jne register) → (machine.after i).GoesTo register)) ∧
    ∀ other, Machine.SameButUnused machine other →
      (∀ n, (other.after n).cycle.1 = (machine.after n).cycle.1 ∧
        Machine.SameButUnused (machine.after n) (other.after n)) ∧
      ∀ console : Console, console.Impartial → ∀ fuel,
        ((start machine console).run fuel = none ∧ (start other console).run fuel = none) ∨
        ∃ ended endedOther result, (start machine console).run fuel = some (ended, result) ∧
          (start other console).run fuel = some (endedOther, result) ∧
          Machine.SameButUnused ended.machine endedOther.machine ∧
          ended.console.out = endedOther.console.out ∧ ended.steps = endedOther.steps := by
  obtain ⟨hrest, hequal⟩ := Machine.flags_after hrun
  refine ⟨hrest, hequal, fun i hi => Machine.flags_of_running (hrun i hi), ?_, ?_, ?_⟩
  · intro i hi hset register
    have hjump := Machine.jump_of_running (hrun i hi) register
    rwa [(Machine.flags_after (hrun.mono (by omega))).2.mpr hset] at hjump
  · intro i hi hclear hnever register
    have hjump := Machine.jump_of_running (hrun i hi) register
    have hstill : (machine.after i).cpu.equal = false := by
      rw [Bool.eq_false_iff, ne_eq, (Machine.flags_after (hrun.mono (by omega))).2, hclear]
      rintro (hset | ⟨k, hk, hfinds⟩)
      · cases hset
      · exact hnever k hk hfinds
    rwa [hstill] at hjump
  · intro other hother
    refine ⟨fun n => ⟨(hother.after n).cycle.1, hother.after n⟩, ?_⟩
    intro console himpartial fuel
    have hstart : SameButUnused (start machine console) (start other console) :=
      ⟨hother, rfl, rfl, himpartial.even⟩
    obtain hnone | ⟨ended, endedOther, result, hrun, hrunOther, hended⟩ :=
      run_parallel (fun _ _ => SameButUnused.advance) hstart fuel
    · exact .inl hnone
    · exact .inr ⟨ended, endedOther, result, hrun, hrunOther, hended.machine, hended.out,
        hended.steps⟩

/-- Compares two registers that agree, changes one of them, compares them again, and jumps
to address 40 if they have ever agreed. Two unused flags are set. -/
def comparesTwice : Machine where
  cpu := { Cpu.reset with flags := 0xA0 }
  memory := Memory.beginning [0xA7, 0, 1, 0x82, 0, 40, 0xA7, 0, 1, 0x55, 0]

/-- The second comparison does not undo what the first has found, so the jump goes to 40, and
the unused flags stay set. -/
theorem equalFlag_of_comparesTwice :
    comparesTwice.RunsFor 4 ∧ (comparesTwice.after 4).cpu.flags &&& 0xFE = 0xA0 ∧
    (comparesTwice.after 4).cpu.equal = true ∧ (comparesTwice.after 4).cpu.pc = 40 := by
  have hrun : comparesTwice.RunsFor 4 := by decide +kernel
  have hfinds : (comparesTwice.after 0).FindsEqual :=
    ⟨0, 1, 0, by decide +kernel, by decide +kernel, by decide +kernel⟩
  have hjump : (comparesTwice.after 3).fetch = .ok (.jeq 0) := by decide +kernel
  obtain ⟨hrest, hequal, -, hset, -⟩ := equalFlag_of_run hrun
  obtain ⟨target, hread, hpc⟩ := (hset 3 (by omega) (.inr ⟨0, by omega, hfinds⟩) 0).1 hjump
  have hforty : (comparesTwice.after 3).cpu.read 0 = .ok 40 := by decide +kernel
  obtain rfl : (40 : UInt8) = target := Except.ok.inj (hforty.symm.trans hread)
  refine ⟨hrun, hrest, hequal.mpr (.inr ⟨0, by omega, hfinds⟩), ?_⟩
  rw [Machine.after, hpc]
  rfl

end Session

end ByteMachine
