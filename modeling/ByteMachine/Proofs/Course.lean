import ByteMachine.Proofs.Trajectory
import ByteMachine.Program.Session

/-!
# The course of a session

A run advances a session until a cycle answers. `Session.cycle_of_run` names the
cycle that answers, and `Session.advance_eq` takes one cycle apart: what it is
announced with, what it does to the machine, what it hands to the output, and which
of a refusal and a fault the answer tells.
-/

set_option autoImplicit false

namespace ByteMachine

/-! ## What a console keeps -/

/-- A write does not change which writes a sink accepts. -/
theorem Sink.policy_write (sink : Sink) (bytes : List UInt8) :
    (sink.write bytes).1.policy = sink.policy := by
  unfold Sink.write
  split <;> rfl

namespace Console

/-- What a console goes by: whether it is tracing, which records it admits, and what
its error sink accepts. -/
def settings (console : Console) : Bool × Log.Filter × Sink.Policy :=
  (console.tracing, console.filter, console.err.policy)

/-- Two consoles have the same settings if they trace, filter and take errors alike. -/
theorem settings_eq_iff {console other : Console} :
    other.settings = console.settings ↔ other.tracing = console.tracing ∧
      other.filter = console.filter ∧ other.err.policy = console.err.policy := by
  simp [settings]

/-- A trace line changes nothing but what the error sink holds. -/
theorem trace_keeps (console : Console) (machine : Machine) :
    (console.trace machine).1.out = console.out ∧
      (console.trace machine).1.settings = console.settings := by
  unfold trace
  split
  · exact ⟨rfl, by simp only [settings, Sink.policy_write]⟩
  · exact ⟨rfl, rfl⟩

/-- Logging a record touches neither the output nor the settings. -/
theorem log_keeps (console : Console) (record : Log.Record) :
    (console.log record).out = console.out ∧
      (console.log record).settings = console.settings := by
  unfold log
  split
  · exact ⟨rfl, by simp only [settings, Sink.policy_write]⟩
  · exact ⟨rfl, rfl⟩

/-- What is logged does not depend on the output. -/
theorem err_log_withOut (console : Console) (out : Sink) (record : Log.Record) :
    (Console.log { console with out := out } record).err = (console.log record).err := by
  unfold log
  by_cases hadmits : console.filter.admits record = true
  · rw [if_pos hadmits, if_pos hadmits]
  · rw [if_neg hadmits, if_neg hadmits]

end Console

namespace Session

/-! ## From one cycle to the next -/

/-- The session after so many cycles, whatever they answer. -/
def after (session : Session) : Nat → Session
  | 0 => session
  | count + 1 => (session.after count).advance.1

/-- What every cycle keeps holds after any number of cycles. -/
theorem after_induction (Kept : Session → Prop) {session : Session}
    (hstep : ∀ other, Kept other → Kept other.advance.1) (h : Kept session) (count : Nat) :
    Kept (session.after count) := by
  induction count with
  | zero => exact h
  | succ count ih => exact hstep _ ih

/-- A run goes on where its first cycles leave off, if none of them answers. -/
theorem run_add {session : Session} {count : Nat}
    (hnone : ∀ i < count, (session.after i).advance.2 = none) (fuel : Nat) :
    session.run (count + fuel) = (session.after count).run fuel := by
  -- the cycle that is split off is the last one, so the fuel varies
  induction count generalizing fuel with
  | zero => rw [Nat.zero_add, after]
  | succ count ih =>
    have hfirst := ih (fun i hi => hnone i (by omega)) (fuel + 1)
    have hlast := hnone count (by omega)
    rw [show count + 1 + fuel = count + (fuel + 1) by omega, hfirst, run, after]
    cases hadvance : (session.after count).advance with
    | mk next answer =>
      rw [hadvance] at hlast
      cases hlast
      rfl

/-- A session that has no answer in the cycles its fuel allows gives none. -/
theorem run_of_no_answer {session : Session} {fuel : Nat}
    (hnone : ∀ i < fuel, (session.after i).advance.2 = none) : session.run fuel = none := by
  have h := run_add hnone 0
  rwa [Nat.add_zero, run] at h

/-- A run answers what the first cycle with an answer answers. -/
theorem run_of_answer {session ended : Session} {result : Result} {count : Nat}
    (hnone : ∀ i < count, (session.after i).advance.2 = none)
    (hanswer : (session.after count).advance = (ended, some result)) (fuel : Nat) :
    session.run fuel = if count < fuel then some (ended, result) else none := by
  split
  · next hlt =>
    obtain ⟨more, rfl⟩ := Nat.exists_eq_add_of_lt hlt
    rw [show count + more + 1 = count + (more + 1) by omega, run_add hnone, run, hanswer]
  · next hge => exact run_of_no_answer fun i hi => hnone i (by omega)

/-- The cycles that a run makes either have no answer, or there is a first with one. -/
theorem answer_cases (session : Session) (fuel : Nat) :
    (∀ i < fuel, (session.after i).advance.2 = none) ∨
    ∃ count < fuel, ∃ ended result, (∀ i < count, (session.after i).advance.2 = none) ∧
      (session.after count).advance = (ended, some result) := by
  induction fuel with
  | zero => exact .inl (by omega)
  | succ fuel ih =>
    obtain hnone | ⟨count, hlt, hfirst⟩ := ih
    · cases hanswer : (session.after fuel).advance.2 with
      | none => exact .inl (Nat.forall_lt_succ_right.mpr ⟨hnone, hanswer⟩)
      | some result =>
        exact .inr ⟨fuel, by omega, _, result, hnone, Prod.ext rfl hanswer⟩
    · exact .inr ⟨count, by omega, hfirst⟩

/-- If a run gives no answer, then none of its cycles gave one. -/
theorem no_answer_of_run {session : Session} {fuel : Nat} (h : session.run fuel = none) :
    ∀ i < fuel, (session.after i).advance.2 = none := by
  obtain hnone | ⟨count, hlt, ended, result, hnone, hanswer⟩ := session.answer_cases fuel
  · exact hnone
  · rw [run_of_answer hnone hanswer, if_pos hlt] at h
    cases h

/-- What a run answers is answered by the last of its cycles, and by none before. -/
theorem cycle_of_run {session ended : Session} {result : Result} {fuel : Nat}
    (h : session.run fuel = some (ended, result)) :
    ∃ count < fuel, (∀ i < count, (session.after i).advance.2 = none) ∧
      (session.after count).advance = (ended, some result) := by
  obtain hnone | ⟨count, hlt, other, found, hnone, hanswer⟩ := session.answer_cases fuel
  · rw [run_of_no_answer hnone] at h
    cases h
  · rw [run_of_answer hnone hanswer, if_pos hlt] at h
    obtain ⟨rfl, rfl⟩ := Prod.mk.inj (Option.some.inj h)
    exact ⟨count, hlt, hnone, hanswer⟩

/-- Two sessions whose cycles answer the same, and stay related, run alike. -/
theorem run_parallel {Related : Session → Session → Prop}
    (hstep : ∀ session other, Related session other →
      session.advance.2 = other.advance.2 ∧ Related session.advance.1 other.advance.1)
    {session other : Session} (h : Related session other) (fuel : Nat) :
    (session.run fuel = none ∧ other.run fuel = none) ∨
    ∃ ended endedOther result, session.run fuel = some (ended, result) ∧
      other.run fuel = some (endedOther, result) ∧ Related ended endedOther := by
  induction fuel generalizing session other with
  | zero => exact .inl ⟨rfl, rfl⟩
  | succ fuel ih =>
    obtain ⟨hanswer, hnext⟩ := hstep session other h
    rw [run, run]
    cases hadvance : session.advance with
    | mk ended answer =>
      cases hadvanceOther : other.advance with
      | mk endedOther answerOther =>
        rw [hadvance, hadvanceOther] at hanswer hnext
        cases hanswer
        cases answer with
        | none => exact ih hnext
        | some result => exact .inr ⟨ended, endedOther, result, rfl, rfl, hnext⟩

/-! ## The end of a run -/

/-- The result of a run that ends with a flush. -/
def flushed (sink : Sink) (result : Result) : Result :=
  match sink.policy.refusesFlush with
  | some reason => .error (.output reason)
  | none => result

/-- The end of a run flushes the output once and answers the result unless the flush
is refused. It changes nothing else but what the error sink holds. -/
theorem finish_eq (session : Session) (result : Result) :
    (session.finish result).1.machine = session.machine ∧
      (session.finish result).1.steps = session.steps ∧
      (session.finish result).1.console.out = session.console.out.flush.1 ∧
      (session.finish result).1.console.settings = session.console.settings ∧
      (session.finish result).2 = flushed session.console.out result := by
  unfold finish flushed Sink.flush
  cases session.console.out.policy.refusesFlush with
  | some reason => exact ⟨rfl, rfl, rfl, rfl, rfl⟩
  | none =>
    cases result with
    | error cause => exact ⟨rfl, rfl, rfl, rfl, rfl⟩
    | ok steps =>
      obtain ⟨hout, hsettings⟩ := Console.log_keeps
        { session.console with out := session.console.out.flush.1 } (haltRecord steps)
      exact ⟨rfl, rfl, hout, hsettings, rfl⟩

/-! ## One cycle -/

/-- The console when a cycle has been announced: with its trace line, and with the
record of the instruction it is about to carry out. -/
def announced (session : Session) : Console :=
  let traced := (session.console.trace session.machine).1
  (dispatchRecord? session.machine).elim traced traced.log

/-- An announcement changes nothing but what the error sink holds. -/
theorem announced_keeps (session : Session) :
    session.announced.out = session.console.out ∧
      session.announced.settings = session.console.settings := by
  obtain ⟨hout, hsettings⟩ := session.console.trace_keeps session.machine
  unfold announced
  cases dispatchRecord? session.machine with
  | none => exact ⟨hout, hsettings⟩
  | some record =>
    obtain ⟨houtLog, hsettingsLog⟩ := (session.console.trace session.machine).1.log_keeps record
    exact ⟨houtLog.trans hout, hsettingsLog.trans hsettings⟩

/-- What the output answers to the bytes that a cycle hands over. -/
def handOver (session : Session) : Sink × Option String :=
  session.announced.out.write session.machine.cycle.2.cpu.pending

/-- The session when the bytes of a cycle have been handed over. -/
def handedOver (session : Session) : Session :=
  { session with
    machine := session.machine.cycle.2.collected
    console := { session.announced with out := session.handOver.1 } }

/-- The result that a signal stands for after so many instructions. -/
def resultOf (steps : Nat) : Signal → Option Result
  | .running => none
  | .halted => some (.ok steps)
  | .faulted fault => some (.error (.fault fault))

/-- A cycle that is announced hands its bytes over, and only if they are taken does
its signal count. -/
theorem advance_eq {session : Session}
    (htrace : (session.console.trace session.machine).2 = none) :
    session.advance =
      match session.handOver.2, resultOf session.steps session.machine.cycle.1 with
      | some reason, _ => (session.handedOver, some (.error (.output reason)))
      | none, none => ({ session.handedOver with steps := session.steps + 1 }, none)
      | none, some result =>
        ((session.handedOver.finish result).1, some (session.handedOver.finish result).2) := by
  unfold handedOver handOver announced
  rw [advance]
  cases htraced : session.console.trace session.machine with
  | mk traced refusal =>
    rw [htraced] at htrace
    cases htrace
    simp only []
    cases session.machine.cycle with
    | mk signal machine =>
      cases ((dispatchRecord? session.machine).elim traced traced.log).out.write
          machine.cpu.pending with
      | mk out refusal =>
        cases refusal <;> cases signal <;> rfl

/-- The console when an answer has been given: a halt has been logged. -/
def closed (console : Console) : Option Result → Console
  | some (.ok steps) => console.log (haltRecord steps)
  | some (.error _) | none => console

/-- What closing adds to the error sink depends on the result alone. -/
theorem err_finish (session : Session) (result : Result) :
    (session.finish result).1.console.err =
      (closed session.console (some (session.finish result).2)).err := by
  unfold finish Sink.flush
  cases session.console.out.policy.refusesFlush with
  | some reason => rfl
  | none =>
    cases result with
    | error cause => rfl
    | ok steps => exact session.console.err_log_withOut _ (haltRecord steps)

/-- The error sink takes an announcement, the record of a halt, and nothing else. -/
theorem err_advance {session : Session}
    (htrace : (session.console.trace session.machine).2 = none) :
    session.advance.1.console.err = (closed session.announced session.advance.2).err := by
  rw [advance_eq htrace]
  split
  · rfl
  · rfl
  · next result _ _ =>
    rw [err_finish]
    cases (session.handedOver.finish result).2 with
    | error cause => rfl
    | ok steps => exact session.announced.err_log_withOut _ (haltRecord steps)

/-- Two sessions that announce their cycles answer alike if their machines signal the same
and hand the same bytes over to the same output. -/
theorem advance_parallel {session other : Session}
    (htrace : (session.console.trace session.machine).2 = none)
    (htraceOther : (other.console.trace other.machine).2 = none)
    (hsignal : session.machine.cycle.1 = other.machine.cycle.1)
    (hpending : session.machine.cycle.2.cpu.pending = other.machine.cycle.2.cpu.pending)
    (hout : session.console.out = other.console.out) (hsteps : session.steps = other.steps) :
    session.advance.2 = other.advance.2 ∧
      session.advance.1.console.out = other.advance.1.console.out ∧
      session.advance.1.steps = other.advance.1.steps := by
  have hover : session.handOver = other.handOver := by
    rw [handOver, handOver, session.announced_keeps.1, other.announced_keeps.1, hpending, hout]
  have houtOver : session.handedOver.console.out = other.handedOver.console.out :=
    congrArg Prod.fst hover
  -- from here on both cycles are decided by one verdict and one signal
  rw [advance_eq htrace, advance_eq htraceOther, hover, hsignal, hsteps]
  cases other.handOver.2 with
  | some reason => exact ⟨rfl, houtOver, hsteps⟩
  | none =>
    cases resultOf other.steps other.machine.cycle.1 with
    | none => exact ⟨rfl, houtOver, rfl⟩
    | some result =>
      obtain ⟨-, hstepsEnd, hflush, -, hanswer⟩ := session.handedOver.finish_eq result
      obtain ⟨-, hstepsOther, hflushOther, -, hanswerOther⟩ := other.handedOver.finish_eq result
      rw [houtOver] at hflush hanswer
      exact ⟨congrArg some (hanswer.trans hanswerOther.symm), hflush.trans hflushOther.symm,
        hstepsEnd.trans (hsteps.trans hstepsOther.symm)⟩

/-- A trace line that is refused ends the run before the cycle. -/
theorem advance_of_refusal {session : Session} {reason : String}
    (htrace : (session.console.trace session.machine).2 = some reason) :
    session.advance =
      ({ session with console := (session.console.trace session.machine).1 },
        some (.error (.output reason))) := by
  rw [advance]
  cases htraced : session.console.trace session.machine with
  | mk traced refusal =>
    rw [htraced] at htrace
    cases htrace
    rfl

/-- A cycle whose trace line is not refused leaves the machine as its cycle leaves it,
with nothing pending. -/
theorem machine_advance_of_announced {session : Session}
    (htrace : (session.console.trace session.machine).2 = none) :
    session.advance.1.machine = session.machine.cycle.2.collected := by
  rw [advance_eq htrace]
  split
  · rfl
  · rfl
  · next result _ _ => exact (session.handedOver.finish_eq result).1

/-- If the trace line is refused, the machine stays as it is. -/
theorem machine_advance (session : Session) :
    session.advance.1.machine = session.machine ∨
      session.advance.1.machine = session.machine.cycle.2.collected := by
  cases htrace : (session.console.trace session.machine).2 with
  | some reason =>
    rw [advance_of_refusal htrace]
    exact .inl rfl
  | none => exact .inr (machine_advance_of_announced htrace)

/-- A step of a session keeps the settings of its console. -/
theorem settings_advance (session : Session) :
    session.advance.1.console.settings = session.console.settings := by
  have hover : session.handedOver.console.settings = session.console.settings :=
    session.announced_keeps.2
  cases htrace : (session.console.trace session.machine).2 with
  | some reason =>
    rw [advance_of_refusal htrace]
    exact (session.console.trace_keeps session.machine).2
  | none =>
    rw [advance_eq htrace]
    split
    · exact hover
    · exact hover
    · next result _ _ =>
      obtain ⟨-, -, -, hsettings, -⟩ := session.handedOver.finish_eq result
      exact hsettings.trans hover

/-- What a cycle answers is a refusal, or what its signal stands for. -/
theorem result_of_answer {session : Session} {result : Result}
    (hanswer : session.advance.2 = some result) :
    (∃ reason, result = .error (.output reason)) ∨
      resultOf session.steps session.machine.cycle.1 = some result := by
  cases htrace : (session.console.trace session.machine).2 with
  | some reason =>
    rw [advance_of_refusal htrace] at hanswer
    exact .inl ⟨reason, (Option.some.inj hanswer).symm⟩
  | none =>
    rw [advance_eq htrace] at hanswer
    split at hanswer
    · next reason _ => exact .inl ⟨reason, (Option.some.inj hanswer).symm⟩
    · cases hanswer
    · next signalled _ hresult =>
      obtain ⟨-, -, -, -, hflushed⟩ := session.handedOver.finish_eq signalled
      rw [Option.some.inj hanswer, flushed] at hflushed
      split at hflushed
      · next reason _ => exact .inl ⟨reason, hflushed⟩
      · exact .inr (hflushed ▸ hresult)

/-- A cycle without an answer has gone on, and nothing was refused. -/
theorem running_of_no_answer {session : Session} (hnone : session.advance.2 = none) :
    session.machine.cycle.1 = .running ∧
      session.advance.1.machine = session.machine.cycle.2.collected := by
  cases htrace : (session.console.trace session.machine).2 with
  | some reason =>
    rw [advance_of_refusal htrace] at hnone
    cases hnone
  | none =>
    refine ⟨?_, machine_advance_of_announced htrace⟩
    rw [advance_eq htrace] at hnone
    split at hnone
    · cases hnone
    · next hresult =>
      cases hsignal : session.machine.cycle.1 with
      | running => rfl
      | halted | faulted fault =>
        rw [hsignal] at hresult
        cases hresult
    · cases hnone

/-- A cycle that answers with anything but a refusal leaves the machine as the machine's own
cycle leaves it. -/
theorem machine_of_answer {session ended : Session} {result : Result}
    (hanswer : session.advance = (ended, some result))
    (hresult : ∀ reason, result ≠ .error (.output reason)) :
    ended.machine = session.machine.cycle.2.collected := by
  cases htrace : (session.console.trace session.machine).2 with
  | some reason =>
    rw [advance_of_refusal htrace] at hanswer
    cases hanswer
    exact absurd rfl (hresult reason)
  | none => rw [← machine_advance_of_announced htrace, hanswer]

/-- A session ends with a fault only if its machine has just met it. -/
theorem fault_of_advance {session : Session} {fault : Fault}
    (hanswer : session.advance.2 = some (.error (.fault fault))) :
    session.machine.cycle.1 = .faulted fault := by
  obtain ⟨reason, hrefused⟩ | hresult := result_of_answer hanswer
  · cases hrefused
  · cases hsignal : session.machine.cycle.1 <;> rw [hsignal] at hresult <;> cases hresult
    rfl

/-- A session ends with a number only if its machine stands at a halt, and the number
is that of the instructions carried out. -/
theorem halt_of_advance {session : Session} {steps : Nat}
    (hanswer : session.advance.2 = some (.ok steps)) :
    session.machine.cycle.1 = .halted ∧ steps = session.steps := by
  obtain ⟨reason, hrefused⟩ | hresult := result_of_answer hanswer
  · cases hrefused
  · cases hsignal : session.machine.cycle.1 <;> rw [hsignal] at hresult <;> cases hresult
    exact ⟨rfl, rfl⟩

end Session

end ByteMachine
