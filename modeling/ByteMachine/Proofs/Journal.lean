import ByteMachine.Proofs.Delivery

/-!
# What a session writes to its error sink

Trace lines, log records and diagnostics are the entries of an error output. A cycle is told
of by at most two of them: its trace line, if the console is tracing, and the record of the
instruction it carries out, if there is one and the filter admits it. An error sink that
refuses nothing holds these entries cycle by cycle, and behind them the record of a halt.

The text of a record may depend on how much has been written before it. So entries are noted
one behind the other, and the sink they are noted in keeps the count.
-/

set_option autoImplicit false

namespace ByteMachine

/-! ## Entries -/

/-- Something that is written to an error output in one piece. -/
inductive Entry where
  /-- The trace line of a machine. -/
  | view (snapshot : Machine.Snapshot)
  /-- A record of the log. -/
  | record (logged : Log.Record)
  /-- What is said about a failure. -/
  | diagnostic (message : String)
deriving DecidableEq

namespace Entry

/-- How an entry reads, if there have been so many writes before it. -/
def text (filter : Log.Filter) (before : Nat) : Entry → String
  | .view snapshot => snapshot.line ++ "\n"
  | .record logged => filter.text before logged
  | .diagnostic message => message ++ "\n"

/-- The bytes of entries that follow each other, if there have been so many writes before the
first. -/
def written (filter : Log.Filter) : Nat → List Entry → List UInt8
  | _, [] => []
  | before, entry :: rest => utf8 (entry.text filter before) ++ written filter (before + 1) rest

variable (filter : Log.Filter)

/-- The bytes of entries that follow others come behind the bytes of these. -/
theorem written_append (before : Nat) (entries more : List Entry) :
    written filter before (entries ++ more) =
      written filter before entries ++ written filter (before + entries.length) more := by
  induction entries generalizing before with
  | nil => rfl
  | cons entry entries ih =>
    have hbefore : before + 1 + entries.length = before + (entry :: entries).length := by
      rw [List.length_cons]
      omega
    rw [List.cons_append, written, written, ih, hbefore, List.append_assoc]

/-- One entry writes its text, and nothing else. -/
theorem written_singleton (before : Nat) (entry : Entry) :
    written filter before [entry] = utf8 (entry.text filter before) := by
  rw [written, written, List.append_nil]

end Entry

open Entry

/-- The sink after entries have been written to it. -/
def Sink.noting (sink : Sink) (filter : Log.Filter) (entries : List Entry) : Sink :=
  sink.received entries.length (written filter sink.writes entries)

namespace Sink

variable (sink : Sink) (filter : Log.Filter)

/-- A sink to which nothing is written stays as it was. -/
theorem noting_nil : sink.noting filter [] = sink := by
  simp [noting, received, written]

/-- What is received after something else comes behind it. -/
theorem received_received (count more : Nat) (bytes rest : List UInt8) :
    (sink.received count bytes).received more rest =
      sink.received (count + more) (bytes ++ rest) := by
  have hheld : sink.held ++ bytes ++ rest = sink.held ++ (bytes ++ rest) := Array.ext' (by simp)
  simp only [received, hheld, Nat.add_assoc]

/-- Entries are noted behind those that have been noted before. -/
theorem noting_append (entries more : List Entry) :
    sink.noting filter (entries ++ more) = (sink.noting filter entries).noting filter more := by
  rw [noting, noting, noting, received_received, written_append, List.length_append]
  rfl

/-- The bytes of entries come behind what the sink held. -/
theorem toList_held_noting (entries : List Entry) :
    (sink.noting filter entries).held.toList =
      sink.held.toList ++ written filter sink.writes entries := by
  simp [noting, received]

/-- A sink that refuses nothing notes what is written to it. -/
theorem Tireless.write_entry {sink : Sink} (h : sink.Tireless) (filter : Log.Filter)
    (entry : Entry) :
    (sink.write (utf8 (entry.text filter sink.writes))).1 = sink.noting filter [entry] := by
  simp [Sink.write, h _ _ _, noting, received, written_singleton]

end Sink

/-! ## What a filter keeps -/

/-- What a filter keeps of a record. -/
def Log.Filter.kept (filter : Filter) (record : Record) : List Entry :=
  if filter.admits record then [.record record] else []

/-- Nothing is admitted that is less grave than a warning. -/
def Log.Terse (admits : Record → Bool) : Prop :=
  ∀ record, record.level = .info ∨ record.level = .debug → admits record = false

/-- A terse filter keeps nothing of a record that is less grave than a warning. -/
theorem Log.Terse.kept_eq_nil {filter : Log.Filter} (h : Terse filter.admits) {record : Record}
    (hlevel : record.level = .info ∨ record.level = .debug) : filter.kept record = [] := by
  rw [Filter.kept, h record hlevel, if_neg Bool.false_ne_true]

/-- The record of an instruction is there for those who look for faults. -/
theorem Session.level_of_dispatchRecord? {machine : Machine} {record : Log.Record}
    (h : dispatchRecord? machine = some record) : record.level = .debug := by
  unfold dispatchRecord? at h
  split at h
  · cases h
  · cases h
  · cases h
    rfl

namespace Machine

/-- What is told of a cycle before it is made. -/
def told (machine : Machine) (tracing : Bool) (filter : Log.Filter) : List Entry :=
  (if tracing then [.view machine.snapshot] else []) ++
    (Session.dispatchRecord? machine).elim [] filter.kept

/-- What is told of the first `count` cycles. -/
def account (machine : Machine) (tracing : Bool) (filter : Log.Filter) (count : Nat) :
    List Entry :=
  (List.range count).flatMap fun i => (machine.after i).told tracing filter

variable (machine : Machine) (tracing : Bool) (filter : Log.Filter)

/-- One cycle more is told of behind those before it. -/
theorem account_succ (count : Nat) :
    machine.account tracing filter (count + 1) =
      machine.account tracing filter count ++ (machine.after count).told tracing filter := by
  simp [account, List.range_succ, List.flatMap_append]

/-- A terse filter leaves nothing to tell of a cycle but the view. -/
theorem told_of_terse {filter : Log.Filter} (h : Log.Terse filter.admits) :
    machine.told tracing filter = if tracing then [.view machine.snapshot] else [] := by
  unfold told
  cases hrecord : Session.dispatchRecord? machine with
  | none => rw [Option.elim_none, List.append_nil]
  | some record =>
    have hlevel := Session.level_of_dispatchRecord? hrecord
    rw [Option.elim_some, h.kept_eq_nil (.inr hlevel), List.append_nil]

/-- Pending bytes are not told of. -/
theorem told_delivered (count : Nat) :
    (machine.delivered count).told tracing filter = (machine.after count).told tracing filter := by
  cases count <;> rfl

end Machine

namespace Console

variable {console : Console}

/-- A tracing console notes the view of the machine. -/
theorem err_trace (htireless : console.err.Tireless) (machine : Machine) :
    (console.trace machine).1.err = console.err.noting console.filter
      (if console.tracing then [.view machine.snapshot] else []) := by
  unfold trace
  split
  · exact htireless.write_entry console.filter (.view machine.snapshot)
  · exact (Sink.noting_nil _ _).symm

/-- A console notes what its filter keeps of a record. -/
theorem err_log (htireless : console.err.Tireless) (record : Log.Record) :
    (console.log record).err = console.err.noting console.filter (console.filter.kept record) := by
  unfold log Log.Filter.kept
  split
  · exact htireless.write_entry console.filter (.record record)
  · exact (Sink.noting_nil _ _).symm

end Console

namespace Session

variable {session : Session}

/-- What is told of the end of a run: that it has halted. -/
def ending (filter : Log.Filter) : Result → List Entry
  | .ok steps => filter.kept (haltRecord steps)
  | .error _ => []

/-- A terse filter leaves nothing to tell of the end. -/
theorem ending_of_terse {filter : Log.Filter} (h : Log.Terse filter.admits) (result : Result) :
    ending filter result = [] := by
  cases result with
  | ok steps => exact h.kept_eq_nil (.inl rfl)
  | error cause => rfl

/-! ## One cycle -/

/-- Before a cycle is made, what is told of it is noted. -/
theorem err_announced (htireless : session.console.err.Tireless) :
    session.announced.err = session.console.err.noting session.console.filter
      (session.machine.told session.console.tracing session.console.filter) := by
  have htraced := Console.err_trace htireless session.machine
  obtain ⟨-, hsettings⟩ := session.console.trace_keeps session.machine
  obtain ⟨-, hfilter, hpolicy⟩ := Console.settings_eq_iff.mp hsettings
  unfold announced Machine.told
  cases dispatchRecord? session.machine with
  | none => rw [Option.elim_none, Option.elim_none, List.append_nil, htraced]
  | some record =>
    rw [Option.elim_some, Option.elim_some, Console.err_log (htireless.of_policy hpolicy), htraced,
      hfilter, Sink.noting_append]

/-- A cycle notes what is told of it, and after it that the run has halted. -/
theorem noted_advance (htireless : session.console.err.Tireless) :
    session.advance.1.console.err = session.console.err.noting session.console.filter
      (session.machine.told session.console.tracing session.console.filter ++
        session.advance.2.elim [] (ending session.console.filter)) := by
  have hquiet : session.console.Quiet := .inr htireless
  have htold := err_announced htireless
  obtain ⟨-, hfilter, hpolicy⟩ := Console.settings_eq_iff.mp session.announced_keeps.2
  rw [err_advance (hquiet.trace session.machine), Sink.noting_append, ← htold]
  cases session.advance.2 with
  | none => exact (Sink.noting_nil _ _).symm
  | some result =>
    cases result with
    | error cause => exact (Sink.noting_nil _ _).symm
    | ok steps =>
      have hlogged := Console.err_log (htireless.of_policy hpolicy) (haltRecord steps)
      rw [hfilter] at hlogged
      exact hlogged

/-! ## Whole runs -/

variable {machine : Machine} {console : Console} {count : Nat}

/-- What a console goes by does not change in the course of a session. -/
theorem settings_after (session : Session) (count : Nat) :
    (session.after count).console.settings = session.console.settings := by
  apply after_induction fun other => other.console.settings = session.console.settings
  · intro other hother
    rw [other.settings_advance, hother]
  · rfl

/-- After cycles that did not answer, one more adds what is told of it, and what is told of the
end if it answers. -/
theorem noted_succ (htireless : console.err.Tireless)
    (hnone : ∀ i < count, ((start machine console).after i).advance.2 = none)
    (hnoted : ((start machine console).after count).console.err =
      console.err.noting console.filter (machine.account console.tracing console.filter count)) :
    ((start machine console).after (count + 1)).console.err =
      console.err.noting console.filter
        (machine.account console.tracing console.filter (count + 1) ++
          ((start machine console).after count).advance.2.elim [] (ending console.filter)) := by
  obtain ⟨htracing, hfilter, hpolicy⟩ := Console.settings_eq_iff.mp
    (settings_after (start machine console) count)
  obtain ⟨-, hstate⟩ := runsFor_of_no_answer hnone
  have hadvance := noted_advance (htireless.of_policy hpolicy)
  rw [hnoted, hstate, machine.told_delivered, htracing, hfilter] at hadvance
  rw [after, hadvance, machine.account_succ, List.append_assoc]
  exact (Sink.noting_append _ _ _ _).symm

/-- As long as no cycle answers, the sink has noted what is told of the cycles. -/
theorem noted_after (htireless : console.err.Tireless)
    (hnone : ∀ i < count, ((start machine console).after i).advance.2 = none) :
    ((start machine console).after count).console.err =
      console.err.noting console.filter
        (machine.account console.tracing console.filter count) := by
  induction count with
  | zero => exact (Sink.noting_nil _ _).symm
  | succ count ih =>
    have hfirst : ∀ i < count, ((start machine console).after i).advance.2 = none :=
      fun i hi => hnone i (by omega)
    have hnext := noted_succ htireless hfirst (ih hfirst)
    rwa [hnone count (by omega), Option.elim_none, List.append_nil] at hnext

/-- Where a run ends, the sink has noted what is told of its cycles, the last one included, and
what is told of the end. -/
theorem noted_of_run (htireless : console.err.Tireless) {fuel : Nat} {ended : Session}
    {result : Result} (h : (start machine console).run fuel = some (ended, result)) :
    ∃ count < fuel, (start machine console).run (count + 1) = some (ended, result) ∧
      ended.console.err = console.err.noting console.filter
        (machine.account console.tracing console.filter (count + 1) ++
          ending console.filter result) := by
  obtain ⟨count, hlt, hnone, hanswer⟩ := cycle_of_run h
  have hnoted := noted_succ htireless hnone (noted_after htireless hnone)
  rw [after, hanswer] at hnoted
  refine ⟨count, hlt, ?_, hnoted⟩
  rw [run_of_answer hnone hanswer, if_pos (by omega)]

end Session

end ByteMachine
