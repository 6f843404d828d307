import ByteMachine.Program.Command
import ByteMachine.Program.Volume
import ByteMachine.Proofs.Journal
import ByteMachine.Proofs.Placement
import ByteMachine.Proofs.PrintedText
import ByteMachine.Proofs.Tracing

/-!
# What the command reports

A command that is to run a program reads a file, reads its text as a program, places the program
in memory and runs the machine. Each of these can be what ends it. `Command.Concludes` lists the
ways, each with its exit code, its output and its error output, and a command whose streams refuse
nothing reports what is listed and nothing else. Tracing adds lines to the error output and changes
nothing besides.

The arguments, the filter of the log and the text of a record come from libraries. Of these it is
only assumed what they answer: that the arguments ask for a program, that the environment asks for
no records, and that a directive for warnings lets nothing pass that is less grave.

A stream that refuses what is written to it can end the run as well. What is heard of a command,
its exit code and its output, is then still what is heard of the session that runs the machine.
-/

set_option autoImplicit false

namespace ByteMachine

open Entry

/-! ## Reading the program -/

namespace Loading

variable {path : String} {reading : Reading}

/-- A program is read exactly from the text of one. -/
theorem program_eq_ok_iff {program : List UInt8} :
    Loading.program path reading = .ok program ↔
      ∃ text, reading = .content (utf8 text) ∧ Source.parse text = .ok program := by
  constructor
  · intro h
    unfold Loading.program at h
    split at h
    · cases h
    · cases h
    · next bytes =>
      split at h
      · next text htext =>
        obtain rfl := utf8Text?_eq_some_iff.mp htext
        refine ⟨text, rfl, ?_⟩
        unfold programOf at h
        split at h
        · next hparse => rwa [← Except.ok.inj h]
        · cases h
      · cases h
  · rintro ⟨text, rfl, hparse⟩
    simp [Loading.program, programOf, hparse]

end Loading

/-! ## Streams and consoles -/

/-- Streams that refuse nothing. -/
structure Streams.Unlimited (streams : Streams) : Prop where
  out : (Sink.empty streams.out).Unlimited
  err : (Sink.empty streams.err).Tireless

/-- The streams that accept everything are among them. -/
theorem Streams.accepting_unlimited : accepting.Unlimited :=
  ⟨⟨fun _ _ _ => rfl, rfl⟩, fun _ _ _ => rfl⟩

namespace Command

variable {streams : Streams} {options : Options String} {filter : Log.Filter} {reading : Reading}
  {program : List UInt8}

/-- The machine that is to run a program. -/
def loaded (program : List UInt8) : Machine :=
  Machine.start (Memory.beginning program)

/-- The console of a command that has read a program. -/
def informedConsole (streams : Streams) (options : Options String) (filter : Log.Filter)
    (program : List UInt8) : Console :=
  (console streams options.tracing filter).log (readRecord options.path program)

/-- That a program was read is told on the error output alone. -/
theorem informedConsole_keeps (streams : Streams) (options : Options String) (filter : Log.Filter)
    (program : List UInt8) :
    (informedConsole streams options filter program).out = Sink.empty streams.out ∧
      (informedConsole streams options filter program).tracing = options.tracing ∧
      (informedConsole streams options filter program).filter = filter ∧
      (informedConsole streams options filter program).err.policy = streams.err := by
  obtain ⟨hout, hsettings⟩ :=
    (console streams options.tracing filter).log_keeps (readRecord options.path program)
  exact ⟨hout, Console.settings_eq_iff.mp hsettings⟩

/-- An error output that refuses nothing has noted that a program was read. -/
theorem err_informedConsole (h : (Sink.empty streams.err).Tireless) (options : Options String)
    (filter : Log.Filter) (program : List UInt8) :
    (informedConsole streams options filter program).err =
      (Sink.empty streams.err).noting filter (filter.kept (readRecord options.path program)) :=
  @Console.err_log (console streams options.tracing filter) h (readRecord options.path program)

/-- A console is quiet that need not trace, or whose error output refuses nothing. -/
theorem informedConsole_quiet
    (h : options.tracing = false ∨ (Sink.empty streams.err).Tireless) :
    (informedConsole streams options filter program).Quiet := by
  obtain ⟨-, htracing, -, hpolicy⟩ := informedConsole_keeps streams options filter program
  exact h.imp htracing.trans fun htireless => htireless.of_policy hpolicy

/-- The record that a program was read leaves a console on streams without limits fresh. -/
theorem informedConsole_fresh (h : streams.Unlimited) :
    (informedConsole streams options filter program).Fresh := by
  obtain ⟨hout, -, -, -⟩ := informedConsole_keeps streams options filter program
  refine ⟨informedConsole_quiet (.inr h.err), ?_, ?_⟩
  · rw [hout]
    exact h.out
  · rw [hout]
    rfl

/-! ## Loading -/

/-- Nothing is placed in memory if no program could be read, and nothing is logged. -/
theorem load_of_error {error : LoadError}
    (h : Loading.program options.path reading = .error error) :
    load streams options filter reading =
      (Session.start (Machine.start Memory.ram) (console streams options.tracing filter),
        some error) := by
  simp only [load, h]

/-- A program that fits is placed in memory and the machine is ready to run it. -/
theorem load_of_program (h : Loading.program options.path reading = .ok program)
    (hfits : program.length ≤ 256) :
    load streams options filter reading =
      (Session.start (loaded program) (informedConsole streams options filter program),
        none) := by
  simp only [load, h, Loading.place_ram hfits]
  rfl

/-- A program that does not fit leaves the memory empty, after the record that it was read. -/
theorem load_of_oversized (h : Loading.program options.path reading = .ok program)
    (hlarge : 256 < program.length) :
    load streams options filter reading =
      (Session.start (Machine.start Memory.ram) (informedConsole streams options filter program),
        some (.tooLarge program.length 256)) := by
  have hplace : Loading.place Memory.ram 0 program =
      (Memory.ram, some (.tooLarge program.length 256)) := by
    rw [Loading.place_eq, if_pos]
    · rw [Nat.zero_add]
      rfl
    · rw [Nat.zero_add]
      exact hlarge
  simp only [load, h, hplace]
  rfl

/-! ## What is heard of a command -/

/-- The exit code of a run. -/
def codeOf : Session.Result → UInt32
  | .ok _ => success
  | .error _ => failure

/-- What is told of a command apart from its error output. -/
def heard (report : Report) : UInt32 × Array UInt8 :=
  (report.code, report.out)

/-- What is told of the end of a run apart from what it has shown. -/
def heardOf (ending : Session × Session.Result) : UInt32 × Array UInt8 :=
  (codeOf ending.2, ending.1.console.out.held)

/-- The report of a session is heard as its result and what its streams hold. -/
theorem heard_report (ended : Session) (result : Session.Result) :
    heard (report ended (complaintOf result)) = heardOf (ended, result) := by
  cases result <;> rfl

/-- Without a program nothing is run, whatever the streams accept. -/
theorem heard_of_error {error : LoadError} (fuel : Nat)
    (h : Loading.program options.path reading = .error error) :
    (runProgram streams fuel options filter reading).map heard = some (loadCode error, #[]) := by
  simp only [runProgram, load_of_error h]
  rfl

/-- Nor is a program run that does not fit. -/
theorem heard_of_oversized (fuel : Nat) (h : Loading.program options.path reading = .ok program)
    (hlarge : 256 < program.length) :
    (runProgram streams fuel options filter reading).map heard = some (failure, #[]) := by
  obtain ⟨hout, -, -, -⟩ := informedConsole_keeps streams options filter program
  have hheard : ∀ code message, heard (report (Session.start (Machine.start Memory.ram)
      (informedConsole streams options filter program)) (some (code, message))) = (code, #[]) := by
    intro code message
    rw [heard, report, Session.start, hout]
    rfl
  simp only [runProgram, load_of_oversized h hlarge, Option.map_some, hheard]
  rfl

/-- A program that fits is heard of as the session is that runs its machine. -/
theorem heard_of_program (h : Loading.program options.path reading = .ok program)
    (hfits : program.length ≤ 256) (fuel : Nat) :
    (runProgram streams fuel options filter reading).map heard =
      ((Session.start (loaded program) (informedConsole streams options filter program)).run
        fuel).map heardOf := by
  have hheard : heard ∘ (fun ending => report ending.1 (complaintOf ending.2)) = heardOf :=
    funext fun ending => heard_report ending.1 ending.2
  simp only [runProgram, load_of_program h hfits, Option.map_map, hheard]

/-- What is heard of a program does not depend on what is shown of it, as long as nothing is
refused that is to be shown. -/
theorem heard_alike {other : Streams} {varied : Options String} {filterOther : Log.Filter}
    (hout : other.out = streams.out) (hpath : varied.path = options.path)
    (hquiet : options.tracing = false ∨ (Sink.empty streams.err).Tireless)
    (hquietOther : varied.tracing = false ∨ (Sink.empty other.err).Tireless) (fuel : Nat) :
    (runProgram other fuel varied filterOther reading).map heard =
      (runProgram streams fuel options filter reading).map heard := by
  cases h : Loading.program options.path reading with
  | error error => rw [heard_of_error fuel h, heard_of_error fuel (hpath ▸ h)]
  | ok program =>
    have hother : Loading.program varied.path reading = .ok program := hpath ▸ h
    by_cases hfits : program.length ≤ 256
    · obtain ⟨hsink, -, -, -⟩ := informedConsole_keeps streams options filter program
      obtain ⟨hsinkOther, -, -, -⟩ := informedConsole_keeps other varied filterOther program
      have halike : Session.Alike
          (Session.start (loaded program) (informedConsole other varied filterOther program))
          (Session.start (loaded program) (informedConsole streams options filter program)) :=
        ⟨rfl, by rw [Session.start, Session.start, hsink, hsinkOther, hout], rfl,
          informedConsole_quiet hquietOther, informedConsole_quiet hquiet⟩
      -- what is heard of the end of a run is a part of its outcome
      have hpart : heardOf = (fun told : Machine × Sink × Nat × Session.Result =>
          (codeOf told.2.2.2, told.2.1.held)) ∘ Session.outcome := rfl
      rw [heard_of_program h hfits, heard_of_program hother hfits, hpart, ← Option.map_map,
        ← Option.map_map, halike.run fuel]
    · rw [heard_of_oversized fuel h (by omega), heard_of_oversized fuel hother (by omega)]

/-! ## What the error output holds -/

/-- What is said behind everything else, if a run was interrupted. -/
def complaint : Session.Result → List Entry
  | .ok _ => []
  | .error cause => [.diagnostic cause.message]

/-- The report of a command that has not got to run anything. -/
def unloaded (filter : Log.Filter) (code : UInt32) (before : List Entry) (error : LoadError) :
    Report :=
  ⟨code, #[], (written filter 0 (before ++ [.diagnostic error.message])).toArray⟩

/-- The report of a command that has run a program. -/
def ran (filter : Log.Filter) (result : Session.Result) (prints : List UInt8)
    (told : List Entry) : Report :=
  ⟨codeOf result, prints.toArray, (written filter 0 (told ++ complaint result)).toArray⟩

/-- An empty sink holds the entries it has noted. -/
theorem held_noting_empty (policy : Sink.Policy) (filter : Log.Filter) (entries : List Entry) :
    ((Sink.empty policy).noting filter entries).held = (written filter 0 entries).toArray := by
  apply Array.ext'
  rw [Sink.toList_held_noting]
  rfl

/-- A diagnostic is noted behind everything else. -/
theorem report_failed {session : Session} (h : session.console.err.Tireless)
    (filter : Log.Filter) (code : UInt32) (message : String) :
    report session (some (code, message)) = ⟨code, session.console.out.held,
      (session.console.err.noting filter [.diagnostic message]).held⟩ := by
  rw [report, ← h.write_entry filter (.diagnostic message)]
  rfl

/-- On an error stream that takes everything, the report is the exit code, the output, and the
complaint behind what was noted during the run. -/
theorem report_ended {ended : Session} (h : ended.console.err.Tireless) (filter : Log.Filter)
    (result : Session.Result) :
    report ended (complaintOf result) = ⟨codeOf result, ended.console.out.held,
      (ended.console.err.noting filter (complaint result)).held⟩ := by
  cases result with
  | ok steps =>
    rw [complaint, Sink.noting_nil]
    rfl
  | error cause => exact report_failed h filter failure cause.message

/-- What a run of the machine into a fresh console prints is there at its end. -/
theorem run_loaded {console : Console} (hfresh : console.Fresh) {count : Nat}
    {result : Session.Result} (hends : (loaded program).Ends count result) :
    ∃ ended : Session, ended.console.out.held = ((loaded program).prints count).toArray ∧
      ∀ fuel, (Session.start (loaded program) console).run fuel =
        if count < fuel then some (ended, result) else none := by
  obtain ⟨ended, -, hheld, hrun⟩ := Session.run_of_ends hfresh.quiet hfresh.unlimited hends
  have hpending : ((loaded program).after (count + 1)).cpu.pending =
      (loaded program).prints count := by
    rw [Machine.pending_after, Machine.prints_succ,
      Machine.output_of_not_running hends.not_running, List.append_nil]
    rfl
  refine ⟨ended, ?_, hrun⟩
  apply Array.ext'
  rw [hheld, hfresh.empty, hpending]
  rfl

/-- A program that could not be read is reported whatever the fuel, and nothing runs. -/
theorem runProgram_of_error (hstreams : streams.Unlimited) {error : LoadError} (fuel : Nat)
    (h : Loading.program options.path reading = .error error) :
    runProgram streams fuel options filter reading =
      some (unloaded filter (loadCode error) [] error) := by
  have hreport := @report_failed (Session.start (Machine.start Memory.ram)
    (console streams options.tracing filter)) hstreams.err filter (loadCode error) error.message
  simp only [runProgram, load_of_error h, hreport]
  rw [Session.start, console, held_noting_empty]
  rfl

/-- A program that does not fit is reported whatever the fuel, behind the record that it was
read. -/
theorem runProgram_of_oversized (hstreams : streams.Unlimited) (fuel : Nat)
    (h : Loading.program options.path reading = .ok program) (hlarge : 256 < program.length) :
    runProgram streams fuel options filter reading =
      some (unloaded filter failure (filter.kept (readRecord options.path program))
        (.tooLarge program.length 256)) := by
  obtain ⟨hout, -, -, hpolicy⟩ := informedConsole_keeps streams options filter program
  have hreport := @report_failed (Session.start (Machine.start Memory.ram)
    (informedConsole streams options filter program)) (hstreams.err.of_policy hpolicy) filter
    (loadCode (.tooLarge program.length 256)) (LoadError.tooLarge program.length 256).message
  simp only [runProgram, load_of_oversized h hlarge, hreport]
  rw [Session.start, hout, err_informedConsole hstreams.err, ← Sink.noting_append,
    held_noting_empty]
  rfl

/-- A program that fits is run as its machine runs by itself. -/
theorem runProgram_of_runsFor (hstreams : streams.Unlimited)
    (h : Loading.program options.path reading = .ok program) (hfits : program.length ≤ 256)
    {fuel : Nat} (hrun : (loaded program).RunsFor fuel) :
    runProgram streams fuel options filter reading = none := by
  have hfresh : (informedConsole streams options filter program).Fresh :=
    informedConsole_fresh hstreams
  have hnone := Session.run_of_runsFor hfresh.quiet hfresh.unlimited hrun
  simp only [runProgram, load_of_program h hfits, hnone]
  rfl

/-- A program whose cycles end is reported as soon as the fuel reaches their end, and not
before. -/
theorem runProgram_of_ends (hstreams : streams.Unlimited)
    (h : Loading.program options.path reading = .ok program) (hfits : program.length ≤ 256)
    {count : Nat} {result : Session.Result} (hends : (loaded program).Ends count result)
    (fuel : Nat) :
    runProgram streams fuel options filter reading =
      if count < fuel then
        some (ran filter result ((loaded program).prints count)
          (filter.kept (readRecord options.path program) ++
            (loaded program).account options.tracing filter (count + 1) ++
            Session.ending filter result))
      else none := by
  obtain ⟨-, htracing, hfilter, hpolicy⟩ := informedConsole_keeps streams options filter program
  have htireless := hstreams.err.of_policy hpolicy
  have herr := err_informedConsole hstreams.err options filter program
  have hfresh : (informedConsole streams options filter program).Fresh :=
    informedConsole_fresh hstreams
  obtain ⟨ended, hprints, hrun⟩ := run_loaded hfresh hends
  have htold : ended.console.err = (Sink.empty streams.err).noting filter
      (filter.kept (readRecord options.path program) ++
        (loaded program).account options.tracing filter (count + 1) ++
        Session.ending filter result) := by
    have hlast := hrun (count + 1)
    rw [if_pos (by omega)] at hlast
    obtain ⟨made, hlt, hsome, hnoted⟩ := Session.noted_of_run htireless hlast
    -- the run ends with no cycle before its last one
    obtain rfl : made = count := by
      rw [hrun] at hsome
      split at hsome
      · omega
      · cases hsome
    rw [hnoted, herr, htracing, hfilter, ← Sink.noting_append, List.append_assoc]
  have hended : ended.console.err.Tireless := by
    rw [htold]
    exact hstreams.err
  have hreport := report_ended hended filter result
  rw [htold, ← Sink.noting_append, held_noting_empty, hprints] at hreport
  simp only [runProgram, load_of_program h hfits, hrun fuel]
  split
  · exact congrArg some hreport
  · rfl

/-- Streams that refuse nothing are heard like any fresh console. -/
theorem heard_of_fresh (hstreams : streams.Unlimited)
    (h : Loading.program options.path reading = .ok program) (hfits : program.length ≤ 256)
    {console : Console} (hfresh : console.Fresh) (fuel : Nat) :
    (runProgram streams fuel options filter reading).map heard =
      ((Session.start (loaded program) console).run fuel).map heardOf := by
  obtain hrun | ⟨count, hlt, result, hends⟩ := (loaded program).ends_cases fuel
  · rw [runProgram_of_runsFor hstreams h hfits hrun,
      Session.run_of_runsFor hfresh.quiet hfresh.unlimited hrun]
    rfl
  · obtain ⟨ended, hprints, hrun⟩ := run_loaded hfresh hends
    rw [runProgram_of_ends hstreams h hfits hends, hrun, if_pos hlt, if_pos hlt]
    simp [heard, heardOf, ran, hprints]

/-! ## How a command ends -/

/-- The trace lines of the first `count` cycles of a program, if there are to be any. -/
def traced (tracing : Bool) (program : List UInt8) (count : Nat) : List UInt8 :=
  if tracing then (loaded program).transcript count else []

/-- The report of a command that could not load a program. -/
def complained (code : UInt32) (error : LoadError) : Report :=
  ⟨code, #[], (utf8 (error.message ++ "\n")).toArray⟩

/-- How a command ends that is to run a program, while no log is asked for. There may be no file,
or one that cannot be read, is not a text, or whose text is not a program. The program may not fit.
The machine may halt, and it may meet a fault. -/
inductive Concludes (options : Options String) : Reading → Report → Prop
  | absent : Concludes options .absent (complained missing (.notFound options.path))
  | refused (reason : String) :
    Concludes options (.refused reason) (complained failure (.unreadable options.path reason))
  | garbled {bytes : List UInt8} (invalid : ∀ text, utf8 text ≠ bytes) :
    Concludes options (.content bytes)
      (complained failure (.unreadable options.path "stream did not contain valid UTF-8"))
  | malformed {text : String} {cause : Source.BadLine} (parsed : Source.parse text = .error cause) :
    Concludes options (.content (utf8 text)) (complained failure (.badLine cause))
  | oversized {text : String} {program : List UInt8} (parsed : Source.parse text = .ok program)
      (large : 256 < program.length) :
    Concludes options (.content (utf8 text)) (complained failure (.tooLarge program.length 256))
  | halted {text : String} {program : List UInt8} {count : Nat}
      (parsed : Source.parse text = .ok program) (fits : program.length ≤ 256)
      (running : (loaded program).RunsFor count)
      (last : ((loaded program).after count).cycle.1 = .halted) :
    Concludes options (.content (utf8 text)) ⟨success, ((loaded program).prints count).toArray,
      (traced options.tracing program (count + 1)).toArray⟩
  | faulted {text : String} {program : List UInt8} {count : Nat} {fault : Fault}
      (parsed : Source.parse text = .ok program) (fits : program.length ≤ 256)
      (running : (loaded program).RunsFor count)
      (last : ((loaded program).after count).cycle.1 = .faulted fault) :
    Concludes options (.content (utf8 text)) ⟨failure, ((loaded program).prints count).toArray,
      (traced options.tracing program (count + 1) ++ utf8 (fault.message ++ "\n")).toArray⟩

/-- Without a log, what stands before a diagnostic is nothing but trace lines. -/
theorem unloaded_of_nil (filter : Log.Filter) (code : UInt32) (error : LoadError) :
    unloaded filter code [] error = complained code error := by
  rw [unloaded, List.nil_append, written_singleton]
  rfl

/-- What is written of the cycles then. -/
theorem written_account_of_tracing (hterse : Log.Terse filter.admits) (tracing : Bool)
    (program : List UInt8) (count : Nat) :
    written filter 0 ((loaded program).account tracing filter count) =
      traced tracing program count := by
  cases tracing with
  | true => exact (loaded program).written_account_of_terse hterse 0 count
  | false =>
    have htold : ∀ i, ((loaded program).after i).told false filter = [] :=
      fun i => ((loaded program).after i).told_of_terse false hterse
    have haccount : (loaded program).account false filter count = [] :=
      List.flatMap_eq_nil_iff.mpr fun i _ => htold i
    rw [haccount]
    rfl

/-- If nothing but errors is told of, the report of a run shows the trace lines and the line
about the fault, and no record. -/
theorem ran_of_terse (hterse : Log.Terse filter.admits) (options : Options String)
    (program : List UInt8) (count : Nat) (result : Session.Result) (prints : List UInt8) :
    ran filter result prints (filter.kept (readRecord options.path program) ++
        (loaded program).account options.tracing filter (count + 1) ++
        Session.ending filter result) =
      ⟨codeOf result, prints.toArray, (traced options.tracing program (count + 1) ++
        match result with
        | .ok _ => []
        | .error cause => utf8 (cause.message ++ "\n")).toArray⟩ := by
  rw [ran, hterse.kept_eq_nil (.inl rfl), Session.ending_of_terse hterse, List.nil_append,
    List.append_nil, written_append, written_account_of_tracing hterse]
  cases result with
  | ok steps => rfl
  | error cause =>
    rw [complaint, written_singleton]
    rfl

/-- A reading that gives no program ends the command as listed. -/
theorem concludes_of_error {error : LoadError}
    (h : Loading.program options.path reading = .error error) :
    Concludes options reading (complained (loadCode error) error) := by
  unfold Loading.program at h
  split at h
  · cases h
    exact .absent
  · cases h
    exact .refused _
  · split at h
    · next text htext =>
      obtain rfl := utf8Text?_eq_some_iff.mp htext
      unfold Loading.programOf at h
      split at h
      · cases h
      · next cause hparse =>
        cases h
        exact .malformed hparse
    · next htext =>
      cases h
      apply Concludes.garbled
      intro text hbytes
      rw [utf8Text?_eq_some_iff.mpr hbytes] at htext
      cases htext

/-- What a command reports is listed. -/
theorem concludes_of_runProgram (hstreams : streams.Unlimited) (hterse : Log.Terse filter.admits)
    {fuel : Nat} {report : Report}
    (h : runProgram streams fuel options filter reading = some report) :
    Concludes options reading report := by
  cases hprogram : Loading.program options.path reading with
  | error error =>
    rw [runProgram_of_error hstreams fuel hprogram, unloaded_of_nil] at h
    cases h
    exact concludes_of_error hprogram
  | ok program =>
    obtain ⟨text, rfl, hparse⟩ := Loading.program_eq_ok_iff.mp hprogram
    by_cases hfits : program.length ≤ 256
    · obtain hrun | ⟨count, hlt, result, hends⟩ := (loaded program).ends_cases fuel
      · rw [runProgram_of_runsFor hstreams hprogram hfits hrun] at h
        cases h
      · rw [runProgram_of_ends hstreams hprogram hfits hends, if_pos hlt,
          ran_of_terse hterse] at h
        cases h
        cases result with
        | ok steps =>
          obtain ⟨-, hrun, hlast⟩ := (Machine.ends_ok_iff _ _ _).mp hends
          rw [List.append_nil]
          exact .halted hparse hfits hrun hlast
        | error cause =>
          obtain ⟨fault, rfl, hrun, hlast⟩ := (Machine.ends_error_iff _ _ _).mp hends
          exact .faulted hparse hfits hrun hlast
    · rw [runProgram_of_oversized hstreams fuel hprogram (by omega), hterse.kept_eq_nil (.inl rfl),
        unloaded_of_nil] at h
      cases h
      exact .oversized hparse (by omega)

/-- What is listed is reported by every command that may make enough cycles. -/
theorem Concludes.reported {report : Report} (h : Concludes options reading report)
    (hstreams : streams.Unlimited) (hterse : Log.Terse filter.admits) :
    ∃ enough, ∀ fuel, runProgram streams fuel options filter reading =
      if enough ≤ fuel then some report else none := by
  have hread : ∀ {text program}, Source.parse text = .ok program →
      Loading.program options.path (.content (utf8 text)) = .ok program :=
    fun hparse => Loading.program_eq_ok_iff.mpr ⟨_, rfl, hparse⟩
  -- without a program the report does not depend on the fuel
  have hunloaded : ∀ {error}, Loading.program options.path reading = .error error →
      ∃ enough, ∀ fuel, runProgram streams fuel options filter reading =
        if enough ≤ fuel then some (complained (loadCode error) error) else none := by
    intro error herror
    refine ⟨0, fun fuel => ?_⟩
    rw [runProgram_of_error hstreams fuel herror, unloaded_of_nil, if_pos (Nat.zero_le fuel)]
  cases h with
  | absent => exact hunloaded rfl
  | refused reason => exact hunloaded rfl
  | @garbled bytes invalid =>
    have htext : utf8Text? bytes = none :=
      Option.eq_none_iff_forall_ne_some.mpr fun text htext =>
        invalid text (utf8Text?_eq_some_iff.mp htext)
    have herror : Loading.program options.path (.content bytes) =
        .error (.unreadable options.path "stream did not contain valid UTF-8") := by
      simp only [Loading.program, htext]
    exact hunloaded herror
  | @malformed text cause parsed =>
    have herror : Loading.program options.path (.content (utf8 text)) =
        .error (.badLine cause) := by
      simp [Loading.program, Loading.programOf, parsed]
    exact hunloaded herror
  | oversized parsed large =>
    refine ⟨0, fun fuel => ?_⟩
    rw [runProgram_of_oversized hstreams fuel (hread parsed) large, hterse.kept_eq_nil (.inl rfl),
      unloaded_of_nil, if_pos (Nat.zero_le fuel)]
  | @halted text program count parsed fits running last =>
    refine ⟨count + 1, fun fuel => ?_⟩
    have hends := (Machine.ends_ok_iff _ _ _).mpr ⟨rfl, running, last⟩
    rw [runProgram_of_ends hstreams (hread parsed) fits hends, ran_of_terse hterse,
      List.append_nil]
    rfl
  | @faulted text program count fault parsed fits running last =>
    refine ⟨count + 1, fun fuel => ?_⟩
    have hends := (Machine.ends_error_iff _ _ _).mpr ⟨fault, rfl, running, last⟩
    rw [runProgram_of_ends hstreams (hread parsed) fits hends, ran_of_terse hterse]
    rfl

/-! ## Exit codes -/

/-- What a reading has to be for the machine to halt after so many cycles. -/
def Halts (reading : Reading) (program : List UInt8) (count : Nat) : Prop :=
  (∃ text, reading = .content (utf8 text) ∧ Source.parse text = .ok program) ∧
    program.length ≤ 256 ∧ (loaded program).RunsFor count ∧
    ((loaded program).after count).cycle.1 = .halted

/-- What a reading has to be for the command to fail without a missing file. -/
def Fails (reading : Reading) : Prop :=
  (∃ reason, reading = .refused reason) ∨
  ∃ bytes, reading = .content bytes ∧ ((∀ text, utf8 text ≠ bytes) ∨
    ∃ text, utf8 text = bytes ∧ ((∃ cause, Source.parse text = .error cause) ∨
      ∃ program, Source.parse text = .ok program ∧ (256 < program.length ∨
        ∃ count fault, (loaded program).RunsFor count ∧
          ((loaded program).after count).cycle.1 = .faulted fault)))

/-- The code for a missing file is given exactly if the file is absent. -/
theorem concludes_missing_iff :
    (∃ report, Concludes options reading report ∧ report.code = 2) ↔ reading = .absent := by
  constructor
  · rintro ⟨report, h, hcode⟩
    cases h <;> simp_all [complained, failure, success]
  · rintro rfl
    exact ⟨_, .absent, rfl⟩

/-- The code for a failure is given exactly if something failed other than finding the file. -/
theorem concludes_failure_iff :
    (∃ report, Concludes options reading report ∧ report.code = 1) ↔ Fails reading := by
  constructor
  · rintro ⟨report, h, hcode⟩
    cases h with
    | absent => cases hcode
    | refused reason => exact .inl ⟨reason, rfl⟩
    | garbled invalid => exact .inr ⟨_, rfl, .inl invalid⟩
    | malformed parsed => exact .inr ⟨_, rfl, .inr ⟨_, rfl, .inl ⟨_, parsed⟩⟩⟩
    | oversized parsed large => exact .inr ⟨_, rfl, .inr ⟨_, rfl, .inr ⟨_, parsed, .inl large⟩⟩⟩
    | halted => cases hcode
    | faulted parsed fits running last =>
      exact .inr ⟨_, rfl, .inr ⟨_, rfl, .inr ⟨_, parsed, .inr ⟨_, _, running, last⟩⟩⟩⟩
  · rintro (⟨reason, rfl⟩ | ⟨bytes, rfl, invalid | ⟨text, rfl, ⟨cause, parsed⟩ |
      ⟨program, parsed, hfails⟩⟩⟩)
    · exact ⟨_, .refused reason, rfl⟩
    · exact ⟨_, .garbled invalid, rfl⟩
    · exact ⟨_, .malformed parsed, rfl⟩
    · by_cases fits : program.length ≤ 256
      · obtain large | ⟨count, fault, running, last⟩ := hfails
        · omega
        · exact ⟨_, .faulted parsed fits running last, rfl⟩
      · exact ⟨_, .oversized parsed (by omega), rfl⟩

/-- The code for success is given exactly if a program was read and halts. -/
theorem concludes_success_iff :
    (∃ report, Concludes options reading report ∧ report.code = 0) ↔
      ∃ program count, Halts reading program count := by
  constructor
  · rintro ⟨report, h, hcode⟩
    cases h with
    | halted parsed fits running last => exact ⟨_, _, ⟨_, rfl, parsed⟩, fits, running, last⟩
    | _ => cases hcode
  · rintro ⟨program, count, ⟨text, rfl, parsed⟩, fits, running, last⟩
    exact ⟨_, .halted parsed fits running last, rfl⟩

/-! ## Streams that refuse -/

/-- A load error has the code of a missing file exactly if the file is missing. -/
theorem loadCode_eq_iff {error : LoadError}
    (h : Loading.program options.path reading = .error error) :
    loadCode error = 2 ↔ reading = .absent := by
  have hlisted : Concludes options reading (complained (loadCode error) error) :=
    concludes_of_error h
  constructor
  · intro hcode
    exact concludes_missing_iff.mp ⟨_, hlisted, hcode⟩
  · rintro rfl
    cases h
    rfl

/-- Whatever is refused, the code says that the file is missing exactly if it is, and it says
nothing else but success or failure. -/
theorem code_of_runProgram {fuel : Nat} {report : Report}
    (h : runProgram streams fuel options filter reading = some report) :
    (report.code = 2 ↔ reading = .absent) ∧
      (report.code = 0 ∨ report.code = 1 ∨ report.code = 2) := by
  have hheard := congrArg (Option.map heard) h
  cases hprogram : Loading.program options.path reading with
  | error error =>
    rw [heard_of_error fuel hprogram] at hheard
    have hcode : loadCode error = report.code := congrArg Prod.fst (Option.some.inj hheard)
    rw [← hcode]
    refine ⟨loadCode_eq_iff hprogram, ?_⟩
    cases error with
    | notFound path => exact .inr (.inr rfl)
    | _ => exact .inr (.inl rfl)
  | ok program =>
    obtain ⟨text, rfl, -⟩ := Loading.program_eq_ok_iff.mp hprogram
    have hpresent : Reading.content (utf8 text) ≠ .absent := fun heq => by cases heq
    have hcode : report.code = success ∨ report.code = failure := by
      by_cases hfits : program.length ≤ 256
      · rw [heard_of_program hprogram hfits] at hheard
        obtain ⟨⟨ended, result⟩, -, hended⟩ := Option.map_eq_some_iff.mp hheard
        have hsame : codeOf result = report.code := congrArg Prod.fst hended
        rw [← hsame]
        cases result with
        | ok steps => exact .inl rfl
        | error cause => exact .inr rfl
      · rw [heard_of_oversized fuel hprogram (by omega)] at hheard
        exact .inr (congrArg Prod.fst (Option.some.inj hheard)).symm
    obtain hcode | hcode := hcode
    · rw [hcode]
      exact ⟨iff_of_false (by decide) hpresent, .inl rfl⟩
    · rw [hcode]
      exact ⟨iff_of_false (by decide) hpresent, .inr (.inl rfl)⟩

/-- A run that ends with a number has come to a halt, and a quiet console has been given all that
was printed. -/
theorem halts_of_run {console : Console} {fuel steps : Nat} {ended : Session}
    (h : (Session.start (loaded program) console).run fuel = some (ended, .ok steps)) :
    ∃ count, (loaded program).RunsFor count ∧
      ((loaded program).after count).cycle.1 = .halted ∧
      (console.Quiet → ended.console.out.held.toList =
        console.out.held.toList ++ (loaded program).prints count) := by
  obtain ⟨count, -, hnone, hanswer⟩ := Session.cycle_of_run h
  obtain ⟨hrunning, hstate⟩ := Session.runsFor_of_no_answer hnone
  have hsignal := (Session.halt_of_advance (congrArg Prod.snd hanswer)).1
  rw [hstate, (loaded program).cycle_delivered] at hsignal
  have hhalted : ((loaded program).after count).cycle.1 = .halted := hsignal
  refine ⟨count, hrunning, hhalted, fun hquiet => ?_⟩
  have hmidway := Session.midway_of_no_answer hquiet hnone
  cases hverdict : (loaded program).verdict console.out count with
  | some refusal =>
    have hrefused := (hmidway.refused hverdict).1
    rw [hanswer] at hrefused
    cases hrefused
  | none =>
    have hresult : Session.resultOf count ((loaded program).after count).cycle.1 =
        some (.ok count) := by
      rw [hhalted]
      rfl
    obtain ⟨-, -, hout⟩ := hmidway.ends hverdict hresult
    have hpending : (loaded program).cpu.pending = [] := rfl
    have hstopped : ((loaded program).after count).cycle.1 ≠ .running := by simp [hhalted]
    rw [hanswer] at hout
    rw [hout, Machine.sent_eq_prints hpending, Machine.prints_succ,
      Machine.output_of_not_running hstopped, List.append_nil]
    simp [Sink.flush, Sink.received]

/-- Whatever is refused, a command that succeeds has run its program to a halt. -/
theorem success_of_runProgram {fuel : Nat} {report : Report}
    (h : runProgram streams fuel options filter reading = some report) (hcode : report.code = 0) :
    ∃ program count, Halts reading program count ∧
      ((options.tracing = false ∨ (Sink.empty streams.err).Tireless) →
        report.out = ((loaded program).prints count).toArray) := by
  have hheard := congrArg (Option.map heard) h
  cases hprogram : Loading.program options.path reading with
  | error error =>
    rw [heard_of_error fuel hprogram] at hheard
    have hsame : loadCode error = report.code := congrArg Prod.fst (Option.some.inj hheard)
    rw [hcode] at hsame
    cases error <;> cases hsame
  | ok program =>
    obtain ⟨text, rfl, hparse⟩ := Loading.program_eq_ok_iff.mp hprogram
    by_cases hfits : program.length ≤ 256
    · rw [heard_of_program hprogram hfits] at hheard
      obtain ⟨⟨ended, result⟩, hrun, hended⟩ := Option.map_eq_some_iff.mp hheard
      have hsame : codeOf result = report.code := congrArg Prod.fst hended
      cases result with
      | error cause =>
        rw [hcode] at hsame
        cases hsame
      | ok steps =>
        obtain ⟨count, hrunning, hhalted, hprints⟩ := halts_of_run hrun
        refine ⟨program, count, ⟨⟨text, rfl, hparse⟩, hfits, hrunning, hhalted⟩, ?_⟩
        intro hquiet
        have hout : ended.console.out.held = report.out := congrArg Prod.snd hended
        obtain ⟨hsink, -, -, -⟩ := informedConsole_keeps streams options filter program
        apply Array.ext'
        rw [← hout, hprints (informedConsole_quiet hquiet), hsink]
        rfl
    · rw [heard_of_oversized fuel hprogram (by omega)] at hheard
      have hsame : failure = report.code := congrArg Prod.fst (Option.some.inj hheard)
      rw [hcode] at hsame
      cases hsame

/-- Where no log is asked for, the console is as it was at first. -/
theorem informedConsole_of_terse (hterse : Log.Terse filter.admits) (streams : Streams)
    (options : Options String) (program : List UInt8) :
    informedConsole streams options filter program = console streams options.tracing filter := by
  have hkept : (console streams options.tracing filter).filter.admits
      (readRecord options.path program) = false := hterse _ (.inl rfl)
  simp [informedConsole, Console.log, hkept]

/-! ## The command -/

section

variable {Argument Path : Type} {libraries : Libraries Argument Path} {arguments : List Argument}
  {asked : Options Path} {logging : Option String}

/-- A command that has been told which program to run runs it. -/
theorem run_of_parse (harguments : libraries.parse arguments = .run asked) (streams : Streams)
    (fuel : Nat) (read : Path → Reading) (logging : Option String) :
    run libraries streams fuel read arguments logging =
      runProgram streams fuel (shown libraries asked) (Command.filter libraries logging)
        (read asked.path) := by
  simp only [run, harguments]

/-- If the environment asks for no records, the filter is as terse as a directive for warnings. -/
theorem terse_filter (henvironment : libraries.environment? logging = none)
    (hwarnings : Log.Terse (libraries.directive "warn")) :
    Log.Terse (Command.filter libraries logging).admits := by
  rw [Command.filter, henvironment]
  exact hwarnings

/-- What is reported by a command that has been told which program to run, while no log is asked
for. If its streams refuse nothing, it reports what is listed, as soon as it may make enough
cycles, and nothing else. Its exit code is 2 if there is no file, 1 if the file cannot be read, is
no text, is no program, has more than 256 bytes, or if the machine meets a fault, and 0 if the
machine halts. Its exit code and output are those of the machine run into any fresh console.

Whatever the streams refuse, the exit code is 2 exactly if there is no file, and 0 only if the
machine has halted and the output has taken everything. What is heard of the command is what is
heard of the session that runs the machine with these streams. Tracing does not change it, as long
as the trace lines are not refused. -/
theorem report_of_command (harguments : libraries.parse arguments = .run asked)
    (henvironment : libraries.environment? logging = none)
    (hwarnings : Log.Terse (libraries.directive "warn")) (read : Path → Reading) :
    (∀ streams : Streams, streams.Unlimited →
      (∀ report, (∃ fuel, run libraries streams fuel read arguments logging = some report) ↔
        Concludes (shown libraries asked) (read asked.path) report) ∧
      (∀ report, Concludes (shown libraries asked) (read asked.path) report →
        ∃ enough, ∀ fuel, run libraries streams fuel read arguments logging =
          if enough ≤ fuel then some report else none) ∧
      ((∃ fuel report, run libraries streams fuel read arguments logging = some report ∧
        report.code = 2) ↔ read asked.path = .absent) ∧
      ((∃ fuel report, run libraries streams fuel read arguments logging = some report ∧
        report.code = 1) ↔ Fails (read asked.path)) ∧
      ((∃ fuel report, run libraries streams fuel read arguments logging = some report ∧
        report.code = 0) ↔ ∃ program count, Halts (read asked.path) program count) ∧
      ∀ text program console fuel, read asked.path = .content (utf8 text) →
        Source.parse text = .ok program → program.length ≤ 256 → Console.Fresh console →
        (run libraries streams fuel read arguments logging).map heard =
          ((Session.start (loaded program) console).run fuel).map heardOf) ∧
    (∀ streams fuel report, run libraries streams fuel read arguments logging = some report →
      (report.code = 2 ↔ read asked.path = .absent) ∧
      (report.code = 0 ∨ report.code = 1 ∨ report.code = 2) ∧
      (report.code = 0 → ∃ program count, Halts (read asked.path) program count ∧
        (asked.tracing = false ∨ (Sink.empty streams.err).Tireless →
          report.out = ((loaded program).prints count).toArray))) ∧
    (∀ streams fuel text program, read asked.path = .content (utf8 text) →
      Source.parse text = .ok program → program.length ≤ 256 →
      (run libraries streams fuel read arguments logging).map heard =
        ((Session.start (loaded program)
          (console streams asked.tracing (Command.filter libraries logging))).run fuel).map
            heardOf) ∧
    ∀ others tracing, libraries.parse others = .run ⟨asked.path, tracing⟩ →
      ∀ streams other : Streams, other.out = streams.out →
        (asked.tracing = false ∨ (Sink.empty streams.err).Tireless) →
        (tracing = false ∨ (Sink.empty other.err).Tireless) →
        ∀ fuel, (run libraries other fuel read others logging).map heard =
          (run libraries streams fuel read arguments logging).map heard := by
  have hrun := fun streams fuel => run_of_parse harguments streams fuel read logging
  have hterse := terse_filter henvironment hwarnings
  refine ⟨?_, ?_, ?_, ?_⟩
  · intro streams hstreams
    have hreports : ∀ report, (∃ fuel, run libraries streams fuel read arguments logging =
        some report) ↔ Concludes (shown libraries asked) (read asked.path) report := by
      intro report
      simp only [hrun]
      constructor
      · rintro ⟨fuel, h⟩
        exact concludes_of_runProgram hstreams hterse h
      · intro h
        obtain ⟨enough, hreported⟩ := h.reported hstreams hterse
        exact ⟨enough, by rw [hreported, if_pos (Nat.le_refl enough)]⟩
    -- an exit code is that of a report that is listed
    have hcodes : ∀ code, (∃ fuel report, run libraries streams fuel read arguments logging =
        some report ∧ report.code = code) ↔ ∃ report,
          Concludes (shown libraries asked) (read asked.path) report ∧ report.code = code := by
      intro code
      simp only [← hreports]
      constructor
      · rintro ⟨fuel, report, h, hcode⟩
        exact ⟨report, ⟨fuel, h⟩, hcode⟩
      · rintro ⟨report, ⟨fuel, h⟩, hcode⟩
        exact ⟨fuel, report, h, hcode⟩
    refine ⟨hreports, ?_, ?_, ?_, ?_, ?_⟩
    · intro report h
      simp only [hrun]
      exact h.reported hstreams hterse
    · rw [hcodes, concludes_missing_iff]
    · rw [hcodes, concludes_failure_iff]
    · rw [hcodes, concludes_success_iff]
    · intro text program console fuel hread hparse hfits hfresh
      have hprogram : Loading.program (shown libraries asked).path (read asked.path) =
          .ok program := Loading.program_eq_ok_iff.mpr ⟨text, hread, hparse⟩
      rw [hrun]
      exact heard_of_fresh hstreams hprogram hfits hfresh fuel
  · intro streams fuel report h
    rw [hrun] at h
    obtain ⟨hmissing, hcodes⟩ := code_of_runProgram h
    exact ⟨hmissing, hcodes, success_of_runProgram h⟩
  · intro streams fuel text program hread hparse hfits
    have hprogram : Loading.program (shown libraries asked).path (read asked.path) =
        .ok program := Loading.program_eq_ok_iff.mpr ⟨text, hread, hparse⟩
    rw [hrun, heard_of_program hprogram hfits, informedConsole_of_terse hterse]
    rfl
  · intro others tracing hothers streams other hout hquiet hquietOther fuel
    rw [hrun, run_of_parse hothers]
    refine heard_alike hout ?_ hquiet ?_ fuel
    · rfl
    · exact hquietOther

end

/-- The records down to the level of debugging. -/
def downToDebug (record : Log.Record) : Bool :=
  record.level ≠ .trace

/-- Libraries as far as they are needed here: a path may stand behind the option for tracing, and
records are written with the time. -/
def fewWords : Libraries String String where
  parse := fun arguments =>
    match arguments with
    | [path] => .run ⟨path, false⟩
    | ["--trace", path] => .run ⟨path, true⟩
    | _ => .refuse "error: unexpected arguments\n"
  shown := id
  environment? := fun value => if value = some "debug" then some downToDebug else none
  directive := fun directive record =>
    directive = "warn" && (record.level = .error || record.level = .warn)
  text := fun before record =>
    "1970-01-01T00:00:0" ++ Numeral.decimal before ++ ".000000Z " ++ record.line

/-- A text of the program that prints a register and meets a byte that is no opcode. -/
def printsAndStops : String :=
  "01000111 # PRN R0\n00000000\n11111111\n"

/-- A text of the program that prints a register and halts. -/
def printsAndHalts : String :=
  "01000111 # PRN R0\n00000000\n00000001\n"

/-- A directory with a directory, an empty file, a file with a text that is no program and one
with a byte that is no text. -/
def folder : Volume where
  entries := [("d", .directory), ("f", .file []), ("t", .file [104, 105]), ("b", .file [255])]

/-- An output with no room. -/
def fullOutput : Streams where
  out := Sink.Policy.accepting.withByteLimit 0 "No space left on device (os error 28)"
  err := Sink.Policy.accepting

/-- A program that prints and stops is reported with its trace. What cannot be loaded is reported
in one line: a directory, a path through a file, a path to nothing, a text that is no program, a
byte that is no text. A program that halts has failed if its output has no room. -/
theorem report_of_printsAndStops :
    fewWords.parse ["--trace", "p"] = .run ⟨"p", true⟩ ∧ fewWords.environment? none = none ∧
    Log.Terse (fewWords.directive "warn") ∧ Streams.accepting.Unlimited ∧
    (∃ fuel, run fewWords .accepting fuel (fun _ => .content (utf8 printsAndStops))
      ["--trace", "p"] none = some ⟨1, #[48, 10], (
        "TRACE: 00 | 00 | 47 00 FF | 00 00 00 00 00 00 00 F4\n" ++
        "TRACE: 02 | 00 | FF 00 00 | 00 00 00 00 00 00 00 F4\n" ++
        "Instruction unknown 255\n").toUTF8.data⟩) ∧
    (∀ item ∈ [("@/d", 1, "@/d: Is a directory (os error 21)\n"),
        ("@/f/g", 1, "@/f/g: Not a directory (os error 20)\n"),
        ("@/g", 2, "@/g was not found.\n"),
        ("@/t", 1, "line 1: invalid byte literal `hi`\n"),
        ("@/b", 1, "@/b: stream did not contain valid UTF-8\n")],
      ∃ fuel, run fewWords .accepting fuel folder.read [item.1] none =
        some ⟨item.2.1, #[], item.2.2.toUTF8.data⟩) ∧
    (run fewWords fullOutput 2 (fun _ => .content (utf8 printsAndHalts)) ["p"] none).map heard =
      some (1, #[]) := by
  have hwarnings : Log.Terse (fewWords.directive "warn") := by
    rintro record (hlevel | hlevel)
    · simp [fewWords, hlevel]
    · simp [fewWords, hlevel]
  have hunasked : fewWords.environment? none = none := rfl
  have harguments : fewWords.parse ["--trace", "p"] = .run ⟨"p", true⟩ := rfl
  have hparse : Source.parse printsAndStops = .ok [0x47, 0, 0xFF] := by decide +kernel
  have hrun : (loaded [0x47, 0, 0xFF]).RunsFor 1 := by decide +kernel
  have hfaulted : ((loaded [0x47, 0, 0xFF]).after 1).cycle.1 =
      .faulted (.unknownInstruction 0xFF) := by
    decide +kernel
  obtain ⟨hstreams, -⟩ := report_of_command harguments hunasked hwarnings
    fun _ => .content (utf8 printsAndStops)
  obtain ⟨hreports, -⟩ := hstreams .accepting Streams.accepting_unlimited
  obtain ⟨fuel, hreport⟩ := (hreports _).mpr (.faulted hparse (by decide) hrun hfaulted)
  refine ⟨harguments, hunasked, hwarnings, Streams.accepting_unlimited,
    ⟨fuel, hreport.trans ?_⟩, ?_, ?_⟩
  · decide +kernel
  · -- each of these gives a load error, which is reported in one line
    have hfails : ∀ path error report, Loading.program path (folder.read path) = .error error →
        complained (loadCode error) error = report →
        ∃ fuel, run fewWords .accepting fuel folder.read [path] none = some report := by
      intro path error report herror heq
      have hpath : fewWords.parse [path] = .run ⟨path, false⟩ := rfl
      obtain ⟨hlisted, -⟩ := (report_of_command hpath hunasked hwarnings folder.read).1 .accepting
        Streams.accepting_unlimited
      rw [← heq]
      exact (hlisted _).mpr (concludes_of_error herror)
    simp only [List.forall_mem_cons, List.not_mem_nil, false_implies, implies_true, and_true]
    refine ⟨?_, ?_, ?_, ?_, ?_⟩
    · exact hfails "@/d" (.unreadable "@/d" "Is a directory (os error 21)") _ (by decide +kernel)
        (by decide +kernel)
    · exact hfails "@/f/g" (.unreadable "@/f/g" "Not a directory (os error 20)") _
        (by decide +kernel) (by decide +kernel)
    · exact hfails "@/g" (.notFound "@/g") _ (by decide +kernel) (by decide +kernel)
    · exact hfails "@/t" (.badLine ⟨1, "hi"⟩) _ (by decide +kernel) (by decide +kernel)
    · exact hfails "@/b" (.unreadable "@/b" "stream did not contain valid UTF-8") _
        (by decide +kernel) (by decide +kernel)
  · have hpath : fewWords.parse ["p"] = .run ⟨"p", false⟩ := rfl
    have hhalts : Source.parse printsAndHalts = .ok [0x47, 0, 0x01] := by decide +kernel
    obtain ⟨-, -, hheard, -⟩ := report_of_command hpath hunasked hwarnings
      fun _ => .content (utf8 printsAndHalts)
    rw [hheard fullOutput 2 printsAndHalts [0x47, 0, 0x01] rfl hhalts (by decide)]
    decide +kernel

end Command

end ByteMachine
