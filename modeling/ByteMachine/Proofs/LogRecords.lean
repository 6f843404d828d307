import ByteMachine.Proofs.CommandReport
import ByteMachine.Proofs.Outcome

/-!
# What the log tells of a run

A command whose log goes down to the level of debugging tells of every instruction. Which ones
are told of is seen from the signals of the cycles: those of the cycles that go on, and that of a
cycle stopped by a register that does not exist. A cycle that halts, or that finds no instruction
at the program counter, is told of by its trace line alone. So the records count the cycles, and
each of them can be read off the trace line before it.
-/

set_option autoImplicit false

namespace ByteMachine

open Entry

/-- Whether an entry is a record at the level of debugging. -/
def Entry.isDebug : Entry → Bool
  | .record logged => logged.level = .debug
  | .view _ => false
  | .diagnostic _ => false

/-- Everything is admitted that tells of a run as it should be. -/
def Log.Verbose (admits : Record → Bool) : Prop :=
  ∀ record, record.level = .info ∨ record.level = .debug → admits record = true

/-- A verbose filter keeps a record that tells of a run as it should be. -/
theorem Log.Verbose.kept_eq {filter : Log.Filter} (h : Verbose filter.admits) {record : Record}
    (hlevel : record.level = .info ∨ record.level = .debug) :
    filter.kept record = [.record record] := by
  rw [Filter.kept, if_pos (h record hlevel)]

/-- A text without control characters. -/
def Log.Visible (text : String) : Prop :=
  ∀ char ∈ text.toList, 32 ≤ char.toNat ∧ (char.toNat < 127 ∨ 160 ≤ char.toNat)

/-- A record in which nothing is to be escaped. -/
structure Log.Record.Visible (record : Record) : Prop where
  message : Log.Visible record.message
  fields : ∀ field ∈ record.fields, Log.Visible field.2

/-- The text of a record in which nothing is to be escaped is its line, with something in front
that is on the same line. -/
def Log.Legible (text : Nat → Record → String) : Prop :=
  ∀ before record, record.Visible →
    ∃ stamp : String, '\n' ∉ stamp.toList ∧ text before record = stamp ++ record.line

namespace Machine

/-! ## The instruction in a view -/

/-- A byte of the window, or a filler where there is no cell. -/
def Snapshot.byte (view : Snapshot) (filler : UInt8) (place : Fin 3) : UInt8 :=
  (view.window.get place).getD filler

/-- The disassembly of the bytes in the window. -/
def Snapshot.disassembly (view : Snapshot) (filler : UInt8) : String :=
  disassemble (view.byte filler 0) (view.byte filler 1) (view.byte filler 2)

/-- The record that tells of the instruction in the window. -/
def Snapshot.dispatch (view : Snapshot) : Log.Record where
  level := .debug
  target := Session.logTarget
  message := view.disassembly 0
  fields := [("pc", Numeral.decimal view.pc)]

/-- What is told of a cycle at the level of debugging. -/
def entries (machine : Machine) (tracing : Bool) : List Entry :=
  (if tracing then [.view machine.snapshot] else []) ++
    match machine.cycle.1 with
    | .running | .faulted (.invalidRegister _) => [.record machine.snapshot.dispatch]
    | _ => []

/-- What is told of the first `count` cycles at the level of debugging. -/
def log (machine : Machine) (tracing : Bool) (count : Nat) : List Entry :=
  (List.range count).flatMap fun i => (machine.after i).entries tracing

variable {machine : Machine} {tracing : Bool} {count : Nat} {filter : Log.Filter}

/-- The memory of 256 cells does not reach beyond the last address. -/
theorem size_le_addresses (hram : machine.memory.cells.size = 256) :
    machine.memory.cells.size ≤ Address.count := by
  rw [hram]
  decide

/-- An instruction is disassembled from the window that shows it, whatever is put in the places
behind it that have no cells. -/
theorem disassembly_of_fetch {instruction : Instruction}
    (hsize : machine.memory.cells.size ≤ Address.count) (h : machine.fetch = .ok instruction)
    (filler : UInt8) : machine.snapshot.disassembly filler = instruction.listing := by
  have hholds := fetch_eq_ok_iff.mp h
  have hwidth := width_of_fetch h
  rw [← Instruction.length_encode] at hwidth
  have hbyte : ∀ place : Fin 3, place.val < instruction.encode.length →
      instruction.encode[place.val]? = some (machine.snapshot.byte filler place) := by
    intro place hplace
    have hwindow : machine.snapshot.window.get place =
        machine.memory.peek? (machine.cpu.pc + place.val) := by
      have hshown := @window_snapshot machine (by omega) place.val place.isLt
      rw [Address.ahead_of_lt (by omega)] at hshown
      exact hshown
    rw [← hholds place hplace, Snapshot.byte, hwindow, hholds place hplace,
      List.getElem?_eq_getElem hplace, Option.getD_some]
  have hdecode : Instruction.decode (machine.snapshot.byte filler 0)
      (machine.snapshot.byte filler 1) (machine.snapshot.byte filler 2) = .ok instruction := by
    rw [Instruction.decode_eq_ok_iff]
    have hopcode := hbyte 0
    have hfirst := hbyte 1
    have hsecond := hbyte 2
    cases instruction <;> simp_all [Instruction.encode, Instruction.operands]
  rw [Snapshot.disassembly, disassemble, hdecode]

/-- The record of an instruction tells what the window shows. -/
theorem dispatchRecord?_of_fetch {instruction : Instruction}
    (hsize : machine.memory.cells.size ≤ Address.count) (h : machine.fetch = .ok instruction)
    (hhlt : instruction ≠ .hlt) :
    Session.dispatchRecord? machine = some machine.snapshot.dispatch := by
  rw [Snapshot.dispatch, disassembly_of_fetch hsize h]
  unfold Session.dispatchRecord?
  rw [h]
  cases instruction with
  | hlt => exact absurd rfl hhlt
  | _ => rfl

/-! ## The records of a cycle -/

/-- A cycle comes to carrying out an instruction if it goes on, or if a register that does not
exist is what stops it. -/
theorem dispatches_iff (hram : machine.memory.cells.size = 256) :
    (machine.cycle.1 = .running ∨ ∃ index, machine.cycle.1 = .faulted (.invalidRegister index)) ↔
      ∃ instruction, machine.fetch = .ok instruction ∧ instruction ≠ .hlt := by
  rcases machine.cycle_cases with ⟨instruction, hfetch, hhlt, -, hcycle⟩ | ⟨hfetch, hcycle⟩ |
    ⟨fault, hfetch, hcycle⟩ | ⟨instruction, fault, hfetch, hhlt, hobstacle, hcycle⟩
  · simp [hfetch, hhlt, hcycle]
  · simp [hfetch, hcycle]
  · obtain ⟨address, rfl⟩ | ⟨code, rfl⟩ := fetch_error_cases hfetch
    · simp [hfetch, hcycle]
    · simp [hfetch, hcycle]
  · obtain ⟨address, rfl⟩ | ⟨index, rfl⟩ := obstacle?_cases hobstacle
    · exact absurd hobstacle (obstacle?_ne_bus hram instruction address)
    · simp [hfetch, hhlt, hcycle]

/-- What a verbose filter leaves to tell of a cycle. -/
theorem told_of_verbose (hverbose : Log.Verbose filter.admits)
    (hram : machine.memory.cells.size = 256) (tracing : Bool) :
    machine.told tracing filter = machine.entries tracing := by
  have hkept : ∀ {instruction}, machine.fetch = .ok instruction → instruction ≠ .hlt →
      (Session.dispatchRecord? machine).elim [] filter.kept =
        [.record machine.snapshot.dispatch] := by
    intro instruction hfetch hhlt
    rw [dispatchRecord?_of_fetch (size_le_addresses hram) hfetch hhlt, Option.elim_some,
      hverbose.kept_eq (.inr rfl)]
  unfold told entries
  rcases machine.cycle_cases with ⟨instruction, hfetch, hhlt, -, hcycle⟩ | ⟨hfetch, hcycle⟩ |
    ⟨fault, hfetch, hcycle⟩ | ⟨instruction, fault, hfetch, hhlt, hobstacle, hcycle⟩
  · rw [hkept hfetch hhlt, hcycle]
  · simp [Session.dispatchRecord?, hfetch, hcycle]
  · obtain ⟨address, rfl⟩ | ⟨code, rfl⟩ := fetch_error_cases hfetch
    · simp [Session.dispatchRecord?, hfetch, hcycle]
    · simp [Session.dispatchRecord?, hfetch, hcycle]
  · obtain ⟨address, rfl⟩ | ⟨index, rfl⟩ := obstacle?_cases hobstacle
    · exact absurd hobstacle (obstacle?_ne_bus hram instruction address)
    · rw [hkept hfetch hhlt, hcycle]

/-- A filter that is verbose keeps all entries of a machine with 256 cells. -/
theorem account_of_verbose (hverbose : Log.Verbose filter.admits)
    (hram : machine.memory.cells.size = 256) (tracing : Bool) (count : Nat) :
    machine.account tracing filter count = machine.log tracing count := by
  have htold : ∀ i, (machine.after i).told tracing filter = (machine.after i).entries tracing := by
    intro i
    apply told_of_verbose hverbose
    rw [size_after, hram]
  simp only [account, log, htold]

/-! ## Counting the records -/

/-- A cycle that goes on makes one record, and so does one that meets a register that does not
exist. -/
theorem countP_entries (machine : Machine) (tracing : Bool) :
    (machine.entries tracing).countP isDebug =
      match machine.cycle.1 with
      | .running | .faulted (.invalidRegister _) => 1
      | _ => 0 := by
  have hview : (if tracing then [Entry.view machine.snapshot] else []).countP isDebug = 0 := by
    cases tracing <;> rfl
  unfold entries
  rw [List.countP_append, hview, Nat.zero_add]
  split <;> rfl

/-- One more cycle makes its entries behind those before it. -/
theorem log_succ (machine : Machine) (tracing : Bool) (count : Nat) :
    machine.log tracing (count + 1) =
      machine.log tracing count ++ (machine.after count).entries tracing := by
  simp [log, List.range_succ, List.flatMap_append]

/-- As long as the cycles go on, there is a record of each of them. -/
theorem countP_log (hrun : machine.RunsFor count) (tracing : Bool) :
    (machine.log tracing count).countP isDebug = count := by
  induction count with
  | zero => rfl
  | succ count ih =>
    obtain ⟨hfirst, hlast⟩ := (machine.runsFor_succ_iff count).mp hrun
    rw [log_succ, List.countP_append, ih hfirst, countP_entries, hlast]

end Machine

/-! ## Lines -/

/-- A decimal numeral is printable. -/
theorem Numeral.printable_decimal (n : Nat) : Printable (decimal n) := by
  have hdigits : ∀ digit < 10, 32 ≤ digit.digitChar.toNat ∧ digit.digitChar.toNat < 127 := by
    decide
  intro char hchar
  rw [decimal, String.toList_ofList] at hchar
  obtain ⟨digit, hlt, rfl⟩ := exists_digitChar (by omega) n hchar
  exact hdigits digit hlt

/-- The name of a register is printable. -/
theorem Instruction.printable_registerName (index : UInt8) : Printable (registerName index) :=
  .append (by decide) (Numeral.printable_decimal _)

/-- The listing of an instruction is printable. -/
theorem Instruction.printable_listing (instruction : Instruction) :
    Printable instruction.listing := by
  have hone : ∀ {mnemonic : String} (register : UInt8), Printable mnemonic →
      Printable (mnemonic ++ registerName register) :=
    fun register hmnemonic => hmnemonic.append (printable_registerName register)
  cases instruction with
  | hlt => decide
  | ldi register value =>
    exact ((hone register (by decide)).append (by decide)).append (Numeral.printable_decimal _)
  | mul first second | cmp first second =>
    exact hone second ((hone first (by decide)).append (by decide))
  | prn register | pra register | push register | pop register | jmp register | jeq register
  | jne register => exact hone register (by decide)

/-- There are no control characters in a printable text. -/
theorem Printable.visible {text : String} (h : Printable text) : Log.Visible text :=
  fun char hchar => ⟨(h char hchar).1, .inl (h char hchar).2⟩

/-- An instruction is listed on one line. -/
theorem Instruction.newline_notMem_listing (instruction : Instruction) :
    '\n' ∉ instruction.listing.toList :=
  fun hmem => absurd (instruction.printable_listing _ hmem).1 (by decide)

/-- The characters of a record's line: its level in five places, its message, its fields, and
a line feed. -/
theorem Log.Record.toList_line (record : Record) :
    record.line.toList = List.leftpad 5 ' ' record.level.name.toList ++ ' ' ::
      record.message.toList ++
        (record.fields.flatMap fun field => ' ' :: field.1.toList ++ '=' :: field.2.toList) ++
        ['\n'] := by
  have hfields : ∀ fields : List (String × String),
      (String.join (fields.map fun field => " " ++ field.1 ++ "=" ++ field.2)).toList =
        fields.flatMap fun field => ' ' :: field.1.toList ++ '=' :: field.2.toList := by
    intro fields
    induction fields with
    | nil => rfl
    | cons field fields ih => simp [String.join_cons, ih]
  rw [line, String.toList_append, String.toList_append, hfields]
  simp

/-- The line of an instruction has its disassembly and its address. -/
theorem Machine.Snapshot.line_dispatch (view : Snapshot) :
    view.dispatch.line =
      "DEBUG " ++ view.disassembly 0 ++ " pc=" ++ Numeral.decimal view.pc ++ "\n" := by
  apply String.toList_injective
  rw [Log.Record.toList_line]
  simp [dispatch, Log.Level.name]

/-- The line of a halt has the number of instructions carried out. -/
theorem Session.line_haltRecord (steps : Nat) :
    (haltRecord steps).line = " INFO halted steps=" ++ Numeral.decimal steps ++ "\n" := by
  apply String.toList_injective
  rw [Log.Record.toList_line]
  simp [haltRecord, Log.Level.name]

/-- The line of a program has the number of its bytes and its path. -/
theorem Command.line_readRecord (path : String) (program : List UInt8) :
    (readRecord path program).line =
      " INFO program read bytes=" ++ Numeral.decimal program.length ++ " path=" ++ path ++
        "\n" := by
  apply String.toList_injective
  rw [Log.Record.toList_line]
  simp [readRecord, Log.Level.name]

/-- The one field of a record, if it is a number, has nothing to be escaped. -/
theorem Log.Record.Visible.of_number {record : Record} {name : String} {n : Nat}
    (hmessage : Printable record.message)
    (hfields : record.fields = [(name, Numeral.decimal n)]) : record.Visible where
  message := hmessage.visible
  fields := by
    rw [hfields, List.forall_mem_singleton]
    exact (Numeral.printable_decimal n).visible

/-- The record of an instruction has nothing to be escaped. -/
theorem Machine.visible_dispatch {machine : Machine} {instruction : Instruction}
    (hram : machine.memory.cells.size = 256) (hfetch : machine.fetch = .ok instruction) :
    machine.snapshot.dispatch.Visible := by
  have hlisting := disassembly_of_fetch (size_le_addresses hram) hfetch 0
  have hmessage : Printable (machine.snapshot.disassembly 0) := by
    rw [hlisting]
    exact instruction.printable_listing
  exact .of_number hmessage rfl

/-- The record of a program has nothing to be escaped but its path. -/
theorem Command.visible_readRecord {path : String} (hpath : Log.Visible path)
    (program : List UInt8) : (readRecord path program).Visible where
  message := (by decide : Printable "program read").visible
  fields := by
    rw [readRecord, List.forall_mem_cons, List.forall_mem_singleton]
    exact ⟨(Numeral.printable_decimal program.length).visible, hpath⟩

namespace Command

variable {streams : Streams} {options : Options String} {filter : Log.Filter} {reading : Reading}
  {program : List UInt8} {count : Nat}

/-- The machine that is to run a program has 256 cells. -/
theorem size_loaded (hfits : program.length ≤ 256) : (loaded program).memory.cells.size = 256 :=
  Memory.size_beginning hfits

/-- What has been told of a program and the first `count` cycles of its machine. -/
def story (options : Options String) (program : List UInt8) (count : Nat) : List Entry :=
  .record (readRecord options.path program) :: (loaded program).log options.tracing count

/-- Where the machine ends, so does the command, and all has been told. -/
theorem err_of_ends (hstreams : streams.Unlimited) (hverbose : Log.Verbose filter.admits)
    (h : Loading.program options.path reading = .ok program) (hfits : program.length ≤ 256)
    {result : Session.Result} (hends : (loaded program).Ends count result) {fuel : Nat}
    {report : Report} (hreport : runProgram streams fuel options filter reading = some report) :
    count < fuel ∧ report.err.toList = written filter 0 (story options program (count + 1) ++
      (Session.ending filter result ++ complaint result)) := by
  rw [runProgram_of_ends hstreams h hfits hends, hverbose.kept_eq (.inl rfl),
    Machine.account_of_verbose hverbose (size_loaded hfits)] at hreport
  split at hreport
  · next hlt =>
    cases hreport
    refine ⟨hlt, ?_⟩
    simp [ran, story]
  · cases hreport

/-- While the machine goes on, so does the command, and its cycles have been told of. -/
theorem err_of_runsFor (hstreams : streams.Unlimited) (hverbose : Log.Verbose filter.admits)
    (h : Loading.program options.path reading = .ok program) (hfits : program.length ≤ 256)
    (hrun : (loaded program).RunsFor count) :
    ((load streams options filter reading).1.after count).console.err.held.toList =
      written filter 0 (story options program count) := by
  obtain ⟨-, htracing, hfilter, hpolicy⟩ := informedConsole_keeps streams options filter program
  have htireless := hstreams.err.of_policy hpolicy
  have hfresh : (informedConsole streams options filter program).Fresh :=
    informedConsole_fresh hstreams
  obtain ⟨hnone, -⟩ := Session.midway_of_runsFor hfresh.quiet hfresh.unlimited hrun
  rw [load_of_program h hfits, Session.noted_after htireless hnone,
    err_informedConsole hstreams.err, htracing, hfilter, ← Sink.noting_append,
    hverbose.kept_eq (.inl rfl), Machine.account_of_verbose hverbose (size_loaded hfits),
    held_noting_empty]
  rfl

/-- Of what has been told, the record of the program is not about an instruction. -/
theorem countP_story (options : Options String) (program : List UInt8) (count : Nat) :
    (story options program count).countP isDebug =
      ((loaded program).log options.tracing count).countP isDebug := by
  rw [story, List.countP_cons_of_neg]
  simp [isDebug, readRecord]

/-- While the cycles go on, each has a record, and one more has as many as its signal says. -/
theorem countP_story_succ (hrun : (loaded program).RunsFor count) :
    (story options program (count + 1)).countP isDebug = count +
      match ((loaded program).after count).cycle.1 with
      | .running | .faulted (.invalidRegister _) => 1
      | _ => 0 := by
  rw [countP_story, Machine.log_succ, List.countP_append, Machine.countP_log hrun,
    Machine.countP_entries]

/-- In a run that halts there are as many records as steps. -/
theorem countP_story_of_halted (options : Options String) (hrun : (loaded program).RunsFor count)
    (hhalted : ((loaded program).after count).cycle.1 = .halted) :
    (story options program (count + 1)).countP isDebug = count := by
  rw [countP_story_succ hrun, hhalted]
  rfl

/-- In a run that meets a fault there are as many records as cycles have gone on, and one more
exactly if a register does not exist. -/
theorem countP_story_of_faulted (options : Options String) {fault : Fault}
    (hrun : (loaded program).RunsFor count)
    (hfaulted : ((loaded program).after count).cycle.1 = .faulted fault) :
    ((∃ index, fault = .invalidRegister index) →
      (story options program (count + 1)).countP isDebug = count + 1) ∧
    ((¬ ∃ index, fault = .invalidRegister index) →
      (story options program (count + 1)).countP isDebug = count) := by
  rw [countP_story_succ hrun, hfaulted]
  constructor
  · rintro ⟨index, rfl⟩
    rfl
  · intro hother
    cases fault with
    | invalidRegister index => exact absurd ⟨index, rfl⟩ hother
    | _ => rfl

section

variable {Argument Path : Type} {libraries : Libraries Argument Path} {arguments : List Argument}
  {asked : Options Path} {records : Log.Record → Bool} {text : String}

/-- The bytes of entries that stand at the beginning of the error output, with the log at the level
of debugging. -/
def journal (libraries : Libraries Argument Path) (entries : List Entry) : List UInt8 :=
  written (Command.filter libraries (some "debug")) 0 entries

/-- If the environment asks for the records at the level of debugging, the filter admits them. -/
theorem verbose_filter (henvironment : libraries.environment? (some "debug") = some records)
    (hverbose : Log.Verbose records) :
    Log.Verbose (Command.filter libraries (some "debug")).admits := by
  rw [Command.filter, henvironment]
  exact hverbose

/-- If records are written as lines, the entry of a record is its line with a stamp. -/
theorem stamped_of_legible (hlegible : Log.Legible libraries.text) (before : Nat)
    {record : Log.Record} (hvisible : record.Visible) {line : String} (hline : record.line = line) :
    ∃ stamp : String, '\n' ∉ stamp.toList ∧
      (Entry.record record).text (Command.filter libraries (some "debug")) before =
        stamp ++ line := by
  rw [← hline]
  exact hlegible before record hvisible

/-- What the error output tells of a command whose log goes down to the level of debugging, once
the file is a text and the text a program. It begins with the record of the program, also if the
program turns out not to fit. Then each cycle is told of, by its trace line if there are to be
any, and by a record if it comes to carrying out an instruction. A run that halts ends in a
record that numbers those of the instructions, and there are as many as the run has steps. A run
that meets a fault ends in the diagnostic, and there are as many as cycles have gone on, and one
more exactly if the fault is a register that does not exist. The message of each of these records
is the disassembly of the bytes that the trace line shows, on one line; and if records in which
nothing is to be escaped are written as lines, with the time or the like in front, the message
stands in its line. -/
theorem log_of_command (harguments : libraries.parse arguments = .run asked)
    (henvironment : libraries.environment? (some "debug") = some records)
    (hverbose : Log.Verbose records) (hstreams : streams.Unlimited) (read : Path → Reading)
    (hread : read asked.path = .content (utf8 text)) (hparse : Source.parse text = .ok program) :
    (256 < program.length → ∀ fuel,
      run libraries streams fuel read arguments (some "debug") =
        some ⟨failure, #[], (journal libraries
          [.record (readRecord (libraries.shown asked.path) program),
            .diagnostic (LoadError.tooLarge program.length 256).message]).toArray⟩) ∧
    (program.length ≤ 256 →
      (∀ fuel, run libraries streams fuel read arguments (some "debug") = none →
        (loaded program).RunsFor fuel ∧
        ((load streams (shown libraries asked) (Command.filter libraries (some "debug"))
          (read asked.path)).1.after fuel).console.err.held.toList =
            journal libraries (story (shown libraries asked) program fuel) ∧
        (story (shown libraries asked) program fuel).countP isDebug = fuel) ∧
      ∀ fuel report, run libraries streams fuel read arguments (some "debug") = some report →
        ∃ count < fuel, (loaded program).RunsFor count ∧
          ((((loaded program).after count).cycle.1 = .halted ∧
            (story (shown libraries asked) program (count + 1)).countP isDebug = count ∧
            report.err.toList = journal libraries
              (story (shown libraries asked) program (count + 1) ++
                [.record (Session.haltRecord
                  ((story (shown libraries asked) program (count + 1)).countP isDebug))])) ∨
          ∃ fault, ((loaded program).after count).cycle.1 = .faulted fault ∧
            ((∃ index, fault = .invalidRegister index) →
              (story (shown libraries asked) program (count + 1)).countP isDebug = count + 1) ∧
            ((¬ ∃ index, fault = .invalidRegister index) →
              (story (shown libraries asked) program (count + 1)).countP isDebug = count) ∧
            report.err.toList = journal libraries
              (story (shown libraries asked) program (count + 1) ++
                [.diagnostic fault.message]))) ∧
    (program.length ≤ 256 → ∀ count, ((loaded program).after count).memory.cells.size = 256) ∧
    (∀ state : Machine, state.memory.cells.size = 256 →
      ((state.cycle.1 = .running ∨ ∃ index, state.cycle.1 = .faulted (.invalidRegister index)) ↔
        ∃ instruction, state.fetch = .ok instruction ∧ instruction ≠ .hlt) ∧
      ∀ instruction, state.fetch = .ok instruction →
        (∀ filler, state.snapshot.disassembly filler = instruction.listing) ∧
        state.snapshot.dispatch.message = instruction.listing ∧
        '\n' ∉ instruction.listing.toList) ∧
    (Log.Legible libraries.text → ∀ before,
      (Log.Visible (libraries.shown asked.path) → ∃ stamp : String, '\n' ∉ stamp.toList ∧
        (Entry.record (readRecord (libraries.shown asked.path) program)).text
          (Command.filter libraries (some "debug")) before = stamp ++
            (" INFO program read bytes=" ++ Numeral.decimal program.length ++ " path=" ++
              libraries.shown asked.path ++ "\n")) ∧
      (∀ (state : Machine) instruction, state.memory.cells.size = 256 →
        state.fetch = .ok instruction →
        ∃ stamp : String, '\n' ∉ stamp.toList ∧
          (Entry.record state.snapshot.dispatch).text
            (Command.filter libraries (some "debug")) before = stamp ++
              ("DEBUG " ++ instruction.listing ++ " pc=" ++ Numeral.decimal state.cpu.pc ++
                "\n")) ∧
      ∀ steps, ∃ stamp : String, '\n' ∉ stamp.toList ∧
        (Entry.record (Session.haltRecord steps)).text
          (Command.filter libraries (some "debug")) before = stamp ++
            (" INFO halted steps=" ++ Numeral.decimal steps ++ "\n")) := by
  have hprogram : Loading.program (shown libraries asked).path (read asked.path) = .ok program :=
    Loading.program_eq_ok_iff.mpr ⟨text, hread, hparse⟩
  have hrun := fun fuel => run_of_parse harguments streams fuel read (some "debug")
  have hfilter := verbose_filter henvironment hverbose
  refine ⟨?_, ?_, ?_, ?_, ?_⟩
  · intro hlarge fuel
    rw [hrun, runProgram_of_oversized hstreams fuel hprogram hlarge, hfilter.kept_eq (.inl rfl)]
    rfl
  · intro hfits
    constructor
    · intro fuel hnone
      obtain hgoes | ⟨count, hlt, result, hends⟩ := (loaded program).ends_cases fuel
      · refine ⟨hgoes, err_of_runsFor hstreams hfilter hprogram hfits hgoes, ?_⟩
        rw [countP_story, Machine.countP_log hgoes]
      · rw [hrun, runProgram_of_ends hstreams hprogram hfits hends, if_pos hlt] at hnone
        cases hnone
    · intro fuel report hreport
      rw [hrun] at hreport
      obtain hgoes | ⟨count, -, result, hends⟩ := (loaded program).ends_cases fuel
      · rw [runProgram_of_runsFor hstreams hprogram hfits hgoes] at hreport
        cases hreport
      · obtain ⟨hlt, herr⟩ := err_of_ends hstreams hfilter hprogram hfits hends hreport
        refine ⟨count, hlt, hends.running, ?_⟩
        cases result with
        | ok steps =>
          obtain ⟨rfl, -, hhalted⟩ := (Machine.ends_ok_iff _ _ _).mp hends
          have hcount := countP_story_of_halted (shown libraries asked) hends.running hhalted
          rw [Session.ending, hfilter.kept_eq (.inl rfl)] at herr
          refine .inl ⟨hhalted, hcount, ?_⟩
          rw [hcount]
          exact herr
        | error cause =>
          obtain ⟨fault, rfl, -, hfaulted⟩ := (Machine.ends_error_iff _ _ _).mp hends
          obtain ⟨hregister, hother⟩ := countP_story_of_faulted _ hends.running hfaulted
          exact .inr ⟨fault, hfaulted, hregister, hother, herr⟩
  · intro hfits count
    rw [Machine.size_after, size_loaded hfits]
  · intro state hram
    refine ⟨Machine.dispatches_iff hram, fun instruction hfetch => ?_⟩
    have hlisting := Machine.disassembly_of_fetch (Machine.size_le_addresses hram) hfetch
    exact ⟨hlisting, hlisting 0, instruction.newline_notMem_listing⟩
  · intro hlegible before
    refine ⟨?_, ?_, ?_⟩
    · intro hpath
      exact stamped_of_legible hlegible before (visible_readRecord hpath program)
        (line_readRecord _ program)
    · intro state instruction hram hfetch
      rw [← Machine.disassembly_of_fetch (Machine.size_le_addresses hram) hfetch 0]
      exact stamped_of_legible hlegible before (Machine.visible_dispatch hram hfetch)
        state.snapshot.line_dispatch
    · intro steps
      have hmessage : Printable (Session.haltRecord steps).message :=
        (by decide : Printable "halted")
      exact stamped_of_legible hlegible before (.of_number hmessage rfl)
        (Session.line_haltRecord steps)

end

/-- A text of the program that prints a register that does not exist. -/
def printsUnnamed : String :=
  "01000111\n00001001\n"

/-- The program that was read, the cycle with its trace line and its record, and the diagnostic are
told in this order, and the records with the time. -/
theorem log_of_printsUnnamed :
    fewWords.parse ["--trace", "p"] = .run ⟨"p", true⟩ ∧
    fewWords.environment? (some "debug") = some downToDebug ∧ Log.Verbose downToDebug ∧
    Log.Legible fewWords.text ∧ Streams.accepting.Unlimited ∧
    Source.parse printsUnnamed = .ok [0x47, 9] ∧
    ∃ report, run fewWords .accepting 1 (fun _ => .content (utf8 printsUnnamed)) ["--trace", "p"]
        (some "debug") = some report ∧
      report.err.toList = (
        "1970-01-01T00:00:00.000000Z  INFO program read bytes=2 path=p\n" ++
        "TRACE: 00 | 00 | 47 09 00 | 00 00 00 00 00 00 00 F4\n" ++
        "1970-01-01T00:00:02.000000Z DEBUG PRN  R9 pc=0\n" ++
        "Invalid register R9\n").toUTF8.toList := by
  have hparse : Source.parse printsUnnamed = .ok [0x47, 9] := by decide +kernel
  have hfaulted : (loaded [0x47, 9]).cycle.1 = .faulted (.invalidRegister 9) := by decide +kernel
  have harguments : fewWords.parse ["--trace", "p"] = .run ⟨"p", true⟩ := rfl
  have henvironment : fewWords.environment? (some "debug") = some downToDebug := rfl
  have hverbose : Log.Verbose downToDebug := by
    rintro record (hlevel | hlevel)
    · simp [downToDebug, hlevel]
    · simp [downToDebug, hlevel]
  have hlegible : Log.Legible fewWords.text := by
    intro before record _
    refine ⟨"1970-01-01T00:00:0" ++ Numeral.decimal before ++ ".000000Z ", ?_, rfl⟩
    simp [(isDecimal_decimal before).newline_notMem]
  obtain ⟨-, hruns, -⟩ := log_of_command harguments henvironment hverbose
    Streams.accepting_unlimited (fun _ => .content (utf8 printsUnnamed)) rfl hparse
  obtain ⟨hgoes, hends⟩ := hruns (by decide)
  refine ⟨harguments, henvironment, hverbose, hlegible, Streams.accepting_unlimited, hparse, ?_⟩
  cases hreport : run fewWords .accepting 1 (fun _ => .content (utf8 printsUnnamed))
      ["--trace", "p"] (some "debug") with
  | none =>
    have hrunning := (hgoes 1 hreport).1 0 (by decide)
    rw [Machine.after, hfaulted] at hrunning
    cases hrunning
  | some report =>
    refine ⟨report, rfl, ?_⟩
    obtain ⟨count, hlt, -, hended⟩ := hends 1 report hreport
    obtain rfl : count = 0 := by omega
    rw [Machine.after, hfaulted] at hended
    obtain ⟨hhalted, -⟩ | ⟨fault, hfault, -, -, herr⟩ := hended
    · cases hhalted
    · cases hfault
      exact herr.trans (by decide +kernel)

end Command

end ByteMachine
