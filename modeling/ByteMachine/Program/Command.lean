import ByteMachine.Program.Loading
import ByteMachine.Program.Session

/-!
# The command

What the command does with its arguments: the program is read and placed in a
fresh machine, the machine is run, and the outcome is an exit code and what was
written to the output and to the error output.

How arguments are written, which log records are asked for, and how a record
reads is not settled here but by the libraries that the command is built on, and
what can be written to is settled by whoever starts it. Both are parameters.
-/

set_option autoImplicit false

namespace ByteMachine

/-- What is to be run and how. -/
structure Options (Path : Type) where
  /-- The path of the program. -/
  path : Path
  /-- Whether to write trace lines. -/
  tracing : Bool
deriving DecidableEq

/-- What the arguments ask for. -/
inductive Invocation (Path : Type) where
  /-- Run a program. -/
  | run (options : Options Path)
  /-- Print a text and succeed. -/
  | inform (text : String)
  /-- Complain with a text and fail. -/
  | refuse (text : String)
deriving DecidableEq

/-- What the command takes from libraries. -/
structure Libraries (Argument Path : Type) where
  /-- What the arguments ask for. -/
  parse : List Argument → Invocation Path
  /-- How a path is shown. -/
  shown : Path → String
  /-- The records that the environment asks for, from the value of the variable that
  tells. Nothing is asked for if there is no value, or none that can be read. -/
  environment? : Option String → Option (Log.Record → Bool)
  /-- The records that a directive asks for. -/
  directive : String → Log.Record → Bool
  /-- The text of a record, from the number of writes before it. -/
  text : Nat → Log.Record → String

/-- What the standard streams of a command accept. -/
structure Streams where
  out : Sink.Policy
  err : Sink.Policy

/-- Streams that accept everything. -/
def Streams.accepting : Streams where
  out := Sink.Policy.accepting
  err := Sink.Policy.accepting

/-- How a command ended. -/
structure Report where
  /-- The exit code. -/
  code : UInt32
  /-- What was written to the output. -/
  out : Array UInt8
  /-- What was written to the error output: trace lines, log, and the diagnostic
  of a failure. -/
  err : Array UInt8
deriving DecidableEq

namespace Command

/-! ## Exit codes -/

/-- The exit code of a success. -/
def success : UInt32 := 0

/-- The exit code of a failure. -/
def failure : UInt32 := 1

/-- The exit code for a program that is not there. -/
def missing : UInt32 := 2

/-- The exit code of a program that could not be loaded. -/
def loadCode : LoadError → UInt32
  | .notFound _ => missing
  | _ => failure

/-! ## Running a program -/

/-- The record of a program that was read. -/
def readRecord (path : String) (program : List UInt8) : Log.Record where
  level := .info
  target := "ls8::ls8::program::loader"
  message := "program read"
  fields := [("bytes", Numeral.decimal program.length), ("path", path)]

/-- The console of a command. -/
def console (streams : Streams) (tracing : Bool) (filter : Log.Filter) : Console where
  out := Sink.empty streams.out
  err := Sink.empty streams.err
  tracing := tracing
  filter := filter

/-- The session that is to run a program, from the path as it is shown and from what
reading its file gave. With an error it is the session in which loading failed. -/
def load (streams : Streams) (options : Options String) (filter : Log.Filter)
    (reading : Reading) : Session × Option LoadError :=
  let console := console streams options.tracing filter
  match Loading.program options.path reading with
  | .error error => (Session.start (Machine.start Memory.ram) console, some error)
  | .ok program =>
    let console := console.log (readRecord options.path program)
    let (memory, error) := Loading.place Memory.ram 0 program
    (Session.start (Machine.start memory) console, error)

/-- The report of a session that has ended. If it failed a diagnostic is written; an
error output that cannot take it is not missed. -/
def report (session : Session) : Option (UInt32 × String) → Report
  | none => ⟨success, session.console.out.held, session.console.err.held⟩
  | some (code, diagnostic) =>
    let (err, _) := session.console.err.write (utf8 (diagnostic ++ "\n"))
    ⟨code, session.console.out.held, err.held⟩

/-- The code and diagnostic of a run, if it was interrupted. -/
def complaintOf : Session.Result → Option (UInt32 × String)
  | .ok _ => none
  | .error cause => some (failure, cause.message)

/-- Reads, loads and runs a program for at most `fuel` cycles. -/
def runProgram (streams : Streams) (fuel : Nat) (options : Options String)
    (filter : Log.Filter) (reading : Reading) : Option Report :=
  match load streams options filter reading with
  | (session, some error) => some (report session (some (loadCode error, error.message)))
  | (session, none) =>
    (session.run fuel).map fun (ended, result) => report ended (complaintOf result)

/-! ## The command -/

/-- The report of a command that only prints a text. -/
def informed (streams : Streams) (text : String) : Report :=
  ⟨success, ((Sink.empty streams.out).write (utf8 text)).1.held, #[]⟩

/-- The report of a command that only complains. -/
def refused (streams : Streams) (text : String) : Report :=
  ⟨failure, #[], ((Sink.empty streams.err).write (utf8 text)).1.held⟩

section

variable {Argument Path : Type} (libraries : Libraries Argument Path)

/-- What is written of records: those that the environment asks for, and warnings if
it asks for none. -/
def filter (logging : Option String) : Log.Filter where
  admits := (libraries.environment? logging).getD (libraries.directive "warn")
  text := libraries.text

/-- Options with the path as it is shown. -/
def shown (options : Options Path) : Options String :=
  ⟨libraries.shown options.path, options.tracing⟩

/-- Carries out a command: its arguments, what the environment says about the log, and
how files are read. Nothing is answered if a program runs for more than `fuel`
cycles. -/
def run (streams : Streams) (fuel : Nat) (read : Path → Reading) (arguments : List Argument)
    (logging : Option String) : Option Report :=
  match libraries.parse arguments with
  | .inform text => some (informed streams text)
  | .refuse text => some (refused streams text)
  | .run options =>
    runProgram streams fuel (shown libraries options) (filter libraries logging)
      (read options.path)

end

end Command

end ByteMachine
