import ByteMachine.Program.CommandLine

/-!
# The command

The outer layer: arguments, environment, files and standard streams. A program
may run for ever, so what a cycle has written is passed on before the next cycle
begins.
-/

set_option autoImplicit false

namespace ByteMachine.Shell

/-- What a failure to read a file amounts to. The system reports the kind of an
unsuitable file by a number, in some calls with its sign changed. -/
def readingOfError : IO.Error → Reading
  | .noFileOrDirectory _ _ _ => .absent
  | .noSuchThing _ _ _ => .absent
  | .inappropriateType _ code details =>
    if code = 20 ∨ 0 - code = 20 then Volume.notADirectory
    else if code = 21 ∨ 0 - code = 21 then Volume.isADirectory
    else .refused details
  | error => .refused (toString error)

/-- Reads the file at a path. -/
def readFile (path : String) : IO Reading := do
  try
    return .content (← IO.FS.readBinFile path).data.toList
  catch error =>
    return readingOfError error

/-- Writes bytes to a stream. -/
def send (stream : IO.FS.Stream) (bytes : Array UInt8) : IO Unit := do
  unless bytes.isEmpty do
    stream.write ⟨bytes⟩
    stream.flush

/-- Passes on what the sinks of a console hold. An error output that cannot be written
to is missed only if there are to be trace lines. -/
def passOn (console : Console) : IO Unit := do
  try
    send (← IO.getStderr) console.err.held
  catch error =>
    if console.tracing then throw error
  send (← IO.getStdout) console.out.held

/-- Runs a session to its end. A stream that cannot be written to ends it as a sink
that refuses does. -/
partial def runToEnd (session : Session) : IO (Session × Session.Result) := do
  let (after, result) := session.advance
  let drained := { after with console := after.console.drained }
  match ← (passOn after.console).toBaseIO with
  | .error error => return (drained, .error (.output (toString error)))
  | .ok () =>
    match result with
    | some result => return (drained, result)
    | none => runToEnd drained

/-- Writes a report and answers its exit code, whether it can be written or not. -/
def deliver (report : Report) : IO UInt32 := do
  let _ ← (send (← IO.getStdout) report.out).toBaseIO
  let _ ← (send (← IO.getStderr) report.err).toBaseIO
  return report.code

/-- Carries out the command. -/
def command (arguments : List String) : IO UInt32 := do
  let libraries := CommandLine.libraries
  match libraries.parse arguments with
  | .run options =>
    let filter := Command.filter libraries (← IO.getEnv "RUST_LOG")
    let reading ← readFile options.path
    match Command.load Streams.accepting (Command.shown libraries options) filter reading with
    | (session, some error) =>
      deliver (Command.report session (some (Command.loadCode error, error.message)))
    | (session, none) =>
      let (ended, result) ← runToEnd session
      deliver (Command.report ended (Command.complaintOf result))
  | .inform text => deliver (Command.informed Streams.accepting text)
  | .refuse text => deliver (Command.refused Streams.accepting text)

end ByteMachine.Shell

/-- The command. -/
def main (arguments : List String) : IO UInt32 :=
  ByteMachine.Shell.command arguments
