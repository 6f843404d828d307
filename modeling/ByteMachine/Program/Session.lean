import ByteMachine.Interface.Listing
import ByteMachine.Interface.Log
import ByteMachine.Interface.Sink
import ByteMachine.Interface.TraceLine

/-!
# Sessions

A session runs a machine with a console. After every cycle it hands what the
cycle printed to the output sink in one write, and when the machine halts or
meets a fault it flushes that sink. A tracing console is shown the machine before
every cycle. A sink that refuses ends the session before anything further is
done.
-/

set_option autoImplicit false

namespace ByteMachine

/-- What a session writes to. -/
structure Console where
  /-- Takes what the machine prints. -/
  out : Sink
  /-- Takes trace lines and the log. -/
  err : Sink
  /-- Whether a trace line is written before every cycle. -/
  tracing : Bool
  /-- What is written of log records. -/
  filter : Log.Filter

namespace Console

/-- Writes a record to the log if the filter admits it. A log that cannot be
written is not missed. -/
def log (console : Console) (record : Log.Record) : Console :=
  if console.filter.admits record then
    { console with
      err := (console.err.write (utf8 (console.filter.text console.err.writes record))).1 }
  else console

/-- Shows the machine to a tracing console, as a wrapping build sees it. The answer is
the reason of a refusal. -/
def trace (console : Console) (machine : Machine) : Console × Option String :=
  if console.tracing then
    let (err, refusal) := console.err.write (utf8 (machine.snapshot.line ++ "\n"))
    ({ console with err := err }, refusal)
  else (console, none)

/-- The console after what its sinks hold has been carried away. -/
def drained (console : Console) : Console :=
  { console with out := console.out.drained, err := console.err.drained }

end Console

/-- A machine being run. -/
structure Session where
  machine : Machine
  console : Console
  /-- The number of instructions carried out. -/
  steps : Nat

namespace Session

/-- How a run ends: with the number of instructions carried out before the halt,
or interrupted. -/
abbrev Result := Except Interruption Nat

/-- A session about to run a machine. -/
def start (machine : Machine) (console : Console) : Session where
  machine := machine
  console := console
  steps := 0

/-- The target of the records a session logs. -/
def logTarget : String :=
  "ls8::ls8::exec"

/-- The record of an instruction about to be carried out, if the cycle gets so
far. A halt is not carried out. -/
def dispatchRecord? (machine : Machine) : Option Log.Record :=
  match machine.fetch with
  | .error _ => none
  | .ok .hlt => none
  | .ok instruction => some {
      level := .debug
      target := logTarget
      message := instruction.listing
      fields := [("pc", Numeral.decimal machine.cpu.pc)] }

/-- The record of a halt. -/
def haltRecord (steps : Nat) : Log.Record where
  level := .info
  target := logTarget
  message := "halted"
  fields := [("steps", Numeral.decimal steps)]

/-- Flushes the output at the end of a run. A refusal takes the place of the
result; otherwise a halt is logged. -/
def finish (session : Session) (result : Result) : Session × Result :=
  let (out, refusal) := session.console.out.flush
  let console := { session.console with out := out }
  match refusal, result with
  | some reason, _ => ({ session with console := console }, .error (.output reason))
  | none, .ok steps => ({ session with console := console.log (haltRecord steps) }, .ok steps)
  | none, .error cause => ({ session with console := console }, .error cause)

/-- One cycle with everything around it: trace line, log, cycle, output. The
answer is the result if the run ends here. -/
def advance (session : Session) : Session × Option Result :=
  match session.console.trace session.machine with
  | (console, some reason) =>
    ({ session with console := console }, some (.error (.output reason)))
  | (console, none) =>
    let console := (dispatchRecord? session.machine).elim console console.log
    let (signal, machine) := session.machine.cycle
    let (out, refusal) := console.out.write machine.cpu.pending
    let after : Session :=
      { session with machine := machine.collected, console := { console with out := out } }
    match refusal, signal with
    | some reason, _ => (after, some (.error (.output reason)))
    | none, .running => ({ after with steps := after.steps + 1 }, none)
    | none, .halted =>
      let (finished, result) := after.finish (.ok after.steps)
      (finished, some result)
    | none, .faulted fault =>
      let (finished, result) := after.finish (.error (.fault fault))
      (finished, some result)

/-- Runs a session for at most so many cycles. Nothing is answered if it has not
ended by then. -/
def run : Nat → Session → Option (Session × Result)
  | 0, _ => none
  | fuel + 1, session =>
    match session.advance with
    | (after, some result) => some (after, result)
    | (after, none) => run fuel after

end Session

end ByteMachine
