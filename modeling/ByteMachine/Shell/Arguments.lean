import ByteMachine.Program.Command
import ByteMachine.Shell.ControlSequence
import ByteMachine.Shell.Similarity

/-!
# Arguments

What the arguments of the command line ask for: a program to be run, with or
without tracing, or a text to be printed in place of running one. Arguments are
considered from left to right, and the first that settles the matter does.

An argument that begins with a dash is an option unless it is the dash alone or
follows the argument `--`. Everything else is the path of the program, of which
there must be exactly one.

A complaint ends with a usage line that shows how the command could have been
given, in view of what was given before the fault. Where it quotes an argument,
control sequences are taken out.

This is the parser of the outer layer. The command takes any parser, and what is proved of the
command does not depend on this one.
-/

set_option autoImplicit false

namespace ByteMachine

namespace Arguments

/-! ## Texts -/

/-- The name of the command. -/
def commandName : String := "ls8"

/-- The text that explains the command. -/
def help : String :=
  String.join ([
    "Run an LS-8 program",
    "",
    "Usage: ls8 [OPTIONS] <PROGRAM>",
    "",
    "Arguments:",
    "  <PROGRAM>  Program source: one binary byte per line, `#` starts a comment",
    "",
    "Options:",
    "      --trace    Print a trace line to stderr before every instruction",
    "  -h, --help     Print help",
    "  -V, --version  Print version"].map (· ++ "\n"))

/-- The text that names the version of the command. -/
def version : String :=
  commandName ++ " 0.1.0\n"

/-- The place of the program in a usage line. -/
def operand : String := "<PROGRAM>"

/-- The place of any option in a usage line. -/
def anyOption : String := "[OPTIONS]"

/-- A usage line that shows the given words after the name of the command. -/
def usage (words : List String) : String :=
  String.join (("Usage: " ++ commandName) :: words.map (" " ++ ·)) ++ "\n\n"

/-- The usage line that mentions no option in particular. -/
def generalUsage : String :=
  usage [anyOption, operand]

/-- A complaint: what is wrong, the lines that help, and where to find more. -/
def complaint (wrong advice : String) : Invocation String :=
  .refuse ("error: " ++ wrong ++ "\n\n" ++ advice
    ++ "For more information, try '--help'.\n")

/-- A line of advice. -/
def tip (text : String) : String :=
  "  tip: " ++ text ++ "\n\n"

/-- What was given, between quotes and fit to be shown. -/
def quoted (given : String) : String :=
  "'" ++ ControlSequence.strip given ++ "'"

/-- The complaint about an argument that has no place. -/
def unexpected (argument advice : String) : Invocation String :=
  complaint ("unexpected argument " ++ quoted argument ++ " found") advice

/-! ## Options -/

/-- An option of the command. -/
inductive Flag where
  | trace
  | help
  | version
deriving DecidableEq

namespace Flag

/-- Every option. -/
def all : List Flag :=
  [.trace, .help, .version]

/-- The long name of an option. -/
def name : Flag → String
  | .trace => "trace"
  | .help => "help"
  | .version => "version"

/-- An option as it is written. -/
def written (flag : Flag) : String :=
  "--" ++ flag.name

/-- The option with a given long name. -/
def ofName? (name : String) : Option Flag :=
  all.find? (fun flag => flag.name == name)

/-- The option with a given one-letter name. -/
def ofLetter? (letter : Char) : Option Flag :=
  if letter = 'h' then some .help
  else if letter = 'V' then some .version
  else none

end Flag

/-! ## Reading the arguments -/

/-- What the arguments considered so far have settled. -/
structure State where
  /-- The path of the program. -/
  path : Option String
  /-- Whether tracing was asked for. -/
  tracing : Bool
deriving DecidableEq

namespace State

/-- Nothing is settled. -/
def initial : State where
  path := none
  tracing := false

/-- The usage line for someone who meant the given option. It shows tracing as
well if that was asked for. -/
def usageMeant (state : State) (flag : Flag) : String :=
  let given := if state.tracing && flag != .trace then [Flag.trace] else []
  usage ((given ++ [flag]).map Flag.written ++ [operand])

/-- The usage line for someone who gave the given option a value. Tracing, if it
was asked for, is shown beside the path of the program as one of the things that
can follow. -/
def usageValued (state : State) (flag : Flag) : String :=
  if state.tracing then
    let shown := if flag = .trace then [] else [flag.written]
    usage (shown ++ ["<PROGRAM|" ++ Flag.trace.written ++ ">"])
  else usage [flag.written, operand]

/-- The usage line for someone who gave an option that there is not. It shows
tracing if that was asked for, and any option if nothing was given before. -/
def usageUnknown (state : State) : String :=
  if state.tracing then usage [Flag.trace.written, operand]
  else if state.path.isSome then usage [operand]
  else generalUsage

/-- The usage line for someone who gave no path. It shows tracing if that was
asked for. -/
def usagePathless (state : State) : String :=
  if state.tracing then usage [Flag.trace.written, operand] else usage [operand]

/-- The complaint about a path that is empty, if it is. -/
def emptyPath? (state : State) : Option (Invocation String) :=
  if state.path = some "" then
    some (complaint ("a value is required for '" ++ operand ++ "' but none was supplied") "")
  else none

/-- An argument that is the path of the program, or one too many. -/
def onPath (state : State) (argument : String) : Except (Invocation String) State :=
  match state.path with
  | none => .ok { state with path := some argument }
  | some _ => .error (unexpected argument generalUsage)

/-- An option that stands alone. A path before it is complete, so this is where
it can turn out to be empty. -/
def onFlag (state : State) (flag : Flag) : Except (Invocation String) State :=
  match state.emptyPath? with
  | some invocation => .error invocation
  | none =>
    match flag with
    | .help => .error (.inform help)
    | .version => .error (.inform version)
    | .trace =>
      if state.tracing then
        .error (complaint "the argument '--trace' cannot be used multiple times" generalUsage)
      else .ok { state with tracing := true }

/-- The advice to someone who did not mean an option. -/
def asValue (written : String) : String :=
  tip ("to pass " ++ quoted written ++ " as a value, use " ++ quoted ("-- " ++ written))

/-- An option with a long name, and with a value if there is an equals sign. No
option takes one. -/
def onLong (state : State) (name : String) (value : Option String) :
    Except (Invocation String) State :=
  match Flag.ofName? name, value with
  | some flag, none => state.onFlag flag
  | some flag, some value =>
    .error (complaint
      ("unexpected value " ++ quoted value ++ " for '" ++ flag.written
        ++ "' found; no more were expected")
      (state.usageValued flag))
  | none, _ =>
    let written := "--" ++ name
    match (Similarity.closest? name (Flag.all.map Flag.name)).bind Flag.ofName? with
    | some flag =>
      .error (unexpected written
        (tip ("a similar argument exists: '" ++ flag.written ++ "'") ++ state.usageMeant flag))
    | none => .error (unexpected written (asValue written ++ state.usageUnknown))

/-- One-letter options, of which the first decides. -/
def onLetter (state : State) (letter : Char) : Except (Invocation String) State :=
  match Flag.ofLetter? letter with
  | some flag => state.onFlag flag
  | none =>
    let written := "-" ++ String.singleton letter
    .error (unexpected written (asValue written ++ generalUsage))

/-- An argument before `--`. -/
def onArgument (state : State) (argument : String) : Except (Invocation String) State :=
  match argument.toList with
  | '-' :: '-' :: rest =>
    let name := String.ofList (rest.takeWhile (· != '='))
    match rest.dropWhile (· != '=') with
    | [] => state.onLong name none
    | _ :: value => state.onLong name (some (String.ofList value))
  | '-' :: letter :: _ => state.onLetter letter
  | _ => state.onPath argument

/-- All arguments, up to the first that settles the matter. -/
def onArguments (state : State) : List String → Except (Invocation String) State
  | [] => .ok state
  | argument :: rest =>
    if argument = "--" then rest.foldlM onPath state
    else
      match state.onArgument argument with
      | .error invocation => .error invocation
      | .ok next => next.onArguments rest

/-- What is asked for when no argument has settled the matter before the end. -/
def conclude (state : State) : Invocation String :=
  match state.emptyPath?, state.path with
  | some invocation, _ => invocation
  | none, some path => .run ⟨path, state.tracing⟩
  | none, none =>
    complaint ("the following required arguments were not provided:\n  " ++ operand)
      state.usagePathless

end State

/-- What the arguments ask for. -/
def parse (arguments : List String) : Invocation String :=
  match State.initial.onArguments arguments with
  | .ok state => state.conclude
  | .error invocation => invocation

end Arguments

end ByteMachine
