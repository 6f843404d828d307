import ByteMachine.Program.Volume
import ByteMachine.Shell.Arguments
import ByteMachine.Shell.Directive

/-!
# The command line

The command with libraries of its own, for arguments and paths that are texts. They
stand in for those that it is built on, and do what these have been seen to do; log
records are written without the time. This serves to run the command: the theorems are
about `Command.run` with any libraries.
-/

set_option autoImplicit false

namespace ByteMachine

namespace CommandLine

/-- The libraries that stand in. -/
def libraries : Libraries String String where
  parse := Arguments.parse
  shown := id
  environment? := fun logging => (logging.bind Log.Rules.parse?).map Log.Rules.admits
  directive := fun text record => (Log.Rules.parse? text).any fun rules =>
    Log.Rules.admits rules record
  text := fun _ record => record.line

/-- Carries out a command whose streams accept everything. -/
def run (fuel : Nat) (read : String → Reading) (arguments : List String)
    (logging : Option String) : Option Report :=
  Command.run libraries Streams.accepting fuel read arguments logging

end CommandLine

end ByteMachine
