import ByteMachine.Model.Text

/-!
# Logging

Records with a level, a target, a message and fields, and what a log takes of them.

Which records are written, and as what text, is settled by a library that the program hands
its records to. So a filter is any answer to these two questions. The text of a record may
hold the time at which it was written; what is known of time here is how much has been
written before.
-/

set_option autoImplicit false

namespace ByteMachine

namespace Log

/-! ## Records -/

/-- The levels of records, from the gravest to the most detailed. -/
inductive Level where
  | error
  | warn
  | info
  | debug
  | trace
deriving DecidableEq

namespace Level

/-- The name of a level. -/
def name : Level → String
  | .error => "ERROR"
  | .warn => "WARN"
  | .info => "INFO"
  | .debug => "DEBUG"
  | .trace => "TRACE"

end Level

/-- Something that happened, to be told to whoever follows the log. -/
structure Record where
  level : Level
  /-- The part of the program that the record is from. -/
  target : String
  /-- What happened. -/
  message : String
  /-- Names and values that tell more about it. -/
  fields : List (String × String)
deriving DecidableEq

namespace Record

/-- How a record is laid out: its level, right-aligned to five characters, its message, and its
fields with their values. -/
def line (record : Record) : String :=
  String.ofList (List.leftpad 5 ' ' record.level.name.toList) ++ " " ++ record.message
    ++ String.join (record.fields.map fun (name, value) => " " ++ name ++ "=" ++ value) ++ "\n"

end Record

/-! ## Filters -/

/-- What is written of records. -/
structure Filter where
  /-- Whether a record is written. -/
  admits : Record → Bool
  /-- The text of a record, from the number of writes before it. -/
  text : Nat → Record → String

namespace Filter

/-- Admits nothing. -/
def silent : Filter where
  admits := fun _ => false
  text := fun _ _ => ""

end Filter

end Log

end ByteMachine
