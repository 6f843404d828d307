import ByteMachine.Interface.Source
import ByteMachine.Model.Memory

/-!
# Loading

From a file to a memory that holds the program: the file is read as UTF-8 text,
the text as a program, and the bytes of the program are stored in order.
-/

set_option autoImplicit false

namespace ByteMachine

/-- What reading a file gives. -/
inductive Reading where
  /-- The bytes of the file. -/
  | content (bytes : List UInt8)
  /-- There is no such file. -/
  | absent
  /-- The file cannot be read, for the reason given. -/
  | refused (reason : String)
deriving DecidableEq

/-- Why a program could not be loaded. -/
inductive LoadError where
  /-- There is no file at the path. -/
  | notFound (path : String)
  /-- The file at the path cannot be read as text. -/
  | unreadable (path reason : String)
  /-- The program has a line that is no byte. -/
  | badLine (cause : Source.BadLine)
  /-- The program would end at `length`, beyond what the memory holds. -/
  | tooLarge (length capacity : Nat)
deriving DecidableEq

/-- How a load error reads. -/
def LoadError.message : LoadError → String
  | .notFound path => path ++ " was not found."
  | .unreadable path reason => path ++ ": " ++ reason
  | .badLine cause =>
    "line " ++ Numeral.decimal cause.line ++ ": invalid byte literal `" ++ cause.text ++ "`"
  | .tooLarge length capacity =>
    "program is " ++ Numeral.decimal length ++ " bytes, memory holds "
      ++ Numeral.decimal capacity

namespace Loading

/-- The bytes of the program in a text. -/
def programOf (text : String) : Except LoadError (List UInt8) :=
  match Source.parse text with
  | .ok program => .ok program
  | .error cause => .error (.badLine cause)

/-- The bytes of the program in the file at a path, from what reading the file
gave. -/
def program (path : String) : Reading → Except LoadError (List UInt8)
  | .absent => .error (.notFound path)
  | .refused reason => .error (.unreadable path reason)
  | .content bytes =>
    match utf8Text? bytes with
    | some text => programOf text
    | none => .error (.unreadable path "stream did not contain valid UTF-8")

/-- Stores bytes at consecutive addresses for as long as there are cells. The
answer tells whether all were stored. -/
def fill : Memory → Nat → List UInt8 → Memory × Bool
  | memory, _, [] => (memory, true)
  | memory, address, value :: rest =>
    match memory.store address value with
    | .ok stored => fill stored (address + 1) rest
    | .error _ => (memory, false)

/-- Stores a program from an address on. A program that would end beyond the
capacity is refused before anything is stored; one that meets a missing cell is
refused with the cells before it already stored. -/
def place (memory : Memory) (base : Nat) (program : List UInt8) : Memory × Option LoadError :=
  let length := base + program.length
  if memory.capacity < length then
    (memory, some (.tooLarge length memory.capacity))
  else
    match fill memory base program with
    | (filled, true) => (filled, none)
    | (filled, false) => (filled, some (.tooLarge length memory.capacity))

end Loading

end ByteMachine
