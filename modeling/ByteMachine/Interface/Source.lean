import ByteMachine.Interface.Blank
import ByteMachine.Model.Text

/-!
# Program source

A program is written as text with one byte on a line, in binary. A `#` starts a
comment, and lines with nothing else on them are skipped. Reading stops at the
first line that is neither empty nor a byte.
-/

set_option autoImplicit false

namespace ByteMachine

namespace Source

/-! ## Lines -/

/-- The lines of a text. A line ends at a line feed, which takes a carriage
return directly before it along; no other character ends a line. What follows
the last line feed is a line unless it is empty. -/
def lines : List Char → List (List Char)
  | [] => []
  | '\n' :: rest => [] :: lines rest
  | '\r' :: '\n' :: rest => [] :: lines rest
  | char :: rest =>
    match lines rest with
    | [] => [[char]]
    | line :: more => (char :: line) :: more

/-- What a line says: the part before a comment, without the blanks around
it. -/
def content (line : List Char) : List Char :=
  trim (line.takeWhile (· != '#'))

/-! ## Byte literals -/

/-- The value of a text of binary digits, if it has no other characters. -/
def binaryValue? (digits : List Char) : Option Nat :=
  digits.foldlM (fun value digit =>
    if digit = '0' then some (2 * value)
    else if digit = '1' then some (2 * value + 1)
    else none) 0

/-- The byte a literal stands for: at most one plus sign, then one or more binary
digits with a value below 256. Leading zeros do not count. -/
def literal? (text : List Char) : Option UInt8 := do
  let digits := if text.head? = some '+' then text.tail else text
  guard (digits ≠ [])
  let value ← binaryValue? digits
  guard (value < 256)
  return UInt8.ofNat value

/-! ## Programs -/

/-- A line that is neither empty nor a byte literal. -/
structure BadLine where
  /-- The number of the line, counted from 1. -/
  line : Nat
  /-- What the line says. -/
  text : String
deriving DecidableEq

/-- The bytes of the given lines, the first of which has the given number. -/
def parseLines (number : Nat) : List (List Char) → Except BadLine (List UInt8)
  | [] => .ok []
  | line :: rest =>
    if content line = [] then
      parseLines (number + 1) rest
    else
      match literal? (content line) with
      | some value => (parseLines (number + 1) rest).map (value :: ·)
      | none => .error ⟨number, String.ofList (content line)⟩

/-- The bytes of a program, or its first bad line. -/
def parse (text : String) : Except BadLine (List UInt8) :=
  parseLines 1 (lines text.toList)

/-- The plain way to write a program: eight binary digits on a line for each
byte. -/
def render (bytes : List UInt8) : String :=
  String.join (bytes.map fun value => Numeral.binary 8 value.toNat ++ "\n")

end Source

end ByteMachine
