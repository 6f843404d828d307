import ByteMachine.Model.Text

/-!
# Control sequences

A text that is shown to someone can hold sequences that a terminal would obey
and not show: they begin with the escape character and end with a character that
depends on their kind. `ControlSequence.strip` takes them out, and with them the
control characters that stand alone, and leaves what is to be seen.

The outer layer needs this for the arguments that its complaints quote.
-/

set_option autoImplicit false

namespace ByteMachine

namespace ControlSequence

/-! ## Characters -/

/-- Whether a character breaks the line or leaves space: tab, line feed, form feed
and carriage return. -/
def isSpacing (char : Char) : Bool :=
  char = '\t' || char = '\n' || char = '\x0c' || char = '\r'

/-- Whether a character stands from one code point to another. -/
def within (first last : Nat) (char : Char) : Bool :=
  first ≤ char.toNat && char.toNat ≤ last

/-- Whether a character lies beyond ASCII. -/
def beyondAscii (char : Char) : Bool :=
  128 ≤ char.toNat

/-- Whether a character is to be seen: it is no control character of ASCII, or
one that leaves space. -/
def isWritten (char : Char) : Bool :=
  within 0x20 0x7E char || beyondAscii char || isSpacing char

/-- The byte that ends a string of hidden characters. -/
def terminator : UInt8 := 0x9C

/-! ## Sequences -/

/-- The place of a character in a text with sequences. -/
inductive Place where
  /-- Outside every sequence. -/
  | text
  /-- After the escape character. -/
  | escape
  /-- After the escape character and intermediate characters. -/
  | intermediate
  /-- In a control sequence, which begins with `[`. -/
  | control
  /-- In a command to the system, which begins with `]` and ends with the bell. -/
  | command
  /-- At the beginning of a string for the device, which begins with `P`. -/
  | device
  /-- In the parameters of a string for the device. -/
  | deviceParameters
  /-- In the intermediate characters of a string for the device. -/
  | deviceIntermediate
  /-- In a string that ends with the terminator. -/
  | hidden
deriving DecidableEq

namespace Place

/-- The place after the escape character and one character more. -/
def afterEscape (char : Char) : Place :=
  if within 0x20 0x2F char then .intermediate
  else if char = '[' then .control
  else if char = ']' then .command
  else if char = 'P' then .device
  else if char = 'X' || char = '^' || char = '_' then .hidden
  else if within 0x30 0x7E char then .text
  else .escape

/-- The place after a character that is not seen. The escape character begins a
sequence everywhere, and cancel and substitute end one everywhere. -/
def next (place : Place) (char : Char) : Place :=
  if char = '\x1b' then .escape
  else if char = '\x18' || char = '\x1a' then .text
  else
    match place with
    | .text => .text
    | .escape => afterEscape char
    | .intermediate => if within 0x30 0x7E char then .text else .intermediate
    | .control => if within 0x40 0x7E char then .text else .control
    | .command => if char = '\x07' then .text else .command
    | .device =>
      if within 0x20 0x2F char then .deviceIntermediate
      else if within 0x30 0x3F char then .deviceParameters
      else if within 0x40 0x7E char then .hidden
      else .device
    | .deviceParameters =>
      if within 0x20 0x2F char then .deviceIntermediate
      else if within 0x3C 0x7E char then .hidden
      else .deviceParameters
    | .deviceIntermediate =>
      if within 0x30 0x7E char then .hidden else .deviceIntermediate
    | .hidden => if terminator ∈ String.utf8EncodeChar char then .text else .hidden

/-- Whether a written character is seen at a place: any outside the sequences, and
one that leaves space also in the sequences that are no strings. -/
def shows (place : Place) (char : Char) : Bool :=
  match place with
  | .text => true
  | .escape | .intermediate | .control => isSpacing char
  | _ => false

end Place

/-! ## Stripping -/

/-- What is left of a text from a place on. A character that was seen inside a
sequence lets the written characters after it be seen as well (`seen`); the first
that is no written character takes the sequence up again, and one beyond ASCII
ends it. -/
def stripFrom (place : Place) (seen : Bool) : List Char → List Char
  | [] => []
  | char :: rest =>
    if isWritten char && (seen || place.shows char) then
      char :: stripFrom (if beyondAscii char then .text else place) true rest
    else stripFrom (place.next char) false rest

/-- What is left of a text without control sequences and control characters. -/
def strip (text : String) : String :=
  String.ofList (stripFrom .text false text.toList)

end ControlSequence

end ByteMachine
