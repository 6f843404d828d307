import ByteMachine.Interface.Blank
import ByteMachine.Shell.Alphanumeric
import ByteMachine.Shell.Pattern
import ByteMachine.Shell.Rules

/-!
# Directives

How a log filter is written: as directives separated by commas. A directive is

* a level alone, which is for every target;
* a target alone, which admits all its records;
* a target, `=` and a level;
* a target with a span and a field in brackets, as in `target[span{field}]`, and
  with `=` and a level after them if there is to be one. The target can be left
  out, and so can the span and the field. A field can have a value.

No record is from inside a span, and no value of a field is compared, so a
directive that asks for a span or a value gives no rule. Yet a value has to be a
number or a pattern.

Where the parts of a directive are is told by the text without the blanks around
it, but what they say is taken from the same places of the text as it was written.
So a directive with a blank before it does not say what it seems to say.

This is the reader of filters of the outer layer. The command takes any filter, and what is
proved of the command does not depend on how one is written.
-/

set_option autoImplicit false

namespace ByteMachine

namespace Log

namespace Directive

/-! ## Levels -/

/-- Whether a text is a run of digits. -/
def isDigits (text : List Char) : Bool :=
  text ≠ [] && text.all Char.isDigit

/-- The value of a decimal numeral, which may have a plus sign in front. -/
def numeral? (text : List Char) : Option Nat := do
  let digits := if text.head? = some '+' then text.tail else text
  guard (isDigits digits)
  return digits.foldl (fun value digit => 10 * value + (digit.toNat - '0'.toNat)) 0

/-- The level of detail that a text names: a level in any mixture of cases, `off`,
or a number from 0 to 5. -/
def detail? (text : List Char) : Option Nat :=
  let upper := text.map Char.toUpper
  match Level.all.find? (fun level => level.name.toList == upper) with
  | some level => some level.detail
  | none =>
    if upper = "OFF".toList then some 0
    else (numeral? text).filter (· ≤ Level.trace.detail)

/-! ## Values -/

/-- A text without a sign in front. -/
def unsigned : List Char → List Char
  | '+' :: text => text
  | '-' :: text => text
  | text => text

/-- Whether a text is what can follow the digits of a number: nothing, or a power of
ten. -/
def isPower : List Char → Bool
  | [] => true
  | char :: text => (char = 'e' || char = 'E') && isDigits (unsigned text)

/-- Whether a text is a number: digits with at most one point among them and a power
of ten after them, infinity, or `nan`, with a sign or without. -/
def isNumber (text : List Char) : Bool :=
  let text := unsigned text
  let whole := text.takeWhile Char.isDigit
  let rest := text.drop whole.length
  let fraction := if rest.head? = some '.' then rest.tail.takeWhile Char.isDigit else []
  let power := if rest.head? = some '.' then rest.tail.drop fraction.length else rest
  (isDigits (whole ++ fraction) && isPower power)
    || ["INF", "INFINITY", "NAN"].any fun name => name.toList == text.map Char.toUpper

/-- Whether a text can be the value of a field. -/
def isValue (text : List Char) : Bool :=
  isNumber text || Pattern.usable text

/-- The name and value that a field asks for. What follows a second `=` is not
considered. -/
def fieldParts (field : List Char) : List Char × Option (List Char) :=
  match field.splitOn '=' with
  | [] => ([], none)
  | name :: more => (name, more.head?)

/-! ## Places -/

/-- The number of bytes a text takes. -/
def size (text : List Char) : Nat :=
  (text.map Char.utf8Size).foldl (· + ·) 0

/-- A text cut in two after so many bytes, if a character ends there. -/
def cut? : Nat → List Char → Option (List Char × List Char)
  | 0, text => some ([], text)
  | _ + 1, [] => none
  | bytes + 1, char :: rest =>
    if char.utf8Size ≤ bytes + 1 then
      (cut? (bytes + 1 - char.utf8Size) rest).map fun (first, last) => (char :: first, last)
    else none

/-- What a text says in the place that a part of another text has after what is before
it there. -/
def excerpt? (text before part : List Char) : Option (List Char) := do
  let (_, rest) ← cut? (size before) text
  let (found, _) ← cut? (size part) rest
  return found

/-! ## Directives -/

/-- Whether a directive can begin with a character. -/
def begins (char : Char) : Bool :=
  isAlphanumeric char || char = '[' || char = '-' || char = ':' || char = '_'

/-- The parts of a directive. -/
structure Parts where
  target : List Char
  /-- What stands in brackets: a span, and a field if there is one. -/
  scope : Option (List Char × Option (List Char))
  /-- What stands after `=`. -/
  level : Option (List Char)
deriving DecidableEq

namespace Parts

/-- The level that the end of a directive gives, and nothing else may stand there. -/
def ending? : List Char → Option (Option (List Char))
  | [] => some none
  | '=' :: level => some (some level)
  | _ => none

/-- The parts of a directive, given the target and what follows the bracket after
it. -/
def ofScope? (target text : List Char) : Option Parts :=
  let span := text.takeWhile fun char => char != ']' && char != '\x7b'
  match text.drop span.length with
  | [] => none
  | ']' :: rest => (ending? rest).map fun level => ⟨target, some (span, none), level⟩
  | _ :: inside =>
    let field := inside.takeWhile (· != '\x7d')
    match inside.drop field.length with
    | '\x7d' :: ']' :: rest =>
      if field = [] then none
      else (ending? rest).map fun level => ⟨target, some (span, some field), level⟩
    | _ => none

/-- The parts of a directive that has no blanks around it. -/
def ofText? (text : List Char) : Option Parts :=
  let target := text.takeWhile fun char => char != '=' && char != '['
  match text.drop target.length with
  | '[' :: rest => ofScope? target rest
  | rest => (ending? rest).map fun level => ⟨target, none, level⟩

/-- The text before the level. -/
def beforeLevel (parts : Parts) : List Char :=
  parts.target ++
    match parts.scope with
    | none => ['=']
    | some (span, none) => ['['] ++ span ++ [']', '=']
    | some (span, some field) => ['['] ++ span ++ ['\x7b'] ++ field ++ ['\x7d', ']', '=']

/-- The parts as they stand in another text. The level goes to the end of it. -/
def within? (parts : Parts) (text : List Char) : Option Parts := do
  let target ← excerpt? text [] parts.target
  let scope ← parts.scope.mapM fun (span, field) => do
    let before := parts.target ++ ['[']
    let written ← field.mapM (excerpt? text (before ++ span ++ ['\x7b']))
    return (← excerpt? text before span, written)
  let level ← parts.level.mapM fun _ => (cut? (size parts.beforeLevel) text).map Prod.snd
  return ⟨target, scope, level⟩

/-- The level of detail up to which records are admitted: the greatest if nothing is
said about it. -/
def detail? (parts : Parts) : Option Nat :=
  match parts.level with
  | none => some Level.trace.detail
  | some [] => some Level.trace.detail
  | some level => Directive.detail? level

/-- The rules that the parts of a directive give, if they can be read. -/
def rules? (parts : Parts) : Option (List Rule) := do
  let target := String.ofList parts.target
  let detail ← parts.detail?
  match parts.scope with
  | none => return [⟨target, none, detail⟩]
  | some (_, none) => return []
  | some (span, some field) =>
    let (name, value) := fieldParts field
    guard (value.all isValue)
    if span = [] ∧ value = none then return [⟨target, some (String.ofList name), detail⟩]
    else return []

end Parts

/-- The rules that a directive gives, if it can be read. -/
def rules? (written : List Char) : Option (List Rule) := do
  let text := trim written
  guard (text.head?.any begins)
  let parts ← Parts.ofText? text
  match parts.scope, parts.level with
  | none, none =>
    match detail? written with
    | some detail => return [⟨"", none, detail⟩]
    | none => return [⟨String.ofList written, none, Level.trace.detail⟩]
  | _, _ => (← parts.within? written).rules?

end Directive

/-! ## Filters -/

namespace Rules

/-- The pieces of a text between commas, empty ones left out. -/
def pieces (text : String) : List (List Char) :=
  (text.toList.splitOn ',').filter (· ≠ [])

/-- The rules a text stands for, if each of its directives can be read. A text
without directives admits errors only. -/
def parse? (text : String) : Option (List Rule) := do
  match pieces text with
  | [] => return upTo .error
  | directives => return (← directives.mapM Directive.rules?).flatten

end Rules

end Log

end ByteMachine
