import ByteMachine.Shell.Alphanumeric
import ByteMachine.Interface.Blank

/-!
# Patterns

A pattern is a regular expression. Nothing is compared with one here; what is
decided is whether it could be, by a matcher that goes through UTF-8 byte by byte.

Such a matcher has no tables of Unicode. Shorthands such as `\w`, the folding of
case and the edges of words are therefore out of its reach unless Unicode is
switched off, which leaves ASCII. Where it is switched off, on the other hand,
nothing may stand for a byte that is only a part of a character, as a dot or a
negated class would.

A pattern is read once from left to right. A pattern that repeats something a
counted number of times cannot be written, so an opening brace has no meaning.

The outer layer needs this to tell which directives of a filter are well formed, and no theorem
speaks of it.
-/

set_option autoImplicit false

namespace ByteMachine

namespace Pattern

/-! ## Modes -/

/-- How the characters of a pattern are understood. -/
structure Mode where
  /-- A letter stands for both of its cases. -/
  caseless : Bool
  /-- Characters are those of Unicode and not bytes. -/
  unicode : Bool
  /-- Blanks are skipped, and so are comments, which go from `#` to the end of the
  line. -/
  spaced : Bool
deriving DecidableEq

namespace Mode

/-- The mode at the beginning of a pattern. -/
def initial : Mode where
  caseless := false
  unicode := true
  spaced := false

/-- The letters of the flags. Those that only say what a line is, which way to look
for a match, or what a dot is do not change the mode. -/
def letters : List Char :=
  ['i', 'm', 's', 'U', 'u', 'R', 'x']

/-- The mode after a flag was switched on or off. -/
def switch (mode : Mode) (letter : Char) (on : Bool) : Mode :=
  if letter = 'i' then { mode with caseless := on }
  else if letter = 'u' then { mode with unicode := on }
  else if letter = 'x' then { mode with spaced := on }
  else mode

/-- Whether flags are well formed: letters, of which those after a dash are switched
off, each no more than once, and something after the dash. -/
def areFlags (flags : List Char) : Bool :=
  flags.all (fun flag => flag = '-' || flag ∈ letters)
    && flags.Nodup
    && flags.getLast? != some '-'

/-- The mode after flags. -/
def withFlags (mode : Mode) (flags : List Char) : Mode :=
  let on := flags.takeWhile (· != '-')
  let off := flags.drop on.length
  off.foldl (·.switch · false) (on.foldl (·.switch · true) mode)

end Mode

/-- A text without the blanks and comments it begins with. A text that begins inside
a comment goes on after the end of the line. -/
def skipSpace (comment : Bool) : List Char → List Char
  | [] => []
  | char :: rest =>
    if comment then skipSpace (char != '\n') rest
    else if isBlank char then skipSpace false rest
    else if char = '#' then skipSpace true rest
    else char :: rest

/-- A text without what a mode skips at its beginning. -/
def skip (mode : Mode) (text : List Char) : List Char :=
  if mode.spaced then skipSpace false text else text

/-! ## Atoms -/

/-- What can stand alone in a pattern. -/
inductive Atom where
  /-- A character, which stands for itself. -/
  | literal (char : Char)
  /-- A byte, given by two hexadecimal digits. -/
  | byte (value : Nat)
  /-- Any character but the end of a line. -/
  | any
  /-- The beginning or end of a text or line. -/
  | edge
  /-- The beginning or end of a word, or a place that is neither. -/
  | wordEdge
  /-- A shorthand for digits, blanks or the characters of words, or for all others. -/
  | shorthand (negated : Bool)
deriving DecidableEq

namespace Atom

/-- The code point of an atom that is one character. -/
def code? : Atom → Option Nat
  | .literal char => some char.toNat
  | .byte value => some value
  | _ => none

/-- Whether a matcher can do without tables of Unicode, and without parts of
characters, for an atom outside a class. -/
def usable (mode : Mode) : Atom → Bool
  | .literal _ => !(mode.unicode && mode.caseless)
  | .byte value => if mode.unicode then !mode.caseless else value < 128
  | .any => mode.unicode
  | .edge => true
  | .wordEdge => !mode.unicode
  | .shorthand negated => !mode.unicode && !negated

/-- The same for an atom inside a class, where only characters and shorthands can
stand. -/
def usableInClass (mode : Mode) (atom : Atom) : Bool :=
  match atom, atom.code? with
  | _, some code => if mode.unicode then !mode.caseless else code < 128
  | .shorthand _, none => atom.usable mode
  | _, none => false

end Atom

/-- The value of a hexadecimal digit. -/
def hexDigit? (char : Char) : Option Nat :=
  if char.isDigit then some (char.toNat - '0'.toNat)
  else if 'a' ≤ char ∧ char ≤ 'f' then some (char.toNat - 'a'.toNat + 10)
  else if 'A' ≤ char ∧ char ≤ 'F' then some (char.toNat - 'A'.toNat + 10)
  else none

/-- The value of so many hexadecimal digits, after a value that was read before, and
what follows them. -/
def hexValue? (mode : Mode) : Nat → Nat → List Char → Option (Nat × List Char)
  | 0, value, text => some (value, text)
  | _ + 1, _, [] => none
  | digits + 1, value, char :: rest => do
    hexValue? mode digits (16 * value + (← hexDigit? char)) (skip mode rest)

/-- The character with a given code point. -/
def charOf? (code : Nat) : Option Char :=
  if code.isValidChar then some (Char.ofNat code) else none

/-- The control characters that have a letter. -/
def controls : List (Char × Char) :=
  [('a', '\x07'), ('f', '\x0c'), ('t', '\t'), ('n', '\n'), ('r', '\r'), ('v', '\x0b')]

/-- The atom that the text after a backslash begins with, and what follows it. A
mark of ASCII that is neither a letter nor a digit can be given in this way, and of
the letters only those with a meaning. -/
def escape? (mode : Mode) : List Char → Option (Atom × List Char)
  | [] => none
  | char :: rest =>
    if char = 'x' then do
      let (value, rest) ← hexValue? mode 2 0 (skip mode rest)
      return (.byte value, rest)
    else if char = 'u' ∨ char = 'U' then do
      let (value, rest) ← hexValue? mode (if char = 'u' then 4 else 8) 0 (skip mode rest)
      return (.literal (← charOf? value), rest)
    else if char ∈ ['d', 's', 'w'] then some (.shorthand false, rest)
    else if char ∈ ['D', 'S', 'W'] then some (.shorthand true, rest)
    else if char ∈ ['b', 'B', '<', '>'] then some (.wordEdge, rest)
    else if char ∈ ['A', 'z'] then some (.edge, rest)
    else if char.toNat < 128 ∧ !char.isAlphanum then some (.literal char, rest)
    else (controls.lookup char).map fun control => (.literal control, rest)

/-! ## Depth -/

/-- How deep a row of parts is nested, from the depths of the parts: a row of two or
more is one deeper than its deepest part. -/
def rowDepth : List Nat → Nat
  | [] => 0
  | [depth] => depth
  | depths => depths.foldl max 0 + 1

/-! ## Classes -/

/-- A class in brackets that has not been closed yet. -/
structure Bracket where
  /-- The depth of the operands before the last operator, if there was one. -/
  left : Option Nat
  /-- The depths of the members after it. -/
  members : List Nat
  /-- Whether nothing but dashes has been read. -/
  fresh : Bool
deriving DecidableEq

namespace Bracket

/-- A bracket that was just opened. -/
def opened : Bracket where
  left := none
  members := []
  fresh := true

/-- With one member more. -/
def add (bracket : Bracket) (depth : Nat) : Bracket :=
  { bracket with members := depth :: bracket.members }

/-- The depth of what is inside. -/
def inner (bracket : Bracket) : Nat :=
  match bracket.left with
  | none => rowDepth bracket.members
  | some left => max left (rowDepth bracket.members) + 1

/-- After an operator, which takes all before it as its left side. -/
def operated (bracket : Bracket) : Bracket where
  left := some bracket.inner
  members := []
  fresh := false

end Bracket

/-- The names of the classes of ASCII. -/
def classNames : List String :=
  ["alnum", "alpha", "ascii", "blank", "cntrl", "digit", "graph", "lower", "print",
    "punct", "space", "upper", "word", "xdigit"]

/-- Whether a class of ASCII can be a member of a class: one of characters folds no
case, and one of bytes is not negated. -/
def namedUsable (mode : Mode) (negated : Bool) : Bool :=
  if mode.unicode then !mode.caseless else !negated

/-- Whether the class of ASCII is negated that a text begins with, such as `[:digit:]`
or `[:^digit:]`, and what follows it. -/
def namedClass? : List Char → Option (Bool × List Char)
  | '[' :: ':' :: text =>
    let negated := text.head? = some '^'
    let text := if negated then text.tail else text
    let name := text.takeWhile (· != ':')
    match text.drop name.length with
    | ':' :: ']' :: rest =>
      if String.ofList name ∈ classNames then some (negated, rest) else none
    | _ => none
  | _ => none

/-- A character or escape inside a class, and what follows it. -/
def classAtom? (mode : Mode) : List Char → Option (Atom × List Char)
  | [] => none
  | '\\' :: rest => escape? mode rest
  | char :: rest => some (.literal char, rest)

/-- The character after the first one that decides whether a dash in first place
makes a range. Blanks are passed over, and so is the beginning of a comment. -/
def afterDash (mode : Mode) (text : List Char) : Option Char :=
  if mode.spaced then
    let following := text.tail.dropWhile isBlank
    let following :=
      if following.head? = some '#' then following.tail.dropWhile isBlank else following
    (following.head?).or text.tail.head?
  else text.tail.head?

/-- What follows the member of a class that a text begins with: one atom, or a range
of characters that ascends. -/
def afterMember? (mode : Mode) (text : List Char) : Option (List Char) := do
  let (first, rest) ← classAtom? mode text
  let rest := skip mode rest
  guard (first.usableInClass mode)
  if rest.head? = some '-' ∧ afterDash mode rest ∉ [some ']', some '-'] then
    let (last, rest) ← classAtom? mode (skip mode rest.tail)
    guard (last.usableInClass mode)
    guard ((← first.code?) ≤ (← last.code?))
    return rest
  else return rest

/-- The bracket after the opening one, and what follows it. A negated class has to
be one of characters. -/
def opening? (mode : Mode) (text : List Char) : Option (Bracket × List Char) :=
  match skip mode text with
  | '^' :: rest => if mode.unicode then some (.opened, rest) else none
  | rest => some (.opened, rest)

/-- The depth of the class that ends the bracket, and what follows it, in at most
`fuel` steps. The brackets in `outer` are around it, the innermost first. A dash at
the beginning is a member, and so is a closing bracket in first place. -/
def class? (mode : Mode) : Nat → Bracket → List Bracket → List Char → Option (Nat × List Char)
  | 0, _, _, _ => none
  | fuel + 1, bracket, outer, text =>
    let text := skip mode text
    let started := { bracket with fresh := false }
    if bracket.fresh && text.head? == some '-' then
      if (Atom.literal '-').usableInClass mode then class? mode fuel (bracket.add 0) outer text.tail
      else none
    else if bracket.fresh && bracket.members.isEmpty && text.head? == some ']' then
      if (Atom.literal ']').usableInClass mode then class? mode fuel (started.add 0) outer text.tail
      else none
    else
      match text with
      | '[' :: rest =>
        match namedClass? text with
        | some (negated, rest) =>
          if namedUsable mode negated then class? mode fuel (started.add 0) outer rest
          else none
        | none =>
          match opening? mode rest with
          | some (inside, rest) => class? mode fuel inside (started :: outer) rest
          | none => none
      | ']' :: rest =>
        match outer with
        | [] => some (started.inner + 1, rest)
        | around :: outer => class? mode fuel (around.add (started.inner + 1)) outer rest
      | '&' :: '&' :: rest => class? mode fuel started.operated outer rest
      | '-' :: '-' :: rest => class? mode fuel started.operated outer rest
      | '~' :: '~' :: rest => class? mode fuel started.operated outer rest
      | _ =>
        match afterMember? mode text with
        | some rest => class? mode fuel (started.add 0) outer rest
        | none => none

/-! ## Groups -/

/-- Whether a text can be the name of a group. -/
def isName : List Char → Bool
  | [] => false
  | first :: rest =>
    (first = '_' || isAlphabetic first)
      && rest.all fun char => char = '_' || char = '.' || char = '[' || char = ']'
        || isAlphanumeric char

/-- What the beginning of a group says, after the opening parenthesis. -/
inductive Beginning where
  /-- The group is a part of the pattern. -/
  | group
  /-- The group has a name. -/
  | named (name : List Char)
  /-- The group has flags. -/
  | flagged (flags : List Char)
  /-- There is no group, only flags for what follows. -/
  | flags (flags : List Char)
deriving DecidableEq

/-- The name a text begins with, up to `>`, and what follows. -/
def name? (text : List Char) : Option (Beginning × List Char) :=
  let name := text.takeWhile (· != '>')
  match text.drop name.length with
  | _ :: rest => if isName name then some (.named name, rest) else none
  | [] => none

/-- The beginning of a group, and what follows it. -/
def beginning? : List Char → Option (Beginning × List Char)
  | '?' :: 'P' :: '<' :: text => name? text
  | '?' :: '<' :: text => name? text
  | '?' :: text =>
    let flags := text.takeWhile fun char => char != ':' && char != ')'
    if Mode.areFlags flags then
      match text.drop flags.length with
      | ':' :: rest => some (.flagged flags, rest)
      | _ :: rest => if flags = [] then none else some (.flags flags, rest)
      | [] => none
    else none
  | text => some (.group, text)

/-! ## Patterns -/

/-- A part of a pattern. -/
structure Part where
  depth : Nat
  /-- Whether a repetition can follow. -/
  repeatable : Bool
deriving DecidableEq

/-- What has been read of a group, or of the whole pattern. -/
structure Branches where
  /-- The depths of the branches before the last `|`. -/
  earlier : List Nat
  /-- The parts after it, the last first. -/
  parts : List Part
deriving DecidableEq

namespace Branches

/-- Nothing has been read. -/
def empty : Branches where
  earlier := []
  parts := []

/-- With one part more. -/
def add (branches : Branches) (depth : Nat) (repeatable : Bool) : Branches :=
  { branches with parts := ⟨depth, repeatable⟩ :: branches.parts }

/-- With a new branch. -/
def next (branches : Branches) : Branches where
  earlier := rowDepth (branches.parts.map Part.depth) :: branches.earlier
  parts := []

/-- With the last part repeated, if it can be. -/
def repeated? (branches : Branches) : Option Branches :=
  match branches.parts with
  | ⟨depth, true⟩ :: parts => some { branches with parts := ⟨depth + 1, true⟩ :: parts }
  | _ => none

/-- The depth of all branches together. -/
def depth (branches : Branches) : Nat :=
  rowDepth branches.next.earlier

end Branches

/-- What has been read of a pattern. -/
structure Progress where
  mode : Mode
  /-- The names of groups. -/
  names : List (List Char)
  /-- The innermost open group. -/
  branches : Branches
  /-- The modes and groups around it, the innermost first. -/
  outer : List (Mode × Branches)
deriving DecidableEq

namespace Progress

/-- Nothing has been read. -/
def initial : Progress where
  mode := .initial
  names := []
  branches := .empty
  outer := []

/-- With one part more. -/
def add (progress : Progress) (depth : Nat) (repeatable : Bool) : Progress :=
  { progress with branches := progress.branches.add depth repeatable }

/-- With a group opened, in which a mode applies. -/
def enter (progress : Progress) (mode : Mode) : Progress :=
  { progress with
    mode := mode
    branches := .empty
    outer := (progress.mode, progress.branches) :: progress.outer }

/-- After the beginning of a group. No two groups can have the same name. -/
def begin? (progress : Progress) : Beginning → Option Progress
  | .group => some (progress.enter progress.mode)
  | .named name =>
    if name ∈ progress.names then none
    else some { progress.enter progress.mode with names := name :: progress.names }
  | .flagged flags => some (progress.enter (progress.mode.withFlags flags))
  | .flags flags =>
    some { progress.add 0 false with mode := progress.mode.withFlags flags }

/-- With the innermost group closed, if one is open. The mode around it applies
again. -/
def leave? (progress : Progress) : Option Progress :=
  match progress.outer with
  | [] => none
  | (mode, branches) :: outer =>
    some { progress with
      mode := mode
      branches := branches.add (progress.branches.depth + 1) true
      outer := outer }

/-- With an atom more, if a matcher can do with it. -/
def atom? (progress : Progress) (atom : Atom) : Option Progress :=
  if atom.usable progress.mode then some (progress.add 0 true) else none

/-- After the next piece of a pattern, and what follows it. -/
def piece? (progress : Progress) (first : Char) (rest : List Char) :
    Option (Progress × List Char) := do
  let mode := progress.mode
  match first with
  | '(' =>
    let (beginning, rest) ← beginning? (skip mode rest)
    return (← progress.begin? beginning, rest)
  | ')' => return (← progress.leave?, rest)
  | '|' => return ({ progress with branches := progress.branches.next }, rest)
  | '[' =>
    let (bracket, inside) ← opening? mode rest
    let (depth, rest) ← class? mode (inside.length + 1) bracket [] inside
    return (progress.add depth true, rest)
  | '?' | '*' | '+' =>
    let branches ← progress.branches.repeated?
    return ({ progress with branches }, if rest.head? = some '?' then rest.tail else rest)
  | '{' => none
  | '\\' =>
    let (atom, rest) ← escape? mode rest
    return (← progress.atom? atom, rest)
  | '.' => return (← progress.atom? .any, rest)
  | '^' | '$' => return (← progress.atom? .edge, rest)
  | char => return (← progress.atom? (.literal char), rest)

/-- The depth of a pattern that can be read to its end in at most `fuel` pieces. -/
def depth? : Nat → Progress → List Char → Option Nat
  | 0, _, _ => none
  | fuel + 1, progress, text =>
    match skip progress.mode text with
    | [] => if progress.outer = [] then some progress.branches.depth else none
    | first :: rest =>
      match progress.piece? first rest with
      | some (progress, rest) => progress.depth? fuel rest
      | none => none

end Progress

/-- The depth to which patterns may be nested. -/
def depthLimit : Nat := 250

/-- Whether a text is a pattern that a matcher can do with. A piece takes at least
one character, so there are no more pieces than characters. -/
def usable (text : List Char) : Bool :=
  (Progress.initial.depth? (text.length + 1) text).any (· ≤ depthLimit)

end Pattern

end ByteMachine
