import ByteMachine.Interface.Log

/-!
# Rules of a log

Which records a log filter admits that is given by rules. A rule applies to the records whose
target begins with its own, and if it names a field only to those with that field. Of several
rules that apply the most specific decides up to which level of detail a record is admitted.

The outer layer makes its filters of such rules. What is proved of the command is for any filter.
-/

set_option autoImplicit false

namespace ByteMachine

namespace Log

namespace Level

/-- Every level, from the gravest on. -/
def all : List Level :=
  [.error, .warn, .info, .debug, .trace]

/-- How detailed a level is, from 1 for the gravest. -/
def detail : Level → Nat
  | .error => 1
  | .warn => 2
  | .info => 3
  | .debug => 4
  | .trace => 5

end Level

/-- The names under which a record can be asked for: its message counts as a
field. -/
def Record.fieldNames (record : Record) : List String :=
  "message" :: record.fields.map Prod.fst

/-! ## Rules -/

/-- A rule about some of the records: they are admitted up to a level of detail. -/
structure Rule where
  /-- What the target of a record has to begin with. -/
  target : String
  /-- A field that a record has to have, if one is asked for. -/
  field : Option String
  detail : Nat
deriving DecidableEq

namespace Rule

/-- Whether a rule is about a record. -/
def applies (rule : Rule) (record : Record) : Bool :=
  rule.target.toList.isPrefixOf record.target.toList
    && rule.field.all (record.fieldNames.contains ·)

/-- Whether a field that a rule asks for makes it at least as specific as another
does: asking for one is more specific than asking for none, and the field with the
later name more than the one with the earlier. -/
def fieldAtLeast : Option String → Option String → Bool
  | _, none => true
  | none, some _ => false
  | some field, some other => !decide (field < other)

/-- Whether a rule is at least as specific as another that applies as well: by a
longer target, and with targets of one length by its field. -/
def atLeast (rule other : Rule) : Bool :=
  other.target.length < rule.target.length
    || other.target.length == rule.target.length && fieldAtLeast rule.field other.field

/-- Of two rules the more specific, and of two that are equally specific the
later. -/
def moreSpecific (earlier later : Rule) : Rule :=
  if later.atLeast earlier then later else earlier

end Rule

/-! ## Lists of rules -/

namespace Rules

/-- Admits the records up to a level, of every target. -/
def upTo (level : Level) : List Rule :=
  [⟨"", none, level.detail⟩]

/-- The rule that decides about a record, if one applies. -/
def deciding? (rules : List Rule) (record : Record) : Option Rule :=
  (rules.filter (·.applies record)).foldl
    (fun chosen rule => some (chosen.elim rule (·.moreSpecific rule))) none

/-- Whether a record is admitted by rules. -/
def admits (rules : List Rule) (record : Record) : Bool :=
  match deciding? rules record with
  | some rule => record.level.detail ≤ rule.detail
  | none => false

end Rules

end Log

end ByteMachine
