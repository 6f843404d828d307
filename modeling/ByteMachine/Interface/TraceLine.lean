import ByteMachine.Model.Machine

/-!
# Trace lines

The line that shows a machine between two cycles: program counter, flags, the
three bytes at the program counter, and the registers, all as upper-case
hexadecimal numerals of at least two digits. An address without a cell shows as
`--`.
-/

set_option autoImplicit false

namespace ByteMachine

namespace Machine.Snapshot

/-- A byte in a trace line, with the blank before it. -/
def byteField (value : UInt8) : String :=
  " " ++ Numeral.upperHex 2 value.toNat

/-- A cell in a trace line, with the blank before it. -/
def cellField : Option UInt8 → String
  | some value => byteField value
  | none => " --"

/-- The trace line of a snapshot, without an end of line. -/
def line (view : Snapshot) : String :=
  "TRACE: " ++ Numeral.upperHex 2 view.pc ++ " |" ++ byteField view.flags ++ " |"
    ++ String.join (view.window.toList.map cellField) ++ " |"
    ++ String.join (view.registers.toList.map byteField)

end Machine.Snapshot

end ByteMachine
