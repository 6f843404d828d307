import ByteMachine.Model.Fault
import ByteMachine.Model.Text

/-!
# Diagnostics

The wording of faults and interruptions.
-/

set_option autoImplicit false

namespace ByteMachine

/-- How a fault reads. -/
def Fault.message : Fault → String
  | .unknownInstruction opcode => "Instruction unknown " ++ Numeral.decimal opcode.toNat
  | .bus address => "Bus error: address 0x" ++ Numeral.lowerHex 4 address ++ " out of range"
  | .invalidRegister index => "Invalid register R" ++ Numeral.decimal index.toNat
  | .unsupported operation => "Unsupported ALU operation: " ++ operation.name

/-- How an interruption reads. -/
def Interruption.message : Interruption → String
  | .fault cause => cause.message
  | .output reason => "Output error: " ++ reason

end ByteMachine
