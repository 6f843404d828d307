import ByteMachine.Interface.Diagnostic
import ByteMachine.Model.Instruction

/-!
# Listings

The assembly text of an instruction. Mnemonics stand in a column of five
characters. Bytes that are no instruction are listed as data with a comment.
-/

set_option autoImplicit false

namespace ByteMachine

namespace Instruction

/-- The name of a register in a listing. -/
def registerName (index : UInt8) : String :=
  "R" ++ Numeral.decimal index.toNat

/-- The assembly text of an instruction. -/
def listing : Instruction → String
  | .ldi register value =>
    "LDI  " ++ registerName register ++ ", " ++ Numeral.decimal value.toNat
  | .prn register => "PRN  " ++ registerName register
  | .pra register => "PRA  " ++ registerName register
  | .mul first second => "MUL  " ++ registerName first ++ ", " ++ registerName second
  | .cmp first second => "CMP  " ++ registerName first ++ ", " ++ registerName second
  | .push register => "PUSH " ++ registerName register
  | .pop register => "POP  " ++ registerName register
  | .jmp register => "JMP  " ++ registerName register
  | .jeq register => "JEQ  " ++ registerName register
  | .jne register => "JNE  " ++ registerName register
  | .hlt => "HLT"

end Instruction

/-- The line listing an opcode and the two bytes after it. -/
def disassemble (opcode first second : UInt8) : String :=
  match Instruction.decode opcode first second with
  | .ok instruction => instruction.listing
  | .error fault => ".byte 0x" ++ Numeral.lowerHex 2 opcode.toNat ++ " ; " ++ fault.message

end ByteMachine
