import ByteMachine.Model.Fault

/-!
# Instructions

The LS-8 instruction set: opcodes, the instructions they stand for, and the byte
code in which a program holds them.

An opcode has the layout `AABCDDDD`. The two bits `AA` count the operand bytes
that follow it, `B` marks an instruction of the arithmetic unit, `C` one that
sets the program counter itself, and `DDDD` tells instructions apart. An operand
is kept as the byte that was fetched, so that a byte which names no register is
refused when the register is used, not when the instruction is read.
-/

set_option autoImplicit false

namespace ByteMachine

/-! ## Opcodes -/

/-- Bits `high` down to `low` of a byte, moved to the bottom. -/
def bitField (value : UInt8) (high low : Nat) : UInt8 :=
  UInt8.ofNat ((value.toNat >>> low) % (1 <<< (high - low + 1)))

/-- The number of operand bytes that follow an opcode. -/
def operandCount (opcode : UInt8) : Nat :=
  (bitField opcode 7 6).toNat

/-! ## Instructions and their byte code -/

/-- An instruction together with its operand bytes. -/
inductive Instruction where
  /-- Set a register to a value. -/
  | ldi (register value : UInt8)
  /-- Print a register as a decimal number on a line of its own. -/
  | prn (register : UInt8)
  /-- Print the character whose code point a register holds. -/
  | pra (register : UInt8)
  /-- Multiply the first register by the second. -/
  | mul (first second : UInt8)
  /-- Set the equal flag if two registers agree. -/
  | cmp (first second : UInt8)
  /-- Put a register on the stack. -/
  | push (register : UInt8)
  /-- Take the top of the stack into a register. -/
  | pop (register : UInt8)
  /-- Go to the address a register holds. -/
  | jmp (register : UInt8)
  /-- Go there if the equal flag is set. -/
  | jeq (register : UInt8)
  /-- Go there if the equal flag is clear. -/
  | jne (register : UInt8)
  /-- Stop the machine. -/
  | hlt
deriving DecidableEq

namespace Instruction

/-- The opcode of an instruction. -/
def opcode : Instruction → UInt8
  | .ldi _ _ => 0x82
  | .prn _ => 0x47
  | .pra _ => 0x48
  | .mul _ _ => Operation.mul.opcode
  | .cmp _ _ => Operation.cmp.opcode
  | .push _ => 0x45
  | .pop _ => 0x46
  | .jmp _ => 0x54
  | .jeq _ => 0x55
  | .jne _ => 0x56
  | .hlt => 0x01

/-- The operand bytes of an instruction, in the order they are stored. -/
def operands : Instruction → List UInt8
  | .ldi register value => [register, value]
  | .mul first second => [first, second]
  | .cmp first second => [first, second]
  | .prn register => [register]
  | .pra register => [register]
  | .push register => [register]
  | .pop register => [register]
  | .jmp register => [register]
  | .jeq register => [register]
  | .jne register => [register]
  | .hlt => []

/-- The byte code of an instruction: its opcode and its operand bytes. -/
def encode (instruction : Instruction) : List UInt8 :=
  instruction.opcode :: instruction.operands

/-- The number of bytes an instruction occupies, which is how far the program
counter moves when the instruction does not set it. -/
def width (instruction : Instruction) : Nat :=
  1 + operandCount instruction.opcode

/-- Every instruction there is, with the given bytes for its operands. Of the
arithmetic operations only multiplication and comparison have one. -/
def all (first second : UInt8) : List Instruction :=
  [.ldi first second, .prn first, .pra first, .mul first second, .cmp first second,
    .push first, .pop first, .jmp first, .jeq first, .jne first, .hlt]

/-- The instruction spelled by an opcode and the two bytes after it. Bytes that
the opcode does not count among its operands are ignored. -/
def decode (opcode first second : UInt8) : Except Fault Instruction :=
  match (all first second).find? (fun instruction => instruction.opcode == opcode) with
  | some instruction => .ok instruction
  | none => .error (.unknownInstruction opcode)

/-- The operand count in an instruction's opcode is the number of operand bytes
it has. -/
theorem operandCount_opcode (instruction : Instruction) :
    operandCount instruction.opcode = instruction.operands.length := by
  cases instruction <;> simp [opcode, operands, Operation.opcode, operandCount, bitField]

/-- An instruction occupies as many bytes as its byte code has. -/
theorem length_encode (instruction : Instruction) :
    instruction.encode.length = instruction.width := by
  simp [encode, width, operandCount_opcode, Nat.add_comm]

/-- Reading back the byte code of an instruction gives the instruction, whatever
stands in place of operands it does not have. -/
theorem decode_opcode (instruction : Instruction) (first second : UInt8) :
    decode instruction.opcode (instruction.operands[0]?.getD first)
      (instruction.operands[1]?.getD second) = .ok instruction := by
  cases instruction <;> rfl

/-- An instruction that was read has the opcode it was read from. -/
theorem opcode_of_decode {code first second : UInt8} {instruction : Instruction}
    (h : decode code first second = .ok instruction) : instruction.opcode = code := by
  unfold decode at h
  split at h
  · next found hfound =>
    cases h
    simpa using List.find?_some hfound
  · cases h

end Instruction

end ByteMachine
