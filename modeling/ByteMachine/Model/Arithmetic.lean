/-!
# Arithmetic operations

The five operations an arithmetic opcode can name. All of them have a name and
an opcode; the arithmetic unit carries out addition, multiplication and
comparison, and refuses the other two (see `ByteMachine.Model.Cpu`).
-/

set_option autoImplicit false

namespace ByteMachine

/-- An operation of the arithmetic unit. -/
inductive Operation where
  | add
  | sub
  | mul
  | div
  | cmp
deriving DecidableEq

namespace Operation

/-- Every operation, in the order of their opcodes. -/
def all : List Operation :=
  [.add, .sub, .mul, .div, .cmp]

/-- The mnemonic of an operation. -/
def name : Operation → String
  | .add => "ADD"
  | .sub => "SUB"
  | .mul => "MUL"
  | .div => "DIV"
  | .cmp => "CMP"

/-- The opcode that names an operation. -/
def opcode : Operation → UInt8
  | .add => 0xA0
  | .sub => 0xA1
  | .mul => 0xA2
  | .div => 0xA3
  | .cmp => 0xA7

/-- The operation an opcode names, if it names one. -/
def ofOpcode? (opcode : UInt8) : Option Operation :=
  all.find? (fun operation => operation.opcode == opcode)

/-- The operation with a given mnemonic, if there is one. -/
def ofName? (name : String) : Option Operation :=
  all.find? (fun operation => operation.name == name)

end Operation

end ByteMachine
