import ByteMachine.Model.Fault
import ByteMachine.Model.Text

/-!
# The processor

Eight byte registers, a program counter, a flags byte, and the output printed
but not yet collected. Register 7 is the stack pointer. The program counter is an
address and not a byte: falling through the last cell of memory takes it past the
addresses of all cells. Of the natural numbers that it ranges over, those below
`Address.count` are what a machine word can hold.
-/

set_option autoImplicit false

namespace ByteMachine

/-- The state of the processor. -/
structure Cpu where
  /-- Registers `R0` to `R7`. -/
  registers : Vector UInt8 8
  /-- The address of the next instruction. -/
  pc : Nat
  /-- The flags byte; its lowest bit is the equal flag. -/
  flags : UInt8
  /-- Printed bytes that have not been collected. -/
  pending : List UInt8
deriving DecidableEq

namespace Cpu

/-- The processor after a reset: all zero, with the stack pointer at `0xF4`. -/
def reset : Cpu where
  registers := #v[0, 0, 0, 0, 0, 0, 0, 0xF4]
  pc := 0
  flags := 0
  pending := []

/-! ## Registers -/

/-- The value of the register a byte names. -/
def read (cpu : Cpu) (index : UInt8) : Except Fault UInt8 :=
  if h : index.toNat < 8 then .ok cpu.registers[index.toNat]
  else .error (.invalidRegister index)

/-- The processor with the register a byte names replaced. -/
def write (cpu : Cpu) (index value : UInt8) : Except Fault Cpu :=
  if h : index.toNat < 8 then
    .ok { cpu with registers := cpu.registers.set index.toNat value h }
  else .error (.invalidRegister index)

/-- After a write the written register has the value and the others are as
before. -/
theorem read_write {cpu written : Cpu} {index value : UInt8}
    (h : cpu.write index value = .ok written) (other : UInt8) :
    written.read other = if other = index then .ok value else cpu.read other := by
  unfold write at h
  split at h
  · next hindex =>
    cases h
    by_cases hother : other = index
    · subst hother
      simp [read, hindex]
    · have hne : index.toNat ≠ other.toNat := fun heq => hother (UInt8.toNat_inj.mp heq.symm)
      simp [read, hother, hne]
  · cases h

/-- The stack pointer. -/
def sp (cpu : Cpu) : UInt8 :=
  cpu.registers[7]

/-- The processor with its stack pointer replaced. -/
def setSp (cpu : Cpu) (value : UInt8) : Cpu :=
  { cpu with registers := cpu.registers.set 7 value }

/-! ## Flags and output -/

/-- Whether the equal flag is set. -/
def equal (cpu : Cpu) : Bool :=
  cpu.flags &&& 1 != 0

/-- The processor with the equal flag set and the other flags as they were. -/
def setEqual (cpu : Cpu) : Cpu :=
  { cpu with flags := cpu.flags ||| 1 }

/-- The processor after printing a text. -/
def print (cpu : Cpu) (text : String) : Cpu :=
  { cpu with pending := cpu.pending ++ utf8 text }

/-- The processor with its printed bytes collected. -/
def collected (cpu : Cpu) : Cpu :=
  { cpu with pending := [] }

/-! ## Arithmetic -/

/-- Applies an operation to two registers. Both registers are read before the
operation is considered. Addition and multiplication wrap and replace the first
register; multiplication also answers the product. Comparison sets the equal
flag if the values agree and never clears it. Subtraction and division are not
carried out. -/
def compute (cpu : Cpu) (operation : Operation) (first second : UInt8) :
    Except Fault (Cpu × Option UInt8) := do
  let left ← cpu.read first
  let right ← cpu.read second
  match operation with
  | .add => return (← cpu.write first (left + right), none)
  | .mul => return (← cpu.write first (left * right), some (left * right))
  | .cmp => return (if left = right then cpu.setEqual else cpu, none)
  | .sub => throw (.unsupported .sub)
  | .div => throw (.unsupported .div)

end Cpu

end ByteMachine
