import ByteMachine.Model.Arithmetic

/-!
# Faults and interruptions

The ways a cycle of the machine can go wrong, each with the byte or the address
that caused it, and the ways a run of cycles can end before a halt. How they read
to a person is decided in `ByteMachine.Interface.Diagnostic`.
-/

set_option autoImplicit false

namespace ByteMachine

/-- Why the machine could not complete a cycle. -/
inductive Fault where
  /-- The byte fetched as an opcode belongs to no instruction. -/
  | unknownInstruction (opcode : UInt8)
  /-- Memory has no cell at the address. -/
  | bus (address : Nat)
  /-- The byte names no register. -/
  | invalidRegister (index : UInt8)
  /-- The arithmetic unit does not carry out the operation. -/
  | unsupported (operation : Operation)
deriving DecidableEq

/-- Why a run ended before a halt. -/
inductive Interruption where
  /-- A cycle met a fault. -/
  | fault (cause : Fault)
  /-- A sink refused bytes or a flush, for the reason it gives. -/
  | output (reason : String)
deriving DecidableEq

end ByteMachine
