import ByteMachine.Model.Address
import ByteMachine.Model.Cpu
import ByteMachine.Model.Instruction
import ByteMachine.Model.Memory

/-!
# The machine

A processor and a memory, and the cycle that takes them from one state to the
next: fetch the instruction at the program counter, then carry it out. A cycle
is a function of the whole state. It signals whether the machine goes on, has
halted or has met a fault, and gives the state it leaves in each of the three
cases.
-/

set_option autoImplicit false

namespace ByteMachine

/-- A processor with its memory. -/
structure Machine where
  cpu : Cpu
  memory : Memory
deriving DecidableEq

/-- What a cycle says about going on. -/
inductive Signal where
  /-- An instruction was carried out. -/
  | running
  /-- The machine stands at a halt. -/
  | halted
  /-- The cycle could not be completed. -/
  | faulted (fault : Fault)
deriving DecidableEq

namespace Machine

/-- A reset processor with the given memory. -/
def start (memory : Memory) : Machine where
  cpu := Cpu.reset
  memory := memory

/-! ## Fetching -/

/-- The instruction at the program counter.

The opcode must be in memory and must belong to an instruction; only then does a
missing operand cell count, and only one that the opcode asks for. -/
def fetch (machine : Machine) : Except Fault Instruction := do
  let pc := machine.cpu.pc
  let opcode ← machine.memory.load pc
  let first := machine.memory.peek? (pc + 1)
  let second := machine.memory.peek? (pc + 2)
  let instruction ← Instruction.decode opcode (first.getD 0) (second.getD 0)
  if 1 ≤ operandCount opcode ∧ first = none then
    throw (.bus (pc + 1))
  if 2 ≤ operandCount opcode ∧ second = none then
    throw (.bus (pc + 2))
  return instruction

/-! ## Effects -/

/-- A computation on the machine that may meet a fault. A fault keeps what was
changed before it. -/
abbrev Effect := EStateM Fault Machine

namespace Effect

/-- The value of the register a byte names. -/
def readRegister (index : UInt8) : Effect UInt8 := fun machine =>
  match machine.cpu.read index with
  | .ok value => .ok value machine
  | .error fault => .error fault machine

/-- Replaces the register a byte names. -/
def writeRegister (index value : UInt8) : Effect Unit := fun machine =>
  match machine.cpu.write index value with
  | .ok cpu => .ok () { machine with cpu := cpu }
  | .error fault => .error fault machine

/-- Applies an arithmetic operation to two registers. -/
def compute (operation : Operation) (first second : UInt8) : Effect (Option UInt8) :=
  fun machine =>
    match machine.cpu.compute operation first second with
    | .ok (cpu, answer) => .ok answer { machine with cpu := cpu }
    | .error fault => .error fault machine

/-- The byte at an address of memory. -/
def load (address : Nat) : Effect UInt8 := fun machine =>
  match machine.memory.load address with
  | .ok value => .ok value machine
  | .error fault => .error fault machine

/-- Replaces the byte at an address of memory. -/
def store (address : Nat) (value : UInt8) : Effect Unit := fun machine =>
  match machine.memory.store address value with
  | .ok memory => .ok () { machine with memory := memory }
  | .error fault => .error fault machine

/-- Changes the processor. -/
def onCpu (change : Cpu → Cpu) : Effect Unit :=
  modify fun machine => { machine with cpu := change machine.cpu }

/-- Sets the program counter. -/
def goTo (address : Nat) : Effect Unit :=
  onCpu fun cpu => { cpu with pc := address }

/-- Goes to the address a register holds if `taken` says so, and to `next`
otherwise. The register is read in both cases. -/
def jump (index : UInt8) (taken : Bool) (next : Nat) : Effect Unit := do
  let target ← readRegister index
  goTo (if taken then target.toNat else next)

end Effect

/-! ## Carrying out an instruction -/

open Effect

/-- Carries out an instruction. The stack grows down: a push moves the stack
pointer before it reads the register, a pop moves it after it has written the
register. The program counter moves last. -/
def execute (instruction : Instruction) : Effect Unit := do
  let cpu := (← get).cpu
  let next := cpu.pc + instruction.width
  match instruction with
  | .ldi register value =>
    writeRegister register value
    goTo next
  | .prn register =>
    let value ← readRegister register
    onCpu (Cpu.print · (Numeral.decimal value.toNat ++ "\n"))
    goTo next
  | .pra register =>
    let value ← readRegister register
    onCpu (Cpu.print · (String.singleton (Char.ofUInt8 value)))
    goTo next
  | .mul first second =>
    if let some product ← compute .mul first second then
      writeRegister first product
    goTo next
  | .cmp first second =>
    let _ ← compute .cmp first second
    goTo next
  | .push register =>
    onCpu (fun cpu => cpu.setSp (cpu.sp - 1))
    let value ← readRegister register
    store (cpu.sp - 1).toNat value
    goTo next
  | .pop register =>
    let value ← load cpu.sp.toNat
    writeRegister register value
    onCpu (fun cpu => cpu.setSp (cpu.sp + 1))
    goTo next
  | .jmp register => jump register true next
  | .jeq register => jump register cpu.equal next
  | .jne register => jump register (!cpu.equal) next
  | .hlt => pure ()

/-! ## Cycles -/

/-- One cycle: the signal, and the state the machine is left in. A halt changes
nothing, however little memory follows it. -/
def cycle (machine : Machine) : Signal × Machine :=
  match machine.fetch with
  | .error fault => (.faulted fault, machine)
  | .ok .hlt => (.halted, machine)
  | .ok instruction =>
    match execute instruction machine with
    | .ok _ after => (.running, after)
    | .error fault after => (.faulted fault, after)

/-- What at most `count` cycles signal and leave, in order; nothing follows a
cycle that does not go on. -/
def cycles : Nat → Machine → List (Signal × Machine)
  | 0, _ => []
  | count + 1, machine =>
    match machine.cycle with
    | (.running, after) => (.running, after) :: cycles count after
    | (signal, after) => [(signal, after)]

/-- The machine with its printed bytes collected. -/
def collected (machine : Machine) : Machine :=
  { machine with cpu := machine.cpu.collected }

/-! ## Observation -/

/-- A view of the machine between two cycles. -/
structure Snapshot where
  pc : Nat
  flags : UInt8
  /-- The bytes at the program counter and the two addresses after it, as far as
  there are cells. -/
  window : Vector (Option UInt8) 3
  registers : Vector UInt8 8
deriving DecidableEq

/-- The view of a machine whose window goes on at the two given addresses. -/
def viewed (machine : Machine) (first second : Nat) : Snapshot where
  pc := machine.cpu.pc
  flags := machine.cpu.flags
  window := #v[machine.memory.peek? machine.cpu.pc, machine.memory.peek? first,
    machine.memory.peek? second]
  registers := machine.cpu.registers

/-- The view of a machine, in a build that wraps. -/
def snapshot (machine : Machine) : Snapshot :=
  machine.viewed (Address.ahead machine.cpu.pc 1) (Address.ahead machine.cpu.pc 2)

/-- The view of a machine that a build takes. None is taken where the program stops, because the
window would reach beyond the last address. -/
def capture (build : Build) (machine : Machine) : Option Snapshot := do
  let first ← build.ahead? machine.cpu.pc 1
  let second ← build.ahead? machine.cpu.pc 2
  return machine.viewed first second

/-- A wrapping build takes a view of every machine. -/
theorem capture_wrapping (machine : Machine) :
    machine.capture .wrapping = some machine.snapshot :=
  rfl

/-- A checked build takes the same view, unless the window reaches beyond the last address. -/
theorem capture_checked (machine : Machine) :
    machine.capture .checked =
      if machine.cpu.pc + 2 < Address.count then some machine.snapshot else none := by
  by_cases hfits : machine.cpu.pc + 2 < Address.count
  · have hfirst : machine.cpu.pc + 1 < Address.count := by omega
    simp [capture, snapshot, Build.ahead?, hfits, hfirst, Address.ahead_of_lt]
  · simp [capture, Build.ahead?, hfits]

end Machine

end ByteMachine
