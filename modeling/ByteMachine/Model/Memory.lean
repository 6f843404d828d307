import ByteMachine.Model.Fault

/-!
# Memory

Byte-addressed memory. The number of cells decides which addresses can be read
and written; the capacity a memory announces is what a loader checks a program
against, and need not agree with the number of cells. The machine's own memory
has 256 cells and announces as many.
-/

set_option autoImplicit false

namespace ByteMachine

/-- A row of byte cells with an announced capacity. -/
structure Memory where
  /-- The cells, from address 0. -/
  cells : Array UInt8
  /-- The number of bytes the memory claims to hold. -/
  capacity : Nat
deriving DecidableEq

namespace Memory

/-- A memory of `size` cells, all zero. -/
def zeroed (size capacity : Nat) : Memory where
  cells := Array.replicate size 0
  capacity := capacity

/-- The memory the machine starts with: 256 zero cells. -/
def ram : Memory :=
  zeroed 256 256

/-- The byte at an address, if there is a cell. -/
def peek? (memory : Memory) (address : Nat) : Option UInt8 :=
  memory.cells[address]?

/-- The byte at an address; an address without a cell is a bus fault. -/
def load (memory : Memory) (address : Nat) : Except Fault UInt8 :=
  match memory.peek? address with
  | some value => .ok value
  | none => .error (.bus address)

/-- The memory with one cell replaced; an address without a cell is a bus
fault. -/
def store (memory : Memory) (address : Nat) (value : UInt8) : Except Fault Memory :=
  if h : address < memory.cells.size then
    .ok { memory with cells := memory.cells.set address value h }
  else
    .error (.bus address)

/-- A load succeeds exactly at the addresses of cells. -/
theorem load_eq_ok_iff (memory : Memory) (address : Nat) (value : UInt8) :
    memory.load address = .ok value ↔ memory.peek? address = some value := by
  unfold load
  cases memory.peek? address <;> simp

/-- After a store the stored cell holds the value and the others are as
before. -/
theorem peek?_store {memory stored : Memory} {address : Nat} {value : UInt8}
    (h : memory.store address value = .ok stored) (other : Nat) :
    stored.peek? other = if other = address then some value else memory.peek? other := by
  unfold store at h
  split at h
  · next hlt =>
    cases h
    simp only [peek?, Array.getElem?_set]
    by_cases ho : address = other
    · simp [ho]
    · simp [ho, Ne.symm ho]
  · cases h

end Memory

end ByteMachine
