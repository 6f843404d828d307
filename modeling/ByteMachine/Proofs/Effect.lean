import ByteMachine.Model.Machine

/-!
# What an instruction does

The effect of an instruction, stated part by part: the registers, the program
counter, the flags, the printed bytes and the memory it leaves, as functions of
the machine before it. Apart from the effect stands the obstacle, the first check
that the instruction does not pass.

`Machine.execute_eq` says that carrying an instruction out is exactly this: with
no obstacle the machine is left with the effect, and with an obstacle it is left
as it was, except that a push has moved the stack pointer.
-/

set_option autoImplicit false

namespace ByteMachine

/-! ## Registers and cells -/

/-- The fault of an operation that is not carried out. -/
def Operation.refused? : Operation → Option Fault
  | .sub => some (.unsupported .sub)
  | .div => some (.unsupported .div)
  | _ => none

namespace Cpu

/-- The value of the register a byte names, and zero if it names none. -/
def value (cpu : Cpu) (index : UInt8) : UInt8 :=
  cpu.registers[index.toNat]?.getD 0

/-- The processor with the register a byte names replaced, if it names one. -/
def put (cpu : Cpu) (index value : UInt8) : Cpu :=
  { cpu with registers := cpu.registers.setIfInBounds index.toNat value }

/-- The stack pointer is what it was set to. -/
@[simp] theorem sp_setSp (cpu : Cpu) (value : UInt8) : (cpu.setSp value).sp = value := by
  simp [sp, setSp]

/-- Replacing a register moves the stack pointer only if it is that register. -/
theorem sp_put_of_ne (cpu : Cpu) {index : UInt8} (value : UInt8) (h : index ≠ 7) :
    (cpu.put index value).sp = cpu.sp := by
  have hne : index.toNat ≠ 7 := fun heq => h (UInt8.toNat_inj.mp heq)
  simp [sp, put, hne]

/-- A register that exists holds the value put into it. -/
theorem value_put_self (cpu : Cpu) {index : UInt8} (value : UInt8) (h : index.toNat < 8) :
    (cpu.put index value).value index = value := by
  simp [Cpu.value, put, h]

/-- Setting the stack pointer leaves every other register as it was. -/
theorem value_setSp_of_ne (cpu : Cpu) {index : UInt8} (value : UInt8) (h : index ≠ 7) :
    (cpu.setSp value).value index = cpu.value index := by
  have hne : 7 ≠ index.toNat := fun heq => h (UInt8.toNat_inj.mp heq.symm)
  simp [Cpu.value, setSp, hne]

/-- The fault of a byte that names no register. -/
def unnamed? (index : UInt8) : Option Fault :=
  if index.toNat < 8 then none else some (.invalidRegister index)

/-- The byte 8 and those above it name no register. -/
theorem unnamed?_eq (index : UInt8) :
    unnamed? index = if 8 ≤ index.toNat then some (.invalidRegister index) else none := by
  unfold unnamed?
  split
  · next hlt => rw [if_neg (Nat.not_le.mpr hlt)]
  · next hge => rw [if_pos (Nat.not_lt.mp hge)]

/-- The bytes below 8 name registers. -/
theorem unnamed?_eq_none_iff (index : UInt8) : unnamed? index = none ↔ index.toNat < 8 := by
  unfold unnamed?
  split <;> simp_all

/-- The fault of a byte that names no register is told with this byte. -/
theorem unnamed?_eq_some_iff {index : UInt8} {fault : Fault} :
    unnamed? index = some fault ↔ 8 ≤ index.toNat ∧ fault = .invalidRegister index := by
  rw [unnamed?_eq, Option.ite_none_right_eq_some, Option.some.injEq, @eq_comm _ _ fault]

/-- A register is read if it exists, and the fault names it otherwise. -/
theorem read_eq (cpu : Cpu) (index : UInt8) :
    cpu.read index =
      if index.toNat < 8 then .ok (cpu.value index) else .error (.invalidRegister index) := by
  unfold read value
  split <;> simp_all

/-- Reading a register that exists gives its value. -/
theorem read_of_named (cpu : Cpu) {index : UInt8} (h : unnamed? index = none) :
    cpu.read index = .ok (cpu.value index) := by
  rw [read_eq, if_pos ((unnamed?_eq_none_iff index).mp h)]

/-- Reading gives a value exactly if the register exists and holds it. -/
theorem read_eq_ok_iff {cpu : Cpu} {index value : UInt8} :
    cpu.read index = .ok value ↔ index.toNat < 8 ∧ cpu.value index = value := by
  rw [read_eq]
  split
  · next hlt => simp [hlt]
  · next hge => simp [hge]

/-- The processor after an operation that is carried out. -/
def computed (cpu : Cpu) (operation : Operation) (first second : UInt8) : Cpu :=
  match operation with
  | .add => cpu.put first (cpu.value first + cpu.value second)
  | .mul => cpu.put first (cpu.value first * cpu.value second)
  | .cmp => if cpu.value first = cpu.value second then cpu.setEqual else cpu
  | .sub | .div => cpu

/-- What an operation answers that is carried out. -/
def answer? (cpu : Cpu) (operation : Operation) (first second : UInt8) : Option UInt8 :=
  match operation with
  | .mul => some (cpu.value first * cpu.value second)
  | _ => none

/-- A register is written if it exists, and the fault names it otherwise. -/
theorem write_eq (cpu : Cpu) (index value : UInt8) :
    cpu.write index value =
      if index.toNat < 8 then .ok (cpu.put index value) else .error (.invalidRegister index) := by
  unfold write put
  split
  · next h => simp [Vector.set, Vector.setIfInBounds, Array.setIfInBounds, h]
  · rfl

end Cpu

namespace Memory

/-- The byte in a cell, and zero if there is no cell. -/
def cell (memory : Memory) (address : Nat) : UInt8 :=
  (memory.peek? address).getD 0

/-- The memory with a cell replaced, if there is one. -/
def put (memory : Memory) (address : Nat) (value : UInt8) : Memory :=
  { memory with cells := memory.cells.setIfInBounds address value }

/-- The fault of an address without a cell. -/
def missing? (memory : Memory) (address : Nat) : Option Fault :=
  if address < memory.cells.size then none else some (.bus address)

/-- Addresses from the size of the memory on have no cells. -/
theorem missing?_eq (memory : Memory) (address : Nat) :
    memory.missing? address =
      if memory.cells.size ≤ address then some (.bus address) else none := by
  unfold missing?
  split
  · next hlt => rw [if_neg (Nat.not_le.mpr hlt)]
  · next hge => rw [if_pos (Nat.not_lt.mp hge)]

/-- The addresses below the size have cells. -/
theorem missing?_eq_none_iff (memory : Memory) (address : Nat) :
    memory.missing? address = none ↔ address < memory.cells.size := by
  unfold missing?
  split <;> simp_all

/-- The fault of an address without a cell is told with this address. -/
theorem missing?_eq_some_iff {memory : Memory} {address : Nat} {fault : Fault} :
    memory.missing? address = some fault ↔
      memory.cells.size ≤ address ∧ fault = .bus address := by
  rw [missing?_eq, Option.ite_none_right_eq_some, Option.some.injEq, @eq_comm _ _ fault]

/-- The only thing wrong with an address is that it has no cell. -/
theorem missing?_cases (memory : Memory) (address : Nat) :
    memory.missing? address = none ∨ memory.missing? address = some (.bus address) := by
  unfold missing?
  split
  · exact .inl rfl
  · exact .inr rfl

/-- A cell can be read exactly at the addresses below the size. -/
theorem peek?_eq (memory : Memory) (address : Nat) :
    memory.peek? address =
      if address < memory.cells.size then some (memory.cell address) else none := by
  unfold cell peek?
  split
  · next h => simp [h]
  · next h => exact Array.getElem?_eq_none (by omega)

/-- There is nothing to see at an address without a cell. -/
theorem peek?_eq_none_iff (memory : Memory) (address : Nat) :
    memory.peek? address = none ↔ memory.cells.size ≤ address :=
  Array.getElem?_eq_none_iff

/-- Where a byte is seen, there is a cell. -/
theorem lt_size_of_peek? {memory : Memory} {address : Nat} {value : UInt8}
    (h : memory.peek? address = some value) : address < memory.cells.size := by
  rw [peek?_eq] at h
  split at h
  · next hlt => exact hlt
  · cases h

/-- The byte seen at an address is what its cell holds. -/
theorem cell_of_peek? {memory : Memory} {address : Nat} {value : UInt8}
    (h : memory.peek? address = some value) : memory.cell address = value := by
  rw [cell, h]
  rfl

/-- A byte put into a cell is seen there, and the other cells look as before. -/
theorem peek?_put (memory : Memory) (address : Nat) (value : UInt8) (other : Nat) :
    (memory.put address value).peek? other =
      if address = other ∧ address < memory.cells.size then some value
      else memory.peek? other := by
  unfold put peek?
  rw [Array.getElem?_setIfInBounds]
  by_cases hother : address = other
  · subst hother
    by_cases hlt : address < memory.cells.size <;> simp [hlt]
  · simp [hother]

/-- Some bytes stand in memory from an address on. -/
def Holds (memory : Memory) (address : Nat) (bytes : List UInt8) : Prop :=
  ∀ i < bytes.length, memory.peek? (address + i) = bytes[i]?

instance (memory : Memory) (address : Nat) (bytes : List UInt8) :
    Decidable (memory.Holds address bytes) :=
  inferInstanceAs (Decidable (∀ i < bytes.length, memory.peek? (address + i) = bytes[i]?))

/-- Bytes that are in memory fit between their address and its end. -/
theorem Holds.le_size {memory : Memory} {address : Nat} {bytes : List UInt8}
    (h : memory.Holds address bytes) (hne : bytes ≠ []) :
    address + bytes.length ≤ memory.cells.size := by
  have hpos := List.length_pos_iff.mpr hne
  have hlast := h (bytes.length - 1) (by omega)
  rw [List.getElem?_eq_getElem (by omega)] at hlast
  have hlt := lt_size_of_peek? hlast
  omega

/-- Two runs of bytes are in memory together if the second stands behind the first. -/
theorem holds_append {memory : Memory} {address : Nat} {front back : List UInt8} :
    memory.Holds address (front ++ back) ↔
      memory.Holds address front ∧ memory.Holds (address + front.length) back := by
  constructor
  · intro h
    constructor
    · intro i hi
      rw [h i (by rw [List.length_append]; omega), List.getElem?_append_left hi]
    · intro i hi
      rw [Nat.add_assoc, h (front.length + i) (by rw [List.length_append]; omega),
        List.getElem?_append_right (by omega), Nat.add_sub_cancel_left]
  · rintro ⟨hfront, hback⟩ i hi
    rw [List.length_append] at hi
    by_cases hlt : i < front.length
    · rw [hfront i hlt, List.getElem?_append_left hlt]
    · have h := hback (i - front.length) (by omega)
      rw [show address + front.length + (i - front.length) = address + i by omega] at h
      rw [h, List.getElem?_append_right (by omega)]

/-- A cell is loaded if it exists, and the fault names the address otherwise. -/
theorem load_eq (memory : Memory) (address : Nat) :
    memory.load address =
      if address < memory.cells.size then .ok (memory.cell address)
      else .error (.bus address) := by
  unfold load
  rw [peek?_eq]
  by_cases h : address < memory.cells.size <;> simp [h]

/-- A cell is stored to if it exists, and the fault names the address otherwise. -/
theorem store_eq (memory : Memory) (address : Nat) (value : UInt8) :
    memory.store address value =
      if address < memory.cells.size then .ok (memory.put address value)
      else .error (.bus address) := by
  unfold store put
  split
  · next h => rw [Array.setIfInBounds, dif_pos h]
  · rfl

end Memory

namespace Machine

/-! ## The effect, part by part -/

/-- The byte that a push of a register puts on the stack. The stack pointer has
moved by then, which shows if it is the register that is pushed. -/
def pushed (machine : Machine) (register : UInt8) : UInt8 :=
  if register = 7 then machine.cpu.sp - 1 else machine.cpu.value register

/-- Whether an instruction goes to the address its register holds. -/
def jumps (machine : Machine) : Instruction → Bool
  | .jmp _ => true
  | .jeq _ => machine.cpu.equal
  | .jne _ => !machine.cpu.equal
  | _ => false

/-- The program counter after an instruction. -/
def pcAfter (machine : Machine) (instruction : Instruction) : Nat :=
  match instruction with
  | .jmp register | .jeq register | .jne register =>
    if machine.jumps instruction then (machine.cpu.value register).toNat
    else machine.cpu.pc + instruction.width
  | .ldi _ _ | .prn _ | .pra _ | .mul _ _ | .cmp _ _ | .push _ | .pop _ =>
    machine.cpu.pc + instruction.width
  | .hlt => machine.cpu.pc

/-- The registers after an instruction. -/
def registersAfter (machine : Machine) : Instruction → Vector UInt8 8
  | .ldi register value => (machine.cpu.put register value).registers
  | .mul first second =>
    (machine.cpu.put first (machine.cpu.value first * machine.cpu.value second)).registers
  | .push _ => (machine.cpu.setSp (machine.cpu.sp - 1)).registers
  | .pop register =>
    let written := machine.cpu.put register (machine.memory.cell machine.cpu.sp.toNat)
    (written.setSp (written.sp + 1)).registers
  | _ => machine.cpu.registers

/-- The flags after an instruction. -/
def flagsAfter (machine : Machine) : Instruction → UInt8
  | .cmp first second =>
    if machine.cpu.value first = machine.cpu.value second then machine.cpu.flags ||| 1
    else machine.cpu.flags
  | _ => machine.cpu.flags

/-- The bytes an instruction prints. -/
def printed (machine : Machine) : Instruction → List UInt8
  | .prn register => utf8 (Numeral.decimal (machine.cpu.value register).toNat ++ "\n")
  | .pra register => utf8 (String.singleton (Char.ofUInt8 (machine.cpu.value register)))
  | _ => []

/-- The memory after an instruction. -/
def memoryAfter (machine : Machine) : Instruction → Memory
  | .push register =>
    machine.memory.put (machine.cpu.sp - 1).toNat (machine.pushed register)
  | _ => machine.memory

/-- The machine after an instruction that meets no obstacle. -/
def perform (machine : Machine) (instruction : Instruction) : Machine where
  cpu := {
    registers := machine.registersAfter instruction
    pc := machine.pcAfter instruction
    flags := machine.flagsAfter instruction
    pending := machine.cpu.pending ++ machine.printed instruction }
  memory := machine.memoryAfter instruction

/-! ## Obstacles -/

/-- The first check that an instruction does not pass, in the order in which the
checks are made: a push looks at its register before its cell, and a pop at its
cell before its register. -/
def obstacle? (machine : Machine) : Instruction → Option Fault
  | .ldi register _ => Cpu.unnamed? register
  | .prn register => Cpu.unnamed? register
  | .pra register => Cpu.unnamed? register
  | .mul first second => (Cpu.unnamed? first).or (Cpu.unnamed? second)
  | .cmp first second => (Cpu.unnamed? first).or (Cpu.unnamed? second)
  | .push register =>
    (Cpu.unnamed? register).or (machine.memory.missing? (machine.cpu.sp - 1).toNat)
  | .pop register => (machine.memory.missing? machine.cpu.sp.toNat).or (Cpu.unnamed? register)
  | .jmp register => Cpu.unnamed? register
  | .jeq register => Cpu.unnamed? register
  | .jne register => Cpu.unnamed? register
  | .hlt => none

/-- The machine that an instruction leaves when it meets an obstacle: a push has
moved the stack pointer, and nothing else has changed anything. -/
def stumbled (machine : Machine) : Instruction → Machine
  | .push _ => { machine with cpu := machine.cpu.setSp (machine.cpu.sp - 1) }
  | _ => machine

/-! ## Carrying out an instruction -/

namespace Effect

/-- Two effects one after the other: a fault of the first keeps the second from
being carried out. -/
theorem bind_apply {α β : Type} (first : Effect α) (second : α → Effect β) (machine : Machine) :
    (first >>= second) machine =
      match first machine with
      | .ok answer between => second answer between
      | .error fault between => .error fault between := by
  simp only [bind, EStateM.bind]
  split <;> simp_all

/-- Asking for the machine gives it and changes nothing. -/
theorem get_apply (machine : Machine) : (get : Effect Machine) machine = .ok machine machine :=
  rfl

/-- A change of the processor leaves the memory as it was. -/
theorem onCpu_apply (change : Cpu → Cpu) (machine : Machine) :
    onCpu change machine = .ok () { machine with cpu := change machine.cpu } :=
  rfl

/-- Reading a register changes nothing, whether it exists or not. -/
theorem readRegister_apply (index : UInt8) (machine : Machine) :
    readRegister index machine =
      match Cpu.unnamed? index with
      | none => .ok (machine.cpu.value index) machine
      | some fault => .error fault machine := by
  unfold readRegister Cpu.unnamed?
  rw [Cpu.read_eq]
  by_cases h : index.toNat < 8 <;> simp [h]

/-- Writing a register changes the processor only, and nothing if there is no such register. -/
theorem writeRegister_apply (index value : UInt8) (machine : Machine) :
    writeRegister index value machine =
      match Cpu.unnamed? index with
      | none => .ok () { machine with cpu := machine.cpu.put index value }
      | some fault => .error fault machine := by
  unfold writeRegister Cpu.unnamed?
  rw [Cpu.write_eq]
  by_cases h : index.toNat < 8 <;> simp [h]

/-- Loading a cell changes nothing, whether it exists or not. -/
theorem load_apply (address : Nat) (machine : Machine) :
    load address machine =
      match machine.memory.missing? address with
      | none => .ok (machine.memory.cell address) machine
      | some fault => .error fault machine := by
  unfold load Memory.missing?
  rw [Memory.load_eq]
  by_cases h : address < machine.memory.cells.size <;> simp [h]

/-- Storing to a cell changes the memory only, and nothing if there is no such cell. -/
theorem store_apply (address : Nat) (value : UInt8) (machine : Machine) :
    store address value machine =
      match machine.memory.missing? address with
      | none => .ok () { machine with memory := machine.memory.put address value }
      | some fault => .error fault machine := by
  unfold store Memory.missing?
  rw [Memory.store_eq]
  by_cases h : address < machine.memory.cells.size <;> simp [h]

/-- An operation looks at both registers and then at itself before it changes anything. -/
theorem compute_apply (operation : Operation) (first second : UInt8) (machine : Machine) :
    compute operation first second machine =
      match ((Cpu.unnamed? first).or (Cpu.unnamed? second)).or operation.refused? with
      | none =>
        .ok (machine.cpu.answer? operation first second)
          { machine with cpu := machine.cpu.computed operation first second }
      | some fault => .error fault machine := by
  unfold compute Cpu.compute Cpu.unnamed?
  by_cases hfirst : first.toNat < 8 <;> by_cases hsecond : second.toNat < 8 <;>
    cases operation <;> simp [Cpu.read_eq, Cpu.write_eq, hfirst, hsecond, bind, Except.bind, pure,
      Except.pure, throw, throwThe, MonadExceptOf.throw, Operation.refused?, Cpu.answer?,
      Cpu.computed]

/-- A jump looks at its register whether or not it is taken. -/
theorem jump_apply (index : UInt8) (taken : Bool) (following : Nat) (machine : Machine) :
    jump index taken following machine =
      match Cpu.unnamed? index with
      | none =>
        .ok () { machine with cpu := { machine.cpu with
          pc := if taken then (machine.cpu.value index).toNat else following } }
      | some fault => .error fault machine := by
  simp only [jump, bind_apply, readRegister_apply, goTo, onCpu_apply]
  cases Cpu.unnamed? index <;> rfl

end Effect

/-- A push reads its register after it has moved the stack pointer. -/
theorem pushed_eq (machine : Machine) (register : UInt8) :
    machine.pushed register = (machine.cpu.setSp (machine.cpu.sp - 1)).value register := by
  unfold pushed
  split
  · next h => simp [Cpu.value, Cpu.setSp, h]
  · next h => rw [Cpu.value_setSp_of_ne _ _ h]

/-- Carrying out an instruction has its effect if it meets no obstacle. -/
theorem execute_eq (machine : Machine) (instruction : Instruction) :
    execute instruction machine =
      match machine.obstacle? instruction with
      | none => .ok () (machine.perform instruction)
      | some fault => .error fault (machine.stumbled instruction) := by
  cases instruction with
  | ldi register value =>
    simp only [execute, obstacle?, Effect.bind_apply, Effect.get_apply, Effect.goTo,
      Effect.onCpu_apply, Effect.writeRegister_apply]
    cases Cpu.unnamed? register <;> simp [perform, registersAfter, pcAfter, flagsAfter, printed,
      memoryAfter, stumbled, Cpu.put]
  | prn register =>
    simp only [execute, obstacle?, Effect.bind_apply, Effect.get_apply, Effect.goTo,
      Effect.onCpu_apply, Effect.readRegister_apply]
    cases Cpu.unnamed? register <;> rfl
  | pra register =>
    simp only [execute, obstacle?, Effect.bind_apply, Effect.get_apply, Effect.goTo,
      Effect.onCpu_apply, Effect.readRegister_apply]
    cases Cpu.unnamed? register <;> rfl
  | mul first second =>
    simp only [execute, obstacle?, Effect.bind_apply, Effect.get_apply, Effect.goTo,
      Effect.compute_apply, Operation.refused?, Option.or_none]
    -- the product is written a second time, which a passed check allows
    cases hobstacle : (Cpu.unnamed? first).or (Cpu.unnamed? second) with
    | none =>
      have hfirst : Cpu.unnamed? first = none := (Option.or_eq_none_iff.mp hobstacle).1
      simp [Effect.bind_apply, Effect.writeRegister_apply, Effect.onCpu_apply, hfirst, perform,
        registersAfter, pcAfter, flagsAfter, printed, memoryAfter, Cpu.answer?, Cpu.computed,
        Cpu.put]
    | some fault => rfl
  | cmp first second =>
    simp only [execute, obstacle?, Effect.bind_apply, Effect.get_apply, Effect.goTo,
      Effect.onCpu_apply, Effect.compute_apply, Operation.refused?, Option.or_none]
    cases (Cpu.unnamed? first).or (Cpu.unnamed? second) with
    | none =>
      by_cases heq : machine.cpu.value first = machine.cpu.value second <;>
        simp [perform, registersAfter, pcAfter, flagsAfter, printed, memoryAfter, Cpu.computed,
          Cpu.setEqual, heq]
    | some fault => rfl
  | push register =>
    simp only [execute, obstacle?, Effect.bind_apply, Effect.get_apply, Effect.goTo,
      Effect.onCpu_apply, Effect.readRegister_apply]
    cases Cpu.unnamed? register with
    | none =>
      simp only [Effect.store_apply, Option.none_or, ← pushed_eq]
      cases machine.memory.missing? (machine.cpu.sp - 1).toNat <;>
        simp [perform, registersAfter, pcAfter, flagsAfter, printed, memoryAfter, stumbled,
          Cpu.setSp]
    | some fault => rfl
  | pop register =>
    simp only [execute, obstacle?, Effect.bind_apply, Effect.get_apply, Effect.goTo,
      Effect.onCpu_apply, Effect.load_apply, Effect.writeRegister_apply]
    cases machine.memory.missing? machine.cpu.sp.toNat <;> cases Cpu.unnamed? register <;>
      simp [perform, registersAfter, pcAfter, flagsAfter, printed, memoryAfter, stumbled,
        Cpu.setSp, Cpu.put]
  | jmp register | jeq register | jne register =>
    simp only [execute, obstacle?, Effect.bind_apply, Effect.get_apply, Effect.jump_apply]
    cases Cpu.unnamed? register with
    | none =>
      simp only [perform, registersAfter, flagsAfter, printed, memoryAfter, List.append_nil]
      rfl
    | some fault => rfl
  | hlt =>
    simp [execute, obstacle?, Effect.bind_apply, Effect.get_apply, perform, registersAfter,
      pcAfter, flagsAfter, printed, memoryAfter, pure, EStateM.pure]

end Machine

end ByteMachine
