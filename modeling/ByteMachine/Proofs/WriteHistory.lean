import ByteMachine.Proofs.Locality
import ByteMachine.Proofs.Placement

/-!
# What is written to memory

The memory after any number of cycles is the memory at first with the bytes of the pushes
that were carried out, each put at the address to which the stack pointer had moved, in the
order of the pushes. Nothing else changes memory, whether the last cycle goes on, halts or
meets a fault.

The stack pointer is a register like the others, so whether a program stays as it was loaded
is a matter of the whole run: it does if no push has put its byte below the end of the
program, and then everything that is fetched from there is what was loaded.
-/

set_option autoImplicit false

namespace ByteMachine

namespace Memory

/-- The memory with some cells replaced, one after the other. -/
def putAll (memory : Memory) (writes : List (Nat × UInt8)) : Memory :=
  writes.foldl (fun changed write => changed.put write.1 write.2) memory

/-- Two runs of writes are made one after the other. -/
theorem putAll_append (memory : Memory) (first second : List (Nat × UInt8)) :
    memory.putAll (first ++ second) = (memory.putAll first).putAll second :=
  List.foldl_append

/-- A write is not seen in another cell. -/
theorem peek?_put_of_ne (memory : Memory) {address other : Nat} (value : UInt8)
    (h : other ≠ address) : (memory.put address value).peek? other = memory.peek? other := by
  rw [peek?_put, if_neg]
  rintro ⟨heq, -⟩
  exact h heq.symm

end Memory

namespace Machine

/-! ## The push of one cycle -/

/-- The next cycle carries out a push, which puts a byte at an address. The address is the
stack pointer after the cycle, and the byte is what the pushed register holds, or the new
stack pointer if that is the register. -/
def Puts (machine : Machine) (address : Nat) (value : UInt8) : Prop :=
  ∃ register, machine.fetch = .ok (.push register) ∧ machine.cycle.1 = .running ∧
    address = machine.cycle.2.cpu.sp.toNat ∧ machine.cycle.2.cpu.sp = machine.cpu.sp - 1 ∧
    if register = 7 then value = machine.cycle.2.cpu.sp
    else machine.cpu.read register = .ok value

/-- A cycle that fetches a push carries it out if it meets no obstacle. -/
theorem cycle_of_push {machine : Machine} {register : UInt8}
    (h : machine.fetch = .ok (.push register)) :
    machine.cycle.1 = .running ↔ machine.obstacle? (.push register) = none := by
  rw [cycle_of_fetch h (by simp)]
  cases machine.obstacle? (.push register) <;> simp

/-- What a cycle stores is what the push puts that it carries out. -/
theorem stored?_eq_some_iff (machine : Machine) (address : Nat) (value : UInt8) :
    machine.stored? = some (address, value) ↔ machine.Puts address value := by
  have hsp : ∀ register, (machine.perform (.push register)).cpu.sp = machine.cpu.sp - 1 :=
    fun register => Cpu.sp_setSp _ _
  constructor
  · intro h
    unfold stored? at h
    split at h
    · next register hfetch =>
      split at h
      · next hnone =>
        cases h
        have hcycle := cycle_of_fetch hfetch (by simp)
        rw [hnone] at hcycle
        refine ⟨register, hfetch, ?_, ?_, ?_, ?_⟩
        · rw [hcycle]
        · rw [hcycle, hsp]
        · rw [hcycle, hsp]
        · rw [hcycle, hsp, pushed]
          split
          · rfl
          · exact machine.cpu.read_of_named (Option.or_eq_none_iff.mp hnone).1
      · cases h
    · cases h
  · rintro ⟨register, hfetch, hrunning, rfl, hmoved, hvalue⟩
    have hnone := (cycle_of_push hfetch).mp hrunning
    have hpushed : machine.pushed register = value := by
      rw [pushed]
      split at hvalue
      · next hseven => rw [if_pos hseven, hvalue, hmoved]
      · next hother => rw [if_neg hother, (Cpu.read_eq_ok_iff.mp hvalue).2]
    rw [hmoved, stored?, hfetch]
    simp only [hnone, hpushed]

/-- A cell to which the next cycle puts no byte keeps its value. -/
theorem peek?_cycle {machine : Machine} {address : Nat}
    (h : ∀ value, ¬ machine.Puts address value) :
    machine.cycle.2.memory.peek? address = machine.memory.peek? address := by
  rw [memory_cycle]
  cases hstored : machine.stored? with
  | none => rfl
  | some write =>
    have hne : address ≠ write.1 := by
      rintro rfl
      exact h write.2 ((machine.stored?_eq_some_iff _ _).mp hstored)
    exact machine.memory.peek?_put_of_ne write.2 hne

/-- A cycle changes one cell at most. -/
theorem exists_peek?_cycle (machine : Machine) :
    ∃ address, ∀ other ≠ address,
      machine.cycle.2.memory.peek? other = machine.memory.peek? other := by
  refine ⟨machine.cycle.2.cpu.sp.toNat, ?_⟩
  intro other hother
  apply peek?_cycle
  rintro value ⟨register, -, -, haddress, -⟩
  exact hother haddress

/-! ## The pushes of a run -/

/-- What the first `count` cycles write to memory, in order. -/
def writes (machine : Machine) (count : Nat) : List (Nat × UInt8) :=
  (List.range count).filterMap fun i => (machine.after i).stored?

/-- One more cycle makes its write behind those before it, if it makes one. -/
theorem writes_succ (machine : Machine) (count : Nat) :
    machine.writes (count + 1) = machine.writes count ++ (machine.after count).stored?.toList :=
  machine.filterMap_succ stored? count

/-- Memory is changed by what is written, in that order, and by nothing else. -/
theorem memory_after (machine : Machine) (count : Nat) :
    (machine.after count).memory = machine.memory.putAll (machine.writes count) := by
  induction count with
  | zero => rfl
  | succ count ih =>
    rw [writes_succ, Memory.putAll_append, ← ih, after, memory_cycle]
    cases (machine.after count).stored? <;> rfl

/-- A cell to which no cycle puts a byte keeps its value. -/
theorem peek?_after {machine : Machine} {address count : Nat}
    (h : ∀ i < count, ∀ value, ¬ (machine.after i).Puts address value) :
    (machine.after count).memory.peek? address = machine.memory.peek? address := by
  induction count with
  | zero => rfl
  | succ count ih =>
    rw [after, peek?_cycle (h count (by omega)), ih fun i hi => h i (by omega)]

/-! ## A program in memory -/

/-- A program is fetched as it was loaded: an instruction has the bytes of the program as far
as the program goes, and so has an opcode that belongs to none. -/
structure FetchesFrom (machine : Machine) (program : List UInt8) : Prop where
  bytes : ∀ instruction, machine.fetch = .ok instruction → ∀ offset < instruction.width,
    machine.cpu.pc + offset < program.length →
      instruction.encode[offset]? = program[machine.cpu.pc + offset]?
  unknown : ∀ code, machine.fetch = .error (.unknownInstruction code) →
    machine.cpu.pc < program.length → program[machine.cpu.pc]? = some code

/-- A machine whose memory holds a program fetches from it. -/
theorem fetchesFrom_of_holds {machine : Machine} {program : List UInt8}
    (h : machine.memory.Holds 0 program) : machine.FetchesFrom program where
  bytes := by
    intro instruction hfetch offset hoffset hprogram
    have hcode := fetch_eq_ok_iff.mp hfetch offset (by rwa [Instruction.length_encode])
    have hloaded := h _ hprogram
    rw [Nat.zero_add] at hloaded
    rw [← hcode, hloaded]
  unknown := by
    intro code hfetch hprogram
    have hcode := ((machine.fetch_eq_unknown_iff code).mp hfetch).1
    have hloaded := h _ hprogram
    rw [Nat.zero_add] at hloaded
    rw [← hloaded, hcode]

/-- The bytes below an address stay where they are if nothing is put below it. -/
theorem holds_after {machine : Machine} {program : List UInt8} {count : Nat}
    (hloaded : machine.memory.Holds 0 program)
    (h : ∀ i < count, ∀ address value, (machine.after i).Puts address value →
      program.length ≤ address) :
    (machine.after count).memory.Holds 0 program := by
  intro address haddress
  rw [peek?_after, hloaded address haddress]
  intro i hi value hputs
  have hbeyond := h i hi _ value hputs
  omega

/-! ## Whole runs -/

/-- After any number of cycles, whatever the last of them signals, memory is what it was at
first with the bytes that were put there, one for each push that was carried out, in their
order. So a cycle changes one cell at most, and a cell to which nothing is put keeps its
value. A program that was loaded at 0 stands in memory in every state of a run that puts
nothing below its end, and what is fetched from there is what was loaded. -/
theorem memory_of_run (machine : Machine) :
    (∀ i address value, (machine.after i).stored? = some (address, value) ↔
      (machine.after i).Puts address value) ∧
    (∀ count, (machine.after count).memory = machine.memory.putAll
      ((List.range count).filterMap fun i => (machine.after i).stored?)) ∧
    (∀ i, ∃ address, ∀ other ≠ address,
      (machine.after (i + 1)).memory.peek? other = (machine.after i).memory.peek? other) ∧
    (∀ count address, (∀ i < count, ∀ value, ¬ (machine.after i).Puts address value) →
      ∀ i ≤ count, (machine.after i).memory.peek? address = machine.memory.peek? address) ∧
    ∀ (before : Memory) (program : List UInt8) (count : Nat),
      Loading.place before 0 program = (machine.memory, none) →
      (∀ i < count, ∀ address value, (machine.after i).Puts address value →
        program.length ≤ address) →
      ∀ i ≤ count, (machine.after i).memory.Holds 0 program ∧
        (machine.after i).FetchesFrom program := by
  refine ⟨fun i => (machine.after i).stored?_eq_some_iff, machine.memory_after,
    fun i => (machine.after i).exists_peek?_cycle, ?_, ?_⟩
  · intro count address hnone i hi
    exact peek?_after fun j hj => hnone j (by omega)
  · intro before program count hplace habove i hi
    have hholds := holds_after (Loading.holds_of_place hplace) fun j (hj : j < i) =>
      habove j (by omega)
    exact ⟨hholds, fetchesFrom_of_holds hholds⟩

/-- Pushes a register and then the stack pointer, and halts. -/
def pushesTwice : Machine :=
  Machine.start (Memory.beginning [0x45, 0, 0x45, 7, 0x01])

/-- The two pushes have written to the cells below the stack pointer, the second one the
decremented stack pointer, and the program that was placed in memory is still there. -/
theorem memory_of_pushesTwice :
    (pushesTwice.after 3).memory = pushesTwice.memory.putAll [(243, 0), (242, 242)] ∧
    (pushesTwice.after 2).cycle.1 = .halted ∧
    Loading.place Memory.ram 0 [0x45, 0, 0x45, 7, 0x01] = (pushesTwice.memory, none) ∧
    (pushesTwice.after 3).memory.Holds 0 [0x45, 0, 0x45, 7, 0x01] := by
  obtain ⟨hputs, hmemory, -, -, hprogram⟩ := memory_of_run pushesTwice
  have hwrites : (List.range 3).filterMap (fun i => (pushesTwice.after i).stored?) =
      [(243, 0), (242, 242)] := by
    decide +kernel
  have hplace : Loading.place Memory.ram 0 [0x45, 0, 0x45, 7, 0x01] =
      (pushesTwice.memory, none) :=
    Loading.place_ram (by decide)
  have habove : ∀ i < 3, ∀ address value, (pushesTwice.after i).Puts address value →
      5 ≤ address := by
    intro i hi address value hput
    have hmem : (address, value) ∈ [(243, (0 : UInt8)), (242, 242)] := by
      rw [← hwrites, List.mem_filterMap]
      exact ⟨i, List.mem_range.mpr hi, (hputs i address value).mpr hput⟩
    simp only [List.mem_cons, Prod.mk.injEq, List.not_mem_nil, or_false] at hmem
    omega
  exact ⟨hwrites ▸ hmemory 3, by decide +kernel, hplace,
    (hprogram _ _ 3 hplace habove 3 (Nat.le_refl 3)).1⟩

end Machine

end ByteMachine
