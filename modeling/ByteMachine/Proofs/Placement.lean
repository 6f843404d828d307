import ByteMachine.Program.Loading
import ByteMachine.Proofs.Trajectory

/-!
# Placing a program

Which cells a load changes, and when it is complete. The equations are about memories of
any size and any announced capacity; in the machine's own memory, where the two agree, a
program that fits is placed in full.
-/

set_option autoImplicit false

namespace ByteMachine

/-! ## Cells -/

namespace Memory

/-- Two memories that announce the same and can be read alike are the same. -/
theorem eq_of_peek? {memory other : Memory} (hcapacity : memory.capacity = other.capacity)
    (hpeek : ∀ address, memory.peek? address = other.peek? address) : memory = other := by
  obtain ⟨cells, capacity⟩ := memory
  obtain ⟨otherCells, otherCapacity⟩ := other
  obtain rfl : capacity = otherCapacity := hcapacity
  have hcells : cells = otherCells := by
    apply Array.ext_getElem?
    intro address
    exact hpeek address
  rw [hcells]

/-- Putting a byte into a cell keeps the size of the memory. -/
theorem size_put (memory : Memory) (address : Nat) (value : UInt8) :
    (memory.put address value).cells.size = memory.cells.size := by
  simp [put]

/-- The memory of the machine has 256 cells, and all of them hold zero. -/
theorem peek?_ram (address : Nat) : ram.peek? address = if address < 256 then some 0 else none := by
  unfold ram zeroed peek?
  rw [Array.getElem?_replicate]

/-- A memory that begins with some bytes has 256 cells, if these fit. -/
theorem size_beginning {bytes : List UInt8} (h : bytes.length ≤ 256) :
    (beginning bytes).cells.size = 256 := by
  rw [beginning, List.size_toArray, List.length_append, List.length_replicate]
  omega

/-- A memory that begins with some bytes holds zeros behind them. -/
theorem peek?_beginning {bytes : List UInt8} (h : bytes.length ≤ 256) (address : Nat) :
    (beginning bytes).peek? address =
      if address < 256 then some (bytes[address]?.getD 0) else none := by
  unfold beginning peek?
  rw [List.getElem?_toArray, List.getElem?_append]
  by_cases hbytes : address < bytes.length
  · rw [if_pos hbytes, if_pos (by omega), List.getElem?_eq_getElem hbytes]
    rfl
  · rw [if_neg hbytes, List.getElem?_replicate, List.getElem?_eq_none (by omega)]
    by_cases haddress : address < 256
    · rw [if_pos haddress, if_pos (by omega)]
      rfl
    · rw [if_neg haddress, if_neg (by omega)]

/-- A memory that begins with some bytes holds them from address 0 on. -/
theorem holds_beginning {bytes : List UInt8} (h : bytes.length ≤ 256) :
    (beginning bytes).Holds 0 bytes := by
  intro i hi
  rw [Nat.zero_add, peek?_beginning h, if_pos (by omega), List.getElem?_eq_getElem hi]
  rfl

end Memory

/-! ## Loads -/

namespace Loading

/-- The first byte is stored if there is a cell for it, and the rest after it. -/
theorem fill_cons (memory : Memory) (base : Nat) (value : UInt8) (rest : List UInt8) :
    fill memory base (value :: rest) =
      if base < memory.cells.size then fill (memory.put base value) (base + 1) rest
      else (memory, false) := by
  rw [fill, Memory.store_eq]
  by_cases h : base < memory.cells.size
  · rw [if_pos h, if_pos h]
  · rw [if_neg h, if_neg h]

/-- Storing keeps the capacity of the memory. -/
theorem capacity_fill (memory : Memory) (base : Nat) (bytes : List UInt8) :
    (fill memory base bytes).1.capacity = memory.capacity := by
  induction bytes generalizing memory base with
  | nil => rfl
  | cons value rest ih =>
    rw [fill_cons]
    split
    · exact ih (memory.put base value) (base + 1)
    · rfl

/-- Filling changes the cells from the base on, as far as there are bytes and cells, and
no others. -/
theorem peek?_fill (memory : Memory) (base : Nat) (bytes : List UInt8) (address : Nat) :
    (fill memory base bytes).1.peek? address =
      if base ≤ address ∧ address < base + bytes.length ∧ address < memory.cells.size then
        bytes[address - base]?
      else memory.peek? address := by
  induction bytes generalizing memory base with
  | nil => rw [fill, if_neg (by simp; omega)]
  | cons value rest ih =>
    rw [fill_cons, List.length_cons]
    by_cases hcell : base < memory.cells.size
    · rw [if_pos hcell, ih, Memory.size_put, Memory.peek?_put]
      obtain hbefore | rfl | hafter := Nat.lt_trichotomy address base
      · rw [if_neg (by omega), if_neg (by omega), if_neg (by omega)]
      · rw [if_neg (by omega), if_pos (by omega), if_pos (by omega), Nat.sub_self]
        rfl
      · rw [if_neg (by omega : ¬(base = address ∧ base < memory.cells.size))]
        -- the same byte, counted from the next address
        have hindex : address - base = address - (base + 1) + 1 := by omega
        rw [hindex, List.getElem?_cons_succ]
        by_cases hinside : address < base + (rest.length + 1) ∧ address < memory.cells.size
        · rw [if_pos (by omega), if_pos (by omega)]
        · rw [if_neg (by omega), if_neg (by omega)]
    · rw [if_neg hcell, if_neg (by omega)]

/-- All bytes find a cell exactly if the last one does, or if there are none. -/
theorem fill_complete_iff (memory : Memory) (base : Nat) (bytes : List UInt8) :
    (fill memory base bytes).2 = true ↔
      bytes = [] ∨ base + bytes.length ≤ memory.cells.size := by
  induction bytes generalizing memory base with
  | nil => simp [fill]
  | cons value rest ih =>
    rw [fill_cons, List.length_cons]
    by_cases hcell : base < memory.cells.size
    · rw [if_pos hcell, ih, Memory.size_put]
      simp only [reduceCtorEq, false_or]
      constructor
      · rintro (rfl | hrest)
        · exact hcell
        · omega
      · intro hrest
        right
        omega
    · rw [if_neg hcell]
      simp only [Bool.false_eq_true, reduceCtorEq, false_or, false_iff]
      omega

/-- A load fills memory if the announced capacity suffices. -/
theorem place_eq (memory : Memory) (base : Nat) (program : List UInt8) :
    place memory base program =
      if memory.capacity < base + program.length then
        (memory, some (.tooLarge (base + program.length) memory.capacity))
      else
        ((fill memory base program).1,
          if (fill memory base program).2 then none
          else some (.tooLarge (base + program.length) memory.capacity)) := by
  simp only [place]
  cases hfill : fill memory base program with
  | mk filled complete => cases complete <;> rfl

/-- A program that is placed without an error stands in memory from the base on. -/
theorem holds_of_place {memory loaded : Memory} {base : Nat} {program : List UInt8}
    (h : place memory base program = (loaded, none)) : loaded.Holds base program := by
  rw [place_eq] at h
  split at h
  · cases h
  · obtain ⟨rfl, herror⟩ := Prod.mk.inj h
    have hcomplete : program = [] ∨ base + program.length ≤ memory.cells.size := by
      rw [← fill_complete_iff]
      simpa using herror
    intro i hi
    obtain rfl | hfits := hcomplete
    · cases hi
    · rw [peek?_fill, if_pos (by omega), Nat.add_sub_cancel_left]

/-- The machine's own memory takes every program of at most 256 bytes. -/
theorem place_ram {program : List UInt8} (h : program.length ≤ 256) :
    place Memory.ram 0 program = (Memory.beginning program, none) := by
  have hsize : Memory.ram.cells.size = 256 := Array.size_replicate
  have hcomplete : (fill Memory.ram 0 program).2 = true := by
    rw [fill_complete_iff, hsize]
    right
    omega
  have hfilled : (fill Memory.ram 0 program).1 = Memory.beginning program := by
    have hannounced :
        (fill Memory.ram 0 program).1.capacity = (Memory.beginning program).capacity :=
      capacity_fill Memory.ram 0 program
    apply Memory.eq_of_peek? hannounced
    intro address
    rw [peek?_fill, hsize, Memory.peek?_ram, Memory.peek?_beginning h]
    by_cases hprogram : address < program.length
    · rw [if_pos (by omega), if_pos (by omega), Nat.sub_zero, List.getElem?_eq_getElem hprogram]
      rfl
    · rw [if_neg (by omega), List.getElem?_eq_none (by omega)]
      rfl
  have hcapacity : ¬ Memory.ram.capacity < 0 + program.length := by
    show ¬ 256 < 0 + program.length
    omega
  rw [place_eq, if_neg hcapacity, if_pos hcomplete, hfilled]

end Loading

end ByteMachine
