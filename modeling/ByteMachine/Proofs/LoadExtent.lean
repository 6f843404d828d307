import ByteMachine.Proofs.Placement

/-!
# How much of a program is stored

A load makes two checks. The end of the program is compared with the announced capacity before
anything is stored, and every byte needs a cell when its turn comes. Where the two agree, as they
do in the machine's own memory, the second check never fails after the first, and a load stores
the whole program or nothing. A memory that announces more than it has keeps the bytes for which
there were cells, and the load fails with the error of the first check all the same.

Loads that succeed can be joined: a program in two parts is stored by storing its parts, one
behind the other.
-/

set_option autoImplicit false

namespace ByteMachine

namespace Loading

/-- Some bytes have been stored from an address on, and nothing else has changed. -/
structure Overwrites (memory : Memory) (base : Nat) (bytes : List UInt8) (loaded : Memory) :
    Prop where
  size : loaded.cells.size = memory.cells.size
  capacity : loaded.capacity = memory.capacity
  holds : loaded.Holds base bytes
  others : ∀ address, address < base ∨ base + bytes.length ≤ address →
    loaded.peek? address = memory.peek? address

variable {memory loaded : Memory} {base : Nat} {program : List UInt8}

/-- Storing keeps the size of the memory, whether all bytes find a cell or not. -/
theorem size_fill (memory : Memory) (base : Nat) (bytes : List UInt8) :
    (fill memory base bytes).1.cells.size = memory.cells.size := by
  induction bytes generalizing memory base with
  | nil => rfl
  | cons value rest ih =>
    rw [fill_cons]
    split
    · rw [ih, Memory.size_put]
    · rfl

/-- Filling stores the bytes for which there are cells. -/
theorem overwrites_fill (memory : Memory) (base : Nat) (bytes : List UInt8) :
    Overwrites memory base (bytes.take (memory.cells.size - base)) (fill memory base bytes).1 where
  size := size_fill memory base bytes
  capacity := capacity_fill memory base bytes
  holds := by
    intro i hi
    rw [List.length_take] at hi
    rw [peek?_fill, if_pos (by omega), Nat.add_sub_cancel_left, List.getElem?_take_of_lt (by omega)]
  others := by
    intro address hbeside
    rw [List.length_take] at hbeside
    rw [peek?_fill]
    apply if_neg
    omega

/-- Two runs of bytes are stored one behind the other, and the second is not begun if the
first did not find its cells. -/
theorem fill_append (memory : Memory) (base : Nat) (front back : List UInt8) :
    fill memory base (front ++ back) =
      if (fill memory base front).2 then
        fill (fill memory base front).1 (base + front.length) back
      else fill memory base front := by
  induction front generalizing memory base with
  | nil => rfl
  | cons value front ih =>
    rw [List.cons_append, fill_cons, fill_cons, List.length_cons]
    by_cases hcell : base < memory.cells.size
    · rw [if_pos hcell, if_pos hcell, ih, Nat.add_assoc, Nat.add_comm 1]
    · rw [if_neg hcell, if_neg hcell]
      rfl

/-! ## Outcomes of a load -/

/-- A program beyond the capacity is refused, and nothing is stored. -/
theorem place_of_oversized (h : memory.capacity < base + program.length) :
    place memory base program =
      (memory, some (.tooLarge (base + program.length) memory.capacity)) := by
  rw [place_eq, if_pos h]

/-- A program within the capacity and the cells is stored, and nothing else is overwritten. -/
theorem place_of_fits (hcapacity : base + program.length ≤ memory.capacity)
    (hcells : program = [] ∨ base + program.length ≤ memory.cells.size) :
    ∃ loaded, place memory base program = (loaded, none) ∧
      Overwrites memory base program loaded := by
  have hcomplete := (fill_complete_iff memory base program).mpr hcells
  -- no byte of the program is left over
  have hwhole : program.take (memory.cells.size - base) = program := by
    obtain rfl | hfits := hcells
    · exact List.take_nil
    · exact List.take_of_length_le (by omega)
  have hoverwrites := overwrites_fill memory base program
  rw [hwhole] at hoverwrites
  refine ⟨_, ?_, hoverwrites⟩
  rw [place_eq, if_neg (by omega), if_pos hcomplete]

/-- A program within the capacity that runs out of cells is stored as far as there are cells,
and refused. -/
theorem place_of_overrun (hcapacity : base + program.length ≤ memory.capacity)
    (hcells : memory.cells.size < base + program.length) (hne : program ≠ []) :
    ∃ loaded, place memory base program =
        (loaded, some (.tooLarge (base + program.length) memory.capacity)) ∧
      Overwrites memory base (program.take (memory.cells.size - base)) loaded := by
  have hincomplete : ¬ (fill memory base program).2 = true := by
    rw [fill_complete_iff, not_or]
    exact ⟨hne, by omega⟩
  refine ⟨_, ?_, overwrites_fill memory base program⟩
  rw [place_eq, if_neg (by omega), if_neg hincomplete]

/-- A program is placed exactly if it is within the capacity and all its bytes find a cell. -/
theorem place_eq_ok_iff :
    place memory base program = (loaded, none) ↔
      base + program.length ≤ memory.capacity ∧ fill memory base program = (loaded, true) := by
  rw [place_eq]
  by_cases hcapacity : memory.capacity < base + program.length
  · simp [hcapacity, Nat.not_le.mpr hcapacity]
  · rw [if_neg hcapacity]
    cases fill memory base program with
    | mk filled complete => cases complete <;> simp [Nat.not_lt.mp hcapacity]

/-- Storing two parts one behind the other stores the whole. -/
theorem place_append (front back : List UInt8) :
    place memory base (front ++ back) = (loaded, none) ↔
      ∃ between, place memory base front = (between, none) ∧
        place between (base + front.length) back = (loaded, none) := by
  simp only [place_eq_ok_iff, fill_append, List.length_append]
  constructor
  · rintro ⟨hcapacity, hfill⟩
    split at hfill
    · next hfront =>
      refine ⟨(fill memory base front).1, ⟨by omega, Prod.ext rfl hfront⟩, ?_, hfill⟩
      rw [capacity_fill]
      omega
    · next hfront => exact absurd (congrArg Prod.snd hfill) hfront
  · rintro ⟨between, ⟨-, hfront⟩, hcapacity, hback⟩
    have hannounced : between.capacity = memory.capacity := by
      rw [← capacity_fill memory base front, hfront]
    rw [hfront, if_pos rfl]
    exact ⟨by omega, hback⟩

/-- What a load does to a memory of any size and any announced capacity. A program that would
end beyond the capacity changes nothing, even if it has no bytes. One that does not is stored in
full if there is a cell for each of its bytes; otherwise the cells that there are hold its first
bytes, and the error is that of a program beyond the capacity. Where the capacity is no larger
than the memory, as in the machine's own, a load is complete or changes nothing. A program in
two parts can be loaded exactly where the parts can, one behind the other, to the same memory. -/
theorem extent_of_place (memory : Memory) (base : Nat) (program : List UInt8) :
    (memory.capacity < base + program.length →
      place memory base program =
        (memory, some (.tooLarge (base + program.length) memory.capacity))) ∧
    (base + program.length ≤ memory.capacity →
      program = [] ∨ base + program.length ≤ memory.cells.size →
      ∃ loaded, place memory base program = (loaded, none) ∧
        Overwrites memory base program loaded) ∧
    (base + program.length ≤ memory.capacity → memory.cells.size < base + program.length →
      program ≠ [] →
      ∃ loaded, place memory base program =
          (loaded, some (.tooLarge (base + program.length) memory.capacity)) ∧
        Overwrites memory base (program.take (memory.cells.size - base)) loaded) ∧
    (memory.capacity ≤ memory.cells.size →
      (∃ loaded, place memory base program = (loaded, none) ∧
        Overwrites memory base program loaded) ∨
      place memory base program =
        (memory, some (.tooLarge (base + program.length) memory.capacity))) ∧
    ∀ more loaded, place memory base (program ++ more) = (loaded, none) ↔
      ∃ between, place memory base program = (between, none) ∧
        place between (base + program.length) more = (loaded, none) := by
  refine ⟨place_of_oversized, place_of_fits, place_of_overrun, ?_,
    fun more loaded => place_append program more⟩
  intro hannounced
  by_cases hcapacity : base + program.length ≤ memory.capacity
  · exact .inl (place_of_fits hcapacity (.inr (by omega)))
  · exact .inr (place_of_oversized (by omega))

/-- Four cells that are announced as eight. -/
def overstated : Memory :=
  Memory.zeroed 4 8

/-- A memory of four cells that is announced as eight keeps two bytes of the three that it
refuses. An empty program is refused beyond the capacity and placed at its end, and two bytes
just fit behind address 253. -/
theorem extent_of_overstated :
    Memory.ram.capacity < 257 + 0 ∧
    place Memory.ram 257 [] = (Memory.ram, some (.tooLarge 257 256)) ∧
    2 + 3 ≤ overstated.capacity ∧ overstated.cells.size < 2 + 3 ∧
    (∃ loaded, place overstated 2 [7, 8, 9] = (loaded, some (.tooLarge 5 8)) ∧
      Overwrites overstated 2 [7, 8] loaded) ∧
    (∃ loaded, place overstated 8 [] = (loaded, none) ∧ Overwrites overstated 8 [] loaded) ∧
    Memory.ram.capacity ≤ Memory.ram.cells.size ∧
    ∃ loaded, place Memory.ram 254 [1, 2] = (loaded, none) ∧
      Overwrites Memory.ram 254 [1, 2] loaded := by
  obtain ⟨hbeyond, -⟩ := extent_of_place Memory.ram 257 []
  obtain ⟨-, -, hoverrun, -⟩ := extent_of_place overstated 2 [7, 8, 9]
  obtain ⟨-, hempty, -⟩ := extent_of_place overstated 8 []
  obtain ⟨-, -, -, hram, -⟩ := extent_of_place Memory.ram 254 [1, 2]
  have hagrees : Memory.ram.capacity ≤ Memory.ram.cells.size := by decide +kernel
  refine ⟨by decide, hbeyond (by decide), by decide, by decide +kernel,
    hoverrun (by decide) (by decide +kernel) (by simp), hempty (by decide) (.inl rfl), hagrees, ?_⟩
  obtain hloaded | hrefused := hram hagrees
  · exact hloaded
  · exact absurd (congrArg Prod.snd hrefused) (by decide +kernel)

end Loading

end ByteMachine
