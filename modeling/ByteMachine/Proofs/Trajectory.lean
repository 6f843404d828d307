import ByteMachine.Proofs.Cycle

/-!
# The states of a machine, cycle after cycle

The machine after any number of cycles, and what it is for the first cycles to go
on. What a machine has printed and not handed over has no influence on it:
`Machine.cycle_withPending` says that a cycle signals the same and leaves the same,
whatever bytes are pending before it.
-/

set_option autoImplicit false

namespace ByteMachine

/-- A memory of 256 cells that begins with the given bytes and goes on with zeros. -/
def Memory.beginning (bytes : List UInt8) : Memory where
  cells := ⟨bytes ++ List.replicate (256 - bytes.length) 0⟩
  capacity := 256

namespace Machine

/-! ## Running for a while -/

/-- The machine after so many cycles, whatever they signal. -/
def after (machine : Machine) : Nat → Machine
  | 0 => machine
  | count + 1 => (machine.after count).cycle.2

/-- Whether each of the first `count` cycles goes on. -/
def RunsFor (machine : Machine) (count : Nat) : Prop :=
  ∀ i < count, (machine.after i).cycle.1 = .running

instance (machine : Machine) (count : Nat) : Decidable (machine.RunsFor count) :=
  inferInstanceAs (Decidable (∀ i < count, (machine.after i).cycle.1 = .running))

/-- A run that goes on for some cycles goes on for fewer. -/
theorem RunsFor.mono {machine : Machine} {count fewer : Nat} (h : machine.RunsFor count)
    (hle : fewer ≤ count) : machine.RunsFor fewer :=
  fun i hi => h i (by omega)

/-- Each cycle of a run carries out the instruction it fetches. -/
theorem RunsFor.step {machine : Machine} {count i : Nat} (h : machine.RunsFor count)
    (hi : i < count) :
    ∃ instruction, (machine.after i).fetch = .ok instruction ∧ instruction ≠ .hlt ∧
      (machine.after i).obstacle? instruction = none ∧
      machine.after (i + 1) = (machine.after i).perform instruction :=
  cycle_of_running (h i hi)

/-- A run goes on for one cycle more if it goes on and the last cycle does. -/
theorem runsFor_succ_iff (machine : Machine) (count : Nat) :
    machine.RunsFor (count + 1) ↔
      machine.RunsFor count ∧ (machine.after count).cycle.1 = .running :=
  Nat.forall_lt_succ_right

/-- The first cycles of a machine all go on, or there is a first one that does not. -/
theorem runsFor_cases (machine : Machine) (count : Nat) :
    machine.RunsFor count ∨
      ∃ last < count, machine.RunsFor last ∧ (machine.after last).cycle.1 ≠ .running := by
  induction count with
  | zero =>
    left
    intro i hi
    omega
  | succ count ih =>
    obtain hrun | ⟨last, hlt, hfirst⟩ := ih
    · by_cases hlast : (machine.after count).cycle.1 = .running
      · exact .inl ((machine.runsFor_succ_iff count).mpr ⟨hrun, hlast⟩)
      · exact .inr ⟨count, by omega, hrun, hlast⟩
    · exact .inr ⟨last, by omega, hfirst⟩

/-- There is only one first cycle that does not go on. -/
theorem RunsFor.unique {machine : Machine} {count other : Nat} (h : machine.RunsFor count)
    (hother : machine.RunsFor other) (hlast : (machine.after count).cycle.1 ≠ .running)
    (hlastOther : (machine.after other).cycle.1 ≠ .running) : other = count := by
  obtain hlt | heq | hlt := Nat.lt_trichotomy other count
  · exact absurd (h other hlt) hlastOther
  · exact heq
  · exact absurd (hother count hlt) hlast

/-- More cycles behind some are cycles of the machine that these have left. -/
theorem after_add (machine : Machine) (count more : Nat) :
    machine.after (count + more) = (machine.after count).after more := by
  induction more with
  | zero => rfl
  | succ more ih => rw [← Nat.add_assoc, after, ih, after]

/-- The cycles of a machine that has made some go on where those have led. -/
theorem runsFor_add {machine : Machine} {count : Nat} (h : machine.RunsFor count) (more : Nat) :
    machine.RunsFor (count + more) ↔ (machine.after count).RunsFor more := by
  constructor
  · intro hrun i hi
    rw [← after_add]
    exact hrun (count + i) (by omega)
  · intro hrun i hi
    obtain hlt | hge := Nat.lt_or_ge i count
    · exact h i hlt
    · obtain ⟨j, rfl⟩ := Nat.exists_eq_add_of_le hge
      rw [after_add]
      exact hrun j (by omega)

/-- One cycle and some more behind it are one cycle more. -/
theorem after_succ_left (machine : Machine) (count : Nat) :
    machine.after (count + 1) = machine.cycle.2.after count := by
  rw [Nat.add_comm, after_add]
  rfl

/-- A run goes on for one cycle more if its first cycle does and the rest goes on. -/
theorem runsFor_succ_left (machine : Machine) (count : Nat) :
    machine.RunsFor (count + 1) ↔
      machine.cycle.1 = .running ∧ machine.cycle.2.RunsFor count := by
  constructor
  · intro h
    refine ⟨h 0 (by omega), ?_⟩
    intro i hi
    rw [← after_succ_left]
    exact h (i + 1) (by omega)
  · rintro ⟨hfirst, hrest⟩ i hi
    cases i with
    | zero => exact hfirst
    | succ i =>
      rw [after_succ_left]
      exact hrest i (by omega)

/-- A cycle that goes on is followed by those of the machine it leaves. -/
theorem cycles_of_running {machine : Machine} (h : machine.cycle.1 = .running) (count : Nat) :
    machine.cycles (count + 1) = machine.cycle :: machine.cycle.2.cycles count := by
  rw [cycles]
  cases hcycle : machine.cycle with
  | mk signal other =>
    rw [hcycle] at h
    cases h
    rfl

/-- Behind a cycle that does not go on there is none. -/
theorem cycles_of_not_running {machine : Machine} (h : machine.cycle.1 ≠ .running) (count : Nat) :
    machine.cycles (count + 1) = [machine.cycle] := by
  rw [cycles]
  cases hcycle : machine.cycle with
  | mk signal other =>
    rw [hcycle] at h
    cases signal with
    | running => exact absurd rfl h
    | halted | faulted fault => rfl

/-- What cycles in a row signal and leave is what the states after so many cycles do: as many as
are asked for, or up to the first that does not go on. -/
theorem cycles_eq (machine : Machine) {count made : Nat} (hrun : machine.RunsFor made)
    (hends : made = count ∨ made < count ∧ (machine.after made).cycle.1 ≠ .running) :
    machine.cycles count =
      (List.range (min count (made + 1))).map fun i => (machine.after i).cycle := by
  -- the first cycle is split off, so the machine varies
  induction count generalizing machine made with
  | zero => rw [Nat.zero_min]; rfl
  | succ count ih =>
    have hsplit : ∀ more, (List.range (more + 1)).map (fun i => (machine.after i).cycle) =
        machine.cycle :: (List.range more).map fun i => (machine.cycle.2.after i).cycle := by
      intro more
      simp only [List.range_succ_eq_map, List.map_cons, List.map_map, Function.comp_def,
        Nat.succ_eq_add_one, after_succ_left]
      rfl
    rw [Nat.add_min_add_right, hsplit]
    cases made with
    | zero =>
      obtain hzero | ⟨-, hstops⟩ := hends
      · cases hzero
      · have hstopped : machine.cycle.1 ≠ .running := hstops
        rw [cycles_of_not_running hstopped, Nat.min_zero]
        rfl
    | succ made =>
      obtain ⟨hfirst, hrest⟩ := (machine.runsFor_succ_left made).mp hrun
      rw [cycles_of_running hfirst, ih machine.cycle.2 hrest]
      rw [after_succ_left] at hends
      exact hends.imp (by omega) fun hlater => ⟨by omega, hlater.2⟩

/-- What every cycle keeps holds after any number of cycles. -/
theorem after_induction (Kept : Machine → Prop) {machine : Machine}
    (hstep : ∀ other, Kept other → Kept other.cycle.2) (h : Kept machine) (count : Nat) :
    Kept (machine.after count) := by
  induction count with
  | zero => exact h
  | succ count ih => exact hstep _ ih

/-- The size of the memory never changes. -/
theorem size_after (machine : Machine) (count : Nat) :
    (machine.after count).memory.cells.size = machine.memory.cells.size :=
  after_induction (fun other => other.memory.cells.size = machine.memory.cells.size)
    (fun other h => (size_cycle other).trans h) rfl count

/-- What the first cycles have done of some kind, and what the next one does. -/
theorem filterMap_succ {α : Type} (machine : Machine) (found : Machine → Option α) (count : Nat) :
    (List.range (count + 1)).filterMap (fun i => found (machine.after i)) =
      (List.range count).filterMap (fun i => found (machine.after i)) ++
        (found (machine.after count)).toList := by
  rw [List.range_succ, List.filterMap_append]
  cases h : found (machine.after count) <;> simp [h]

/-! ## Pending bytes -/

/-- The machine with other bytes pending. -/
def withPending (machine : Machine) (bytes : List UInt8) : Machine :=
  { machine with cpu := { machine.cpu with pending := bytes } }

/-- The bytes that the next cycle prints: what its instruction prints, if it meets no
obstacle. -/
def output (machine : Machine) : List UInt8 :=
  match machine.fetch with
  | .ok instruction =>
    match machine.obstacle? instruction with
    | none => machine.printed instruction
    | some _ => []
  | .error _ => []

/-- Pending bytes do not influence a cycle; it adds to them what it prints. -/
theorem cycle_withPending (machine : Machine) (bytes : List UInt8) :
    (machine.withPending bytes).cycle =
      (machine.cycle.1, machine.cycle.2.withPending (bytes ++ machine.output)) := by
  have hfetch : (machine.withPending bytes).fetch = machine.fetch := rfl
  have hobstacle : ∀ instruction,
      (machine.withPending bytes).obstacle? instruction = machine.obstacle? instruction := by
    intro instruction
    cases instruction <;> rfl
  have hperform : ∀ instruction, (machine.withPending bytes).perform instruction =
      (machine.perform instruction).withPending (bytes ++ machine.printed instruction) := by
    intro instruction
    cases instruction <;> rfl
  have hstumbled : ∀ instruction, (machine.withPending bytes).stumbled instruction =
      (machine.stumbled instruction).withPending bytes := by
    intro instruction
    cases instruction <;> rfl
  -- a halt and a failed fetch print nothing, and an obstacle comes before any printing
  unfold output
  rcases machine.cycle_cases with ⟨instruction, hfetched, hhlt, hnone, hcycle⟩ |
    ⟨hfetched, hcycle⟩ | ⟨fault, hfetched, hcycle⟩ |
    ⟨instruction, fault, hfetched, hhlt, hsome, hcycle⟩
  · rw [cycle_of_fetch (hfetch.trans hfetched) hhlt, hobstacle, hperform, hcycle, hfetched]
    simp only [hnone]
  · rw [cycle, hfetch, hcycle, hfetched]
    simp [obstacle?, printed]
  · rw [cycle, hfetch, hcycle, hfetched]
    simp
  · rw [cycle_of_fetch (hfetch.trans hfetched) hhlt, hobstacle, hstumbled, hcycle, hfetched]
    simp [hsome]

/-- A cycle appends its output to what is pending. -/
theorem pending_cycle (machine : Machine) :
    machine.cycle.2.cpu.pending = machine.cpu.pending ++ machine.output := by
  have h := congrArg Prod.snd (machine.cycle_withPending machine.cpu.pending)
  exact congrArg (fun other : Machine => other.cpu.pending) h

/-- The bytes that the first `count` cycles print, in order. -/
def prints (machine : Machine) (count : Nat) : List UInt8 :=
  (List.range count).flatMap fun i => (machine.after i).output

/-- One more cycle prints its output behind that of those before it. -/
theorem prints_succ (machine : Machine) (count : Nat) :
    machine.prints (count + 1) = machine.prints count ++ (machine.after count).output := by
  simp [prints, List.range_succ, List.flatMap_append]

/-- Pending bytes do not influence the machine after some cycles either. -/
theorem after_withPending (machine : Machine) (bytes : List UInt8) (count : Nat) :
    (machine.withPending bytes).after count =
      (machine.after count).withPending (bytes ++ machine.prints count) := by
  induction count with
  | zero => simp [after, prints]
  | succ count ih => rw [after, ih, cycle_withPending, prints_succ, List.append_assoc, after]

/-- What is pending has no influence on the signals. -/
theorem signal_withPending (machine : Machine) (bytes : List UInt8) (count : Nat) :
    ((machine.withPending bytes).after count).cycle.1 = (machine.after count).cycle.1 := by
  rw [after_withPending, cycle_withPending]

/-- What is pending after some cycles is what was pending, and all that they printed. -/
theorem pending_after (machine : Machine) (count : Nat) :
    (machine.after count).cpu.pending = machine.cpu.pending ++ machine.prints count := by
  induction count with
  | zero => simp [after, prints]
  | succ count ih =>
    show (machine.after count).cycle.2.cpu.pending = _
    rw [pending_cycle, ih, prints_succ, List.append_assoc]

end Machine

end ByteMachine
