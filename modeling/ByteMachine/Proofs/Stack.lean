import ByteMachine.Proofs.Trajectory
import Mathlib.Data.Nat.Count
import Mathlib.Tactic.Ring

/-!
# The stack in memory

The cells from the stack pointer on, taken round the end of memory, are a stack.
Beside a run stands an abstract one: the list of the pushes that are open after so
many cycles, newest first, each named by the number of its cycle. A push and the
pop that closes it match as brackets do, by the depth of the run around them.

As long as nothing but pushes and pops moves the stack pointer and the depth stays
within the 256 cells, the stack pointer and the cells show the abstract stack after
every cycle, and every pop takes the byte of the push it matches.
-/

set_option autoImplicit false

namespace ByteMachine

/-- The register that an instruction replaces by a value, if it does so. A push and
a pop move the stack pointer besides. -/
def Instruction.destination? : Instruction → Option UInt8
  | .ldi register _ => some register
  | .mul first _ => some first
  | .pop register => some register
  | _ => none

namespace Machine

/-! ## Pushes and pops of a run -/

/-- The byte that the next cycle pushes, if it carries out a push. -/
def pushes? (machine : Machine) : Option UInt8 :=
  match machine.fetch with
  | .ok (.push register) => some (machine.pushed register)
  | _ => none

/-- The register that the next cycle pops into, if it carries out a pop. -/
def pops? (machine : Machine) : Option UInt8 :=
  match machine.fetch with
  | .ok (.pop register) => some register
  | _ => none

/-- The register that the next cycle replaces by a value, if it does so. -/
def destination? (machine : Machine) : Option UInt8 :=
  match machine.fetch with
  | .ok instruction => instruction.destination?
  | .error _ => none

/-- The number of pushes less the number of pops among the first `count` cycles. -/
def depth (machine : Machine) (count : Nat) : Int :=
  (Nat.count (fun i => (machine.after i).pushes?.isSome) count : Int) -
    Nat.count (fun i => (machine.after i).pops?.isSome) count

/-- The abstract stack after `count` cycles: the pushes that are open, newest first,
named by the numbers of their cycles. -/
def openPushes (machine : Machine) : Nat → List Nat
  | 0 => []
  | count + 1 =>
    match (machine.after count).fetch with
    | .ok (.push _) => count :: machine.openPushes count
    | .ok (.pop _) => (machine.openPushes count).tail
    | _ => machine.openPushes count

/-- Whether a push and a pop belong together, as brackets do: after the pop the run
is as deep as before the push, and in between it is deeper. -/
structure Matches (machine : Machine) (push pop : Nat) : Prop where
  /-- The push comes first. -/
  before : push < pop
  /-- One of the two cycles is a push. -/
  pushes : (machine.after push).pushes?.isSome
  /-- The other is a pop. -/
  pops : (machine.after pop).pops?.isSome
  /-- The pop closes what the push opened. -/
  closes : machine.depth (pop + 1) = machine.depth push
  /-- Nothing before it does. -/
  encloses : ∀ i, push < i → i ≤ pop → machine.depth push < machine.depth i

/-- What the next cycle is to the stack. -/
theorem stack_cases (machine : Machine) :
    (∃ register, machine.fetch = .ok (.push register) ∧
      machine.pushes? = some (machine.pushed register) ∧ machine.pops? = none) ∨
    (∃ register, machine.fetch = .ok (.pop register) ∧
      machine.pushes? = none ∧ machine.pops? = some register) ∨
    ((∀ register, machine.fetch ≠ .ok (.push register)) ∧
      (∀ register, machine.fetch ≠ .ok (.pop register)) ∧
      machine.pushes? = none ∧ machine.pops? = none) := by
  unfold pushes? pops?
  cases machine.fetch with
  | error fault => simp
  | ok instruction => cases instruction <;> simp

/-- How a cycle changes the depth and the abstract stack. -/
theorem stack_succ (machine : Machine) (count : Nat) :
    (∃ register, (machine.after count).fetch = .ok (.push register) ∧
      (machine.after count).pushes? = some ((machine.after count).pushed register) ∧
      machine.depth (count + 1) = machine.depth count + 1 ∧
      machine.openPushes (count + 1) = count :: machine.openPushes count) ∨
    (∃ register, (machine.after count).fetch = .ok (.pop register) ∧
      (machine.after count).pops? = some register ∧
      machine.depth (count + 1) = machine.depth count - 1 ∧
      machine.openPushes (count + 1) = (machine.openPushes count).tail) ∨
    ((∀ register, (machine.after count).fetch ≠ .ok (.push register)) ∧
      (∀ register, (machine.after count).fetch ≠ .ok (.pop register)) ∧
      machine.depth (count + 1) = machine.depth count ∧
      machine.openPushes (count + 1) = machine.openPushes count) := by
  have hdepth : machine.depth (count + 1) = machine.depth count +
      (if (machine.after count).pushes?.isSome then 1 else 0) -
      (if (machine.after count).pops?.isSome then 1 else 0) := by
    simp only [depth, Nat.count_succ]
    push_cast
    ring
  rw [hdepth, openPushes]
  rcases (machine.after count).stack_cases with ⟨register, hfetch, hpushes, hpops⟩ |
    ⟨register, hfetch, hpushes, hpops⟩ | ⟨hpush, hpop, hpushes, hpops⟩
  · exact .inl ⟨register, hfetch, hpushes, by simp [hpushes, hpops], by rw [hfetch]⟩
  · exact .inr (.inl ⟨register, hfetch, hpops, by simp [hpushes, hpops], by rw [hfetch]⟩)
  · refine .inr (.inr ⟨hpush, hpop, by simp [hpushes, hpops], ?_⟩)
    split
    · next register hfetch => exact absurd hfetch (hpush register)
    · next register hfetch => exact absurd hfetch (hpop register)
    · rfl

/-! ## The abstract stack -/

/-- What the run knows of an open push after `count` cycles, if `above` pushes are open
that came later: its level is that much lower, and it has not been reached again. -/
structure Open (machine : Machine) (count above push : Nat) : Prop where
  earlier : push < count
  pushes : (machine.after push).pushes?.isSome
  level : machine.depth push = machine.depth count - 1 - above
  encloses : ∀ i, push < i → i ≤ count → machine.depth push < machine.depth i

/-- The abstract stack is as high as the run is deep, and each of its pushes is open. -/
theorem openPushes_spec (machine : Machine) {count : Nat}
    (hdepth : ∀ i ≤ count, 0 ≤ machine.depth i) :
    ((machine.openPushes count).length : Int) = machine.depth count ∧
    ∀ above push, (machine.openPushes count)[above]? = some push →
      machine.Open count above push := by
  induction count with
  | zero => simp [openPushes, depth]
  | succ count ih =>
    obtain ⟨hlength, hopen⟩ := ih fun i hi => hdepth i (by omega)
    have hnonneg := hdepth (count + 1) le_rfl
    -- an open push stays open while the run stays deeper than its level
    have hkeep : ∀ above left push : Nat, machine.Open count above push →
        machine.depth (count + 1) - 1 - left = machine.depth count - 1 - above →
        machine.Open (count + 1) left push := by
      intro above left push h hlevel
      have hbelow := h.level
      refine ⟨by have := h.earlier; omega, h.pushes, by omega, ?_⟩
      intro i hi hle
      obtain hlt | rfl := Nat.lt_or_eq_of_le hle
      · exact h.encloses i hi (by omega)
      · omega
    rcases machine.stack_succ count with ⟨register, -, hpushes, hsucc, hstack⟩ |
      ⟨register, -, hpops, hsucc, hstack⟩ | ⟨-, -, hsucc, hstack⟩
    · rw [hstack]
      refine ⟨by simp only [List.length_cons]; push_cast; omega, ?_⟩
      intro above push hpush
      cases above with
      | zero =>
        simp only [List.getElem?_cons_zero, Option.some.injEq] at hpush
        subst hpush
        refine ⟨by omega, by simp [hpushes], by push_cast; omega, ?_⟩
        intro i hi hle
        obtain rfl : i = count + 1 := by omega
        omega
      | succ above =>
        rw [List.getElem?_cons_succ] at hpush
        exact hkeep above (above + 1) push (hopen above push hpush) (by push_cast; omega)
    · rw [hstack]
      refine ⟨by rw [List.length_tail]; omega, ?_⟩
      intro above push hpush
      rw [List.getElem?_tail] at hpush
      exact hkeep (above + 1) above push (hopen (above + 1) push hpush) (by push_cast; omega)
    · rw [hstack]
      refine ⟨by omega, ?_⟩
      intro above push hpush
      exact hkeep above above push (hopen above push hpush) (by omega)

/-- A pop closes the push on top of the abstract stack, and the two match. -/
theorem matches_of_pop {machine : Machine} {pop : Nat} {register : UInt8}
    (hdepth : ∀ i ≤ pop + 1, 0 ≤ machine.depth i)
    (hpop : (machine.after pop).fetch = .ok (.pop register)) :
    ∃ push, (machine.openPushes pop)[0]? = some push ∧ machine.Matches push pop := by
  have hbefore : ∀ i ≤ pop, 0 ≤ machine.depth i := fun i hi => hdepth i (by omega)
  obtain ⟨hlength, hopen⟩ := machine.openPushes_spec hbefore
  have hnonneg := hdepth (pop + 1) le_rfl
  have hpops : (machine.after pop).pops? = some register := by simp [pops?, hpop]
  have hsucc : machine.depth (pop + 1) = machine.depth pop - 1 := by
    obtain ⟨other, hpush, -⟩ | ⟨other, -, -, hsucc, -⟩ | ⟨-, hno, -⟩ := machine.stack_succ pop
    · rw [hpop] at hpush
      cases hpush
    · exact hsucc
    · exact absurd hpop (hno register)
  cases hstack : machine.openPushes pop with
  | nil =>
    rw [hstack, List.length_nil] at hlength
    push_cast at hlength
    omega
  | cons push rest =>
    have htop := hopen 0 push (by rw [hstack]; rfl)
    have hlevel := htop.level
    refine ⟨push, rfl, htop.earlier, htop.pushes, by simp [hpops], ?_, htop.encloses⟩
    push_cast at hlevel
    omega

/-- The abstract stack holds exactly the pushes that no pop has matched. -/
theorem mem_openPushes_iff {machine : Machine} {count : Nat}
    (hdepth : ∀ i ≤ count, 0 ≤ machine.depth i) (push : Nat) :
    push ∈ machine.openPushes count ↔
      push < count ∧ (machine.after push).pushes?.isSome ∧
        ∀ pop < count, ¬ machine.Matches push pop := by
  constructor
  · intro hmem
    obtain ⟨above, hget⟩ := List.mem_iff_getElem?.mp hmem
    have hopen := (machine.openPushes_spec hdepth).2 above push hget
    refine ⟨hopen.earlier, hopen.pushes, ?_⟩
    intro pop hpop hmatches
    have hbefore := hmatches.before
    have hcloses := hmatches.closes
    have hencloses := hopen.encloses (pop + 1) (by omega) (by omega)
    omega
  · induction count with
    | zero =>
      rintro ⟨hlt, -⟩
      omega
    | succ count ih =>
      rintro ⟨hlt, hpushes, hnot⟩
      have hbefore : push < count → push ∈ machine.openPushes count := fun hearlier =>
        ih (fun i hi => hdepth i (by omega))
          ⟨hearlier, hpushes, fun pop hpop => hnot pop (by omega)⟩
      rcases machine.stack_succ count with ⟨register, hfetch, -, -, hstack⟩ |
        ⟨register, hfetch, hpops, -, hstack⟩ | ⟨hno, -, -, hstack⟩
      · rw [hstack, List.mem_cons]
        obtain hearlier | rfl := Nat.lt_or_eq_of_le (Nat.le_of_lt_succ hlt)
        · exact .inr (hbefore hearlier)
        · exact .inl rfl
      · obtain hearlier | rfl := Nat.lt_or_eq_of_le (Nat.le_of_lt_succ hlt)
        · obtain ⟨top, htop, hmatches⟩ := matches_of_pop hdepth hfetch
          have hmem := hbefore hearlier
          rw [hstack]
          cases hopen : machine.openPushes count with
          | nil =>
            rw [hopen] at hmem
            cases hmem
          | cons first rest =>
            rw [hopen, List.getElem?_cons_zero, Option.some.injEq] at htop
            rw [hopen, List.mem_cons] at hmem
            obtain rfl | hrest := hmem
            · subst htop
              exact absurd hmatches (hnot count (by omega))
            · exact hrest
        · simp [pushes?, hfetch] at hpushes
      · obtain hearlier | rfl := Nat.lt_or_eq_of_le (Nat.le_of_lt_succ hlt)
        · rw [hstack]
          exact hbefore hearlier
        · unfold pushes? at hpushes
          split at hpushes
          · next register hfetch => exact absurd hfetch (hno register)
          · cases hpushes

/-- The open pushes are named in falling order, and all of them were made before. -/
theorem openPushes_newest_first (machine : Machine) (count : Nat) :
    (machine.openPushes count).Pairwise (· > ·) ∧ ∀ push ∈ machine.openPushes count, push < count := by
  induction count with
  | zero => simp [openPushes]
  | succ count ih =>
    obtain ⟨hsorted, hbound⟩ := ih
    rcases machine.stack_succ count with ⟨register, -, -, -, hstack⟩ |
      ⟨register, -, -, -, hstack⟩ | ⟨-, -, -, hstack⟩
    · rw [hstack]
      refine ⟨List.pairwise_cons.mpr ⟨hbound, hsorted⟩, ?_⟩
      intro push hmem
      obtain rfl | hrest := List.mem_cons.mp hmem
      · omega
      · have := hbound push hrest
        omega
    · rw [hstack]
      refine ⟨hsorted.tail, fun push hmem => ?_⟩
      have := hbound push (List.mem_of_mem_tail hmem)
      omega
    · rw [hstack]
      refine ⟨hsorted, fun push hmem => ?_⟩
      have := hbound push hmem
      omega

/-! ## The stack pointer and the cells -/

/-- A pop into another register moves the stack pointer up by one. -/
theorem sp_perform_pop (machine : Machine) {register : UInt8} (hne : register ≠ 7) :
    (machine.perform (.pop register)).cpu.sp = machine.cpu.sp + 1 := by
  have hsp : (machine.perform (.pop register)).cpu.sp =
      (machine.cpu.put register (machine.memory.cell machine.cpu.sp.toNat)).sp + 1 :=
    Cpu.sp_setSp _ _
  rw [hsp, Cpu.sp_put_of_ne _ _ hne]

/-- A register popped into holds the byte of the cell at the stack pointer. -/
theorem read_perform_pop (machine : Machine) {register : UInt8} (hregister : register.toNat < 8)
    (hne : register ≠ 7) :
    (machine.perform (.pop register)).cpu.read register =
      .ok (machine.memory.cell machine.cpu.sp.toNat) := by
  rw [Cpu.read_eq, if_pos hregister]
  congr 1
  have hvalue : (machine.perform (.pop register)).cpu.value register =
      ((machine.cpu.put register (machine.memory.cell machine.cpu.sp.toNat)).setSp
        ((machine.cpu.put register (machine.memory.cell machine.cpu.sp.toNat)).sp + 1)).value
          register := rfl
  rw [hvalue, Cpu.value_setSp_of_ne _ _ hne, Cpu.value_put_self _ _ hregister]

/-- What the machine shows of its stack after `count` cycles. -/
structure StackShown (machine : Machine) (count : Nat) : Prop where
  /-- The stack pointer is as far below where it was as the run is deep, round the
  end of memory. -/
  pointer : ((machine.after count).cpu.sp.toNat : Int) =
    (machine.cpu.sp.toNat - machine.depth count) % 256
  /-- The abstract stack is as high as the run is deep. -/
  height : ((machine.openPushes count).length : Int) = machine.depth count
  /-- It holds the pushes that no pop has matched. -/
  unpopped : ∀ push, push ∈ machine.openPushes count ↔
    push < count ∧ (machine.after push).pushes?.isSome ∧
      ∀ pop < count, ¬ machine.Matches push pop
  /-- It holds the newest first. -/
  newestFirst : (machine.openPushes count).Pairwise (· > ·)
  /-- The cells from the stack pointer on hold what these pushes pushed. -/
  cells : ∀ above push, (machine.openPushes count)[above]? = some push →
    (machine.after count).memory.peek? (((machine.after count).cpu.sp.toNat + above) % 256) =
      (machine.after push).pushes?

/-- The stack pointer follows the depth, and the cells follow the abstract stack. -/
structure Follows (machine : Machine) (count : Nat) : Prop where
  pointer : ((machine.after count).cpu.sp.toNat : Int) =
    (machine.cpu.sp.toNat - machine.depth count) % 256
  cells : ∀ above push, (machine.openPushes count)[above]? = some push →
    (machine.after count).memory.peek? (((machine.after count).cpu.sp.toNat + above) % 256) =
      (machine.after push).pushes?

/-- Before the first cycle the depth is zero and no push is open. -/
theorem follows_start (machine : Machine) : machine.Follows 0 where
  pointer := by
    have hlt := machine.cpu.sp.toNat_lt
    simp only [after, depth, Nat.count_zero]
    push_cast
    omega
  cells := by simp [openPushes]

section Step

variable {machine : Machine} {count : Nat} {register : UInt8}

/-- A push puts its byte in the cell below the others. It is none of theirs, since the
depth is at most 256. -/
theorem Follows.push (h : machine.Follows count) (hram : machine.memory.cells.size = 256)
    (hdepth : ∀ i ≤ count + 1, 0 ≤ machine.depth i ∧ machine.depth i ≤ 256)
    (hfetch : (machine.after count).fetch = .ok (.push register))
    (hafter : machine.after (count + 1) = (machine.after count).perform (.push register)) :
    machine.Follows (count + 1) := by
  obtain ⟨other, hpush, hpushes, hsucc, hstack⟩ | ⟨other, hpop, -⟩ | ⟨hno, -⟩ :=
    machine.stack_succ count
  · obtain rfl : register = other := by
      rw [hpush] at hfetch
      cases hfetch
      rfl
    have hlt := (machine.after count).cpu.sp.toNat_lt
    have hsize := machine.size_after count
    have hpointer := h.pointer
    have hsp : (machine.after (count + 1)).cpu.sp = (machine.after count).cpu.sp - 1 := by
      rw [hafter]
      exact Cpu.sp_setSp _ _
    have hnew : (machine.after (count + 1)).cpu.sp.toNat =
        ((machine.after count).cpu.sp.toNat + 255) % 256 := by
      rw [hsp, UInt8.toNat_sub]
      simp [Nat.add_comm]
    have hmemory : (machine.after (count + 1)).memory =
        (machine.after count).memory.put (machine.after (count + 1)).cpu.sp.toNat
          ((machine.after count).pushed register) := by
      rw [hsp, hafter]
      rfl
    refine ⟨by omega, ?_⟩
    intro above push hget
    rw [hmemory, Memory.peek?_put]
    rw [hstack] at hget
    cases above with
    | zero =>
      rw [List.getElem?_cons_zero, Option.some.injEq] at hget
      rw [if_pos (by omega), ← hpushes, hget]
    | succ above =>
      rw [List.getElem?_cons_succ] at hget
      have hnonneg : ∀ i ≤ count, 0 ≤ machine.depth i := fun i hi => (hdepth i (by omega)).1
      have hheight := (machine.openPushes_spec hnonneg).1
      have hbelow := (List.getElem?_eq_some_iff.mp hget).1
      have hmost := (hdepth (count + 1) le_rfl).2
      rw [if_neg (by omega), ← h.cells above push hget]
      congr 1
      omega
  · rw [hfetch] at hpop
    cases hpop
  · exact absurd hfetch (hno register)

/-- A pop takes the newest of the open pushes away, and the others keep their cells. -/
theorem Follows.pop (h : machine.Follows count)
    (hfetch : (machine.after count).fetch = .ok (.pop register)) (hne : register ≠ 7)
    (hafter : machine.after (count + 1) = (machine.after count).perform (.pop register)) :
    machine.Follows (count + 1) := by
  obtain ⟨other, hpush, -⟩ | ⟨other, -, -, hsucc, hstack⟩ | ⟨-, hno, -⟩ :=
    machine.stack_succ count
  · rw [hfetch] at hpush
    cases hpush
  · have hlt := (machine.after count).cpu.sp.toNat_lt
    have hpointer := h.pointer
    have hnew : (machine.after (count + 1)).cpu.sp.toNat =
        ((machine.after count).cpu.sp.toNat + 1) % 256 := by
      rw [hafter, sp_perform_pop _ hne, UInt8.toNat_add]
      rfl
    have hmemory : (machine.after (count + 1)).memory = (machine.after count).memory := by
      rw [hafter]
      rfl
    refine ⟨by omega, ?_⟩
    intro above push hget
    rw [hstack, List.getElem?_tail] at hget
    rw [hmemory, ← h.cells (above + 1) push hget]
    congr 1
    omega
  · exact absurd hfetch (hno register)

/-- An instruction that is no push or pop moves neither the stack pointer nor a cell. -/
theorem Follows.other (h : machine.Follows count)
    (hpush : ∀ register, (machine.after count).fetch ≠ .ok (.push register))
    (hpop : ∀ register, (machine.after count).fetch ≠ .ok (.pop register))
    (hsp : (machine.after (count + 1)).cpu.sp = (machine.after count).cpu.sp)
    (hmemory : (machine.after (count + 1)).memory = (machine.after count).memory) :
    machine.Follows (count + 1) := by
  obtain ⟨register, hfetch, -⟩ | ⟨register, hfetch, -⟩ | ⟨-, -, hsucc, hstack⟩ :=
    machine.stack_succ count
  · exact absurd hfetch (hpush register)
  · exact absurd hfetch (hpop register)
  · refine ⟨?_, ?_⟩
    · rw [hsp, hsucc]
      exact h.pointer
    · rw [hsp, hmemory, hstack]
      exact h.cells

end Step

/-- Along a run that pops nothing into the stack pointer and whose depth stays from 0 to 256, the
stack pointer follows the depth and the cells follow the abstract stack. -/
theorem follows_of_run {machine : Machine} {count : Nat}
    (hram : machine.memory.cells.size = 256) (hrun : machine.RunsFor count)
    (hdestination : ∀ i < count, (machine.after i).destination? ≠ some 7)
    (hdepth : ∀ i ≤ count, 0 ≤ machine.depth i ∧ machine.depth i ≤ 256) :
    machine.Follows count := by
  induction count with
  | zero => exact machine.follows_start
  | succ count ih =>
    have h := ih (hrun.mono (by omega)) (fun i hi => hdestination i (by omega))
      (fun i hi => hdepth i (by omega))
    obtain ⟨instruction, hfetch, -, -, hafter⟩ := hrun.step (Nat.lt_succ_self count)
    have hfree : instruction.destination? ≠ some 7 := by
      have hlast := hdestination count (by omega)
      rwa [destination?, hfetch] at hlast
    cases instruction with
    | push register => exact h.push hram hdepth hfetch hafter
    | pop register =>
      have hne : register ≠ 7 := fun heq => hfree (congrArg some heq)
      exact h.pop hfetch hne hafter
    | ldi register value | mul register other =>
      have hne : register ≠ 7 := fun heq => hfree (congrArg some heq)
      refine h.other ?_ ?_ ?_ ?_
      · simp [hfetch]
      · simp [hfetch]
      · rw [hafter]
        exact Cpu.sp_put_of_ne _ _ hne
      · rw [hafter]
        rfl
    | _ =>
      refine h.other ?_ ?_ ?_ ?_
      · simp [hfetch]
      · simp [hfetch]
      · rw [hafter]
        rfl
      · rw [hafter]
        rfl

/-! ## Whole runs -/

/-- A push is matched by at most one pop. -/
theorem Matches.unique {machine : Machine} {push other pop : Nat}
    (h : machine.Matches push pop) (hother : machine.Matches other pop) : other = push := by
  have hcloses := h.closes
  have hcloses' := hother.closes
  obtain hlt | heq | hlt := Nat.lt_trichotomy push other
  · have := h.encloses other hlt (by have := hother.before; omega)
    omega
  · exact heq.symm
  · have := hother.encloses push hlt (by have := h.before; omega)
    omega

/-- In a run in which nothing but pushes and pops moves the stack pointer and which
is never deeper than memory has cells, memory shows the abstract stack after every
cycle, and every pop takes the byte of the push it matches. -/
theorem stack_of_run {machine : Machine} {count : Nat}
    (hram : machine.memory.cells.size = 256) (hrun : machine.RunsFor count)
    (hdestination : ∀ i < count, (machine.after i).destination? ≠ some 7)
    (hdepth : ∀ i ≤ count, 0 ≤ machine.depth i ∧ machine.depth i ≤ 256) :
    (∀ i ≤ count, machine.StackShown i) ∧
    ∀ pop < count, ∀ register, (machine.after pop).fetch = .ok (.pop register) →
      (∃ push, machine.Matches push pop) ∧
      ∀ push, machine.Matches push pop → ∃ value, (machine.after push).pushes? = some value ∧
        (machine.after (pop + 1)).cpu.read register = .ok value := by
  have hnonneg : ∀ i ≤ count, ∀ j ≤ i, 0 ≤ machine.depth j :=
    fun i hi j hj => (hdepth j (by omega)).1
  have hshown : ∀ i ≤ count, machine.StackShown i := by
    intro i hi
    have hfollows := follows_of_run hram (hrun.mono hi)
      (fun j hj => hdestination j (by omega)) (fun j hj => hdepth j (by omega))
    exact {
      pointer := hfollows.pointer
      height := (machine.openPushes_spec (hnonneg i hi)).1
      unpopped := mem_openPushes_iff (hnonneg i hi)
      newestFirst := (machine.openPushes_newest_first i).1
      cells := hfollows.cells }
  refine ⟨hshown, ?_⟩
  intro pop hpop register hfetch
  obtain ⟨top, htop, hmatches⟩ := matches_of_pop (hnonneg (pop + 1) (by omega)) hfetch
  refine ⟨⟨top, hmatches⟩, ?_⟩
  intro push hpush
  obtain rfl := hmatches.unique hpush
  obtain ⟨value, hvalue⟩ := Option.isSome_iff_exists.mp hmatches.pushes
  refine ⟨value, hvalue, ?_⟩
  -- the pop reads the cell at the stack pointer, where the top of the stack stands
  have hcell := (hshown pop (by omega)).cells 0 _ htop
  have hlt := (machine.after pop).cpu.sp.toNat_lt
  rw [Nat.add_zero, Nat.mod_eq_of_lt (by omega), hvalue] at hcell
  obtain ⟨instruction, hfetched, -, hobstacle, hafter⟩ := hrun.step hpop
  obtain rfl : instruction = .pop register := Except.ok.inj (hfetched.symm.trans hfetch)
  have hregister : register.toNat < 8 :=
    (Cpu.unnamed?_eq_none_iff register).mp (Option.or_eq_none_iff.mp hobstacle).2
  have hne : register ≠ 7 := by
    rintro rfl
    exact hdestination pop hpop (by rw [destination?, hfetch]; rfl)
  rw [hafter, read_perform_pop _ hregister hne, Memory.cell, hcell, Option.getD_some]

/-- From a stack pointer of zero it pushes a register and then the stack pointer, and
pops both. -/
def twoDeep : Machine where
  cpu := { Cpu.reset with registers := #v[5, 0, 0, 0, 0, 0, 0, 0] }
  memory := Memory.beginning [0x45, 0, 0x45, 7, 0x46, 1, 0x46, 2]

/-- From 0 the stack pointer wraps below the end of memory. The second push, of the stack
pointer itself, has stored the decremented one and is matched by the first pop, and the first
push by the second pop. -/
theorem stack_of_twoDeep :
    twoDeep.memory.cells.size = 256 ∧ twoDeep.RunsFor 4 ∧
    (∀ i < 4, (twoDeep.after i).destination? ≠ some 7) ∧
    (∀ i ≤ 4, 0 ≤ twoDeep.depth i ∧ twoDeep.depth i ≤ 256) ∧
    twoDeep.openPushes 2 = [1, 0] ∧ (twoDeep.after 1).pushes? = some 254 ∧
    (twoDeep.after 3).fetch = .ok (.pop 2) ∧
    (∀ i ≤ 4, twoDeep.StackShown i) ∧ ∃ push, twoDeep.Matches push 3 := by
  have hram : twoDeep.memory.cells.size = 256 := by decide +kernel
  have hrun : twoDeep.RunsFor 4 := by decide +kernel
  have hdestination : ∀ i < 4, (twoDeep.after i).destination? ≠ some 7 := by decide +kernel
  have hdepth : ∀ i ≤ 4, 0 ≤ twoDeep.depth i ∧ twoDeep.depth i ≤ 256 := by decide +kernel
  have hpop : (twoDeep.after 3).fetch = .ok (.pop 2) := by decide +kernel
  obtain ⟨hshown, hpops⟩ := stack_of_run hram hrun hdestination hdepth
  exact ⟨hram, hrun, hdestination, hdepth, by decide +kernel, by decide +kernel, hpop, hshown,
    (hpops 3 (by omega) 2 hpop).1⟩

end Machine

end ByteMachine
