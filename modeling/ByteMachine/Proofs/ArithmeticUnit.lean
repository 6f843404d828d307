import ByteMachine.Proofs.Effect

/-!
# The arithmetic unit

What an operation on two registers leaves and answers, for all five operations, though no
instruction asks for three of them. The unit reads both registers before it looks at the
operation and writes last, so that a fault leaves nothing changed. Sums and products are taken
modulo 256.

A multiplication that is carried out writes its product twice: the unit has stored it already.
-/

set_option autoImplicit false

namespace ByteMachine

/-- The fault that an operation on two registers meets, if it meets one: the registers come
first, in their order. -/
def Operation.fault? (operation : Operation) (first second : UInt8) : Option Fault :=
  if 8 ≤ first.toNat then some (.invalidRegister first)
  else if 8 ≤ second.toNat then some (.invalidRegister second)
  else if operation = .sub ∨ operation = .div then some (.unsupported operation)
  else none

/-- The first register is looked at before the second, and both before the operation. -/
theorem Operation.fault?_eq (operation : Operation) (first second : UInt8) :
    operation.fault? first second =
      ((Cpu.unnamed? first).or (Cpu.unnamed? second)).or operation.refused? := by
  rw [fault?, Cpu.unnamed?_eq, Cpu.unnamed?_eq]
  by_cases hfirst : 8 ≤ first.toNat
  · rw [if_pos hfirst, if_pos hfirst, Option.some_or, Option.some_or]
  rw [if_neg hfirst, if_neg hfirst, Option.none_or]
  by_cases hsecond : 8 ≤ second.toNat
  · rw [if_pos hsecond, if_pos hsecond, Option.some_or]
  rw [if_neg hsecond, if_neg hsecond, Option.none_or]
  cases operation <;> rfl

namespace Machine

variable {machine after : Machine} {operation : Operation} {first second : UInt8}

/-! ## One access after the other -/

/-- An operation as its accesses to registers, one after the other. A fault would keep what was
written before it. -/
def Effect.computeInSteps (operation : Operation) (first second : UInt8) :
    Effect (Option UInt8) := do
  let left ← readRegister first
  let right ← readRegister second
  match operation with
  | .add =>
    writeRegister first (left + right)
    return none
  | .mul =>
    writeRegister first (left * right)
    return some (left * right)
  | .cmp =>
    if left = right then
      onCpu Cpu.setEqual
    return none
  | .sub => throw (.unsupported .sub)
  | .div => throw (.unsupported .div)

/-- Computing at once gives the same answer and the same machine as going step by step. -/
theorem Effect.compute_eq_computeInSteps (operation : Operation) (first second : UInt8) :
    compute operation first second = computeInSteps operation first second := by
  funext machine
  simp only [compute_apply, computeInSteps, bind_apply, readRegister_apply]
  -- both registers are checked when they are read, so the write that follows cannot fail
  cases hfirst : Cpu.unnamed? first with
  | some fault => rfl
  | none =>
    cases Cpu.unnamed? second with
    | some fault => rfl
    | none =>
      cases operation with
      | add | mul =>
        simp only [bind_apply, writeRegister_apply, hfirst]
        rfl
      | cmp =>
        by_cases hequal : machine.cpu.value first = machine.cpu.value second <;>
          simp [bind_apply, onCpu_apply, hequal, Operation.refused?, Cpu.computed, Cpu.answer?, pure,
            EStateM.pure]
      | sub | div => rfl

/-! ## What an operation leaves -/

/-- An operation that meets a fault leaves the machine as it was. -/
theorem compute_eq_error_iff {fault : Fault} :
    Effect.compute operation first second machine = .error fault after ↔
      operation.fault? first second = some fault ∧ after = machine := by
  rw [Effect.compute_apply, ← Operation.fault?_eq]
  cases operation.fault? first second with
  | none => simp
  | some other => simp [eq_comm]

/-- Two named registers and an operation that is supported are all that computing needs. -/
theorem compute_of_named (hfirst : first.toNat < 8) (hsecond : second.toNat < 8)
    (hrefused : operation.refused? = none) :
    Effect.compute operation first second machine =
      .ok (machine.cpu.answer? operation first second)
        { machine with cpu := machine.cpu.computed operation first second } := by
  rw [Effect.compute_apply, (Cpu.unnamed?_eq_none_iff first).mpr hfirst,
    (Cpu.unnamed?_eq_none_iff second).mpr hsecond, hrefused]
  rfl

/-- The second machine is the first one but for a register. -/
structure SameBut (index : UInt8) (before after : Machine) : Prop where
  memory : after.memory = before.memory
  pc : after.cpu.pc = before.cpu.pc
  flags : after.cpu.flags = before.cpu.flags
  pending : after.cpu.pending = before.cpu.pending
  registers : ∀ i (hi : i < 8), i ≠ index.toNat →
    after.cpu.registers[i] = before.cpu.registers[i]

/-- Putting a value into a register changes no other part of the machine. -/
theorem sameBut_put (machine : Machine) (index value : UInt8) :
    SameBut index machine { machine with cpu := machine.cpu.put index value } where
  memory := rfl
  pc := rfl
  flags := rfl
  pending := rfl
  registers _ hi hne := Vector.getElem_setIfInBounds_ne hi hne.symm

/-- Addition leaves the sum modulo 256 in the first register and touches nothing else. -/
theorem sum_of_compute (machine : Machine) (hfirst : first.toNat < 8) (hsecond : second.toNat < 8) :
    ∃ after, Effect.compute .add first second machine = .ok none after ∧
      (after.cpu.value first).toNat =
        ((machine.cpu.value first).toNat + (machine.cpu.value second).toNat) % 256 ∧
      SameBut first machine after := by
  refine ⟨_, compute_of_named hfirst hsecond rfl, ?_, machine.sameBut_put first _⟩
  rw [Cpu.computed, Cpu.value_put_self _ _ hfirst]
  exact UInt8.toNat_add _ _

/-- Multiplication leaves the product modulo 256 in the first register, hands it on, and
touches nothing else. -/
theorem product_of_compute (machine : Machine) (hfirst : first.toNat < 8)
    (hsecond : second.toNat < 8) :
    ∃ after, Effect.compute .mul first second machine = .ok (some (after.cpu.value first)) after ∧
      (after.cpu.value first).toNat =
        (machine.cpu.value first).toNat * (machine.cpu.value second).toNat % 256 ∧
      SameBut first machine after := by
  let product := machine.cpu.value first * machine.cpu.value second
  have hvalue : (machine.cpu.put first product).value first = product :=
    machine.cpu.value_put_self product hfirst
  refine ⟨{ machine with cpu := machine.cpu.put first product }, ?_, ?_,
    machine.sameBut_put first product⟩
  · rw [compute_of_named hfirst hsecond rfl, hvalue]
    rfl
  · rw [hvalue]
    exact UInt8.toNat_mul _ _

/-- A comparison sets the lowest flag if the values agree, and changes nothing else. -/
theorem flags_of_compute (machine : Machine) (hfirst : first.toNat < 8)
    (hsecond : second.toNat < 8) :
    ∃ after, Effect.compute .cmp first second machine = .ok none after ∧
      (∀ i, after.cpu.flags.toNat.testBit i = true ↔
        machine.cpu.flags.toNat.testBit i = true ∨
          (i = 0 ∧ machine.cpu.value first = machine.cpu.value second)) ∧
      after = { machine with cpu := { machine.cpu with flags := after.cpu.flags } } := by
  refine ⟨_, compute_of_named hfirst hsecond rfl, ?_, ?_⟩
  · intro i
    by_cases hequal : machine.cpu.value first = machine.cpu.value second
    · simp [Cpu.computed, Cpu.setEqual, hequal, Nat.testBit_one_eq_true_iff_self_eq_zero]
    · simp [Cpu.computed, hequal]
  · simp only [Cpu.computed]
    split <;> rfl

/-! ## The instruction -/

/-- A multiplication is what the unit does and a move of the program counter: that the product
is written again makes no difference. -/
theorem execute_mul (machine : Machine) (first second : UInt8) :
    execute (.mul first second) machine =
      (do
        let _ ← Effect.compute .mul first second
        Effect.goTo (machine.cpu.pc + 3)) machine := by
  have hwidth : (Instruction.mul first second).width = 3 := by
    rw [Instruction.width, Instruction.operandCount_opcode]
    rfl
  rw [execute_eq, obstacle?]
  simp only [Effect.bind_apply, Effect.compute_apply, Operation.refused?, Option.or_none]
  cases (Cpu.unnamed? first).or (Cpu.unnamed? second) with
  | some fault => rfl
  | none =>
    simp [perform, registersAfter, pcAfter, flagsAfter, printed, memoryAfter, hwidth, Effect.goTo,
      Effect.onCpu_apply, Cpu.computed, Cpu.put]

/-- Two factors have one product, in whichever of their registers it is left. -/
theorem value_of_swapped (machine : Machine) (hfirst : first.toNat < 8) (hsecond : second.toNat < 8) :
    ∃ after other, execute (.mul first second) machine = .ok () after ∧
      execute (.mul second first) machine = .ok () other ∧
      after.cpu.value first = other.cpu.value second := by
  have hobstacle : ∀ {left right : UInt8}, left.toNat < 8 → right.toNat < 8 →
      machine.obstacle? (.mul left right) = none := by
    intro left right hleft hright
    rw [obstacle?, (Cpu.unnamed?_eq_none_iff left).mpr hleft,
      (Cpu.unnamed?_eq_none_iff right).mpr hright]
    rfl
  refine ⟨machine.perform (.mul first second), machine.perform (.mul second first), ?_, ?_, ?_⟩
  · rw [execute_eq, hobstacle hfirst hsecond]
  · rw [execute_eq, hobstacle hsecond hfirst]
  · calc (machine.perform (.mul first second)).cpu.value first
        = machine.cpu.value first * machine.cpu.value second :=
          machine.cpu.value_put_self _ hfirst
      _ = machine.cpu.value second * machine.cpu.value first := UInt8.mul_comm _ _
      _ = (machine.perform (.mul second first)).cpu.value second :=
          (machine.cpu.value_put_self _ hsecond).symm

/-- The arithmetic unit accesses its registers one after the other. It fails for a first register
that does not exist, else for such a second one, else for a subtraction or division, and a fault
leaves the machine as it was. A sum or product modulo 256 replaces the first register, also where
both registers are the same, and a product is answered as well. A comparison sets the lowest flag if
the values agree. Nothing else changes. Carrying out a multiplication is what the unit does and a
move of the program counter, and the product does not depend on the order of the registers. -/
theorem contract_of_compute (machine : Machine) (operation : Operation) (first second : UInt8) :
    Effect.compute operation first second = Effect.computeInSteps operation first second ∧
    (∀ fault after, Effect.compute operation first second machine = .error fault after ↔
      operation.fault? first second = some fault ∧ after = machine) ∧
    (first.toNat < 8 → second.toNat < 8 →
      (∃ after, Effect.compute .add first second machine = .ok none after ∧
        (after.cpu.value first).toNat =
          ((machine.cpu.value first).toNat + (machine.cpu.value second).toNat) % 256 ∧
        SameBut first machine after) ∧
      (∃ after, Effect.compute .mul first second machine =
          .ok (some (after.cpu.value first)) after ∧
        (after.cpu.value first).toNat =
          (machine.cpu.value first).toNat * (machine.cpu.value second).toNat % 256 ∧
        SameBut first machine after) ∧
      (∃ after, Effect.compute .cmp first second machine = .ok none after ∧
        (∀ i, after.cpu.flags.toNat.testBit i = true ↔
          machine.cpu.flags.toNat.testBit i = true ∨
            (i = 0 ∧ machine.cpu.value first = machine.cpu.value second)) ∧
        after = { machine with cpu := { machine.cpu with flags := after.cpu.flags } }) ∧
      ∃ after other, execute (.mul first second) machine = .ok () after ∧
        execute (.mul second first) machine = .ok () other ∧
        after.cpu.value first = other.cpu.value second) ∧
    execute (.mul first second) machine =
      (do
        let _ ← Effect.compute .mul first second
        Effect.goTo (machine.cpu.pc + 3)) machine := by
  refine ⟨Effect.compute_eq_computeInSteps operation first second,
    fun fault after => compute_eq_error_iff, ?_, machine.execute_mul first second⟩
  intro hfirst hsecond
  exact ⟨machine.sum_of_compute hfirst hsecond, machine.product_of_compute hfirst hsecond,
    machine.flags_of_compute hfirst hsecond, machine.value_of_swapped hfirst hsecond⟩

/-- A machine with 16 in one register and 17 in another one. -/
def factors : Machine where
  cpu := { Cpu.reset with registers := #v[16, 17, 0, 0, 0, 0, 0, 0xF4] }
  memory := Memory.ram

/-- A product above 255 wraps, and a division of the same registers is refused and leaves the
machine as it was. -/
theorem contract_of_factors :
    (0 : UInt8).toNat < 8 ∧ (1 : UInt8).toNat < 8 ∧
    (∃ after, Effect.compute .mul 0 1 factors = .ok (some (after.cpu.value 0)) after ∧
      (after.cpu.value 0).toNat = 16 ∧ SameBut 0 factors after) ∧
    Operation.fault? .div 0 1 = some (.unsupported .div) ∧
    Effect.compute .div 0 1 factors = .error (.unsupported .div) factors := by
  have hfirst : (0 : UInt8).toNat < 8 := by decide
  have hsecond : (1 : UInt8).toNat < 8 := by decide
  have hdiv : Operation.fault? .div 0 1 = some (.unsupported .div) := by decide
  obtain ⟨-, hfaults, hcarried, -⟩ := contract_of_compute factors .div 0 1
  obtain ⟨-, ⟨after, hcomputed, hproduct, hsame⟩, -⟩ := hcarried hfirst hsecond
  exact ⟨hfirst, hsecond, ⟨after, hcomputed, hproduct, hsame⟩, hdiv,
    (hfaults _ factors).mpr ⟨hdiv, rfl⟩⟩

end Machine

end ByteMachine
