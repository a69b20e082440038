import ByteMachine.Proofs.Effect

/-!
# What conditional jumps go by

A conditional jump looks at a flag. Arithmetic determines all flags anew, from its exact result, and
nothing else that is executed touches them, apart from a load of the flag register. So a jump goes
by the latest arithmetic that was executed before it, however long ago that was, or by the flags in
the beginning if there was none.
-/

namespace ByteMachine

/-! ## Flags of results -/

/-- The exact result of a difference sets a flag. -/
def Flag.marks : Flag → Int → Bool
  | .zero, exact => exact == 0
  | .sign, exact => exact < 0
  | .overflow, _ => false

/-- The flag that a conditional jump tests. -/
def Opcode.tested? : Opcode → Option Flag
  | .jmz => some .zero
  | .jmn => some .sign
  | _ => none

namespace Registers

variable {registers other : Registers} {flag : Flag}

theorem flag_congr (fl_eq : registers.fl = other.fl) : registers.flag flag = other.flag flag := by
  rw [Registers.flag, Registers.flag, testMask, testMask, fl_eq]

theorem flag_of_mask {which : Flag} (fl_eq : registers.fl = which.mask) :
    registers.flag flag = decide (flag = which) := by
  rw [Registers.flag, testMask, fl_eq]
  cases flag <;> cases which <;> rfl

theorem flag_of_clear (fl_eq : registers.fl = 0) : registers.flag flag = false := by
  rw [Registers.flag, testMask, fl_eq]
  cases flag <;> rfl

theorem flag_of_difference {exact : Int} (fl_eq : registers.fl = differenceFlags exact) :
    registers.flag flag = flag.marks exact := by
  unfold differenceFlags at fl_eq
  split at fl_eq
  · rename_i zero
    rw [flag_of_mask fl_eq]
    cases flag <;> simp [Flag.marks, zero]
  · rename_i nonzero
    split at fl_eq
    · rename_i negative
      rw [flag_of_mask fl_eq]
      cases flag <;> simp [Flag.marks, nonzero, negative]
    · rename_i nonnegative
      rw [flag_of_clear fl_eq]
      cases flag <;> simp [Flag.marks, nonzero, nonnegative]

theorem flag_of_sum {width : Width} {exact : Nat} (fl_eq : registers.fl = sumFlags width exact)
    (signed : flag ≠ .overflow) : registers.flag flag = false := by
  unfold sumFlags at fl_eq
  split at fl_eq
  · rw [flag_of_mask fl_eq]
    exact decide_eq_false signed
  · exact flag_of_clear fl_eq

end Registers

namespace Machine

variable {δ : Type}

/-! ## Arithmetic -/

/-- The next instruction is arithmetic. -/
def computes (machine : Machine δ) : Bool :=
  machine.nextOpcode?.any (· ∈ [.inc, .dec, .add, .sub])

/-- The exact result of the difference that the next instruction takes, if it takes one. -/
def difference? (machine : Machine δ) : Option Int :=
  match machine.nextOpcode? with
  | some .dec => some ((machine.registers.a.toNat : Int) - 1)
  | some .sub =>
    (machine.byteAhead? 1).map fun literal => (machine.registers.a.toNat : Int) - literal.toNat
  | _ => none

/-- The next instruction loads the flag register. -/
def LoadsFlags (machine : Machine δ) : Prop :=
  machine.nextOpcode? = some .get ∧ machine.byteAhead? 1 = some (UInt8.ofNat Register.fl.number)

instance (machine : Machine δ) : Decidable machine.LoadsFlags :=
  inferInstanceAs (Decidable (_ ∧ _))

section Operands

variable {machine after : Machine δ} {byte first : UInt8} {rest operands : List UInt8}

theorem eq_of_registerOf_fl {number : UInt8} (named : registerOf number = .fl) :
    number = UInt8.ofNat Register.fl.number := by
  unfold registerOf at named
  cases found : Register.ofNumber? number.toNat with
  | none =>
      rw [found] at named
      cases named
  | some register =>
      rw [found] at named
      cases named
      have number_eq : (Register.fl.number : Int) = number.toNat := by
        simpa using List.find?_some found
      rw [Int.ofNat_inj.mp number_eq]
      simp

theorem fl_set {register : Register} (other : register ≠ .fl) (registers : Registers)
    (value : UInt8) : (registers.set register value).fl = registers.fl := by
  cases register with
  | fl => exact absurd rfl other
  | a | b | c | d | pc | i => rfl

/-- Only arithmetic and loads of the flag register change the flags. -/
theorem fl_effect {variant : Variant} {opcode : Opcode} (registers : Registers) (input : Nat)
    (inOrder : InOrder variant opcode (opcode.operandKinds variant.isTagged) operands)
    (plain : opcode ∉ [.inc, .dec, .add, .sub])
    (unloaded : ∀ number address, opcode = .get → operands = [number, address] →
      registerOf number ≠ .fl) :
    (effect registers input opcode operands).fl = registers.fl := by
  cases opcode with
  | inc | dec | add | sub => simp at plain
  | inp =>
      rw [effect]
      cases widthOf operands <;> rfl
  | get =>
      obtain _ | ⟨-, _ | ⟨-, ⟨⟩⟩⟩ := inOrder
      exact fl_set (unloaded _ _ rfl rfl) registers _
  | jmp =>
      obtain _ | ⟨-, ⟨⟩⟩ := inOrder
      rfl
  | jmz | jmn =>
      obtain _ | ⟨-, ⟨⟩⟩ := inOrder
      rw [effect]
      split <;> rfl
  | nop | out | put | halt => rfl

/-- The first operand of an instruction that was executed stood behind the opcode. -/
theorem Consumes.byteAhead?_one [Device δ]
    (consumes : machine.Consumes byte (first :: rest) after) :
    machine.byteAhead? 1 = some first := by
  have readable := consumes.bytes 0 (by simp)
  have address_eq : (machine.pc + 1).toNat = (machine.pc.toNat + 1 + 0) % 256 := by simp
  rw [byteAhead?, address_eq, readable]
  rfl

end Operands

section Steps

variable [Device δ] {machine after : Machine δ} {event : Event} {flag : Flag}

/-- Arithmetic sets the zero flag and the sign flag by its own result. -/
theorem flag_of_arithmetic (stepped : step machine = .ok event after)
    (arithmetic : machine.computes = true) (signed : flag ≠ .overflow) :
    after.registers.flag flag = machine.difference?.any flag.marks := by
  obtain ⟨byte, operands, consumes⟩ := consumes_of_step stepped
  have next := nextOpcode?_of_readable consumes.readable
  rw [computes, next] at arithmetic
  rw [difference?, next]
  cases known : Opcode.ofByte? byte with
  | none =>
      rw [known] at arithmetic
      cases arithmetic
  | some opcode =>
      obtain ⟨inOrder, pc, input, registers_eq⟩ := consumes.effect_eq known
      have fl_eq := congrArg Registers.fl registers_eq
      rw [known] at arithmetic
      -- A sum sets neither of the two flags, and there is no difference then.
      cases opcode with
      | inc =>
          have sum_eq :=
            Registers.increment_eq { machine.registers with pc := pc } (widthOf operands)
          exact Registers.flag_of_sum (fl_eq.trans (congrArg Registers.fl sum_eq)) signed
      | dec =>
          have difference_eq := Registers.decrement_eq { machine.registers with pc := pc }
          exact Registers.flag_of_difference (fl_eq.trans (congrArg Registers.fl difference_eq))
      | add =>
          obtain _ | ⟨-, ⟨⟩⟩ := inOrder
          have sum_eq := Registers.addLiteral_eq { machine.registers with pc := pc }
          exact Registers.flag_of_sum (fl_eq.trans (congrArg Registers.fl (sum_eq _))) signed
      | sub =>
          obtain _ | ⟨-, ⟨⟩⟩ := inOrder
          have difference_eq := Registers.subtractLiteral_eq { machine.registers with pc := pc }
          rw [consumes.byteAhead?_one]
          exact Registers.flag_of_difference
            (fl_eq.trans (congrArg Registers.fl (difference_eq _)))
      | _ => cases arithmetic

/-- Other instructions leave the flags alone, unless they load them. -/
theorem flag_of_other (stepped : step machine = .ok event after)
    (other : machine.computes = false) (unloaded : ¬machine.LoadsFlags) :
    after.registers.flag flag = machine.registers.flag flag := by
  obtain ⟨byte, operands, consumes⟩ := consumes_of_step stepped
  have next := nextOpcode?_of_readable consumes.readable
  cases known : Opcode.ofByte? byte with
  | none =>
      obtain ⟨pc, registers_eq⟩ := consumes.moved_of_unknown known
      rw [registers_eq]
      exact Registers.flag_congr rfl
  | some opcode =>
      obtain ⟨inOrder, pc, input, registers_eq⟩ := consumes.effect_eq known
      rw [known] at next
      have plain : opcode ∉ [.inc, .dec, .add, .sub] := by simpa [computes, next] using other
      -- The flags are cleared before the operands are fetched only for sums and differences.
      have unprepared : machine.prepared opcode = machine := by
        cases opcode with
        | add | sub => simp at plain
        | _ => rfl
      have unnamed (number address : UInt8) (loads : opcode = .get)
          (operands_eq : operands = [number, address]) : registerOf number ≠ .fl := by
        subst loads operands_eq
        intro named
        have ahead := consumes.byteAhead?_one
        rw [eq_of_registerOf_fl named] at ahead
        exact unloaded ⟨next, ahead⟩
      rw [registers_eq, unprepared]
      exact Registers.flag_congr (fl_effect _ input inOrder plain unnamed)

/-- A conditional jump goes by the flag that it tests. -/
theorem pc_of_jump {opcode : Opcode} (stepped : step machine = .ok event after)
    (next : machine.nextOpcode? = some opcode) (tests : opcode.tested? = some flag) :
    ∃ target, machine.byteAhead? 1 = some target ∧
      after.pc = if machine.registers.flag flag then target else machine.pc + 2 := by
  obtain ⟨byte, operands, consumes⟩ := consumes_of_step stepped
  have known : Opcode.ofByte? byte = some opcode :=
    (nextOpcode?_of_readable consumes.readable).symm.trans next
  obtain ⟨inOrder, -⟩ := consumes.effect_eq known
  have pc_eq := consumes.pc_eq
  rw [instructionSize, known] at pc_eq
  cases opcode with
  | jmz | jmn =>
      cases tests
      obtain _ | ⟨-, ⟨⟩⟩ := inOrder
      refine ⟨_, consumes.byteAhead?_one, pc_eq.trans ?_⟩
      rw [Option.bind_some, target?]
      split <;> rfl
  | _ => cases tests

end Steps

/-! ## Steps one after the other -/

/-- Steps that succeed lead from one machine to another. Between them the machine may be accessed,
but not its registers. The machines in which the steps began are listed, the latest first. -/
inductive StepsTo [Device δ] (start : Machine δ) : List (Machine δ) → Machine δ → Prop
  | refl : StepsTo start [] start
  | step {executed : List (Machine δ)} {machine after : Machine δ} {event : Event} :
      StepsTo start executed machine → Machine.step machine = .ok event after →
        StepsTo start (machine :: executed) after
  | access {executed : List (Machine δ)} {machine : Machine δ} {access : Access δ} :
      StepsTo start executed machine → access.sparesRegisters = true →
        StepsTo start executed (machine.access access)

/-- How a flag stands after some steps, the latest first: as the latest arithmetic has set it, or
as in the beginning if there was none. -/
def flagAfter (start : Machine δ) (executed : List (Machine δ)) (flag : Flag) : Bool :=
  match executed.find? computes with
  | some machine => machine.difference?.any flag.marks
  | none => start.registers.flag flag

section Jumps

variable [Device δ] {start machine after : Machine δ} {executed : List (Machine δ)} {event : Event}
  {flag : Flag}

theorem StepsTo.next (steps : StepsTo start executed machine)
    (succeeds : machine.next?.isSome = true) :
    StepsTo start (machine :: executed) (stateOf (Machine.step machine)) := by
  obtain ⟨event, stepped⟩ := step_of_isSome succeeds
  exact steps.step stepped

/-- The zero flag and the sign flag stand as the latest arithmetic has set them. -/
theorem StepsTo.flag_eq (steps : StepsTo start executed machine)
    (unloaded : ∀ earlier ∈ executed, ¬earlier.LoadsFlags) (signed : flag ≠ .overflow) :
    machine.registers.flag flag = flagAfter start executed flag := by
  induction steps with
  | refl => rfl
  | @step executed machine after event _ stepped ih =>
      -- The step is the latest, so if it is arithmetic, it is the one that is found.
      rw [List.forall_mem_cons] at unloaded
      cases arithmetic : machine.computes with
      | true =>
          rw [flag_of_arithmetic stepped arithmetic signed, flagAfter,
            List.find?_cons_of_pos arithmetic]
      | false =>
          have passed : ¬machine.computes = true := by simp [arithmetic]
          rw [flag_of_other stepped arithmetic unloaded.1, ih unloaded.2, flagAfter, flagAfter,
            List.find?_cons_of_neg passed]
  | access _ spared ih =>
      rw [registers_of_access spared]
      exact ih unloaded

/-- A conditional jump goes by the latest arithmetic that was executed before it. The jump for zero
is taken just when that was a decrement or a difference with the exact result zero, and the jump
for negative numbers just when the exact result was negative. If there was no arithmetic, the flags
in the beginning decide. -/
theorem jumps_follow_latest_arithmetic (steps : StepsTo start executed machine)
    (unloaded : ∀ earlier ∈ executed, ¬earlier.LoadsFlags)
    (stepped : step machine = .ok event after) :
    (machine.nextOpcode? = some .jmz →
      ∃ target, machine.byteAhead? 1 = some target ∧
        after.pc = if flagAfter start executed .zero then target else machine.pc + 2) ∧
    (machine.nextOpcode? = some .jmn →
      ∃ target, machine.byteAhead? 1 = some target ∧
        after.pc = if flagAfter start executed .sign then target else machine.pc + 2) := by
  constructor
  · intro next
    rw [← steps.flag_eq unloaded (by decide)]
    exact pc_of_jump stepped next rfl
  · intro next
    rw [← steps.flag_eq unloaded (by decide)]
    exact pc_of_jump stepped next rfl

theorem jumps_follow_latest_arithmetic_over_store :
    let first := holding [0x06, 0x00, 0x00, 0x0A, 0x07]
    let second := stateOf (step first)
    let machine := (stateOf (step second)).access (.writeByte 4 9)
    StepsTo first [second, first] machine ∧
      (∀ earlier ∈ [second, first], ¬earlier.LoadsFlags) ∧
      machine.nextOpcode? = some .jmz ∧ (stateOf (step machine)).pc = 9 := by
  intro first second machine
  have steps : StepsTo first [second, first] machine :=
    ((StepsTo.refl.next (by decide +kernel)).next (by decide +kernel)).access rfl
  have unloaded : ∀ earlier ∈ [second, first], ¬earlier.LoadsFlags := by decide +kernel
  have jumps : machine.nextOpcode? = some .jmz := by decide +kernel
  have ahead_eq : machine.byteAhead? 1 = some 9 := by decide +kernel
  have zero : flagAfter first [second, first] .zero = true := by decide +kernel
  have succeeds : machine.next?.isSome = true := by decide +kernel
  clear_value machine second
  obtain ⟨event, stepped⟩ := step_of_isSome succeeds
  obtain ⟨target, ahead, pc_eq⟩ :=
    (jumps_follow_latest_arithmetic steps unloaded stepped).1 jumps
  rw [ahead_eq, Option.some_inj] at ahead
  rw [zero, if_pos rfl, ← ahead] at pc_eq
  exact ⟨steps, unloaded, jumps, pc_eq⟩

end Jumps

end Machine

end ByteMachine
