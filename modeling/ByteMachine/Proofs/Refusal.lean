import ByteMachine.Proofs.Masks
import ByteMachine.Proofs.Restart

/-!
# Refused changes

A change that a machine refuses leaves the machine as it was, with one exception. The pair B:C is
written register by register, so a machine without C refuses a word when B has taken its half.
-/

namespace ByteMachine

/-! ## Changes from outside -/

/-- A change of memory or of the registers that is asked for from outside. -/
inductive Setter where
  | byte (address value : Int)
  | word (address value : Int)
  | program (image : List UInt8) (address : Int)
  | register (number value : Int)
  | pair (value : Int)
  | flags (mask : Int) (on : Bool)
  | flagByte (mask value : Int)
  | pc (value : Int)

/-- The access that makes a change. A byte sets a mask unless it is zero. -/
def Setter.access {δ : Type} : Setter → Access δ
  | .byte address value => .writeByte address value
  | .word address value => .writeWord address value
  | .program image address => .load image address
  | .register number value => .writeRegister number value
  | .pair value => .writePair value
  | .flags mask on => .updateMask mask on
  | .flagByte mask value => .updateMask mask (value != 0)
  | .pc value => .writeRegister Register.pc.number value

theorem Setter.eq_pair_of_access {δ : Type} {setter : Setter} {value : Int}
    (same : (setter.access : Access δ) = .writePair value) : setter = .pair value := by
  cases setter with
  | pair other =>
      cases same
      rfl
  | byte | word | program | register | flags | flagByte | pc => cases same

/-- An answer that turns an access down. -/
def isRefusal : Except Fault Answer → Bool
  | .error _ => true
  | .ok (.refused _) => true
  | .ok .refusedMask => true
  | .ok _ => false

theorem error_of_refusal {σ α : Type} {result : EStateM.Result Fault σ α}
    (refusal : isRefusal ((answerOf result).map fun _ => .done) = true) :
    ∃ fault, result = .error fault (stateOf result) := by
  cases result with
  | ok value state => cases refusal
  | error fault state => exact ⟨fault, rfl⟩

/-! ## What a refused access leaves -/

namespace RegisterFile

variable {file after : RegisterFile} {fault : Fault}

theorem write_error {number value : Int}
    (failed : write number value file = .error fault after) : after = file := by
  unfold write at failed
  split at failed
  · cases failed
    rfl
  · cases failed

/-- The pair is refused for want of C where B can be named. By then B is written. -/
theorem writePair_error {variant : Variant} {values : Registers} {value : Int}
    (failed : writePair value ⟨variant.registerSet, values⟩ = .error fault after) :
    variant = .byte ∧ after.values = { values with b := Word.high value } := by
  cases variant with
  | word =>
      rw [writePair_of_members (by decide) (by decide)] at failed
      cases failed
  | byte =>
      have first : write Register.b.number (Word.high value).toNat
          ⟨Variant.byte.registerSet, values⟩ =
            .ok () ⟨Variant.byte.registerSet, { values with b := Word.high value }⟩ := by
        rw [write_number (by decide), Memory.ofInt_toNat]
        rfl
      simp only [writePair, bind, EStateM.bind, first] at failed
      obtain rfl := write_error failed
      exact ⟨rfl, rfl⟩

end RegisterFile

namespace Machine

variable {δ : Type} {machine after : Machine δ} {fault : Fault}

/-- A machine refuses an access. -/
def refuses (machine : Machine δ) (access : Access δ) : Bool :=
  isRefusal (machine.answer access)

theorem onMemory_error {change : Memory → Except Fault Memory}
    (failed : onMemory change machine = .error fault after) : after = machine := by
  unfold onMemory at failed
  split at failed
  · cases failed
    rfl
  · cases failed

theorem onRegisters_error {α : Type} {action : Action RegisterFile α}
    (failed : onRegisters action machine = .error fault after) :
    ∃ file, action machine.registerFile = .error fault file ∧
      after = { machine with registers := file.values } := by
  unfold onRegisters at failed
  split at failed
  · rename_i file acted
    cases failed
    exact ⟨file, acted, rfl⟩
  · cases failed

/-- A word that is refused as a pair has left its high byte in B. -/
theorem access_refused_pair {value : Int} (refused : machine.refuses (.writePair value) = true) :
    machine.variant = .byte ∧ machine.access (.writePair value) =
      { machine with registers := { machine.registers with b := Word.high value } } := by
  obtain ⟨fault, failed⟩ := error_of_refusal refused
  obtain ⟨file, acted, after_eq⟩ := onRegisters_error failed
  obtain ⟨narrow, values_eq⟩ := RegisterFile.writePair_error acted
  rw [values_eq] at after_eq
  exact ⟨narrow, after_eq⟩

/-- No other access that is refused changes anything. -/
theorem access_refused {access : Access δ} (refused : machine.refuses access = true)
    (single : ∀ value, access ≠ .writePair value) : machine.access access = machine := by
  cases access with
  | writePair value => exact absurd rfl (single value)
  | writeByte | writeWord =>
      obtain ⟨fault, failed⟩ := error_of_refusal refused
      exact onMemory_error failed
  | load image address =>
      obtain ⟨fault, failed⟩ := error_of_refusal refused
      obtain unloaded | ⟨_, _, _, noted⟩ := bind_error failed
      · exact onMemory_error unloaded
      · cases noted
  | writeRegister number value =>
      obtain ⟨fault, failed⟩ := error_of_refusal refused
      obtain ⟨file, acted, after_eq⟩ := onRegisters_error failed
      rw [RegisterFile.write_error acted] at after_eq
      exact after_eq
  | updateMask mask on =>
      rw [refuses, answer] at refused
      rw [Machine.access]
      cases updated : machine.updateMask? mask on with
      | none => rfl
      | some changed =>
          rw [updated] at refused
          cases refused
  | debug operation =>
      cases operation with
      | addCondition condition =>
          simp only [refuses, answer, Debugger.answer] at refused
          simp only [Machine.access, onDebugger, Debugger.perform]
          cases added : machine.debugger.addCondition condition with
          | error problem => rfl
          | ok result =>
              rw [added] at refused
              cases refused
      | _ => cases refused
  | checkInstruction pc =>
      rw [refuses, answer] at refused
      rw [Machine.access]
      cases answered : machine.debugger.checkInstruction machine.registerFile pc with
      | error fault => rfl
      | ok result =>
          rw [answered] at refused
          cases refused
  | clearMemory | clearFlags | checkWrite | observe | attach => cases refused

/-- A change that is refused keeps memory, and all of the machine but B. B is kept unless a word is
written to the pair B:C of a machine without C, in which case B has taken the high byte. -/
theorem refused_setter_keeps_all_but_b (machine : Machine δ) (setter : Setter)
    (refused : machine.refuses setter.access = true) :
    let after := machine.access setter.access
    (after.memory = machine.memory ∧ after.registers = machine.registers ↔
      ∀ value, setter = .pair value → machine.registers.b = Word.high value) ∧
      ((∀ value, setter ≠ .pair value) → after = machine) ∧
      ∀ value, setter = .pair value → machine.variant = .byte ∧
        after = { machine with registers := { machine.registers with b := Word.high value } } := by
  intro after
  by_cases paired : ∃ value, setter = .pair value
  · obtain ⟨value, rfl⟩ := paired
    obtain ⟨narrow, after_eq⟩ := access_refused_pair refused
    change after = _ at after_eq
    refine ⟨?_, fun single => absurd rfl (single value), ?_⟩
    · rw [after_eq]
      constructor
      · rintro ⟨-, kept⟩ other same
        cases same
        exact (congrArg Registers.b kept).symm
      · intro held
        rw [← held value rfl]
        exact ⟨rfl, rfl⟩
    · intro other same
      cases same
      exact ⟨narrow, after_eq⟩
  · have single (value : Int) : setter ≠ .pair value := fun same => paired ⟨value, same⟩
    have kept : after = machine :=
      access_refused refused fun value same => single value (Setter.eq_pair_of_access same)
    rw [kept]
    refine ⟨iff_of_true ⟨rfl, rfl⟩ ?_, fun _ => rfl, ?_⟩
    all_goals exact fun value same => absurd same (single value)

/-- A machine without C, just switched on. -/
def narrowMachine : Machine Scripted :=
  start (.ofVariant .byte none) (Scripted.ofInputs [])

theorem refused_setter_keeps_all_but_b_in_pair :
    narrowMachine.refuses (Setter.pair 0x1234).access = true ∧
      narrowMachine.access (Setter.pair 0x1234).access =
        { narrowMachine with registers := { narrowMachine.registers with b := 0x12 } } := by
  have refused : narrowMachine.refuses (Setter.pair 0x1234).access = true := by decide +kernel
  obtain ⟨-, -, written⟩ := refused_setter_keeps_all_but_b narrowMachine (.pair 0x1234) refused
  exact ⟨refused, (written _ rfl).2⟩

/-- A word that is refused as the pair of a machine without C has changed B. -/
theorem register_changed_by_refused_pair :
    ¬∀ (machine : Machine Scripted) (setter : Setter), machine.refuses setter.access = true →
      (machine.access setter.access).memory = machine.memory ∧
        (machine.access setter.access).registers = machine.registers := by
  intro always_kept
  obtain ⟨-, kept⟩ := always_kept narrowMachine (.pair 0x1234) (by decide +kernel)
  have changed : (narrowMachine.access (Setter.pair 0x1234).access).registers.b = 0x12 := by
    decide +kernel
  rw [kept] at changed
  exact absurd changed (by decide)

end Machine

end ByteMachine
