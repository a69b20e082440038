import ByteMachine.Proofs.HookHistory
import ByteMachine.Proofs.Masks
import ByteMachine.Proofs.Restart

/-!
# Checks before instructions

Whatever is done to a machine and to its debugger, the check before an instruction comes to an
answer: the debugger holds only conditions that its machine can look at. The check finds the
request, a breakpoint or the first condition that is met, in this order. So a run fails only as an
instruction does that it sets out to execute, unless the machine had halted before.
-/

namespace ByteMachine

/-! ## Conditions that are met -/

/-- Two integers are in the relation that a comparison asks for. -/
def Comparison.Relates (operand constant : Int) : Comparison → Prop
  | .eq => operand = constant
  | .ne => operand ≠ constant
  | .lt => operand < constant
  | .le => operand ≤ constant
  | .gt => operand > constant
  | .ge => operand ≥ constant
  | .bits => Int.land operand constant ≠ 0

/-- What a condition looks at compares with its constant as it asks. -/
def Condition.Met (registers : Registers) (condition : Condition) : Prop :=
  condition.comparison.Relates (condition.operand.reading registers) condition.constant.value

theorem Operand.reading_word (registers : Registers) (operand : Operand) :
    0 ≤ operand.reading registers ∧ operand.reading registers < 65536 := by
  cases operand with
  | register which =>
      have small := (registers.get which).toNat_lt
      simp only [reading]
      omega
  | pair =>
      have high := registers.b.toNat_lt
      have low := registers.c.toNat_lt
      simp only [reading, Registers.pair, Word.join]
      omega
  | flag which =>
      simp only [reading]
      split <;> omega

/-- A word and an integer have a bit in common if the word has one with the lowest bits of the
integer. -/
theorem land_word_iff {word : Nat} (small : word < 65536) (constant : Int) :
    word &&& (constant % 65536).toNat = 0 ↔ Int.land word constant = 0 := by
  have natural : word &&& (constant % 65536).toNat = 0 ↔
      Int.land word (constant % 65536).toNat = 0 := Int.natCast_eq_zero.symm
  have same_bit {bit : Nat} (here : Int.testBit word bit = true) :
      Int.testBit (constant % 65536).toNat bit = constant.testBit bit := by
    have low : bit < 16 := by
      have large : 2 ^ bit ≤ word := Nat.ge_two_pow_of_testBit here
      exact (Nat.pow_lt_pow_iff_right Nat.one_lt_two).mp (Nat.lt_of_le_of_lt large small)
    have reduced := testBit_emod_two_pow constant 16 bit
    rw [decide_eq_true low, Bool.true_and] at reduced
    exact reduced
  rw [natural, land_eq_zero_iff, land_eq_zero_iff]
  refine forall_congr' fun bit => forall_congr' fun here => ?_
  rw [same_bit here]

theorem Comparison.holds_iff {operand constant : Int} (word : 0 ≤ operand ∧ operand < 65536)
    (comparison : Comparison) :
    comparison.holds operand constant = true ↔ comparison.Relates operand constant := by
  cases comparison with
  | bits =>
      obtain ⟨natural, small⟩ := word
      obtain ⟨number, rfl⟩ := Int.eq_ofNat_of_zero_le natural
      have common := land_word_iff (Int.ofNat_lt.mp small) constant
      simpa [holds, Relates] using not_congr common
  | eq | ne | lt | le | gt | ge => simp [holds, Relates]

/-- A condition that reads only registers of a variant holds there just when it is met. -/
theorem Condition.holds_iff_met {condition : Condition} {variant : Variant}
    (present : ∀ register ∈ condition.operand.registers, variant.has register = true)
    (registers : Registers) :
    ∃ answer, condition.holds ⟨variant.registerSet, registers⟩ = .ok answer ∧
      (answer = true ↔ condition.Met registers) := by
  refine ⟨_, ?_, Comparison.holds_iff (condition.operand.reading_word registers) _⟩
  rw [holds, Operand.value_eq present]
  rfl

namespace Debugger

/-! ## What a check finds -/

/-- The condition with the least number among those of a list that are met, if there is one. -/
inductive FirstMet (registers : Registers) (listed : List (Nat × Condition)) :
    Option Condition → Prop
  | found {number : Nat} {condition : Condition} : (number, condition) ∈ listed →
      condition.Met registers →
      (∀ other later, (other, later) ∈ listed → later.Met registers → number ≤ other) →
      FirstMet registers listed (some condition)
  | nothing : (∀ number condition, (number, condition) ∈ listed → ¬condition.Met registers) →
      FirstMet registers listed none

/-- What the check before the instruction at `pc` finds, and the debugger that it leaves. A request
comes before a breakpoint, and a breakpoint before the conditions. -/
inductive Finds (debugger : Debugger) (registers : Registers) (pc : Int) :
    Debugger → Option Event → Prop
  | request : debugger.breakRequested = true →
      Finds debugger registers pc
        { debugger with breakRequested := false, lastEvent := some (.interrupt pc) }
        (some (.interrupt pc))
  | breakpoint : debugger.breakRequested = false → pc ∈ debugger.breakpoints →
      Finds debugger registers pc { debugger with lastEvent := some (.breakpoint pc) }
        (some (.breakpoint pc))
  | condition {condition : Condition} : debugger.breakRequested = false →
      pc ∉ debugger.breakpoints →
      FirstMet registers debugger.listConditions (some condition) →
      Finds debugger registers pc
        { debugger with lastEvent := some (.condition pc condition.description) }
        (some (.condition pc condition.description))
  | nothing : debugger.breakRequested = false → pc ∉ debugger.breakpoints →
      FirstMet registers debugger.listConditions none → Finds debugger registers pc debugger none

section Finding

variable {debugger checked : Debugger} {registers : Registers} {variant : Variant} {pc : Int}
  {found : Option Event}

theorem firstHolding?_firstMet {conditions : List (Option Condition)}
    (present : ∀ condition, some condition ∈ conditions →
      ∀ register ∈ condition.operand.registers, variant.has register = true)
    (registers : Registers) (first : Nat) :
    ∃ found, firstHolding? ⟨variant.registerSet, registers⟩ conditions = .ok found ∧
      FirstMet registers (numbered first conditions) found := by
  induction conditions generalizing first with
  | nil => exact ⟨none, rfl, .nothing fun _ _ member => absurd member List.not_mem_nil⟩
  | cons head rest ih =>
      obtain ⟨found, searched, least⟩ :=
        ih (fun condition member => present condition (List.mem_cons_of_mem _ member)) (first + 1)
      cases head with
      | none => exact ⟨found, searched, least⟩
      | some condition =>
          obtain ⟨answer, held, met_iff⟩ :=
            Condition.holds_iff_met (present condition List.mem_cons_self) registers
          rw [firstHolding?, held, numbered]
          cases answer with
          | true =>
              refine ⟨some condition, rfl, .found List.mem_cons_self (met_iff.mp rfl) ?_⟩
              intro other later member _
              obtain same | behind := List.mem_cons.mp member
              · cases same
                exact Nat.le_refl first
              · exact Nat.le_of_succ_le (mem_numbered.mp behind).1
          | false =>
              have unmet : ¬condition.Met registers := fun met => by
                cases met_iff.mpr met
              refine ⟨found, searched, ?_⟩
              cases least with
              | found member met lowest =>
                  refine .found (List.mem_cons_of_mem _ member) met ?_
                  intro other later listed met_later
                  obtain same | behind := List.mem_cons.mp listed
                  · cases same
                    exact absurd met_later unmet
                  · exact lowest other later behind met_later
              | nothing none_met =>
                  refine .nothing ?_
                  intro number other listed
                  obtain same | behind := List.mem_cons.mp listed
                  · cases same
                    exact unmet
                  · exact none_met number other behind

/-- The check of a debugger that suits its machine has an answer, which is what there is to be
found. -/
theorem Fits.checkInstruction_finds (fits : debugger.Fits variant) (registers : Registers)
    (pc : Int) :
    ∃ checked found,
      debugger.checkInstruction ⟨variant.registerSet, registers⟩ pc = .ok (checked, found) ∧
        debugger.Finds registers pc checked found := by
  unfold checkInstruction
  split
  · rename_i requested
    exact ⟨_, _, rfl, .request requested⟩
  · rename_i unrequested
    have unrequested := Bool.eq_false_iff.mpr unrequested
    split
    · rename_i standing
      exact ⟨_, _, rfl, .breakpoint unrequested (List.contains_iff_mem.mp standing)⟩
    · rename_i clear
      have clear := mt List.contains_iff_mem.mpr clear
      obtain ⟨found, searched, least⟩ := firstHolding?_firstMet fits.conditions registers 0
      rw [searched]
      cases found with
      | none => exact ⟨_, _, rfl, .nothing unrequested clear least⟩
      | some condition => exact ⟨_, _, rfl, .condition unrequested clear least⟩

namespace Finds

/-- Something is found just when there is a request, a breakpoint or a condition that is met. -/
theorem isSome_iff (finds : debugger.Finds registers pc checked found) :
    found.isSome = true ↔ debugger.breakRequested = true ∨ pc ∈ debugger.breakpoints ∨
      ∃ number condition, (number, condition) ∈ debugger.listConditions ∧
        condition.Met registers := by
  cases finds with
  | request requested => exact iff_of_true rfl (Or.inl requested)
  | breakpoint _ standing => exact iff_of_true rfl (Or.inr (Or.inl standing))
  | condition _ _ least =>
      cases least with
      | found member met _ => exact iff_of_true rfl (Or.inr (Or.inr ⟨_, _, member, met⟩))
  | nothing unrequested clear least =>
      cases least with
      | nothing none_met =>
          refine iff_of_false (by simp) ?_
          rintro (requested | standing | ⟨number, condition, member, met⟩)
          · rw [unrequested] at requested
            cases requested
          · exact clear standing
          · exact none_met number condition member met

/-- The request is used up just when it is found. -/
theorem request_iff (finds : debugger.Finds registers pc checked found) :
    checked.breakRequested ≠ debugger.breakRequested ↔ found = some (.interrupt pc) := by
  cases finds with
  | request requested => simp [requested]
  | breakpoint => simp [Event.breakpoint, Event.interrupt]
  | condition => simp [Event.condition, Event.interrupt]
  | nothing => simp

end Finds

end Finding

end Debugger

/-! ## What is done to a machine -/

/-- Something that is done to a machine or to its debugger. -/
inductive Act (δ : Type) where
  | request (request : Request δ)
  | demand (demand : Debugger.Demand)

theorem Debugger.Fits.attend {debugger : Debugger} {variant : Variant}
    (fits : debugger.Fits variant) (demand : Demand) : (debugger.attend demand).Fits variant := by
  cases demand with
  | change operation => exact fits.perform operation
  | addConditionText operand comparison constant description =>
      change (debugger.leftBy
        (debugger.addConditionText operand comparison constant description)).Fits variant
      rw [addConditionText]
      cases Condition.parse operand comparison constant description with
      | error problem => exact fits
      | ok condition =>
          have given : debugger.attend (.change (.addCondition condition)) =
              debugger.leftBy (debugger.addCondition condition) := attend_of_addition rfl
          have kept := fits.perform (.addCondition condition)
          change (debugger.attend (.change (.addCondition condition))).Fits variant at kept
          rwa [given] at kept
  | checkInstruction file pc =>
      change (debugger.leftBy (debugger.checkInstruction file pc)).Fits variant
      cases answered : debugger.checkInstruction file pc with
      | error fault => exact fits
      | ok result =>
          obtain ⟨owner_eq, conditions_eq⟩ := checkInstruction_keeps answered
          exact ⟨owner_eq.trans fits.owner, conditions_eq ▸ fits.conditions⟩
  | checkWrite address value => exact fits.of_hooked ((Hooked.refl _).checkWrite _ _)

namespace Machine

variable {δ : Type} [Device δ]

/-- A machine after something is done to it, be it refused or not. -/
def afterAct (machine : Machine δ) : Act δ → Machine δ
  | .request request => stateOf (respond request machine)
  | .demand demand => machine.onDebugger (·.attend demand)

/-- A machine after all that is done to it since it was switched on. -/
def afterActs (config : Config) (device : δ) (acts : List (Act δ)) : Machine δ :=
  acts.foldl afterAct (start config device)

section Suiting

variable {machine after : Machine δ} {fault : Fault}

/-- Calls of a machine whose debugger suits it leave one whose debugger suits it. -/
theorem runRespected_fits : RunRespected (fun _ => False) (fun _ => True)
    fun machine other : Machine δ => machine = other ∧ machine.debugger.Fits machine.variant where
  pc := fun ⟨same, _⟩ => congrArg Machine.pc same
  status := fun ⟨same, _⟩ => congrArg Machine.status same
  steps := fun ⟨same, _⟩ => congrArg Machine.steps same
  maxSteps := fun ⟨same, _⟩ => congrArg (·.config.maxSteps) same
  resumeAt := fun ⟨same, _⟩ => congrArg Machine.resumeAt same
  check := by
    rintro machine _ ⟨rfl, fits⟩
    obtain ⟨⟨checked, found⟩, answered⟩ :=
      fits.checkInstruction_ok machine.registers machine.pc.toNat
    obtain ⟨owner_eq, conditions_eq⟩ := Debugger.checkInstruction_keeps answered
    exact Or.inr ⟨checked, checked, found, answered, answered, rfl,
      owner_eq.trans fits.owner, conditions_eq ▸ fits.conditions⟩
  step := by
    rintro machine _ ⟨rfl, fits⟩ -
    cases stepped : Machine.step machine with
    | ok event after => exact .ok rfl ⟨rfl, fits_of_frame fits (frame_of_step stepped)⟩
    | error fault after => exact .error ⟨rfl, fits_of_frame fits (frame_of_fault stepped)⟩
  store := fun ⟨same, _⟩ _ _ => congrArg Machine.watchedStore? same
  settle := fun ⟨same, fits⟩ => ⟨congrArg (fun now => { now with writeStop := none }) same, fits⟩
  remember := fun place ⟨same, fits⟩ =>
    ⟨congrArg (fun now => { now with resumeAt := place }) same, fits⟩
  conclude := fun event ⟨same, fits⟩ => ⟨congrArg (·.concluded event) same, fits⟩

theorem fits_of_call (fits : machine.debugger.Fits machine.variant) (call : Call) :
    (stateOf (Machine.call call machine)).debugger.Fits
      (stateOf (Machine.call call machine)).variant := by
  have called := runRespected_fits.call call ⟨rfl, fits⟩ fun _ _ => trivial
  exact (called.agree fun _ _ => id).2.2

theorem fits_of_act (fits : machine.debugger.Fits machine.variant) (act : Act δ) :
    (machine.afterAct act).debugger.Fits (machine.afterAct act).variant := by
  cases act with
  | demand demand => exact fits.attend demand
  | request request =>
      cases request with
      | call call =>
          have called := fits_of_call fits call
          simp only [afterAct, respond, bind, EStateM.bind]
          cases answered : Machine.call call machine <;> rw [answered] at called <;> exact called
      | access access =>
          have accessed := (idle_access machine access).fits fits
          simp only [afterAct, respond]
          cases machine.answer access <;> exact accessed
      | reset clearsMemory => exact fits.perform .clearRequest

theorem fits_of_acts (config : Config) (device : δ) (acts : List (Act δ)) :
    (afterActs config device acts).debugger.Fits (afterActs config device acts).variant := by
  have started : (start config device).debugger.Fits (start config device).variant :=
    .empty config.variant
  unfold afterActs
  generalize start config device = machine at started ⊢
  induction acts generalizing machine with
  | nil => exact started
  | cons act rest ih => exact ih _ (fits_of_act started act)

omit [Device δ] in
theorem checkBefore_ok (fits : machine.debugger.Fits machine.variant) (resume : Option UInt8) :
    ∃ found checked, checkBefore resume machine = .ok found checked := by
  obtain ⟨⟨checked, found⟩, answered⟩ :=
    fits.checkInstruction_ok machine.registers machine.pc.toNat
  change machine.debugger.checkInstruction machine.registerFile machine.pc.toNat = _ at answered
  rw [checkBefore]
  split
  · exact ⟨_, _, rfl⟩
  · rw [answered]
    cases found <;> exact ⟨_, _, rfl⟩

/-- A round that does not end a run leaves a debugger that suits its machine. -/
theorem fits_of_checkedStep {stop : Option Event} (fits : machine.debugger.Fits machine.variant)
    (performed : checkedStep machine = .ok stop after) : after.debugger.Fits after.variant := by
  cases stepped : step machine with
  | error fault next =>
      rw [checkedStep_of_fault stepped] at performed
      cases performed
  | ok event next =>
      rw [checkedStep_of_step stepped] at performed
      have stepped_fits := fits_of_frame fits (frame_of_step stepped)
      cases performed
      exact stepped_fits

/-- A run whose checks all come to an answer fails only as the last instruction does that it sets
out to execute. -/
theorem step_of_runLoop_error {limit : Option Int} {budget : Nat} {resume : Option UInt8}
    (fits : machine.debugger.Fits machine.variant)
    (failed : runLoop limit budget resume machine = .error fault after) :
    ∃ attempt, (loopAttempts budget resume machine).getLast? = some attempt ∧
      step attempt = .error fault after := by
  induction budget generalizing resume machine with
  | zero => cases limit <;> cases failed
  | succ budget ih =>
      rw [runLoop_succ] at failed
      obtain ⟨found, held, checked⟩ := checkBefore_ok fits resume
      simp only [bind, EStateM.bind, checked] at failed
      cases found with
      | some event => cases failed
      | none =>
          obtain rfl := checkBefore_none checked
          simp only [loopAttempts, checked]
          obtain unperformed | ⟨stop, next, performed, rest⟩ := bind_error failed
          · rw [unperformed]
            exact ⟨held, rfl, step_of_checkedStep_error unperformed⟩
          · cases stop with
            | some event => cases rest
            | none =>
                obtain ⟨attempt, last, failing⟩ := ih (fits_of_checkedStep fits performed) rest
                rw [performed]
                exact ⟨attempt, by rw [List.getLast?_cons, last]; rfl, failing⟩

theorem step_of_run_error {supply : Nat} {maxSteps : Option Int}
    (fits : machine.debugger.Fits machine.variant)
    (failed : run supply maxSteps machine = .error fault after) :
    (machine.status = .halted ∧ fault = .alreadyHalted ∧ after = machine) ∨
      ∃ attempt, (machine.attempts (.run supply maxSteps)).getLast? = some attempt ∧
        step attempt = .error fault after := by
  cases status : machine.status with
  | halted =>
      rw [run_of_halted status] at failed
      cases failed
      exact Or.inl ⟨rfl, rfl, rfl⟩
  | running =>
      rw [run_of_running status] at failed
      simp only [attempts, status]
      exact Or.inr (step_of_runLoop_error fits failed)

end Suiting

/-- After anything that is done to a machine and to its debugger, the check before an instruction
finds at every address what there is to be found, and a run fails only as the last instruction does
that it sets out to execute, unless the machine had halted before. -/
theorem checks_always_answer (config : Config) (device : δ) (acts : List (Act δ)) :
    let machine := afterActs config device acts
    (∀ pc : Int, ∃ checked found,
      machine.debugger.checkInstruction machine.registerFile pc = .ok (checked, found) ∧
        machine.debugger.Finds machine.registers pc checked found ∧
        (found.isSome = true ↔
          machine.debugger.breakRequested = true ∨ pc ∈ machine.debugger.breakpoints ∨
            ∃ number condition, (number, condition) ∈ machine.debugger.listConditions ∧
              condition.Met machine.registers) ∧
        (checked.breakRequested ≠ machine.debugger.breakRequested ↔
          found = some (.interrupt pc))) ∧
      ∀ supply maxSteps fault after, run supply maxSteps machine = .error fault after →
        (machine.status = .halted ∧ fault = .alreadyHalted ∧ after = machine) ∨
          ∃ attempt, (machine.attempts (.run supply maxSteps)).getLast? = some attempt ∧
            step attempt = .error fault after := by
  intro machine
  have fits : machine.debugger.Fits machine.variant := fits_of_acts config device acts
  refine ⟨fun pc => ?_, fun supply maxSteps fault after failed => step_of_run_error fits failed⟩
  obtain ⟨checked, found, answered, finds⟩ := fits.checkInstruction_finds machine.registers pc
  exact ⟨checked, found, answered, finds, finds.isSome_iff, finds.request_iff⟩

end Machine

end ByteMachine
