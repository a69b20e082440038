import ByteMachine.Debugger

/-!
# Hooks

A debugger is changed from outside by a few operations and looked at by a machine that executes.
The operations admit only conditions on registers that the machine has, so the check before an
instruction always comes to an answer.
-/

namespace ByteMachine

/-! ## Registers that can and cannot be read -/

/-- A register that can be named is found by its number. -/
theorem RegisterSet.resolve_number {layout : RegisterSet} {register : Register}
    (member : register ∈ layout.members) : layout.resolve register.number = .ok register := by
  have found : Register.ofNumber? register.number = some register := by
    cases register <;> rfl
  simp only [resolve, found, if_pos member]

namespace RegisterFile

variable {layout : RegisterSet}

theorem read_number {register : Register} (member : register ∈ layout.members)
    (values : Registers) :
    read ⟨layout, values⟩ register.number = .ok (values.get register) := by
  rw [read, RegisterSet.resolve_number member]
  rfl

theorem readPair_of_members (high : .b ∈ layout.members) (low : .c ∈ layout.members)
    (values : Registers) : readPair ⟨layout, values⟩ = .ok values.pair := by
  rw [readPair, read_number high, read_number low]
  rfl

end RegisterFile

/-- What an operand stands for in the registers of a machine. A flag counts as one or zero. -/
def Operand.reading (registers : Registers) : Operand → Int
  | .register which => (registers.get which).toNat
  | .pair => registers.pair
  | .flag which => if registers.flag which then 1 else 0

/-- An operand that reads only registers of a variant has a value there. -/
theorem Operand.value_eq {operand : Operand} {variant : Variant}
    (present : ∀ register ∈ operand.registers, variant.has register = true)
    (registers : Registers) :
    operand.value ⟨variant.registerSet, registers⟩ = .ok (operand.reading registers) := by
  have member {register : Register} (reads : register ∈ operand.registers) :
      register ∈ variant.registerSet.members := List.contains_iff_mem.mp (present register reads)
  cases operand with
  | register which =>
      rw [value, RegisterFile.read_number (member List.mem_cons_self)]
      rfl
  | pair =>
      have high : .b ∈ variant.registerSet.members := member (by simp [Operand.registers])
      have low : .c ∈ variant.registerSet.members := member (by simp [Operand.registers])
      rw [value, RegisterFile.readPair_of_members high low]
      rfl
  | flag which => rfl

/-- A fault is that of a register which does not exist or which the machine lacks. -/
def Fault.ConcernsRegister (fault : Fault) : Prop :=
  ∃ reference variant, fault = .register reference variant

theorem RegisterSet.resolve_error {layout : RegisterSet} {number : Int} {fault : Fault}
    (failed : layout.resolve number = .error fault) : fault.ConcernsRegister := by
  unfold resolve at failed
  split at failed
  · cases failed
    exact ⟨_, _, rfl⟩
  · split at failed
    · cases failed
    · cases failed
      exact ⟨_, _, rfl⟩

namespace RegisterFile

variable {file : RegisterFile} {fault : Fault}

theorem read_error {number : Int} (failed : file.read number = .error fault) :
    fault.ConcernsRegister := by
  unfold read at failed
  cases resolved : file.layout.resolve number with
  | ok register =>
      rw [resolved] at failed
      cases failed
  | error problem =>
      rw [resolved] at failed
      cases failed
      exact RegisterSet.resolve_error resolved

theorem readPair_error (failed : file.readPair = .error fault) : fault.ConcernsRegister := by
  unfold readPair at failed
  cases high : file.read Register.b.number with
  | error problem =>
      rw [high] at failed
      cases failed
      exact read_error high
  | ok byte =>
      cases low : file.read Register.c.number with
      | error problem =>
          rw [high, low] at failed
          cases failed
          exact read_error low
      | ok other =>
          rw [high, low] at failed
          cases failed

end RegisterFile

/-- A condition has no answer only where it cannot read a register. -/
theorem Condition.holds_error {condition : Condition} {file : RegisterFile} {fault : Fault}
    (failed : condition.holds file = .error fault) : fault.ConcernsRegister := by
  unfold holds Operand.value at failed
  cases operand : condition.operand with
  | register which =>
      cases reading : file.read which.number with
      | error problem =>
          simp only [operand, reading] at failed
          cases failed
          exact RegisterFile.read_error reading
      | ok byte =>
          simp only [operand, reading] at failed
          cases failed
  | pair =>
      cases reading : file.readPair with
      | error problem =>
          simp only [operand, reading] at failed
          cases failed
          exact RegisterFile.readPair_error reading
      | ok value =>
          simp only [operand, reading] at failed
          cases failed
  | flag which =>
      simp only [operand] at failed
      cases failed

namespace Debugger

/-! ## Changes and checks -/

/-- A change that is made to a debugger from outside. -/
inductive Operation where
  | addBreakpoint (address : Int)
  | removeBreakpoint (address : Int)
  | addWatchpoint (address : Int)
  | removeWatchpoint (address : Int)
  | addCondition (condition : Condition)
  | removeCondition (number : Int)
  | requestBreak
  | clearRequest
  | clearAll
deriving DecidableEq, Repr

/-- The debugger after a change. A condition that is refused changes nothing. -/
def perform (debugger : Debugger) : Operation → Debugger
  | .addBreakpoint address => debugger.addBreakpoint address
  | .removeBreakpoint address => debugger.removeBreakpoint address
  | .addWatchpoint address => debugger.addWatchpoint address
  | .removeWatchpoint address => debugger.removeWatchpoint address
  | .addCondition condition =>
    match debugger.addCondition condition with
    | .ok (changed, _) => changed
    | .error _ => debugger
  | .removeCondition number => debugger.removeCondition number
  | .requestBreak => debugger.requestBreak
  | .clearRequest => debugger.clearRequest
  | .clearAll => debugger.clearAll

/-- Two debuggers have the same hooks, and a request to break is not lost on the way. -/
structure Hooked (before after : Debugger) : Prop where
  /-- Both are for the same variant. -/
  variant : after.variant = before.variant
  /-- The breakpoints are the same. -/
  breakpoints : after.breakpoints = before.breakpoints
  /-- The watched addresses are the same. -/
  watchpoints : after.watchpoints = before.watchpoints
  /-- The conditions are the same. -/
  conditions : after.conditions = before.conditions
  /-- A break asked for before is still asked for. -/
  request : before.breakRequested = true → after.breakRequested = true

namespace Hooked

variable {before after : Debugger}

theorem refl (debugger : Debugger) : debugger.Hooked debugger :=
  ⟨rfl, rfl, rfl, rfl, id⟩

theorem trans {later : Debugger} (first : before.Hooked after) (second : after.Hooked later) :
    before.Hooked later :=
  ⟨second.variant.trans first.variant, second.breakpoints.trans first.breakpoints,
    second.watchpoints.trans first.watchpoints, second.conditions.trans first.conditions,
    fun requested => second.request (first.request requested)⟩

theorem requestBreak_if (hooked : before.Hooked after) (asked : Bool) :
    before.Hooked (if asked then after.requestBreak else after) := by
  cases asked with
  | false => exact hooked
  | true =>
      exact ⟨hooked.variant, hooked.breakpoints, hooked.watchpoints, hooked.conditions,
        fun _ => rfl⟩

theorem checkWrite (hooked : before.Hooked after) (address value : Int) :
    before.Hooked (after.checkWrite address value).1 := by
  unfold Debugger.checkWrite
  split
  · exact ⟨hooked.variant, hooked.breakpoints, hooked.watchpoints, hooked.conditions,
      hooked.request⟩
  · exact hooked

end Hooked

section Check

variable {debugger checked : Debugger} {file : RegisterFile} {pc : Int} {found : Option Event}

/-- What the check before an instruction can come to: the request, a breakpoint, a condition, or
nothing. -/
theorem checkInstruction_cases
    (answered : debugger.checkInstruction file pc = .ok (checked, found)) :
    (debugger.breakRequested = true ∧ checked = debugger.clearRequest.record (.interrupt pc) ∧
        found = some (.interrupt pc)) ∨
      debugger.breakRequested = false ∧
        ((debugger.breakpoints.contains pc = true ∧ checked = debugger.record (.breakpoint pc) ∧
            found = some (.breakpoint pc)) ∨
          (∃ description, checked = debugger.record (.condition pc description) ∧
            found = some (.condition pc description)) ∨
          (debugger.breakpoints.contains pc = false ∧ checked = debugger ∧ found = none)) := by
  unfold checkInstruction at answered
  split at answered
  · rename_i requested
    cases answered
    exact Or.inl ⟨requested, rfl, rfl⟩
  · rename_i unrequested
    refine Or.inr ⟨Bool.eq_false_iff.mpr unrequested, ?_⟩
    split at answered
    · rename_i standing
      cases answered
      exact Or.inl ⟨standing, rfl, rfl⟩
    · rename_i clear
      cases held : firstHolding? file debugger.conditions with
      | error fault => simp [held, Except.map] at answered
      | ok holding =>
          rw [held] at answered
          cases holding with
          | none =>
              cases answered
              exact Or.inr (Or.inr ⟨Bool.eq_false_iff.mpr clear, rfl, rfl⟩)
          | some condition =>
              cases answered
              exact Or.inr (Or.inl ⟨condition.description, rfl, rfl⟩)

/-- A check that finds nothing changes nothing. -/
theorem checkInstruction_none (passed : debugger.checkInstruction file pc = .ok (checked, none)) :
    checked = debugger := by
  obtain ⟨-, -, absurdity⟩ | ⟨-, ⟨-, -, absurdity⟩ | ⟨_, -, absurdity⟩ | ⟨-, same, -⟩⟩ :=
    checkInstruction_cases passed
  · cases absurdity
  · cases absurdity
  · cases absurdity
  · exact same

/-- A check leaves the owner and the conditions of a debugger as they are. -/
theorem checkInstruction_keeps
    (answered : debugger.checkInstruction file pc = .ok (checked, found)) :
    checked.variant = debugger.variant ∧ checked.conditions = debugger.conditions := by
  obtain ⟨-, rfl, -⟩ | ⟨-, ⟨-, rfl, -⟩ | ⟨_, rfl, -⟩ | ⟨-, rfl, -⟩⟩ :=
    checkInstruction_cases answered
  all_goals exact ⟨rfl, rfl⟩

theorem firstHolding?_error {conditions : List (Option Condition)} {fault : Fault}
    (failed : firstHolding? file conditions = .error fault) : fault.ConcernsRegister := by
  induction conditions with
  | nil => cases failed
  | cons first rest ih =>
      cases first with
      | none => exact ih failed
      | some condition =>
          cases held : condition.holds file with
          | error problem =>
              rw [firstHolding?, held] at failed
              cases failed
              exact Condition.holds_error held
          | ok answer =>
              rw [firstHolding?, held] at failed
              cases answer with
              | true => cases failed
              | false => exact ih failed

/-- So it is with the check before an instruction. -/
theorem checkInstruction_error {fault : Fault}
    (failed : debugger.checkInstruction file pc = .error fault) : fault.ConcernsRegister := by
  unfold checkInstruction at failed
  split at failed
  · cases failed
  · split at failed
    · cases failed
    · cases held : firstHolding? file debugger.conditions with
      | error problem =>
          rw [held] at failed
          cases failed
          exact firstHolding?_error held
      | ok found =>
          rw [held] at failed
          cases failed

theorem checkInstruction_of_request (requested : debugger.breakRequested = true)
    (file : RegisterFile) (pc : Int) :
    debugger.checkInstruction file pc =
      .ok (debugger.clearRequest.record (.interrupt pc), some (.interrupt pc)) := by
  rw [checkInstruction, if_pos requested]

theorem checkInstruction_of_breakpoint {address : UInt8}
    (unrequested : debugger.breakRequested = false)
    (standing : debugger.hasBreakpoint address.toNat = true) (file : RegisterFile) :
    debugger.checkInstruction file address.toNat =
      .ok (debugger.record (.breakpoint address.toNat), some (.breakpoint address.toNat)) := by
  have reduced : codeAddress address.toNat = address.toNat := by
    have small := address.toNat_lt
    unfold codeAddress
    omega
  rw [hasBreakpoint, reduced] at standing
  rw [checkInstruction, if_neg (by simp [unrequested]), if_pos standing]

end Check

theorem checkWrite_event (debugger : Debugger) (address value : Int) :
    (debugger.checkWrite address value).2 =
      if debugger.watchpoints.contains address then some (.memoryWrite address value)
      else none := by
  unfold Debugger.checkWrite
  split <;> rfl

/-! ## Conditions that can be looked at -/

/-- A debugger suits a variant: it holds conditions against it, and they read only registers that
the variant has. -/
structure Fits (debugger : Debugger) (variant : Variant) : Prop where
  /-- Conditions are held against the variant. -/
  owner : debugger.variant = some variant
  /-- The variant has the registers that the conditions read. -/
  conditions : ∀ condition, some condition ∈ debugger.conditions →
    ∀ register ∈ condition.operand.registers, variant.has register = true

namespace Fits

variable {debugger after : Debugger} {variant : Variant}

theorem of_hooked (fits : debugger.Fits variant) (hooked : debugger.Hooked after) :
    after.Fits variant :=
  ⟨hooked.variant.trans fits.owner, hooked.conditions ▸ fits.conditions⟩

theorem empty (variant : Variant) : (Debugger.empty (some variant)).Fits variant :=
  ⟨rfl, fun _ member => absurd member List.not_mem_nil⟩

theorem addCondition {condition : Condition} {number : Nat} (fits : debugger.Fits variant)
    (added : debugger.addCondition condition = .ok (after, number)) : after.Fits variant := by
  unfold Debugger.addCondition at added
  split at added
  · rename_i complete
    cases added
    refine ⟨fits.owner, ?_⟩
    intro other member register reads
    rw [List.mem_append, List.mem_singleton] at member
    obtain old | new := member
    · exact fits.conditions other old register reads
    · cases new
      rw [fits.owner, missingRegisters, List.filter_eq_nil_iff] at complete
      simpa using complete register reads
  · cases added

theorem removeCondition (fits : debugger.Fits variant) (number : Int) :
    (debugger.removeCondition number).Fits variant := by
  unfold Debugger.removeCondition
  split
  · refine ⟨fits.owner, ?_⟩
    intro condition member
    obtain old | gap := List.mem_or_eq_of_mem_set member
    · exact fits.conditions condition old
    · cases gap
  · exact fits

/-- No operation makes a debugger unsuitable. -/
theorem perform (fits : debugger.Fits variant) (operation : Operation) :
    (debugger.perform operation).Fits variant := by
  cases operation with
  | addCondition condition =>
      change Fits (match debugger.addCondition condition with
        | .ok (changed, _) => changed
        | .error _ => debugger) variant
      split
      · rename_i added
        exact fits.addCondition added
      · exact fits
  | removeCondition number => exact fits.removeCondition number
  | clearAll =>
      have cleared := Fits.empty variant
      rw [← fits.owner] at cleared
      exact cleared
  | addBreakpoint | removeBreakpoint | addWatchpoint | removeWatchpoint | requestBreak
  | clearRequest => exact ⟨fits.owner, fits.conditions⟩

theorem performAll (fits : debugger.Fits variant) (operations : List Operation) :
    (operations.foldl Debugger.perform debugger).Fits variant := by
  induction operations generalizing debugger with
  | nil => exact fits
  | cons operation rest ih => exact ih (fits.perform operation)

/-- A register that a variant has can be read. -/
theorem read_ok {register : Register} (present : variant.has register = true)
    (registers : Registers) :
    RegisterFile.read ⟨variant.registerSet, registers⟩ register.number =
      .ok (registers.get register) := by
  have member : register ∈ variant.registerSet.members := List.contains_iff_mem.mp present
  exact RegisterFile.read_number member registers

/-- A condition that a debugger has admitted has an answer. -/
theorem holds_ok {condition : Condition} (fits : debugger.Fits variant)
    (member : some condition ∈ debugger.conditions) (registers : Registers) :
    ∃ answer, condition.holds ⟨variant.registerSet, registers⟩ = .ok answer := by
  rw [Condition.holds, Operand.value_eq (fits.conditions condition member)]
  exact ⟨_, rfl⟩

theorem firstHolding?_ok (registers : Registers) (conditions : List (Option Condition))
    (fits : debugger.Fits variant) (subset : conditions ⊆ debugger.conditions) :
    ∃ found, firstHolding? ⟨variant.registerSet, registers⟩ conditions = .ok found := by
  induction conditions with
  | nil => exact ⟨none, rfl⟩
  | cons first rest ih =>
      obtain ⟨found, later⟩ := ih fun _ member => subset (List.mem_cons_of_mem _ member)
      cases first with
      | none => exact ⟨found, later⟩
      | some condition =>
          obtain ⟨answer, held⟩ := fits.holds_ok (subset List.mem_cons_self) registers
          cases answer with
          | true => exact ⟨some condition, by rw [firstHolding?, held]; rfl⟩
          | false => exact ⟨found, by rw [firstHolding?, held]; exact later⟩

/-- The check before an instruction of the machine that owns the debugger has an answer. -/
theorem checkInstruction_ok (fits : debugger.Fits variant) (registers : Registers) (pc : Int) :
    ∃ answer, debugger.checkInstruction ⟨variant.registerSet, registers⟩ pc = .ok answer := by
  unfold checkInstruction
  split
  · exact ⟨_, rfl⟩
  · split
    · exact ⟨_, rfl⟩
    · obtain ⟨found, held⟩ :=
        fits.firstHolding?_ok registers debugger.conditions (List.Subset.refl _)
      rw [held]
      exact ⟨_, rfl⟩

end Fits

end Debugger

end ByteMachine
