import ByteMachine.Proofs.Calls
import ByteMachine.Proofs.Resumption

/-!
# Runs without a step between a stop and its resumption

A run that was held before an instruction is resumed by the next run, even by one that may not take
a single step. Such a run executes nothing and forgets the stop, so the run after it looks at the
hooks of the same instruction again: a breakpoint or a condition holds it once more, and only where
there is neither does it go on.
-/

namespace ByteMachine

namespace Debugger

variable {debugger checked : Debugger} {file : RegisterFile} {pc : Int}

/-- The search through the conditions comes to one just when some condition holds. -/
theorem firstHolding?_isSome_iff {conditions : List (Option Condition)} {found : Option Condition}
    (answered : firstHolding? file conditions = .ok found) :
    found.isSome = true ↔
      ∃ condition, some condition ∈ conditions ∧ condition.holds file = .ok true := by
  induction conditions with
  | nil =>
      cases answered
      simp
  | cons first rest ih =>
      cases first with
      | none =>
          rw [ih answered]
          simp
      | some condition =>
          cases held : condition.holds file with
          | error fault =>
              rw [firstHolding?, held] at answered
              cases answered
          | ok answer =>
              rw [firstHolding?, held] at answered
              cases answer with
              | true =>
                  cases answered
                  simp [held]
              | false =>
                  rw [ih answered]
                  simp [held]

/-- A breakpoint stands at an address, or a condition holds. -/
def Bars (debugger : Debugger) (file : RegisterFile) (pc : Int) : Prop :=
  debugger.breakpoints.contains pc = true ∨
    ∃ condition, some condition ∈ debugger.conditions ∧ condition.holds file = .ok true

/-- Where no break is asked for, a check finds something just when a breakpoint or a condition is
in the way. -/
theorem checkInstruction_isSome_iff {found : Option Event}
    (unrequested : debugger.breakRequested = false)
    (answered : debugger.checkInstruction file pc = .ok (checked, found)) :
    found.isSome = true ↔ debugger.Bars file pc := by
  rw [checkInstruction, if_neg (by simp [unrequested])] at answered
  unfold Bars
  split at answered
  · rename_i standing
    cases answered
    exact iff_of_true rfl (Or.inl standing)
  · rename_i clear
    cases searched : firstHolding? file debugger.conditions with
    | error fault =>
        rw [searched] at answered
        cases answered
    | ok holding =>
        rw [searched] at answered
        rw [← firstHolding?_isSome_iff searched, or_iff_right clear]
        cases holding <;> cases answered <;> rfl

/-- A check that finds something leaves no request behind, and all other hooks as they are. -/
theorem hooks_of_checkInstruction {event : Event}
    (answered : debugger.checkInstruction file pc = .ok (checked, some event)) :
    checked.breakRequested = false ∧ checked.breakpoints = debugger.breakpoints ∧
      checked.conditions = debugger.conditions := by
  obtain ⟨-, rfl, -⟩ | ⟨unrequested, ⟨-, rfl, -⟩ | ⟨_, rfl, -⟩ | ⟨-, -, absurdity⟩⟩ :=
    checkInstruction_cases answered
  · exact ⟨rfl, rfl, rfl⟩
  · exact ⟨unrequested, rfl, rfl⟩
  · exact ⟨unrequested, rfl, rfl⟩
  · cases absurdity

/-- What a check finds concerns the address that it looks at. -/
theorem heldAt?_of_checkInstruction {event : Event}
    (answered : debugger.checkInstruction file pc = .ok (checked, some event)) :
    event.heldAt? = some pc := by
  obtain ⟨-, -, found⟩ | ⟨-, ⟨-, -, found⟩ | ⟨_, -, found⟩ | ⟨-, -, found⟩⟩ :=
    checkInstruction_cases answered
  all_goals cases found
  all_goals rfl

/-- What was found other than a request is still in the way. -/
theorem bars_of_checkInstruction {event : Event}
    (answered : debugger.checkInstruction file pc = .ok (checked, some event))
    (unasked : event.reason ≠ .interrupt) : checked.Bars file pc := by
  obtain ⟨-, breakpoints_eq, conditions_eq⟩ := hooks_of_checkInstruction answered
  have unrequested : debugger.breakRequested = false := by
    obtain ⟨-, -, interrupted⟩ | ⟨unrequested, -⟩ := checkInstruction_cases answered
    · cases interrupted
      exact absurd rfl unasked
    · exact unrequested
  unfold Bars
  rw [breakpoints_eq, conditions_eq]
  exact (checkInstruction_isSome_iff unrequested answered).mp rfl

end Debugger

namespace Machine

variable {δ : Type}

/-- A breakpoint or a condition is in the way of the next instruction. -/
def Barred (machine : Machine δ) : Prop :=
  machine.debugger.Bars machine.registerFile machine.pc.toNat

section Waiting

variable [Device δ]

/-- A machine after a number of runs that may not take a single step. -/
def idled : Nat → Machine δ → Machine δ
  | 0, machine => machine
  | count + 1, machine => idled count (stateOf (run 0 (some 0) machine))

/-- A run that executes its first instruction whatever the hooks say, and looks at them only behind
it. -/
def runPast (supply : Nat) (maxSteps : Option Int) : Action (Machine δ) (Option Event) := do
  let machine ← get
  let limit := machine.limit? maxSteps
  set machine.unmarked
  match ← checkedStep with
  | some event => finish event
  | none => runLoop limit ((limit.map Int.toNat).getD supply - 1) none

/-- The next run executes its first instruction, or fails as that does, before any check. -/
def Proceeds (maxSteps : Option Int) (machine : Machine δ) : Prop :=
  ∀ supply, 0 < supply → run supply maxSteps machine = runPast supply maxSteps machine

variable {machine : Machine δ} {maxSteps : Option Int}

/-- A run that may not take a step only forgets where it was to resume. -/
theorem run_of_zero (running : machine.status = .running) (supply : Nat) :
    run supply (some 0) machine =
      .ok (some (.stepLimit machine.pc.toNat 0))
        (machine.unmarked.concluded (.stepLimit machine.pc.toNat 0)) := by
  rw [run_of_running running]
  rfl

/-- What runs without a step leave of a machine. -/
structure Waits (count : Nat) (machine waiting : Machine δ) : Prop where
  /-- Nothing is executed. -/
  alike : machine.Alike waiting
  /-- The hooks are the same. -/
  debugger : waiting.debugger = machine.debugger
  /-- The stop is forgotten by the first of the runs. -/
  resumeAt : waiting.resumeAt = if count = 0 then machine.resumeAt else none

theorem waits_idled (running : machine.status = .running) (count : Nat) :
    Waits count machine (machine.idled count) := by
  induction count generalizing machine with
  | zero => exact ⟨⟨rfl, rfl, rfl, rfl, rfl, rfl, rfl⟩, rfl, rfl⟩
  | succ count ih =>
      have idle : machine.idled (count + 1) =
          (machine.unmarked.concluded (.stepLimit machine.pc.toNat 0)).idled count := by
        rw [idled, run_of_zero running]
        rfl
      have forgets : machine.Alike (machine.unmarked.concluded (.stepLimit machine.pc.toNat 0)) :=
        ⟨rfl, rfl, rfl, rfl, rfl, rfl, rfl⟩
      have waits := ih (forgets.status.symm.trans running)
      rw [idle]
      refine ⟨forgets.trans waits.alike, waits.debugger, ?_⟩
      · rw [waits.resumeAt, if_neg (Nat.succ_ne_zero count)]
        exact ite_self none

omit [Device δ] in
theorem hookEnding?_of_clear {checked : Debugger} {resume : Option UInt8}
    (answered : machine.debugger.checkInstruction machine.registerFile machine.pc.toNat =
      .ok (checked, none)) : hookEnding? resume machine = none := by
  by_cases resumed : resume = some machine.pc
  · rw [hookEnding?, if_pos resumed]
  · rw [hookEnding?_eq_check resumed, answered]

/-- A run whose first check passes executes its first instruction. -/
theorem proceeds_of_pass (running : machine.status = .running) (allows : machine.Allows maxSteps)
    (passed : hookEnding? machine.resumeAt machine.unmarked = none) :
    machine.Proceeds maxSteps := by
  intro supply positive
  obtain ⟨budget, enough⟩ : ∃ budget,
      ((machine.limit? maxSteps).map Int.toNat).getD supply = budget + 1 := by
    apply Nat.exists_eq_add_one.mpr
    cases limited : machine.limit? maxSteps with
    | none => exact positive
    | some steps =>
        have least := allows steps limited
        change 0 < steps.toNat
        omega
  have past : runPast supply maxSteps machine =
      (checkedStep >>= fun stop =>
        match stop with
        | some event => finish event
        | none => runLoop (machine.limit? maxSteps) budget none) machine.unmarked := by
    simp only [runPast, bind, EStateM.bind, get_apply, enough]
    rfl
  have looped := congrFun (runLoop_succ (machine.limit? maxSteps) budget machine.resumeAt)
    machine.unmarked
  simp only [bind, EStateM.bind, checkBefore_of_pass passed] at looped
  rw [run_of_running running, enough, past]
  exact looped

/-- A machine that a run has just left before an instruction, with the event of the stop. -/
structure Held (event : Event) (machine : Machine δ) : Prop where
  /-- It can go on. -/
  status : machine.status = .running
  /-- The event concerns the next instruction. -/
  heldAt : event.heldAt? = some (machine.pc.toNat : Int)
  /-- It remembers the place. -/
  resumeAt : machine.resumeAt = some machine.pc
  /-- No break is asked for any more. -/
  unrequested : machine.debugger.breakRequested = false
  /-- What has held it, unless that was a request, is still in the way. -/
  barred : event.reason ≠ .interrupt → machine.Barred

theorem held_of_stopped {start : Machine δ} {event : Event}
    (runs : start.RunsTo maxSteps (.stopped event machine))
    (held : event.heldAt?.isSome = true) : Held event machine := by
  have running := running_of_runsTo runs
  rw [runsTo_iff running] at runs
  obtain ⟨count, ends⟩ := runs
  obtain ⟨reached, steps, stored | halted | ⟨unhalted, limited | hooked | failed⟩⟩ :=
    reason_of_ending ends.1
  · obtain ⟨_, _, -, -, same⟩ := storeEnding?_some stored
    cases same
    cases held
  · obtain ⟨-, _, -, same⟩ := haltEnding?_some halted
    cases same
    cases held
  · obtain ⟨_, -, -, same⟩ := limitEnding?_some limited
    cases same
    cases held
  · have going := running_of_after? running steps unhalted
    obtain ⟨-, ⟨_, -, same⟩ | ⟨checked, _, answered, same⟩⟩ := hookEnding?_some hooked
    · cases same
    · cases same
      exact
        { status := going
          heldAt := Debugger.heldAt?_of_checkInstruction answered
          resumeAt := rfl
          unrequested := (Debugger.hooks_of_checkInstruction answered).1
          barred := Debugger.bars_of_checkInstruction answered }
  · obtain ⟨_, _, -, same⟩ := faultEnding?_some failed
    cases same

namespace Waits

variable {count : Nat} {waiting : Machine δ} {event : Event}

omit [Device δ] in
theorem registerFile_eq (waits : Waits count machine waiting) :
    waiting.registerFile = machine.registerFile := by
  rw [registerFile, registerFile, variant, variant, waits.alike.config, waits.alike.registers]

omit [Device δ] in
theorem barred_iff (waits : Waits count machine waiting) : waiting.Barred ↔ machine.Barred := by
  rw [Barred, Barred, waits.registerFile_eq, waits.debugger, waits.alike.pc]

omit [Device δ] in
/-- The check of a machine that has waited comes to an answer. -/
theorem check_ok (waits : Waits count machine waiting)
    (fits : machine.debugger.Fits machine.variant) :
    ∃ checked found, waiting.debugger.checkInstruction waiting.registerFile waiting.pc.toNat =
      .ok (checked, found) := by
  rw [waits.registerFile_eq, waits.debugger]
  obtain ⟨⟨checked, found⟩, answered⟩ := fits.checkInstruction_ok machine.registers waiting.pc.toNat
  exact ⟨checked, found, answered⟩

end Waits

/-- What the runs after a stop do. The next run that may take a step executes the instruction before
which the machine was held, if it comes right after the stop or nothing is in the way. If runs
without a step came in between, a breakpoint or a condition holds it there again. A stop that was
not asked for by a request is always due to one of these. -/
theorem resumption_forgotten_by_delay {record : List Deed} {event : Event}
    (session : Session (.stopped event :: record) machine) (held : event.heldAt?.isSome = true)
    (count : Nat) (maxSteps : Option Int) (allows : machine.Allows maxSteps) :
    let waiting := machine.idled count
    event.heldAt? = some (waiting.pc.toNat : Int) ∧
    (event.reason ≠ .interrupt → waiting.Barred) ∧
    (count = 0 ∨ ¬waiting.Barred → waiting.Proceeds maxSteps) ∧
    (count ≠ 0 ∧ waiting.Barred →
      ∃ stop final, waiting.RunsTo maxSteps (.stopped stop final) ∧ waiting.Alike final ∧
        stop.heldAt? = event.heldAt?) := by
  intro waiting
  have fits := session.orderly.fits
  cases session with
  | run _ runs =>
      have stopped := held_of_stopped runs held
      have waits : Waits count machine waiting := waits_idled stopped.status count
      have running : waiting.status = .running := waits.alike.status.symm.trans stopped.status
      have allowed : waiting.Allows maxSteps := by
        rw [Allows, limit?, ← waits.alike.config]
        exact allows
      obtain ⟨checked, found, answered⟩ := waits.check_ok fits
      have found_iff : found.isSome = true ↔ waiting.Barred :=
        Debugger.checkInstruction_isSome_iff (waits.debugger ▸ stopped.unrequested) answered
      refine ⟨?_, ?_, ?_, ?_⟩
      · rw [stopped.heldAt, waits.alike.pc]
      · intro unasked
        exact waits.barred_iff.mpr (stopped.barred unasked)
      · intro prompt_or_clear
        apply proceeds_of_pass running allowed
        -- The stop is still remembered, or the check that is made instead finds nothing.
        rcases prompt_or_clear with prompt | clear
        · have resumes : waiting.resumeAt = some waiting.pc := by
            rw [waits.resumeAt, if_pos prompt, stopped.resumeAt, waits.alike.pc]
          exact hookEnding?_of_resume resumes
        · obtain rfl : found = none := by
            rw [← found_iff] at clear
            exact Option.not_isSome_iff_eq_none.mp clear
          exact hookEnding?_of_clear answered
      · rintro ⟨late, barred⟩
        obtain ⟨stop, rfl⟩ := Option.isSome_iff_exists.mp (found_iff.mpr barred)
        have elsewhere : waiting.resumeAt ≠ some waiting.pc := by
          rw [waits.resumeAt, if_neg late]
          exact (Option.some_ne_none _).symm
        refine ⟨stop, _, runsTo_of_check running allowed elsewhere answered,
          alike_heldWith waiting _ _, ?_⟩
        rw [Debugger.heldAt?_of_checkInstruction answered, stopped.heldAt, waits.alike.pc]

end Waiting

theorem allows_one (machine : Machine δ) : machine.Allows (some 1) := by
  intro steps limited
  cases limited
  exact Int.le_refl 1

theorem resumption_forgotten_by_delay_at_breakpoint :
    (paused [0x09, 0x00]).Proceeds (some 1) ∧
      ∃ stop final, ((paused [0x09, 0x00]).idled 1).RunsTo (some 1) (.stopped stop final) ∧
        final.steps = 0 ∧ stop.heldAt? = some 0 := by
  have allows := allows_one (paused [0x09, 0x00])
  constructor
  · exact (resumption_forgotten_by_delay session_paused rfl 0 (some 1) allows).2.2.1 (Or.inl rfl)
  · obtain ⟨-, barred, -, held⟩ :=
      resumption_forgotten_by_delay session_paused rfl 1 (some 1) allows
    obtain ⟨stop, final, runs, alike, place⟩ := held ⟨Nat.one_ne_zero, barred nofun⟩
    exact ⟨stop, final, runs, alike.steps.symm, place⟩

/-- The jump to itself is not executed by the second run after the stop if the first may not take a
step. -/
theorem resumption_lost_after_empty_run :
    ¬∀ (record : List Deed) (event : Event) (machine : Machine Scripted) (count : Nat)
      (maxSteps : Option Int), Session (.stopped event :: record) machine →
        event.heldAt?.isSome = true → machine.Allows maxSteps →
          (machine.idled count).Proceeds maxSteps := by
  intro always_proceeds
  have allows := allows_one (paused [0x09, 0x00])
  have same := always_proceeds _ _ _ 1 (some 1) session_paused rfl allows 1 Nat.one_pos
  have held : (stateOf (run 1 (some 1) ((paused [0x09, 0x00]).idled 1))).steps = 0 := rfl
  have executed : (stateOf (runPast 1 (some 1) ((paused [0x09, 0x00]).idled 1))).steps = 1 := rfl
  rw [same, executed] at held
  exact Nat.one_ne_zero held

end Machine

end ByteMachine
