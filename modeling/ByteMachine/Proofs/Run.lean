import ByteMachine.Device.Scripted
import ByteMachine.Proofs.Ending

/-!
# Runs and steps

A run ends where the first of its endings stands and as it says. Without an ending, which takes a
run without a limit, it uses up any supply of steps.
-/

namespace ByteMachine.Machine

variable {δ : Type}

/-- A run ends with an outcome: it does so whenever its supply of steps is large enough. -/
def RunsTo [Device δ] (maxSteps : Option Int) (machine : Machine δ) (outcome : Outcome δ) : Prop :=
  ∃ enough, ∀ supply, enough ≤ supply → run supply maxSteps machine = outcome.result

/-! ## One round of the loop -/

section Round

variable [Device δ] {limit : Option Int} {budget : Nat} {resume : Option UInt8}
  {machine after : Machine δ} {event : Event}

omit [Device δ] in
theorem unmarked_eq (cleared : machine.resumeAt = none) : machine.unmarked = machine := by
  rw [unmarked, ← cleared]

omit [Device δ] in
theorem checkBefore_of_pass (passed : hookEnding? resume machine = none) :
    checkBefore resume machine = .ok none machine := by
  by_cases resumed : resume = some machine.pc
  · simp only [checkBefore, if_pos resumed]
  · rw [hookEnding?_eq_check resumed] at passed
    cases answer : machine.debugger.checkInstruction machine.registerFile machine.pc.toNat with
    | error fault => simp [answer] at passed
    | ok found =>
        obtain ⟨checked, event⟩ := found
        cases event with
        | some event => simp [answer] at passed
        | none =>
            simp only [checkBefore, if_neg resumed, answer, Debugger.checkInstruction_none answer]

/-- A run whose next instruction is held by a hook ends before it. -/
theorem runLoop_of_hook {outcome : Outcome δ} (cleared : machine.resumeAt = none)
    (held : hookEnding? resume machine = some outcome) :
    runLoop limit (budget + 1) resume machine = outcome.result := by
  obtain ⟨elsewhere, ⟨fault, found, rfl⟩ | ⟨debugger, event, found, rfl⟩⟩ := hookEnding?_some held
  · simp only [runLoop, bind, EStateM.bind, checkBefore, if_neg elsewhere, found,
      unmarked_eq cleared]
    rfl
  · simp only [runLoop, bind, EStateM.bind, checkBefore, if_neg elsewhere, found]
    rfl

theorem runLoop_of_fault {outcome : Outcome δ} (cleared : machine.resumeAt = none)
    (passed : hookEnding? resume machine = none) (failed : faultEnding? machine = some outcome) :
    runLoop limit (budget + 1) resume machine = outcome.result := by
  obtain ⟨fault, after, stepped, rfl⟩ := faultEnding?_some failed
  simp only [runLoop, bind, EStateM.bind, checkBefore_of_pass passed, stepped,
    unmarked_eq ((frame_of_fault stepped).resumeAt.trans cleared)]
  rfl

/-- A run whose next step stores into a watched cell ends after it. -/
theorem runLoop_of_store {store : UInt8 × UInt8} (passed : hookEnding? resume machine = none)
    (stepped : step machine = .ok event after) (watched : machine.watchedStore? = some store) :
    runLoop limit (budget + 1) resume machine =
      ({ after with writeStop := none }.endWith (storeEvent store)).result := by
  have stop := writeStop_of_step stepped
  rw [watched] at stop
  simp only [runLoop, bind, EStateM.bind, checkBefore_of_pass passed, stepped, checkAfter, stop]
  rfl

/-- A run whose next step halts the machine ends after it. -/
theorem runLoop_of_halt (passed : hookEnding? resume machine = none)
    (stepped : step machine = .ok event after) (unwatched : machine.watchedStore? = none)
    (halted : after.status = .halted) :
    runLoop limit (budget + 1) resume machine =
      (after.endWith (.ranToHalt machine.pc.toNat after.steps)).result := by
  have stop := writeStop_of_step stepped
  rw [unwatched] at stop
  simp only [runLoop, bind, EStateM.bind, checkBefore_of_pass passed, stepped, checkAfter, stop,
    Option.map_none, halted, lastAddress_of_step stepped]
  rfl

/-- A run whose next step is nothing special goes on after it. -/
theorem runLoop_of_step (passed : hookEnding? resume machine = none)
    (stepped : step machine = .ok event after) (unwatched : machine.watchedStore? = none)
    (running : after.status = .running) :
    runLoop limit (budget + 1) resume machine = runLoop limit budget none after := by
  have stop := writeStop_of_step stepped
  rw [unwatched] at stop
  simp only [runLoop, bind, EStateM.bind, checkBefore_of_pass passed, stepped, checkAfter, stop,
    Option.map_none, running]

end Round

/-! ## The loop -/

section Loop

variable [Device δ] {limit : Option Int} {taken budget count : Nat} {resume : Option UInt8}
  {start next : Machine δ} {event : Event} {outcome : Outcome δ}

/-- The steps taken and those still in the budget make up the limit. -/
def Lasts (limit : Option Int) (taken budget : Nat) : Prop :=
  ∀ steps, limit = some steps → steps.toNat = taken + budget

omit [Device δ] in
theorem limitEnding?_of_spent {steps : Int} (lasts : Lasts (some steps) taken 0) :
    limitEnding? (some steps) taken start =
      some (start.unmarked.endWith (.stepLimit start.pc.toNat steps)) := by
  have spent : steps ≤ taken := by
    have total := lasts steps rfl
    omega
  simp [limitEnding?, spent]

omit [Device δ] in
theorem limitEnding?_of_budget (lasts : Lasts limit taken (budget + 1)) :
    limitEnding? limit taken start = none := by
  apply limitEnding?_of_lt
  intro steps limited
  have total := lasts steps limited
  omega

/-- The loop of a run ends at the first ending, as it says. -/
theorem runLoop_of_ending (running : start.status = .running) (cleared : start.resumeAt = none)
    (lasts : Lasts limit taken budget) (enough : limit = none → count < budget)
    (ends : endingFrom? limit taken resume start count = some outcome)
    (first : ∀ sooner < count, endingFrom? limit taken resume start sooner = none) :
    runLoop limit budget resume start = outcome.result := by
  induction count generalizing budget taken resume start with
  | zero =>
      rw [endingFrom?_zero] at ends
      cases budget with
      | zero =>
          cases limit with
          | none => exact absurd (enough rfl) (Nat.not_lt_zero 0)
          | some steps =>
              rw [limitEnding?_of_spent lasts, Option.some_or, unmarked_eq cleared] at ends
              cases ends
              rfl
      | succ budget =>
          rw [limitEnding?_of_budget lasts, Option.none_or, Option.or_eq_some_iff] at ends
          obtain held | ⟨passed, failed⟩ := ends
          · exact runLoop_of_hook cleared held
          · exact runLoop_of_fault cleared passed failed
  | succ count ih =>
      obtain ⟨unlimited, passed, event, next, stepped⟩ :=
        round_of_none (first 0 (Nat.succ_pos count))
      have untouched := (frame_of_step stepped).resumeAt.trans cleared
      -- An ending after one step is the ending, because none comes sooner.
      have after_one {found : Outcome δ}
          (ending : endingFrom? limit taken resume start 1 = some found) : found = outcome := by
        cases count with
        | zero => exact Option.some.inj (ending.symm.trans ends)
        | succ count =>
            rw [first 1 (by omega)] at ending
            cases ending
      cases budget with
      | zero =>
          cases limit with
          | none => exact absurd (enough rfl) (Nat.not_lt_zero _)
          | some steps => simp [limitEnding?_of_spent lasts] at unlimited
      | succ budget =>
          cases watched : start.watchedStore? with
          | some store =>
              rw [runLoop_of_store passed stepped watched,
                ← after_one (endingFrom?_one_of_store stepped watched), unmarked_eq untouched]
          | none =>
              cases status : next.status with
              | halted =>
                  rw [runLoop_of_halt passed stepped watched status,
                    ← after_one (endingFrom?_one_of_halt stepped watched status),
                    unmarked_eq untouched]
              | running =>
                  rw [runLoop_of_step passed stepped watched status]
                  rw [endingFrom?_succ stepped watched status] at ends
                  refine ih status untouched ?_ ?_ ends ?_
                  · intro steps limited
                    rw [lasts steps limited]
                    omega
                  · intro unbounded
                    have := enough unbounded
                    omega
                  · intro sooner before
                    rw [← endingFrom?_succ stepped watched status]
                    exact first (sooner + 1) (Nat.succ_lt_succ before)

/-- The loop of a run without a limit and without an ending uses up its supply of steps. -/
theorem runLoop_of_no_ending (running : start.status = .running)
    (going : ∀ count ≤ budget, endingFrom? none taken resume start count = none) :
    ∃ later, after? budget start = some later ∧
      runLoop none budget resume start = .ok none later := by
  induction budget generalizing taken resume start with
  | zero => exact ⟨start, rfl, rfl⟩
  | succ budget ih =>
      obtain ⟨_, passed, event, next, stepped⟩ := round_of_none (going 0 (Nat.zero_le _))
      have after_one := going 1 (by omega)
      have unwatched : start.watchedStore? = none := by
        cases watched : start.watchedStore? with
        | none => rfl
        | some store =>
            rw [endingFrom?_one_of_store stepped watched] at after_one
            cases after_one
      have status : next.status = .running := by
        cases status : next.status with
        | running => rfl
        | halted =>
            rw [endingFrom?_one_of_halt stepped unwatched status] at after_one
            cases after_one
      have going_next : ∀ count ≤ budget, endingFrom? none (taken + 1) none next count = none := by
        intro count within
        rw [← endingFrom?_succ stepped unwatched status]
        exact going (count + 1) (Nat.succ_le_succ within)
      obtain ⟨later, reached, starved⟩ := ih status going_next
      refine ⟨later, ?_, ?_⟩
      · rw [after?, next?_of_step stepped]
        exact reached
      · rw [runLoop_of_step passed stepped unwatched status]
        exact starved

end Loop

/-! ## Runs end at the first ending -/

section Whole

variable [Device δ] {machine : Machine δ} {maxSteps : Option Int}

theorem run_of_halted (halted : machine.status = .halted) (supply : Nat) :
    run supply maxSteps machine = .error .alreadyHalted machine := by
  simp only [run, bind, EStateM.bind, get_apply, halted, ↓reduceIte]
  rfl

theorem run_of_running (running : machine.status = .running) (supply : Nat) :
    run supply maxSteps machine =
      runLoop (machine.limit? maxSteps) (((machine.limit? maxSteps).map Int.toNat).getD supply)
        machine.resumeAt machine.unmarked := by
  have going : ¬machine.status = .halted := by simp [running]
  simp only [run, bind, EStateM.bind, get_apply, if_neg going]
  rfl

/-- A run with a limit or enough supply ends at the first ending. -/
theorem run_of_endsFirst {count : Nat} {outcome : Outcome δ} {supply : Nat}
    (running : machine.status = .running)
    (ends : EndsFirst (machine.limit? maxSteps) machine count outcome)
    (enough : machine.limit? maxSteps = none → count < supply) :
    run supply maxSteps machine = outcome.result := by
  have lasts : Lasts (machine.limit? maxSteps) 0
      (((machine.limit? maxSteps).map Int.toNat).getD supply) := by
    intro steps limited
    rw [limited]
    simp
  rw [run_of_running running]
  refine runLoop_of_ending running rfl lasts ?_ ((endingFrom?_unmarked _ _ _ _ _).trans ends.1) ?_
  · intro unlimited
    rw [unlimited]
    exact enough unlimited
  · intro sooner before
    rw [endingFrom?_unmarked]
    exact ends.2 sooner before

/-- A run that nothing ends has no limit. -/
theorem limit?_of_endless
    (endless : ∀ count, ending? (machine.limit? maxSteps) machine count = none) :
    machine.limit? maxSteps = none := by
  cases limited : machine.limit? maxSteps with
  | none => rfl
  | some steps =>
      obtain ⟨count, outcome, ending⟩ := exists_ending_of_limit steps machine
      rw [← limited, endless count] at ending
      cases ending

/-- A run that nothing ends uses up any supply of steps. -/
theorem run_of_no_ending (running : machine.status = .running)
    (endless : ∀ count, ending? (machine.limit? maxSteps) machine count = none) (supply : Nat) :
    ∃ later, run supply maxSteps machine = .ok none later := by
  have unlimited := limit?_of_endless endless
  rw [unlimited] at endless
  have going : ∀ count ≤ supply,
      endingFrom? none 0 machine.resumeAt machine.unmarked count = none := by
    intro count _
    rw [endingFrom?_unmarked]
    exact endless count
  have running' : machine.unmarked.status = .running := running
  obtain ⟨later, -, starved⟩ := runLoop_of_no_ending running' going
  rw [run_of_running running, unlimited]
  exact ⟨later, starved⟩

/-- A run ends with an outcome just when the first ending has that outcome. -/
theorem runsTo_iff (running : machine.status = .running) (outcome : Outcome δ) :
    RunsTo maxSteps machine outcome ↔
      ∃ count, EndsFirst (machine.limit? maxSteps) machine count outcome := by
  constructor
  · rintro ⟨enough, runs⟩
    by_cases ends : ∃ count outcome, ending? (machine.limit? maxSteps) machine count = some outcome
    · obtain ⟨count, first, endsFirst⟩ := exists_endsFirst ends
      have same : outcome = first := by
        apply Outcome.result_injective
        rw [← runs (enough + count + 1) (by omega)]
        exact run_of_endsFirst running endsFirst fun _ => by omega
      exact ⟨count, same ▸ endsFirst⟩
    · have endless (count : Nat) : ending? (machine.limit? maxSteps) machine count = none := by
        cases ending : ending? (machine.limit? maxSteps) machine count with
        | none => rfl
        | some found => exact absurd ⟨count, found, ending⟩ ends
      obtain ⟨later, starved⟩ := run_of_no_ending running endless enough
      rw [runs enough (Nat.le_refl _)] at starved
      cases outcome <;> cases starved
  · rintro ⟨count, ends⟩
    exact ⟨count + 1, fun supply enough => run_of_endsFirst running ends fun _ => by omega⟩

/-- Only a machine that can go on has a run that ends with an event. -/
theorem running_of_runsTo {event : Event} {final : Machine δ}
    (runs : RunsTo maxSteps machine (.stopped event final)) : machine.status = .running := by
  obtain ⟨enough, runs⟩ := runs
  cases status : machine.status with
  | running => rfl
  | halted =>
      have ran := runs enough (Nat.le_refl enough)
      rw [run_of_halted status] at ran
      cases ran

/-- A run takes steps as long as nothing ends it. At the first ending, it ends as that says and
leaves what the steps have left; without an ending it goes on for ever. -/
theorem run_iterates_step (machine : Machine δ) (maxSteps : Option Int)
    (running : machine.status = .running) :
    let limit := machine.limit? maxSteps
    (∀ count outcome, EndsFirst limit machine count outcome →
      ∀ supply, (limit = none → count < supply) →
        run supply maxSteps machine = outcome.result) ∧
    (∀ count event final, EndsFirst limit machine count (.stopped event final) →
      ∃ reached, after? count machine = some reached ∧ reached.Alike final) ∧
    (∀ count fault final, EndsFirst limit machine count (.failed fault final) →
      ∃ reached, after? count machine = some reached ∧ reached.status = .running ∧
        ((∃ failed, step reached = .error fault failed ∧ failed.Alike final) ∨
          ¬machine.debugger.Fits machine.variant ∧ reached.Alike final ∧
            reached.debugger.checkInstruction reached.registerFile reached.pc.toNat =
              .error fault)) ∧
    ((∀ count, ending? limit machine count = none) →
      limit = none ∧ ∀ supply, ∃ later, run supply maxSteps machine = .ok none later) := by
  refine ⟨?_, ?_, ?_, ?_⟩
  · intro count outcome ends supply enough
    exact run_of_endsFirst running ends enough
  · intro count event final ends
    exact alike_of_stopped ends.1
  · intro count fault final ends
    exact alike_of_failed running ends.1
  · intro endless
    exact ⟨limit?_of_endless endless, run_of_no_ending running endless⟩

end Whole

/-- A machine in whose memory a program stands alone. -/
def holding (program : List UInt8) : Machine Scripted :=
  { start (.ofVariant .byte none) (Scripted.ofInputs []) with
    memory := ⟨program.toArray⟩ }

/-- A machine with a program of two instructions. Its debugger has two conditions that hold before
the second, after one that has been removed and one that holds nowhere. -/
def guarded (requested : Bool) (breakpoints : List Int) : Machine Scripted :=
  { holding [0x00, 0xFF] with
    debugger :=
      { Debugger.empty (some .byte) with
        breakpoints := breakpoints
        conditions :=
          [none, some ⟨.register .pc, .eq, .number 7, "PC is 7"⟩,
            some ⟨.register .pc, .eq, .number 1, "PC is 1"⟩,
            some ⟨.register .pc, .ge, .number 1, "PC is not 0"⟩]
        breakRequested := requested } }

/-- The first ending of a run without a limit comes after some steps and says what a supply of three
steps comes to. -/
def StopsAfter (machine : Machine Scripted) (count : Nat) (event : Event) : Prop :=
  ∃ final, EndsFirst none machine count (.stopped event final) ∧
    run 3 none machine = .ok (some event) final

-- Wherever several hooks could hold the run, the event is that of the first in their order.
theorem run_iterates_step_to_halt_or_hook :
    StopsAfter (holding [0x00, 0xFF]) 2 (.ranToHalt 1 2) ∧
      StopsAfter (guarded true [0]) 0 (.interrupt 0) ∧
      StopsAfter (guarded false [1]) 1 (.breakpoint 1) ∧
      StopsAfter (guarded false []) 1 (.condition 1 "PC is 1") := by
  have stops {machine : Machine Scripted} {count : Nat} {event : Event}
      (running : machine.status = .running) (unlimited : machine.limit? none = none)
      (supplied : count < 3)
      (ends : ∃ final, EndsFirst none machine count (.stopped event final)) :
      StopsAfter machine count event := by
    obtain ⟨final, ends⟩ := ends
    have runs := (run_iterates_step machine none running).1
    rw [unlimited] at runs
    exact ⟨final, ends, runs count _ ends 3 fun _ => supplied⟩
  refine ⟨?_, ?_, ?_, ?_⟩
  · refine stops rfl rfl (by omega) ⟨_, rfl, ?_⟩
    intro sooner before
    obtain rfl | rfl : sooner = 0 ∨ sooner = 1 := by omega
    · rfl
    · rfl
  · refine stops rfl rfl (by omega) ⟨_, rfl, ?_⟩
    intro sooner before
    exact absurd before (Nat.not_lt_zero sooner)
  · refine stops rfl rfl (by omega) ⟨_, rfl, ?_⟩
    intro sooner before
    obtain rfl := Nat.lt_one_iff.mp before
    rfl
  · refine stops rfl rfl (by omega) ⟨_, rfl, ?_⟩
    intro sooner before
    obtain rfl := Nat.lt_one_iff.mp before
    rfl

end ByteMachine.Machine
