import ByteMachine.Device.Scripted
import ByteMachine.Proofs.Session

/-!
# Resuming a stop

A run that was held before an instruction executes it unchecked when it is resumed. What is
remembered of the stop is its address alone, and a step does not forget it. So the next run looks at
the hooks of its first instruction just when the last run was not held at that address, whatever was
executed in between; a break that is asked for at a stop waits for the instruction that is resumed.
-/

namespace ByteMachine.Machine

variable {δ : Type}

/-- A run may take a step. -/
def Allows (machine : Machine δ) (maxSteps : Option Int) : Prop :=
  ∀ steps, machine.limit? maxSteps = some steps → 1 ≤ steps

section Resume

variable [Device δ] {machine after : Machine δ} {maxSteps : Option Int} {event : Event}

/-- A run that does not resume its first instruction is held there if the check says so. -/
theorem runsTo_of_check {debugger : Debugger} (running : machine.status = .running)
    (allows : machine.Allows maxSteps) (elsewhere : machine.resumeAt ≠ some machine.pc)
    (answered : machine.debugger.checkInstruction machine.registerFile machine.pc.toNat =
      .ok (debugger, some event)) :
    RunsTo maxSteps machine (.stopped event (machine.heldWith debugger event)) := by
  have ending : ending? (machine.limit? maxSteps) machine 0 =
      some (.stopped event (machine.heldWith debugger event)) := by
    rw [ending?, endingFrom?_zero, limitEnding?_of_lt allows, Option.none_or,
      hookEnding?_eq_check elsewhere, answered]
    rfl
  rw [runsTo_iff running]
  exact ⟨0, ending, fun sooner before => absurd before (Nat.not_lt_zero sooner)⟩

/-- A run that resumes is not held before it has executed an instruction. -/
theorem not_held_of_resume {final : Machine δ} (running : machine.status = .running)
    (allows : machine.Allows maxSteps) (resumes : machine.resumeAt = some machine.pc)
    (runs : RunsTo maxSteps machine (.stopped event final)) : ¬machine.Alike final := by
  intro alike
  rw [runsTo_iff running] at runs
  obtain ⟨count, ends⟩ := runs
  have counted := steps_of_stopped ends.1
  obtain rfl : count = 0 := by
    have still := alike.steps
    omega
  exact (stopped_at_once allows ends.1).1 resumes

omit [Device δ] in
theorem hookEnding?_of_resume (resumes : machine.resumeAt = some machine.pc) :
    hookEnding? machine.resumeAt machine = none := by
  rw [hookEnding?, if_pos resumes]

/-- A run that resumes fails if its first instruction does. -/
theorem runsTo_of_resumed_fault {fault : Fault} (running : machine.status = .running)
    (allows : machine.Allows maxSteps) (resumes : machine.resumeAt = some machine.pc)
    (failed : step machine = .error fault after) :
    RunsTo maxSteps machine (.failed fault after.unmarked) := by
  have ending : ending? (machine.limit? maxSteps) machine 0 =
      some (.failed fault after.unmarked) := by
    rw [ending?, endingFrom?_zero, limitEnding?_of_lt allows, hookEnding?_of_resume resumes,
      Option.none_or, Option.none_or, faultEnding?, failed]
  rw [runsTo_iff running]
  exact ⟨0, ending, fun sooner before => absurd before (Nat.not_lt_zero sooner)⟩

/-- A run that resumes executes its first instruction, and what ends it then is the ending. -/
theorem runsTo_of_resumed_step {outcome : Outcome δ} (running : machine.status = .running)
    (allows : machine.Allows maxSteps) (resumes : machine.resumeAt = some machine.pc)
    (stepped : step machine = .ok event after)
    (ending : ending? (machine.limit? maxSteps) machine 1 = some outcome) :
    RunsTo maxSteps machine outcome := by
  rw [runsTo_iff running]
  refine ⟨1, ending, ?_⟩
  intro sooner before
  obtain rfl : sooner = 0 := by omega
  rw [ending?, endingFrom?_zero, limitEnding?_of_lt allows, hookEnding?_of_resume resumes,
    Option.none_or, Option.none_or, faultEnding?, stepped]

omit [Device δ] in
/-- Where a break is asked for, a run is held before an instruction that it does not resume. -/
theorem hookEnding?_of_request (requested : machine.debugger.breakRequested = true) :
    hookEnding? none machine =
      some (.stopped (.interrupt machine.pc.toNat)
        (machine.heldWith (machine.debugger.clearRequest.record (.interrupt machine.pc.toNat))
          (.interrupt machine.pc.toNat))) := by
  rw [hookEnding?, if_neg (by simp), requestEnding?, if_pos requested]
  rfl

/-- A break that is asked for ends a run that resumes right after its first instruction, unless
something else does. -/
theorem runsTo_of_resumed_request (running : machine.status = .running)
    (allows : machine.Allows maxSteps) (resumes : machine.resumeAt = some machine.pc)
    (requested : machine.debugger.breakRequested = true)
    (stepped : step machine = .ok event after) :
    ∃ stop final, RunsTo maxSteps machine (.stopped stop final) ∧ after.Alike final ∧
      (after.status = .running → machine.watchedStore? = none → machine.limit? maxSteps ≠ some 1 →
        stop = .interrupt after.pc.toNat ∧ final.debugger.breakRequested = false) := by
  have runs : ∀ outcome, ending? (machine.limit? maxSteps) machine 1 = some outcome →
      RunsTo maxSteps machine outcome :=
    fun _ => runsTo_of_resumed_step running allows resumes stepped
  cases watched : machine.watchedStore? with
  | some store =>
      exact ⟨_, _, runs _ (endingFrom?_one_of_store stepped watched),
        ⟨rfl, rfl, rfl, rfl, rfl, rfl, rfl⟩, fun _ unwatched => nomatch unwatched⟩
  | none =>
      cases status : after.status with
      | halted =>
          exact ⟨_, _, runs _ (endingFrom?_one_of_halt stepped watched status),
            ⟨rfl, rfl, rfl, rfl, rfl, rfl, rfl⟩, fun going => nomatch going⟩
      | running =>
          have shifted : ending? (machine.limit? maxSteps) machine 1 =
              endingFrom? (machine.limit? maxSteps) (0 + 1) none after 0 :=
            endingFrom?_succ stepped watched status
          rw [endingFrom?_zero] at shifted
          by_cases spent : machine.limit? maxSteps = some 1
          · have ending : ending? (machine.limit? maxSteps) machine 1 =
                some (after.unmarked.endWith (.stepLimit after.pc.toNat 1)) := by
              rw [shifted, spent]
              rfl
            exact ⟨_, _, runs _ ending, ⟨rfl, rfl, rfl, rfl, rfl, rfl, rfl⟩,
              fun _ _ more => absurd spent more⟩
          · have within : ∀ steps, machine.limit? maxSteps = some steps →
                ((0 + 1 : Nat) : Int) < steps := by
              intro steps limited
              have least := allows steps limited
              have other : steps ≠ 1 := fun one => spent (one ▸ limited)
              omega
            -- The step has not used up the request, so the check before the next one finds it.
            have pending := (frame_of_step stepped).debugger.request requested
            rw [limitEnding?_of_lt within, Option.none_or,
              hookEnding?_of_request pending] at shifted
            exact ⟨_, _, runs _ shifted, alike_heldWith after _ _, fun _ _ _ => ⟨rfl, rfl⟩⟩

end Resume

/-! ## Breakpoints and requests in a session -/

/-- A machine of two cells with a program and a breakpoint before it. -/
def armed (program : List UInt8) : Machine Scripted :=
  ((start (.ofVariant .byte (some ⟨2, by decide, by decide⟩)) (Scripted.ofInputs [])).access
    (.load program 0)).access (.debug (.addBreakpoint 0))

/-- The same machine after a run that the breakpoint has held. -/
def paused (program : List UInt8) : Machine Scripted :=
  (armed program).heldWith ((armed program).debugger.record (.breakpoint 0)) (.breakpoint 0)

theorem session_armed (program : List UInt8) : Session [.handled, .handled] (armed program) :=
  .access _ (.access _ (.start _ _))

theorem session_paused :
    Session [.stopped (.breakpoint 0), .handled, .handled] (paused [0x09, 0x00]) := by
  have held : RunsTo none (armed [0x09, 0x00]) (.stopped (.breakpoint 0) (paused [0x09, 0x00])) :=
    runsTo_of_check rfl nofun nofun rfl
  exact (session_armed [0x09, 0x00]).run held

section Breakpoint

variable [Device δ] {record : List Deed} {machine : Machine δ}

/-- A run is held at once by a breakpoint at the program counter just when the last run was not
held at that address. It does not matter whether instructions were executed since then. -/
theorem breakpoint_held_iff (session : Session record machine) (maxSteps : Option Int)
    (running : machine.status = .running) (allows : machine.Allows maxSteps)
    (unrequested : machine.debugger.breakRequested = false)
    (standing : machine.debugger.hasBreakpoint machine.pc.toNat = true) :
    (∃ final, RunsTo maxSteps machine (.stopped (.breakpoint machine.pc.toNat) final) ∧
        machine.Alike final) ↔
      lastHold? record ≠ some (machine.pc.toNat : Int) := by
  rw [ne_eq, ← session.resumes_iff running]
  constructor
  · rintro ⟨final, runs, alike⟩ resumes
    exact not_held_of_resume running allows resumes runs alike
  · intro elsewhere
    have answered :=
      Debugger.checkInstruction_of_breakpoint unrequested standing machine.registerFile
    exact ⟨_, runsTo_of_check running allows elsewhere answered, alike_heldWith machine _ _⟩

end Breakpoint

theorem breakpoint_held_iff_first_run :
    ∃ final, RunsTo none (armed [0x09, 0x00]) (.stopped (.breakpoint 0) final) ∧
      (armed [0x09, 0x00]).Alike final :=
  (breakpoint_held_iff (session_armed [0x09, 0x00]) none rfl nofun rfl rfl).mpr (by decide)

/-- The jump to itself comes back to the breakpoint in a single step. -/
theorem breakpoint_missed_after_step :
    ¬∀ (record : List Deed) (machine : Machine Scripted) (maxSteps : Option Int),
      Session record machine → SteppedSinceHold record → machine.status = .running →
        machine.Allows maxSteps → machine.debugger.breakRequested = false →
          machine.debugger.hasBreakpoint machine.pc.toNat = true →
            ∃ final, RunsTo maxSteps machine (.stopped (.breakpoint machine.pc.toNat) final) ∧
              machine.Alike final := by
  intro never_missed
  have stepped : ∃ event after, step (paused [0x09, 0x00]) = .ok event after ∧
      after.status = .running ∧ after.resumeAt = some after.pc ∧
        after.debugger.breakRequested = false ∧
          after.debugger.hasBreakpoint after.pc.toNat = true :=
    ⟨_, _, rfl, rfl, rfl, rfl, rfl⟩
  obtain ⟨event, after, stepped, running, resumes, unrequested, standing⟩ := stepped
  have session := session_paused.step stepped
  have since : SteppedSinceHold [.stepped, .stopped (.breakpoint 0), .handled, .handled] :=
    ⟨[.stepped], .breakpoint 0, [.handled, .handled], rfl, rfl, by simp, by simp⟩
  have allows : after.Allows (some 1) := by
    intro steps limited
    cases limited
    exact Int.le_refl 1
  obtain ⟨final, runs, alike⟩ :=
    never_missed _ after (some 1) session since running allows unrequested standing
  exact not_held_of_resume running allows resumes runs alike

section Request

variable [Device δ] {record : List Deed} {machine : Machine δ}

/-- A break that is asked for holds the next run at once, if the last run was not held at the
program counter. If it was, and nothing was executed since then, the run first executes the
instruction at which it resumes, and is held after it unless something else ends it there. -/
theorem request_honoured (session : Session record machine) (maxSteps : Option Int)
    (running : machine.status = .running) (allows : machine.Allows maxSteps)
    (requested : machine.debugger.breakRequested = true) :
    (lastHold? record ≠ some (machine.pc.toNat : Int) →
      ∃ final, RunsTo maxSteps machine (.stopped (.interrupt machine.pc.toNat) final) ∧
        machine.Alike final ∧ final.debugger.breakRequested = false) ∧
    (standingHold? record = some (machine.pc.toNat : Int) →
      (∀ fault after, step machine = .error fault after →
        ∃ final, RunsTo maxSteps machine (.failed fault final) ∧ after.Alike final) ∧
      (∀ event after, step machine = .ok event after →
        ∃ stop final, RunsTo maxSteps machine (.stopped stop final) ∧ after.Alike final ∧
          (after.status = .running → machine.watchedStore? = none →
            machine.limit? maxSteps ≠ some 1 →
              stop = .interrupt after.pc.toNat ∧ final.debugger.breakRequested = false))) := by
  constructor
  · intro elsewhere
    rw [ne_eq, ← session.resumes_iff running] at elsewhere
    have answered :=
      Debugger.checkInstruction_of_request requested machine.registerFile machine.pc.toNat
    exact ⟨_, runsTo_of_check running allows elsewhere answered, alike_heldWith machine _ _, rfl⟩
  · intro standing
    have resumes := (session.resumes_iff running).mpr (lastHold?_of_standing standing)
    constructor
    · intro fault after failed
      exact ⟨_, runsTo_of_resumed_fault running allows resumes failed,
        ⟨rfl, rfl, rfl, rfl, rfl, rfl, rfl⟩⟩
    · intro event after stepped
      exact runsTo_of_resumed_request running allows resumes requested stepped

end Request

theorem request_honoured_at_breakpoint :
    (∃ final, RunsTo none ((armed [0x09, 0x00]).access (.debug .requestBreak))
      (.stopped (.interrupt 0) final) ∧ final.steps = 0) ∧
    ∃ stop final, RunsTo none ((paused [0x09, 0x00]).access (.debug .requestBreak))
      (.stopped stop final) ∧ final.steps = 1 ∧ final.debugger.breakRequested = false := by
  constructor
  · have session := (session_armed [0x09, 0x00]).access (.debug .requestBreak)
    obtain ⟨final, runs, alike, -⟩ := (request_honoured session none rfl nofun rfl).1 (by decide)
    exact ⟨final, runs, alike.steps.symm⟩
  · have session := session_paused.access (.debug .requestBreak)
    obtain ⟨stop, final, runs, alike, held⟩ :=
      ((request_honoured session none rfl nofun rfl).2 rfl).2 _ _ rfl
    obtain ⟨-, cleared⟩ := held rfl rfl nofun
    exact ⟨stop, final, runs, alike.steps.symm, cleared⟩

/-- A break that is asked for at a stop does not keep the run from resuming it. -/
theorem request_deferred_at_stop :
    ¬∀ (record : List Deed) (machine : Machine Scripted) (maxSteps : Option Int),
      Session record machine → machine.status = .running → machine.Allows maxSteps →
        machine.debugger.breakRequested = true →
          ∃ final, RunsTo maxSteps machine (.stopped (.interrupt machine.pc.toNat) final) ∧
            machine.Alike final ∧ final.debugger.breakRequested = false := by
  intro always_held
  have session := session_paused.access (.debug .requestBreak)
  have allows : ((paused [0x09, 0x00]).access (.debug .requestBreak)).Allows none := nofun
  obtain ⟨final, runs, alike, -⟩ := always_held _ _ none session rfl allows rfl
  exact not_held_of_resume rfl allows rfl runs alike

end ByteMachine.Machine
