import ByteMachine.Proofs.Run

/-!
# Transparency of the debugger

The debugger only cuts a program into several runs. Machines that differ in their debuggers take
the same steps, so the runs of a machine with hooks come to the same end as one run without any.
They come to it because a stop before an instruction is remembered: of two runs, one at least
executes an instruction, and this bounds their number.
-/

namespace ByteMachine

/-- Two outcomes agree: the same event or the same fault, and machines that are alike. -/
inductive Outcome.Alike {δ : Type} : Outcome δ → Outcome δ → Prop
  /-- Both are the same event. -/
  | stopped {event : Event} {machine other : Machine δ} : machine.Alike other →
      Outcome.Alike (.stopped event machine) (.stopped event other)
  /-- Both are the same fault. -/
  | failed {fault : Fault} {machine other : Machine δ} : machine.Alike other →
      Outcome.Alike (.failed fault machine) (.failed fault other)

theorem Outcome.Alike.trans {δ : Type} {first second third : Outcome δ}
    (left : first.Alike second) (right : second.Alike third) : first.Alike third := by
  cases left with
  | stopped alike =>
      cases right with
      | stopped alike' => exact .stopped (alike.trans alike')
  | failed alike =>
      cases right with
      | failed alike' => exact .failed (alike.trans alike')

namespace Machine

variable {δ : Type}

/-- A machine whose debugger is without hooks. -/
def plain (machine : Machine δ) : Machine δ :=
  machine.onDebugger Debugger.clearAll

/-- A machine after changes to its debugger. -/
def changed (machine : Machine δ) (operations : List Debugger.Operation) : Machine δ :=
  machine.onDebugger fun debugger => operations.foldl Debugger.perform debugger

/-- One run after another, each after changes to the debugger. All but the last end with an event,
and the last has the outcome. -/
inductive Calls [Device δ] :
    (Nat → List Debugger.Operation) → Machine δ → Nat → Outcome δ → Prop
  /-- There is one run. -/
  | last {changes : Nat → List Debugger.Operation} {machine : Machine δ} {outcome : Outcome δ} :
      RunsTo none (machine.changed (changes 0)) outcome → Calls changes machine 1 outcome
  /-- There are more runs after the first. -/
  | more {changes : Nat → List Debugger.Operation} {machine next : Machine δ} {event : Event}
      {count : Nat} {outcome : Outcome δ} :
      RunsTo none (machine.changed (changes 0)) (.stopped event next) →
        Calls (fun call => changes (call + 1)) next count outcome →
          Calls changes machine (count + 1) outcome

/-! ## Machines that are alike take the same steps -/

namespace Alike

variable {machine other : Machine δ}

/-- No instruction looks at the debugger or at what is remembered of steps and runs. -/
theorem congruent :
    Congruent (fun _ => True) fun machine other : Machine δ => machine.Alike other where
  config := Alike.config
  device := Alike.device
  memory := Alike.memory
  registers := Alike.registers
  status := Alike.status
  update := fun _ alike => { alike with registers := rfl }
  writeCell := fun _ _ _ _ alike => { alike with memory := rfl }
  afterCall := fun _ alike => { alike with device := rfl }
  halt := fun _ alike => { alike with status := rfl }
  note := fun _ alike => { alike with }

variable [Device δ]

/-- Machines that are alike take the same step, or fail with the same fault. -/
theorem step (alike : machine.Alike other) :
    Corresponds (fun _ => False) Alike Eq (Machine.step machine) (Machine.step other) := by
  have respected : StepRespected (fun _ => False) (fun _ => True)
      fun machine other : Machine δ => machine.Alike other :=
    { congruent.respected with
      begin := fun alike => { alike with }
      observe := fun address opcode _ _ alike =>
        { alike with observer := congrArg (·.tell address opcode) alike.observer }
      count := fun alike => { alike with steps := congrArg (· + 1) alike.steps } }
  exact respected.step (fun _ => trivial) machine other alike

theorem step_ok (alike : machine.Alike other) {event : Event} {after : Machine δ}
    (stepped : Machine.step machine = .ok event after) :
    ∃ counterpart, Machine.step other = .ok event counterpart ∧ after.Alike counterpart := by
  have results := alike.step
  rw [stepped] at results
  generalize Machine.step other = result at results
  cases results with
  | ok same after =>
      cases same
      exact ⟨_, rfl, after⟩

theorem step_error (alike : machine.Alike other) {fault : Fault} {after : Machine δ}
    (failed : Machine.step machine = .error fault after) :
    ∃ counterpart, Machine.step other = .error fault counterpart ∧ after.Alike counterpart := by
  have results := alike.step
  rw [failed] at results
  generalize Machine.step other = result at results
  cases results with
  | error after => exact ⟨_, rfl, after⟩
  | excused absurdity => exact absurdity.elim

/-- Machines that are alike still are after the same number of steps. -/
theorem after? (alike : machine.Alike other) {count : Nat} {reached : Machine δ}
    (steps : Machine.after? count machine = some reached) :
    ∃ counterpart, Machine.after? count other = some counterpart ∧ reached.Alike counterpart := by
  induction count generalizing machine other with
  | zero =>
      cases steps
      exact ⟨other, rfl, alike⟩
  | succ count ih =>
      obtain ⟨next, stepped, later⟩ := Option.bind_eq_some_iff.mp steps
      obtain ⟨event, stepping⟩ := step_of_next? stepped
      obtain ⟨counterpart, stepping', alike'⟩ := alike.step_ok stepping
      rw [Machine.after?, next?_of_step stepping', Option.bind_some]
      exact ih alike' later

end Alike

/-! ## The end of a program -/

section Finish

variable [Device δ] {start machine : Machine δ} {outcome : Outcome δ} {count : Nat}

/-- What the next step brings a program to, if it halts the machine or fails. -/
def finalStep? (machine : Machine δ) : Option (Outcome δ) :=
  match step machine with
  | .error fault after => some (.failed fault after)
  | .ok _ after =>
    if after.status = .halted then
      some (.stopped (.ranToHalt machine.pc.toNat after.steps) after)
    else none

/-- A program comes to its end with the step after a number of others. -/
def Finishes (start : Machine δ) (count : Nat) (outcome : Outcome δ) : Prop :=
  ∃ reached, after? count start = some reached ∧ reached.status = .running ∧
    reached.finalStep? = some outcome

/-- The step that ends a program halts the machine or fails. -/
theorem finalStep?_some (final : machine.finalStep? = some outcome) :
    (∃ fault after, step machine = .error fault after ∧ outcome = .failed fault after) ∨
      ∃ event after, step machine = .ok event after ∧ after.status = .halted ∧
        outcome = .stopped (.ranToHalt machine.pc.toNat after.steps) after := by
  unfold finalStep? at final
  split at final
  · rename_i fault after stepped
    cases final
    exact Or.inl ⟨fault, after, stepped, rfl⟩
  · rename_i event after stepped
    split at final
    · rename_i halted
      cases final
      exact Or.inr ⟨event, after, stepped, halted, rfl⟩
    · cases final

theorem Alike.finalStep? {other : Machine δ} (alike : machine.Alike other)
    (final : machine.finalStep? = some outcome) :
    ∃ counterpart, other.finalStep? = some counterpart ∧ outcome.Alike counterpart := by
  obtain ⟨fault, after, stepped, rfl⟩ | ⟨event, after, stepped, halted, rfl⟩ :=
    finalStep?_some final
  · obtain ⟨counterpart, stepped', alike'⟩ := alike.step_error stepped
    exact ⟨.failed fault counterpart, by rw [Machine.finalStep?, stepped'], .failed alike'⟩
  · obtain ⟨counterpart, stepped', alike'⟩ := alike.step_ok stepped
    have halted' : counterpart.status = .halted := alike'.status.symm.trans halted
    rw [alike.pc, alike'.steps]
    exact ⟨_, by simp [Machine.finalStep?, stepped', halted'], .stopped alike'⟩

/-- The programs of machines that are alike come to the same end. -/
theorem Alike.finishes {other : Machine δ} (alike : machine.Alike other)
    (finishes : Finishes machine count outcome) :
    ∃ counterpart, Finishes other count counterpart ∧ outcome.Alike counterpart := by
  obtain ⟨reached, steps, running, final⟩ := finishes
  obtain ⟨reached', steps', alike'⟩ := alike.after? steps
  obtain ⟨counterpart, final', same⟩ := alike'.finalStep? final
  exact ⟨counterpart, ⟨reached', steps', alike'.status.symm.trans running, final'⟩, same⟩

theorem after?_add (first second : Nat) (start : Machine δ) :
    after? (first + second) start = (after? first start).bind (after? second) := by
  induction second with
  | zero => cases after? first start <;> rfl
  | succ second ih =>
      rw [← Nat.add_assoc, after?_succ, ih]
      cases after? first start with
      | none => rfl
      | some reached => exact (after?_succ second reached).symm

/-- On the way to the end of a program, a machine can go on and comes to the same end. -/
theorem Finishes.later {taken : Nat} (finishes : Finishes start count outcome)
    (steps : after? taken start = some machine) (within : taken ≤ count) :
    machine.status = .running ∧ Finishes machine (count - taken) outcome := by
  obtain ⟨reached, whole, running, final⟩ := finishes
  have rest : after? (count - taken) machine = some reached := by
    rw [← Nat.add_sub_cancel' within, after?_add, steps] at whole
    exact whole
  refine ⟨?_, reached, rest, running, final⟩
  cases left : count - taken with
  | zero =>
      rw [left] at rest
      cases rest
      exact running
  | succ left_pred =>
      rw [left] at rest
      obtain ⟨next, stepped, -⟩ := Option.bind_eq_some_iff.mp rest
      obtain ⟨event, stepping⟩ := step_of_next? stepped
      exact (step_ok stepping).1

/-- The step that halts a machine ends a run, since it is not a store. -/
theorem ending?_of_halt {limit : Option Int} {event : Event} {last : Machine δ}
    (steps : after? count start = some machine) (stepped : step machine = .ok event last)
    (halted : last.status = .halted) :
    ending? limit start (count + 1) =
      some (last.unmarked.endWith (.ranToHalt machine.pc.toNat last.steps)) := by
  have reached : after? (count + 1) start = some last := by
    rw [after?_succ, steps, Option.bind_some, next?_of_step stepped]
  have opcode := (halted_of_step_iff stepped).mp halted
  have unwatched : machine.watchedStore? = none := by
    rw [watchedStore?, store?_of_ne_put (by simp [opcode])]
    rfl
  rw [ending?, endingFrom?_of_reached reached, earlier?, steps]
  simp [storeEnding?, unwatched, haltEnding?, halted]

/-- A program that comes to its end ends a run, at the latest there. -/
theorem Finishes.endsFirst (finishes : Finishes start count outcome) :
    ∃ taken answer, taken ≤ count + 1 ∧ EndsFirst none start taken answer := by
  obtain ⟨reached, steps, -, final⟩ := finishes
  have ends : ∃ latest ≤ count + 1, ∃ answer, ending? none start latest = some answer := by
    obtain ⟨fault, after, stepped, -⟩ | ⟨event, after, stepped, halted, -⟩ := finalStep?_some final
    · refine ⟨count, Nat.le_succ count, ?_⟩
      rw [ending?, endingFrom?_of_reached steps, ← Option.isSome_iff_exists]
      simp [faultEnding?, stepped]
    · exact ⟨count + 1, Nat.le_refl _, _, ending?_of_halt steps stepped halted⟩
  obtain ⟨latest, within, answer, ending⟩ := ends
  obtain ⟨taken, first, endsFirst⟩ := exists_endsFirst ⟨latest, answer, ending⟩
  refine ⟨taken, first, ?_, endsFirst⟩
  by_contra beyond
  rw [endsFirst.2 latest (by omega)] at ending
  cases ending

end Finish

/-! ## One run after another -/

section Sequence

variable [Device δ] {start machine : Machine δ} {outcome : Outcome δ} {count : Nat}

/-- A bound for the runs that a program still needs when it comes to its end with the step after
`count` others: two for each step, and one less where the next run resumes. -/
def callsLeft (machine : Machine δ) (count : Nat) : Nat :=
  2 * (count + 1) - if machine.resumeAt = some machine.pc then 1 else 0

omit [Device δ] in
theorem alike_changed (machine : Machine δ) (operations : List Debugger.Operation) :
    machine.Alike (machine.changed operations) :=
  ⟨rfl, rfl, rfl, rfl, rfl, rfl, rfl⟩

omit [Device δ] in
theorem limit?_none (unlimited : machine.config.maxSteps = none) : machine.limit? none = none := by
  rw [limit?, unlimited]
  rfl

/-- A run that ends after the final step has come to the end of the program. -/
theorem Finishes.alike_of_halt {answer : Outcome δ} (finishes : Finishes start count outcome)
    (ending : ending? none start (count + 1) = some answer) : outcome.Alike answer := by
  obtain ⟨reached, steps, -, final⟩ := finishes
  obtain ⟨last, whole, -⟩ := reason_of_ending ending
  rw [after?_succ, steps, Option.bind_some] at whole
  obtain ⟨event, stepping⟩ := step_of_next? whole
  obtain ⟨fault, after, stepped, -⟩ | ⟨event, after, stepped, halted, rfl⟩ := finalStep?_some final
  · rw [stepped] at stepping
    cases stepping
  · rw [ending?_of_halt steps stepped halted] at ending
    cases ending
    exact .stopped ⟨rfl, rfl, rfl, rfl, rfl, rfl, rfl⟩

/-- A run that fails on the way has come to the end of the program. -/
theorem Finishes.alike_of_fault {taken : Nat} {fault : Fault} {final : Machine δ}
    (finishes : Finishes start count outcome) (running : start.status = .running)
    (fits : start.debugger.Fits start.variant)
    (ending : ending? none start taken = some (.failed fault final)) (within : taken ≤ count) :
    outcome.Alike (.failed fault final) := by
  obtain ⟨reached, steps, -, ⟨failed, stepped, alike⟩ | ⟨unsuited, -⟩⟩ :=
    alike_of_failed running ending
  · obtain ⟨-, last, rest, -, final⟩ := finishes.later steps within
    cases left : count - taken with
    | zero =>
        rw [left] at rest
        cases rest
        rw [finalStep?, stepped] at final
        cases final
        exact .failed alike
    | succ left_pred =>
        -- A machine that has steps left does not fail.
        rw [left] at rest
        obtain ⟨next, stepping, -⟩ := Option.bind_eq_some_iff.mp rest
        rw [next?, stepped] at stepping
        cases stepping
  · exact absurd fits unsuited

/-- A machine on the way to the end of its program, between two runs. -/
structure Underway (machine : Machine δ) (count : Nat) (outcome : Outcome δ) : Prop where
  /-- The machine can go on. -/
  running : machine.status = .running
  /-- Its runs have no limit. -/
  unlimited : machine.config.maxSteps = none
  /-- Its debugger suits it. -/
  fits : machine.debugger.Fits machine.variant
  /-- Its program comes to an end like this one. -/
  finishes : ∃ counterpart, Finishes machine count counterpart ∧ outcome.Alike counterpart

theorem Underway.changed (underway : Underway machine count outcome)
    (operations : List Debugger.Operation) :
    Underway (machine.changed operations) count outcome where
  running := underway.running
  unlimited := underway.unlimited
  fits := underway.fits.performAll operations
  finishes := by
    obtain ⟨counterpart, finishes, alike⟩ := underway.finishes
    obtain ⟨counterpart', finishes', alike'⟩ := (alike_changed machine operations).finishes finishes
    exact ⟨counterpart', finishes', alike.trans alike'⟩

/-- A run on the way comes to the end of the program, or stops on the way with fewer runs left. -/
theorem Underway.run (underway : Underway start count outcome) :
    ∃ answer, RunsTo none start answer ∧
      (outcome.Alike answer ∨
        ∃ event next left, answer = .stopped event next ∧ Underway next left outcome ∧
          next.callsLeft left < start.callsLeft count) := by
  obtain ⟨counterpart, finishes, same⟩ := underway.finishes
  obtain ⟨taken, answer, within, ends⟩ := finishes.endsFirst
  have runs : RunsTo none start answer := by
    rw [runsTo_iff underway.running, limit?_none underway.unlimited]
    exact ⟨taken, ends⟩
  refine ⟨answer, runs, ?_⟩
  obtain taken_eq | before : taken = count + 1 ∨ taken ≤ count := by omega
  · subst taken_eq
    exact Or.inl (same.trans (finishes.alike_of_halt ends.1))
  cases answer with
  | failed fault final =>
      exact Or.inl
        (same.trans (finishes.alike_of_fault underway.running underway.fits ends.1 before))
  | stopped event next =>
      right
      obtain ⟨reached, steps, alike⟩ := alike_of_stopped ends.1
      obtain ⟨running, later⟩ := finishes.later steps before
      obtain ⟨counterpart', finishes', same'⟩ := alike.finishes later
      have config_eq : next.config = start.config :=
        alike.config.symm.trans (frame_of_after? steps).config
      refine ⟨event, next, count - taken, rfl, ?_, ?_⟩
      · exact
          { running := alike.status.symm.trans running
            unlimited := (congrArg Config.maxSteps config_eq).trans underway.unlimited
            fits := fits_of_stopped underway.fits ends.1
            finishes := ⟨counterpart', finishes', same.trans same'⟩ }
      · unfold callsLeft
        cases taken with
        | zero =>
            obtain ⟨elsewhere, remembered⟩ := stopped_at_once (by simp) ends.1
            rw [if_pos remembered, if_neg elsewhere]
            omega
        | succ taken =>
            split <;> split <;> omega

/-- The runs of a machine on the way come to the end of its program within the bound. -/
theorem Underway.calls (underway : Underway machine count outcome)
    (changes : Nat → List Debugger.Operation) :
    ∃ calls answer, calls ≤ machine.callsLeft count ∧ Calls changes machine calls answer ∧
      outcome.Alike answer := by
  -- Every run that does not come to the end leaves a smaller bound.
  induction left_eq : machine.callsLeft count using Nat.strong_induction_on
    generalizing machine count changes with
  | _ bound ih =>
      have bound_eq : (machine.changed (changes 0)).callsLeft count = bound := left_eq
      obtain ⟨answer, runs, arrived | ⟨event, next, left, rfl, underway', fewer⟩⟩ :=
        (underway.changed (changes 0)).run
      · have pos : 1 ≤ bound := by
          rw [← bound_eq, callsLeft]
          split <;> omega
        exact ⟨1, answer, pos, .last runs, arrived⟩
      · rw [bound_eq] at fewer
        obtain ⟨calls, answer, within, sequence, arrived⟩ :=
          ih _ fewer underway' (fun call => changes (call + 1)) rfl
        exact ⟨calls + 1, answer, by omega, .more runs sequence, arrived⟩

/-! ## Runs with hooks and without -/

/-- A run that halts a machine has come to the end of its program. -/
theorem finishes_of_halt {event : Event} {final : Machine δ} (running : start.status = .running)
    (ending : ending? none start count = some (.stopped event final))
    (halted : final.status = .halted) :
    ∃ taken counterpart, count = taken + 1 ∧ Finishes start taken counterpart ∧
      Outcome.Alike (.stopped event final) counterpart := by
  obtain ⟨last, steps, alike⟩ := alike_of_stopped ending
  have last_halted := alike.status.trans halted
  cases count with
  | zero =>
      cases steps
      rw [running] at last_halted
      cases last_halted
  | succ taken =>
      rw [after?_succ] at steps
      obtain ⟨reached, before, stepped⟩ := Option.bind_eq_some_iff.mp steps
      obtain ⟨found, stepping⟩ := step_of_next? stepped
      rw [ending?_of_halt before stepping last_halted] at ending
      cases ending
      have finalStep : reached.finalStep? =
          some (.stopped (.ranToHalt reached.pc.toNat last.steps) last) := by
        simp [finalStep?, stepping, last_halted]
      exact ⟨taken, _, rfl, ⟨reached, before, (step_ok stepping).1, finalStep⟩, .stopped alike.symm⟩

/-- A run that fails has come to the end of the program. -/
theorem finishes_of_fault {fault : Fault} {final : Machine δ} (running : start.status = .running)
    (fits : start.debugger.Fits start.variant)
    (ending : ending? none start count = some (.failed fault final)) :
    ∃ counterpart, Finishes start count counterpart ∧
      Outcome.Alike (.failed fault final) counterpart := by
  obtain ⟨reached, steps, going, ⟨failed, stepped, alike⟩ | ⟨unsuited, -⟩⟩ :=
    alike_of_failed running ending
  · have finalStep : reached.finalStep? = some (.failed fault failed) := by
      rw [finalStep?, stepped]
    exact ⟨_, ⟨reached, steps, going, finalStep⟩, .failed alike.symm⟩
  · exact absurd fits unsuited

omit [Device δ] in
theorem alike_plain (machine : Machine δ) : machine.plain.Alike machine :=
  ⟨rfl, rfl, rfl, rfl, rfl, rfl, rfl⟩

/-- A machine is on the way to where its program comes without hooks. -/
theorem underway_of_plain {counterpart : Outcome δ} (running : machine.status = .running)
    (unlimited : machine.config.maxSteps = none) (fits : machine.debugger.Fits machine.variant)
    (finishes : Finishes machine.plain count counterpart) (alike : outcome.Alike counterpart) :
    Underway machine count outcome where
  running := running
  unlimited := unlimited
  fits := fits
  finishes := by
    obtain ⟨counterpart', finishes', alike'⟩ := (alike_plain machine).finishes finishes
    exact ⟨counterpart', finishes', alike.trans alike'⟩

/-- Of two runs that end with an event, one at least takes a step. -/
theorem steps_lt_of_two_runs {between after : Machine δ} {first second : Event}
    (unlimited : machine.config.maxSteps = none) (operations later : List Debugger.Operation)
    (runs : RunsTo none (machine.changed operations) (.stopped first between))
    (again : RunsTo none (between.changed later) (.stopped second after)) :
    machine.steps < after.steps := by
  have running := running_of_runsTo runs
  have limit_eq : (machine.changed operations).limit? none = none := limit?_none unlimited
  rw [runsTo_iff running, limit_eq] at runs
  obtain ⟨taken, ends⟩ := runs
  obtain ⟨reached, steps, alike⟩ := alike_of_stopped ends.1
  have config_eq : between.config = machine.config :=
    alike.config.symm.trans (frame_of_after? steps).config
  have limit_eq' : (between.changed later).limit? none = none :=
    limit?_none ((congrArg Config.maxSteps config_eq).trans unlimited)
  rw [runsTo_iff (running_of_runsTo again), limit_eq'] at again
  obtain ⟨taken', ends'⟩ := again
  have total := steps_of_stopped ends.1
  change between.steps = machine.steps + taken at total
  have total' := steps_of_stopped ends'.1
  change after.steps = between.steps + taken' at total'
  have moved : 0 < taken + taken' := by
    by_contra stuck
    obtain ⟨rfl, rfl⟩ : taken = 0 ∧ taken' = 0 := by omega
    exact (stopped_at_once (by simp) ends'.1).1 (stopped_at_once (by simp) ends.1).2
  omega

/-- The debugger is transparent. Where one run without hooks halts the machine or fails, the runs
with hooks, whatever is done to them in between, come to the same end; and of any two of them one
at least takes a step. -/
theorem debugger_transparent (machine : Machine δ) (changes : Nat → List Debugger.Operation)
    (running : machine.status = .running) (unlimited : machine.config.maxSteps = none)
    (fits : machine.debugger.Fits machine.variant) :
    (∀ event final, RunsTo none machine.plain (.stopped event final) → final.status = .halted →
      ∃ calls last, calls ≤ 2 * (final.steps - machine.steps) ∧
        Calls changes machine calls (.stopped event last) ∧ final.Alike last) ∧
    (∀ fault final, RunsTo none machine.plain (.failed fault final) →
      ∃ calls last, Calls changes machine calls (.failed fault last) ∧ final.Alike last) ∧
    (∀ (before between after : Machine δ) (operations later : List Debugger.Operation)
        (first second : Event),
      before.config.maxSteps = none →
        RunsTo none (before.changed operations) (.stopped first between) →
          RunsTo none (between.changed later) (.stopped second after) →
            ¬(between.steps = before.steps ∧ after.steps = between.steps)) := by
  have running' : machine.plain.status = .running := running
  have limit_eq : machine.plain.limit? none = none := limit?_none unlimited
  refine ⟨?_, ?_, ?_⟩
  · intro event final runs halted
    rw [runsTo_iff running', limit_eq] at runs
    obtain ⟨count, ends⟩ := runs
    obtain ⟨taken, counterpart, rfl, finishes, alike⟩ := finishes_of_halt running' ends.1 halted
    have total := steps_of_stopped ends.1
    change final.steps = machine.steps + (taken + 1) at total
    obtain ⟨calls, answer, within, sequence, arrived⟩ :=
      (underway_of_plain running unlimited fits finishes alike).calls changes
    cases arrived with
    | stopped alike' =>
        refine ⟨calls, _, ?_, sequence, alike'⟩
        unfold callsLeft at within
        omega
  · intro fault final runs
    rw [runsTo_iff running', limit_eq] at runs
    obtain ⟨count, ends⟩ := runs
    obtain ⟨counterpart, finishes, alike⟩ :=
      finishes_of_fault running' (fits.perform .clearAll) ends.1
    obtain ⟨calls, answer, -, sequence, arrived⟩ :=
      (underway_of_plain running unlimited fits finishes alike).calls changes
    cases arrived with
    | failed alike' => exact ⟨calls, _, sequence, alike'⟩
  · rintro before between after operations later first second unbounded runs again ⟨still, still'⟩
    have moved := steps_lt_of_two_runs unbounded operations later runs again
    omega

end Sequence

theorem debugger_transparent_to_breakpoint :
    ∃ calls last, calls ≤ 2 * 2 ∧
      Calls (fun _ => [.requestBreak]) ((holding [0x00, 0xFF]).changed [.addBreakpoint 1]) calls
        (.stopped (.ranToHalt 1 2) last) ∧
      last.status = .halted := by
  let machine := (holding [0x00, 0xFF]).changed [.addBreakpoint 1]
  have ends : ∃ final, EndsFirst none machine.plain 2 (.stopped (.ranToHalt 1 2) final) ∧
      final.status = .halted ∧ final.steps = 2 := by
    refine ⟨_, ⟨rfl, ?_⟩, rfl, rfl⟩
    intro sooner before
    obtain rfl | rfl : sooner = 0 ∨ sooner = 1 := by omega
    · rfl
    · rfl
  obtain ⟨final, ends, halted, steps⟩ := ends
  have runs : RunsTo none machine.plain (.stopped (.ranToHalt 1 2) final) :=
    (runsTo_iff rfl _).mpr ⟨2, ends⟩
  have fits : machine.debugger.Fits machine.variant :=
    (Debugger.Fits.empty .byte).perform (.addBreakpoint 1)
  obtain ⟨calls, last, within, sequence, alike⟩ :=
    (debugger_transparent machine (fun _ => [.requestBreak]) rfl rfl fits).1 _ final runs halted
  rw [steps] at within
  exact ⟨calls, last, within, sequence, alike.status.symm.trans halted⟩

end Machine

end ByteMachine
