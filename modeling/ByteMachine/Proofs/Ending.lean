import Mathlib.Data.Nat.Find
import ByteMachine.Machine.Run
import ByteMachine.Proofs.Step

/-!
# What ends a run

A run is a sequence of steps that is cut off at the first reason to end. This file states the
reasons over the machines that the steps lead through, without the loop of a run and its supply
of steps, and says what each of them leaves behind.
-/

namespace ByteMachine

/-- How a run ends. -/
inductive Outcome (δ : Type) where
  /-- With an event. -/
  | stopped (event : Event) (machine : Machine δ)
  /-- With a fault. -/
  | failed (fault : Fault) (machine : Machine δ)

namespace Outcome

variable {δ : Type}

/-- The machine that a run leaves behind. -/
def machine : Outcome δ → Machine δ
  | .stopped _ machine => machine
  | .failed _ machine => machine

/-- The result of a run that ends. -/
def result : Outcome δ → EStateM.Result Fault (Machine δ) (Option Event)
  | .stopped event machine => .ok (some event) machine
  | .failed fault machine => .error fault machine

theorem result_injective {left right : Outcome δ} (same : left.result = right.result) :
    left = right := by
  cases left <;> cases right <;> cases same <;> rfl

end Outcome

namespace Machine

variable {δ : Type}

/-- The limit of a run: the one that is asked for, or else that of the configuration. -/
def limit? (machine : Machine δ) (maxSteps : Option Int) : Option Int :=
  maxSteps.or (machine.config.maxSteps.map Int.ofNat)

/-- A machine that does not remember where a run stopped. -/
def unmarked (machine : Machine δ) : Machine δ :=
  { machine with resumeAt := none }

/-- A machine whose run has ended with an event. -/
def concluded (machine : Machine δ) (event : Event) : Machine δ :=
  { machine with lastEvent := some event }.note (.stopped event)

/-- The end of a run with an event. -/
def endWith (machine : Machine δ) (event : Event) : Outcome δ :=
  .stopped event (machine.concluded event)

/-- A machine whose run was held before an instruction, with the debugger that has held it. It
remembers the place. -/
def heldWith (machine : Machine δ) (debugger : Debugger) (event : Event) : Machine δ :=
  { machine with debugger := debugger, resumeAt := some machine.pc }.concluded event

/-- Two machines agree in all but their debuggers and what they remember of steps and runs. -/
structure Alike (machine other : Machine δ) : Prop where
  /-- Both are configured in the same way. -/
  config : machine.config = other.config
  /-- Both have the same device. -/
  device : machine.device = other.device
  /-- Both have the same observer. -/
  observer : machine.observer = other.observer
  /-- Both have the same memory. -/
  memory : machine.memory = other.memory
  /-- Both hold the same values in their registers. -/
  registers : machine.registers = other.registers
  /-- Both can go on, or neither can. -/
  status : machine.status = other.status
  /-- Both have executed as many instructions. -/
  steps : machine.steps = other.steps

namespace Alike

variable {machine other third : Machine δ}

theorem symm (alike : machine.Alike other) : other.Alike machine :=
  ⟨alike.config.symm, alike.device.symm, alike.observer.symm, alike.memory.symm,
    alike.registers.symm, alike.status.symm, alike.steps.symm⟩

theorem trans (first : machine.Alike other) (second : other.Alike third) : machine.Alike third :=
  ⟨first.config.trans second.config, first.device.trans second.device,
    first.observer.trans second.observer, first.memory.trans second.memory,
    first.registers.trans second.registers, first.status.trans second.status,
    first.steps.trans second.steps⟩

theorem pc (alike : machine.Alike other) : machine.pc = other.pc :=
  congrArg Registers.pc alike.registers

end Alike

theorem alike_heldWith (machine : Machine δ) (debugger : Debugger) (event : Event) :
    machine.Alike (machine.heldWith debugger event) :=
  ⟨rfl, rfl, rfl, rfl, rfl, rfl, rfl⟩

section Endings

variable [Device δ]

/-- The machine after one step, if that does not fail. -/
def next? (machine : Machine δ) : Option (Machine δ) :=
  match step machine with
  | .ok _ after => some after
  | .error _ _ => none

/-- The machine after some steps, if none of them fails. -/
def after? : Nat → Machine δ → Option (Machine δ)
  | 0, machine => some machine
  | count + 1, machine => machine.next?.bind (after? count)

/-- The machine before the last of some steps, if there were any. -/
def earlier? : Nat → Machine δ → Option (Machine δ)
  | 0, _ => none
  | count + 1, machine => after? count machine

/-- A run ends after a step that has stored into a watched cell. -/
def storeEnding? (earlier : Option (Machine δ)) (machine : Machine δ) : Option (Outcome δ) :=
  (earlier.bind watchedStore?).map fun store =>
    { machine.unmarked with writeStop := none }.endWith (storeEvent store)

/-- A run ends after the step that has halted the machine. -/
def haltEnding? (earlier : Option (Machine δ)) (machine : Machine δ) : Option (Outcome δ) :=
  if machine.status = .halted then
    earlier.map fun previous =>
      machine.unmarked.endWith (.ranToHalt previous.pc.toNat machine.steps)
  else none

/-- A run ends when it has taken as many steps as its limit allows. -/
def limitEnding? (limit : Option Int) (count : Nat) (machine : Machine δ) : Option (Outcome δ) :=
  limit.bind fun steps =>
    if steps ≤ count then some (machine.unmarked.endWith (.stepLimit machine.pc.toNat steps))
    else none

/-- The end of a run that is held before an instruction. The debugger keeps the event. -/
def holdWith (machine : Machine δ) (debugger : Debugger) (event : Event) : Outcome δ :=
  .stopped event (machine.heldWith (debugger.record event) event)

/-- A run ends before an instruction if a break is asked for. That uses up the request. -/
def requestEnding? (machine : Machine δ) : Option (Outcome δ) :=
  if machine.debugger.breakRequested then
    some (machine.holdWith machine.debugger.clearRequest (.interrupt machine.pc.toNat))
  else none

/-- A run ends before an instruction at a breakpoint. -/
def breakpointEnding? (machine : Machine δ) : Option (Outcome δ) :=
  if (machine.pc.toNat : Int) ∈ machine.debugger.breakpoints then
    some (machine.holdWith machine.debugger (.breakpoint machine.pc.toNat))
  else none

/-- A run ends before an instruction at which a condition holds, and also if the machine lacks what
the condition reads. -/
def conditionEnding? (machine : Machine δ) (condition : Condition) : Option (Outcome δ) :=
  match condition.holds machine.registerFile with
  | .ok true =>
    some (machine.holdWith machine.debugger
      (.condition machine.pc.toNat condition.description))
  | .ok false => none
  | .error fault => some (.failed fault machine.unmarked)

/-- A run ends before an instruction at which a hook of the debugger holds it, unless it resumes
there. The request counts before the breakpoints, these count before the conditions, and among the
conditions the one with the least number counts first. -/
def hookEnding? (resume : Option UInt8) (machine : Machine δ) : Option (Outcome δ) :=
  if resume = some machine.pc then none
  else
    requestEnding? machine
      <|> breakpointEnding? machine
      <|> machine.debugger.listConditions.findSome? fun listed => machine.conditionEnding? listed.2

/-- A run ends with a step that fails. -/
def faultEnding? (machine : Machine δ) : Option (Outcome δ) :=
  match step machine with
  | .ok _ _ => none
  | .error fault after => some (.failed fault after.unmarked)

/-- What ends a run after a number of steps, the reasons in the order in which they count. Here
`taken` steps were taken before, and the run may resume at its first step. -/
def endingFrom? (limit : Option Int) (taken : Nat) (resume : Option UInt8) (start : Machine δ)
    (count : Nat) : Option (Outcome δ) := do
  let machine ← after? count start
  storeEnding? (earlier? count start) machine
    <|> haltEnding? (earlier? count start) machine
    <|> limitEnding? limit (taken + count) machine
    <|> hookEnding? (if count = 0 then resume else none) machine
    <|> faultEnding? machine

/-- What ends a run from its start after a number of steps. -/
def ending? (limit : Option Int) (start : Machine δ) (count : Nat) : Option (Outcome δ) :=
  endingFrom? limit 0 start.resumeAt start count

/-- The least number of steps after which something ends a run, with the outcome. -/
def EndsFirst (limit : Option Int) (start : Machine δ) (count : Nat) (outcome : Outcome δ) : Prop :=
  ending? limit start count = some outcome ∧ ∀ sooner < count, ending? limit start sooner = none

end Endings

/-! ## What an ending says -/

section Reasons

variable {earlier : Option (Machine δ)} {machine : Machine δ} {outcome : Outcome δ}

theorem storeEnding?_some (stored : storeEnding? earlier machine = some outcome) :
    ∃ previous store, earlier = some previous ∧ previous.watchedStore? = some store ∧
      outcome = { machine.unmarked with writeStop := none }.endWith (storeEvent store) := by
  obtain ⟨store, watched, same⟩ := Option.map_eq_some_iff.mp stored
  obtain ⟨previous, before, watched⟩ := Option.bind_eq_some_iff.mp watched
  exact ⟨previous, store, before, watched, same.symm⟩

theorem haltEnding?_some (halted : haltEnding? earlier machine = some outcome) :
    machine.status = .halted ∧ ∃ previous, earlier = some previous ∧
      outcome = machine.unmarked.endWith (.ranToHalt previous.pc.toNat machine.steps) := by
  unfold haltEnding? at halted
  split at halted
  · rename_i status
    obtain ⟨previous, before, same⟩ := Option.map_eq_some_iff.mp halted
    exact ⟨status, previous, before, same.symm⟩
  · cases halted

theorem limitEnding?_some {limit : Option Int} {count : Nat}
    (limited : limitEnding? limit count machine = some outcome) :
    ∃ steps, limit = some steps ∧ steps ≤ count ∧
      outcome = machine.unmarked.endWith (.stepLimit machine.pc.toNat steps) := by
  obtain ⟨steps, limit_eq, spent⟩ := Option.bind_eq_some_iff.mp limited
  split at spent
  · rename_i least
    cases spent
    exact ⟨steps, limit_eq, least, rfl⟩
  · cases spent

/-- The first of the conditions in a list that ends a run is the first that the check of the
debugger finds to hold. -/
theorem findSome?_conditionEnding? (machine : Machine δ) (first : Nat)
    (conditions : List (Option Condition)) :
    ((Debugger.numbered first conditions).findSome? fun listed =>
        machine.conditionEnding? listed.2) =
      match Debugger.firstHolding? machine.registerFile conditions with
      | .error fault => some (.failed fault machine.unmarked)
      | .ok none => none
      | .ok (some condition) =>
        some (machine.holdWith machine.debugger
          (.condition machine.pc.toNat condition.description)) := by
  induction conditions generalizing first with
  | nil => rfl
  | cons head rest ih =>
      cases head with
      | none => exact ih (first + 1)
      | some condition =>
          rw [Debugger.numbered, List.findSome?_cons, ih, conditionEnding?, Debugger.firstHolding?]
          cases condition.holds machine.registerFile with
          | error fault => rfl
          | ok holds => cases holds <;> rfl

/-- The hooks, taken one after the other, end a run as the check of the debugger says. -/
theorem hookEnding?_eq_check {resume : Option UInt8} (elsewhere : resume ≠ some machine.pc) :
    hookEnding? resume machine =
      match machine.debugger.checkInstruction machine.registerFile machine.pc.toNat with
      | .error fault => some (.failed fault machine.unmarked)
      | .ok (_, none) => none
      | .ok (debugger, some event) => some (.stopped event (machine.heldWith debugger event)) := by
  rw [hookEnding?, if_neg elsewhere, Debugger.listConditions, findSome?_conditionEnding?,
    Debugger.checkInstruction]
  by_cases requested : machine.debugger.breakRequested = true
  · rw [requestEnding?, if_pos requested, if_pos requested]
    rfl
  rw [requestEnding?, if_neg requested, if_neg requested, breakpointEnding?]
  by_cases standing : (machine.pc.toNat : Int) ∈ machine.debugger.breakpoints
  · rw [if_pos standing, if_pos (List.contains_iff_mem.mpr standing)]
    rfl
  rw [if_neg standing, if_neg (mt List.contains_iff_mem.mp standing)]
  cases Debugger.firstHolding? machine.registerFile machine.debugger.conditions with
  | error fault => rfl
  | ok found => cases found <;> rfl

theorem hookEnding?_some {resume : Option UInt8}
    (held : hookEnding? resume machine = some outcome) :
    let check := machine.debugger.checkInstruction machine.registerFile machine.pc.toNat
    resume ≠ some machine.pc ∧
      ((∃ fault, check = .error fault ∧ outcome = .failed fault machine.unmarked) ∨
        ∃ debugger event, check = .ok (debugger, some event) ∧
          outcome = .stopped event (machine.heldWith debugger event)) := by
  have elsewhere : resume ≠ some machine.pc := by
    intro resumed
    rw [hookEnding?, if_pos resumed] at held
    cases held
  refine ⟨elsewhere, ?_⟩
  rw [hookEnding?_eq_check elsewhere] at held
  split at held
  · rename_i fault found
    cases held
    exact Or.inl ⟨fault, found, rfl⟩
  · cases held
  · rename_i debugger event found
    cases held
    exact Or.inr ⟨debugger, event, found, rfl⟩

theorem faultEnding?_some [Device δ] (failed : faultEnding? machine = some outcome) :
    ∃ fault after, step machine = .error fault after ∧ outcome = .failed fault after.unmarked := by
  unfold faultEnding? at failed
  split at failed
  · cases failed
  · rename_i fault after stepped
    cases failed
    exact ⟨fault, after, stepped, rfl⟩

end Reasons

/-! ## Endings and steps -/

section Stepping

variable [Device δ] {limit : Option Int} {taken count : Nat} {resume : Option UInt8}
  {start next : Machine δ} {event : Event}

theorem next?_of_step (stepped : step start = .ok event next) : start.next? = some next := by
  rw [next?, stepped]

theorem next?_of_fault {fault : Fault} (failed : step start = .error fault next) :
    start.next? = none := by
  rw [next?, failed]

/-- The reasons to end a run, one by one. -/
theorem endingFrom?_of_reached {machine : Machine δ} (reached : after? count start = some machine) :
    endingFrom? limit taken resume start count =
      (storeEnding? (earlier? count start) machine).or
        ((haltEnding? (earlier? count start) machine).or
          ((limitEnding? limit (taken + count) machine).or
            ((hookEnding? (if count = 0 then resume else none) machine).or
              (faultEnding? machine)))) := by
  simp [endingFrom?, reached]

theorem endingFrom?_zero :
    endingFrom? limit taken resume start 0 =
      (limitEnding? limit taken start).or
        ((hookEnding? resume start).or (faultEnding? start)) := by
  simp [endingFrom?, after?, earlier?, storeEnding?, haltEnding?]

theorem endingFrom?_one_of_store {store : UInt8 × UInt8} (stepped : step start = .ok event next)
    (watched : start.watchedStore? = some store) :
    endingFrom? limit taken resume start 1 =
      some ({ next.unmarked with writeStop := none }.endWith (storeEvent store)) := by
  simp [endingFrom?, after?, earlier?, next?_of_step stepped, storeEnding?, watched]

theorem endingFrom?_one_of_halt (stepped : step start = .ok event next)
    (unwatched : start.watchedStore? = none) (halted : next.status = .halted) :
    endingFrom? limit taken resume start 1 =
      some (next.unmarked.endWith (.ranToHalt start.pc.toNat next.steps)) := by
  simp [endingFrom?, after?, earlier?, next?_of_step stepped, storeEnding?, unwatched,
    haltEnding?, halted]

/-- After a step that is nothing special, the endings are those of the machine after it. -/
theorem endingFrom?_succ (stepped : step start = .ok event next)
    (unwatched : start.watchedStore? = none) (running : next.status = .running) :
    endingFrom? limit taken resume start (count + 1) =
      endingFrom? limit (taken + 1) none next count := by
  have shifted : taken + (count + 1) = taken + 1 + count := by omega
  cases count with
  | zero =>
      simp [endingFrom?, after?, earlier?, next?_of_step stepped, storeEnding?, unwatched,
        haltEnding?, running]
  | succ count => simp [endingFrom?, after?, earlier?, next?_of_step stepped, shifted]

theorem step_of_next? (stepped : start.next? = some next) :
    ∃ event, step start = .ok event next := by
  unfold next? at stepped
  split at stepped
  · rename_i event after stepping
    cases stepped
    exact ⟨event, stepping⟩
  · cases stepped

theorem step_of_isSome (succeeds : start.next?.isSome = true) :
    ∃ event, step start = .ok event (stateOf (step start)) := by
  obtain ⟨after, next⟩ := Option.isSome_iff_exists.mp succeeds
  obtain ⟨event, stepped⟩ := step_of_next? next
  rw [stepped]
  exact ⟨event, rfl⟩

theorem after?_succ (count : Nat) (start : Machine δ) :
    after? (count + 1) start = (after? count start).bind next? := by
  induction count generalizing start with
  | zero => simp [after?]
  | succ count ih =>
      change start.next?.bind (after? (count + 1)) = (start.next?.bind (after? count)).bind next?
      cases start.next? with
      | none => rfl
      | some next => exact ih next

omit [Device δ] in
theorem limitEnding?_of_lt (within : ∀ steps, limit = some steps → (count : Int) < steps) :
    limitEnding? limit count start = none := by
  cases limit with
  | none => rfl
  | some steps =>
      have unspent : ¬steps ≤ count := Int.not_le.mpr (within steps rfl)
      rw [limitEnding?, Option.bind_some, if_neg unspent]

theorem step_of_no_fault (faultless : faultEnding? start = none) :
    ∃ event next, step start = .ok event next := by
  unfold faultEnding? at faultless
  split at faultless
  · rename_i event next stepped
    exact ⟨event, next, stepped⟩
  · cases faultless

/-- Where nothing ends a run before its next step, that step succeeds. -/
theorem round_of_none (going : endingFrom? limit taken resume start 0 = none) :
    limitEnding? limit taken start = none ∧ hookEnding? resume start = none ∧
      ∃ event next, step start = .ok event next := by
  simp only [endingFrom?_zero, Option.or_eq_none_iff] at going
  exact ⟨going.1, going.2.1, step_of_no_fault going.2.2⟩

/-- With a limit, something ends a run. -/
theorem exists_ending_of_limit (steps : Int) (start : Machine δ) :
    ∃ count outcome, ending? (some steps) start count = some outcome := by
  by_contra endless
  have going (count : Nat) : ending? (some steps) start count = none := by
    cases ending : ending? (some steps) start count with
    | none => rfl
    | some outcome => exact absurd ⟨count, outcome, ending⟩ endless
  have reached (count : Nat) : ∃ machine, after? count start = some machine := by
    induction count with
    | zero => exact ⟨start, rfl⟩
    | succ count ih =>
        obtain ⟨machine, reached⟩ := ih
        have unended := going count
        simp only [ending?, endingFrom?_of_reached reached, Option.or_eq_none_iff] at unended
        obtain ⟨event, next, stepped⟩ := step_of_no_fault unended.2.2.2.2
        exact ⟨next, by rw [after?_succ, reached, Option.bind_some, next?_of_step stepped]⟩
  obtain ⟨machine, reached⟩ := reached steps.toNat
  have unended := going steps.toNat
  simp only [ending?, endingFrom?_of_reached reached, Option.or_eq_none_iff] at unended
  have spent : steps ≤ ((0 + steps.toNat : Nat) : Int) := by omega
  have unlimited := unended.2.2.1
  rw [limitEnding?, Option.bind_some, if_pos spent] at unlimited
  cases unlimited

/-- If anything ends a run, something does so first. -/
theorem exists_endsFirst (ends : ∃ count outcome, ending? limit start count = some outcome) :
    ∃ count outcome, EndsFirst limit start count outcome := by
  have ends' : ∃ count, (ending? limit start count).isSome = true := by
    obtain ⟨count, outcome, ending⟩ := ends
    exact ⟨count, by rw [ending]; rfl⟩
  obtain ⟨outcome, ending⟩ := Option.isSome_iff_exists.mp (Nat.find_spec ends')
  refine ⟨Nat.find ends', outcome, ending, ?_⟩
  intro sooner before
  exact Option.not_isSome_iff_eq_none.mp (Nat.find_min ends' before)

end Stepping

/-! ## Endings of a machine that remembers no stop -/

section Unmarked

variable [Device δ]

omit [Device δ] in
/-- No step looks at the place where a run stopped. -/
theorem congruent_unmarked :
    Congruent (fun _ => True) fun machine other : Machine δ => other = machine.unmarked where
  config := fun same => same ▸ rfl
  device := fun same => same ▸ rfl
  memory := fun same => same ▸ rfl
  registers := fun same => same ▸ rfl
  status := fun same => same ▸ rfl
  update := fun _ same => same ▸ rfl
  writeCell := fun _ _ _ _ same => same ▸ rfl
  afterCall := fun _ same => same ▸ rfl
  halt := fun _ same => same ▸ rfl
  note := fun _ same => same ▸ rfl

/-- A step of a machine that does not remember where a run stopped. -/
theorem step_unmarked (machine : Machine δ) :
    step machine.unmarked =
      match step machine with
      | .ok event after => .ok event after.unmarked
      | .error fault after => .error fault after.unmarked := by
  have respected : StepRespected (fun _ => False) (fun _ => True) fun machine other : Machine δ =>
      other = machine.unmarked :=
    { congruent_unmarked.respected with
      begin := fun same => same ▸ rfl
      observe := fun _ _ _ _ same => same ▸ rfl
      count := fun same => same ▸ rfl }
  have results := respected.step (fun _ => trivial) machine machine.unmarked rfl
  generalize step machine = result at results
  generalize step machine.unmarked = other at results
  cases results with
  | ok same after =>
      cases same
      cases after
      rfl
  | error after =>
      cases after
      rfl
  | excused absurdity => exact absurdity.elim

theorem next?_unmarked (machine : Machine δ) :
    machine.unmarked.next? = machine.next?.map unmarked := by
  rw [next?, next?, step_unmarked]
  cases step machine <;> rfl

theorem faultEnding?_unmarked (machine : Machine δ) :
    faultEnding? machine.unmarked = faultEnding? machine := by
  rw [faultEnding?, faultEnding?, step_unmarked]
  cases step machine <;> rfl

theorem after?_unmarked (count : Nat) (machine : Machine δ) :
    after? count machine.unmarked = (after? count machine).map unmarked := by
  induction count generalizing machine with
  | zero => rfl
  | succ count ih =>
      rw [after?, after?, next?_unmarked]
      cases machine.next? with
      | none => rfl
      | some next => exact ih next

/-- Nor does anything that ends a run look at that place, except to resume there. -/
theorem endingFrom?_unmarked (limit : Option Int) (taken : Nat) (resume : Option UInt8)
    (start : Machine δ) (count : Nat) :
    endingFrom? limit taken resume start.unmarked count =
      endingFrom? limit taken resume start count := by
  have earlier_eq : earlier? count start.unmarked = (earlier? count start).map unmarked := by
    cases count with
    | zero => rfl
    | succ count => exact after?_unmarked count start
  cases reached : after? count start with
  | none => simp [endingFrom?, after?_unmarked, reached]
  | some machine =>
      have reached' : after? count start.unmarked = some machine.unmarked := by
        rw [after?_unmarked, reached]
        rfl
      rw [endingFrom?_of_reached reached', endingFrom?_of_reached reached, faultEnding?_unmarked,
        earlier_eq]
      cases earlier? count start with
      | none => rfl
      | some earlier => rfl

end Unmarked

/-! ## What a run leaves behind -/

section Left

variable [Device δ] {limit : Option Int} {count : Nat} {start machine final : Machine δ}
  {event : Event} {fault : Fault}

theorem frame_of_after? (reached : after? count start = some machine) : Frame start machine := by
  induction count generalizing start with
  | zero =>
      cases reached
      exact Frame.refl machine
  | succ count ih =>
      obtain ⟨next, stepped, later⟩ := Option.bind_eq_some_iff.mp reached
      obtain ⟨event, stepping⟩ := step_of_next? stepped
      exact (frame_of_step stepping).trans (ih later)

omit [Device δ] in
theorem fits_of_frame (fits : start.debugger.Fits start.variant)
    (frame : Frame start machine) : machine.debugger.Fits machine.variant := by
  have variant_eq : machine.variant = start.variant := congrArg Config.variant frame.config
  rw [variant_eq]
  exact fits.of_hooked frame.debugger

theorem fits_of_after? (fits : start.debugger.Fits start.variant)
    (reached : after? count start = some machine) : machine.debugger.Fits machine.variant :=
  fits_of_frame fits (frame_of_after? reached)

/-- A machine that can go on still can after steps that have not halted it. -/
theorem running_of_after? (running : start.status = .running)
    (reached : after? count start = some machine)
    (unhalted : haltEnding? (earlier? count start) machine = none) : machine.status = .running := by
  cases count with
  | zero =>
      cases reached
      exact running
  | succ count =>
      rw [after?_succ] at reached
      obtain ⟨previous, before, -⟩ := Option.bind_eq_some_iff.mp reached
      cases status : machine.status with
      | running => rfl
      | halted => simp [haltEnding?, status, earlier?, before] at unhalted

/-- An ending is due to one of the five reasons, in a machine that the steps have reached. The last
three come up only where the steps have not halted the machine. -/
theorem reason_of_ending {outcome : Outcome δ}
    (ending : ending? limit start count = some outcome) :
    ∃ machine, after? count start = some machine ∧
      (storeEnding? (earlier? count start) machine = some outcome ∨
        haltEnding? (earlier? count start) machine = some outcome ∨
        haltEnding? (earlier? count start) machine = none ∧
          (limitEnding? limit count machine = some outcome ∨
            hookEnding? (if count = 0 then start.resumeAt else none) machine = some outcome ∨
            faultEnding? machine = some outcome)) := by
  cases reached : after? count start with
  | none => simp [ending?, endingFrom?, reached] at ending
  | some machine =>
      refine ⟨machine, rfl, ?_⟩
      rw [ending?, endingFrom?_of_reached reached, Nat.zero_add] at ending
      simp only [Option.or_eq_some_iff] at ending
      obtain stored | ⟨-, halted | ⟨unhalted, limited | ⟨-, held | ⟨-, failed⟩⟩⟩⟩ := ending
      · exact Or.inl stored
      · exact Or.inr (Or.inl halted)
      · exact Or.inr (Or.inr ⟨unhalted, Or.inl limited⟩)
      · exact Or.inr (Or.inr ⟨unhalted, Or.inr (Or.inl held)⟩)
      · exact Or.inr (Or.inr ⟨unhalted, Or.inr (Or.inr failed)⟩)

/-- What a run that ends with an event has come upon, in the machine that its steps have reached,
and what it leaves. -/
theorem stopped_cases (ending : ending? limit start count = some (.stopped event final)) :
    ∃ reached, after? count start = some reached ∧
      ((∃ previous store, earlier? count start = some previous ∧
          previous.watchedStore? = some store ∧ event = storeEvent store ∧
          final = { reached.unmarked with writeStop := none }.concluded event) ∨
        (∃ previous, earlier? count start = some previous ∧ reached.status = .halted ∧
          event = .ranToHalt previous.pc.toNat reached.steps ∧
          final = reached.unmarked.concluded event) ∨
        (∃ steps, limit = some steps ∧ steps ≤ count ∧ event = .stepLimit reached.pc.toNat steps ∧
          final = reached.unmarked.concluded event) ∨
        ∃ debugger,
          reached.debugger.checkInstruction reached.registerFile reached.pc.toNat =
              .ok (debugger, some event) ∧
            (count = 0 → start.resumeAt ≠ some start.pc) ∧
            final = reached.heldWith debugger event) := by
  obtain ⟨reached, steps, reason⟩ := reason_of_ending ending
  refine ⟨reached, steps, ?_⟩
  obtain stored | halted | ⟨-, limited | held | failed⟩ := reason
  · obtain ⟨previous, store, before, watched, same⟩ := storeEnding?_some stored
    cases same
    exact Or.inl ⟨previous, store, before, watched, rfl, rfl⟩
  · obtain ⟨status, previous, before, same⟩ := haltEnding?_some halted
    cases same
    exact Or.inr (Or.inl ⟨previous, before, status, rfl, rfl⟩)
  · obtain ⟨most, limit_eq, spent, same⟩ := limitEnding?_some limited
    cases same
    exact Or.inr (Or.inr (Or.inl ⟨most, limit_eq, spent, rfl, rfl⟩))
  · obtain ⟨elsewhere, ⟨fault, -, same⟩ | ⟨debugger, found, answered, same⟩⟩ :=
      hookEnding?_some held
    · cases same
    · cases same
      refine Or.inr (Or.inr (Or.inr ⟨debugger, answered, ?_, rfl⟩))
      rintro rfl
      cases steps
      exact elsewhere
  · obtain ⟨fault, after, -, same⟩ := faultEnding?_some failed
    cases same

/-- What a run that ends with a fault has come upon, in the machine that its steps have reached, and
what it leaves. -/
theorem failed_cases (running : start.status = .running)
    (ending : ending? limit start count = some (.failed fault final)) :
    ∃ reached, after? count start = some reached ∧ reached.status = .running ∧
      ((reached.debugger.checkInstruction reached.registerFile reached.pc.toNat = .error fault ∧
          final = reached.unmarked) ∨
        ∃ after, step reached = .error fault after ∧ final = after.unmarked) := by
  obtain ⟨reached, steps, reason⟩ := reason_of_ending ending
  obtain stored | halted | ⟨unhalted, reason⟩ := reason
  · obtain ⟨_, store, -, -, same⟩ := storeEnding?_some stored
    cases same
  · obtain ⟨-, _, -, same⟩ := haltEnding?_some halted
    cases same
  refine ⟨reached, steps, running_of_after? running steps unhalted, ?_⟩
  obtain limited | held | failed := reason
  · obtain ⟨most, -, -, same⟩ := limitEnding?_some limited
    cases same
  · obtain ⟨-, ⟨fault, found, same⟩ | ⟨debugger, found, -, same⟩⟩ := hookEnding?_some held
    · cases same
      exact Or.inl ⟨found, rfl⟩
    · cases same
  · obtain ⟨fault, after, stepped, same⟩ := faultEnding?_some failed
    cases same
    exact Or.inr ⟨after, stepped, rfl⟩

/-- A run that ends with an event leaves the machine that its steps have reached. -/
theorem alike_of_stopped (ending : ending? limit start count = some (.stopped event final)) :
    ∃ reached, after? count start = some reached ∧ reached.Alike final := by
  obtain ⟨reached, steps, reason⟩ := stopped_cases ending
  refine ⟨reached, steps, ?_⟩
  obtain ⟨_, _, -, -, -, rfl⟩ | ⟨_, -, -, -, rfl⟩ | ⟨_, -, -, -, rfl⟩ | ⟨_, -, -, rfl⟩ := reason
  all_goals exact ⟨rfl, rfl, rfl, rfl, rfl, rfl, rfl⟩

/-- A run that ends with a fault leaves the machine that the failing step has left, unless the
debugger holds a condition that the machine cannot look at. -/
theorem alike_of_failed (running : start.status = .running)
    (ending : ending? limit start count = some (.failed fault final)) :
    ∃ reached, after? count start = some reached ∧ reached.status = .running ∧
      ((∃ failed, step reached = .error fault failed ∧ failed.Alike final) ∨
        ¬start.debugger.Fits start.variant ∧ reached.Alike final ∧
          reached.debugger.checkInstruction reached.registerFile reached.pc.toNat =
            .error fault) := by
  obtain ⟨reached, steps, going, reason⟩ := failed_cases running ending
  refine ⟨reached, steps, going, ?_⟩
  obtain ⟨found, rfl⟩ | ⟨after, stepped, rfl⟩ := reason
  · refine Or.inr ⟨?_, ⟨rfl, rfl, rfl, rfl, rfl, rfl, rfl⟩, found⟩
    intro fits
    obtain ⟨answer, answered⟩ := (fits_of_after? fits steps).checkInstruction_ok reached.registers
      reached.pc.toNat
    rw [registerFile, answered] at found
    cases found
  · exact Or.inl ⟨after, stepped, ⟨rfl, rfl, rfl, rfl, rfl, rfl, rfl⟩⟩

theorem steps_of_after? (reached : after? count start = some machine) :
    machine.steps = start.steps + count := by
  induction count generalizing machine with
  | zero =>
      cases reached
      rfl
  | succ count ih =>
      rw [after?_succ] at reached
      obtain ⟨previous, before, stepped⟩ := Option.bind_eq_some_iff.mp reached
      obtain ⟨event, stepping⟩ := step_of_next? stepped
      rw [steps_of_step stepping, ih before]
      rfl

/-- A run that ends with an event has counted its steps. -/
theorem steps_of_stopped (ending : ending? limit start count = some (.stopped event final)) :
    final.steps = start.steps + count := by
  obtain ⟨reached, steps, alike⟩ := alike_of_stopped ending
  rw [← alike.steps, steps_of_after? steps]

/-- A run that might take a step but ends with an event before it stops where it does not resume,
and will resume there. -/
theorem stopped_at_once (allowed : ∀ steps, limit = some steps → 1 ≤ steps)
    (ending : ending? limit start 0 = some (.stopped event final)) :
    start.resumeAt ≠ some start.pc ∧ final.resumeAt = some final.pc := by
  obtain ⟨reached, -, reason⟩ := stopped_cases ending
  obtain ⟨_, _, before, -⟩ | ⟨_, before, -⟩ | ⟨steps, limited, spent, -⟩ | ⟨_, -, elsewhere, rfl⟩ :=
    reason
  · cases before
  · cases before
  · have least := allowed steps limited
    omega
  · exact ⟨elsewhere rfl, rfl⟩

/-- A run that ends with an event leaves a debugger that still suits the machine. -/
theorem fits_of_stopped (fits : start.debugger.Fits start.variant)
    (ending : ending? limit start count = some (.stopped event final)) :
    final.debugger.Fits final.variant := by
  obtain ⟨reached, steps, reason⟩ := stopped_cases ending
  have kept := fits_of_after? fits steps
  obtain ⟨_, _, -, -, -, rfl⟩ | ⟨_, -, -, -, rfl⟩ | ⟨_, -, -, -, rfl⟩ | ⟨_, answered, -, rfl⟩ :=
    reason
  · exact kept
  · exact kept
  · exact kept
  · obtain ⟨owner_eq, conditions_eq⟩ := Debugger.checkInstruction_keeps answered
    exact ⟨owner_eq.trans kept.owner, conditions_eq ▸ kept.conditions⟩

/-- So does a run that ends with a fault. -/
theorem fits_of_failed (running : start.status = .running)
    (fits : start.debugger.Fits start.variant)
    (ending : ending? limit start count = some (.failed fault final)) :
    final.debugger.Fits final.variant := by
  obtain ⟨reached, steps, -, reason⟩ := failed_cases running ending
  have kept := fits_of_after? fits steps
  obtain ⟨-, rfl⟩ | ⟨after, stepped, rfl⟩ := reason
  · exact kept
  · have left := fits_of_frame kept (frame_of_fault stepped)
    exact left

end Left

end Machine

end ByteMachine
