import ByteMachine.Proofs.Run

/-!
# Calls

A machine executes when it is asked for a step or for a run, and a fault of one call does not keep
the next from being made. A run goes in rounds: it looks at the hooks, executes an instruction, and
looks for a reason to stop. This file lists the machines in which a call sets out to execute an
instruction, and lifts what a round does to calls that are made one after the other.
-/

namespace ByteMachine

/-! ## Series of requests -/

section Series

variable {σ τ κ α : Type}

/-- What an action answers, without the state that it leaves behind. -/
def answerOf : EStateM.Result Fault σ α → Except Fault α
  | .ok value _ => .ok value
  | .error fault _ => .error fault

/-- The answers to requests that are made one after the other, and the state in the end. -/
def series (respond : κ → Action σ α) : List κ → σ → List (Except Fault α) × σ
  | [], state => ([], state)
  | request :: rest, state =>
    let result := respond request state
    let later := series respond rest (stateOf result)
    (answerOf result :: later.1, later.2)

variable {excused : Fault → Prop} {states : σ → τ → Prop}

theorem Corresponds.agree {left : EStateM.Result Fault σ α} {right : EStateM.Result Fault τ α}
    (results : Corresponds excused states Eq left right)
    (unexcused : ∀ fault, answerOf left = .error fault → ¬excused fault) :
    answerOf left = answerOf right ∧ states (stateOf left) (stateOf right) := by
  cases results with
  | ok same related => exact ⟨congrArg Except.ok same, related⟩
  | error related => exact ⟨rfl, related⟩
  | excused allowed => exact absurd allowed (unexcused _ rfl)

/-- Requests that are answered in lockstep one by one are answered in lockstep one after the
other, as long as no fault is excused. -/
theorem series_agree {respond : κ → Action σ α} {counterpart : κ → Action τ α}
    (lockstep : ∀ request, Simulates excused states Eq (respond request) (counterpart request))
    (requests : List κ) {before : σ} {other : τ} (related : states before other)
    (unexcused : ∀ fault, .error fault ∈ (series respond requests before).1 → ¬excused fault) :
    (series respond requests before).1 = (series counterpart requests other).1 ∧
      states (series respond requests before).2 (series counterpart requests other).2 := by
  induction requests generalizing before other with
  | nil => exact ⟨rfl, related⟩
  | cons request rest ih =>
      have unexcused_now (fault : Fault)
          (failed : answerOf (respond request before) = .error fault) : ¬excused fault :=
        unexcused fault (failed ▸ List.mem_cons_self)
      obtain ⟨answer_eq, related_next⟩ :=
        (lockstep request before other related).agree unexcused_now
      obtain ⟨answers_eq, related_last⟩ := ih related_next fun fault member =>
        unexcused fault (List.mem_cons_of_mem _ member)
      refine ⟨?_, related_last⟩
      simp only [series, answer_eq, answers_eq]

end Series

namespace Machine

variable {δ ε : Type}

/-! ## Rounds -/

/-- Executes an instruction, and then looks for a reason to stop. -/
def checkedStep [Device δ] : Action (Machine δ) (Option Event) := do
  let _ ← step
  checkAfter

/-- What stops a run after a step from one machine to another. -/
def stopAfter? (machine after : Machine δ) : Option Event :=
  (machine.watchedStore?.map storeEvent).or
    (if after.status = .halted then some (.ranToHalt machine.pc.toNat after.steps) else none)

theorem running_of_stopAfter? {machine after : Machine δ}
    (going : machine.stopAfter? after = none) : after.status = .running := by
  cases status : after.status with
  | running => rfl
  | halted => simp [stopAfter?, status] at going

section Rounds

variable [Device δ] {machine after : Machine δ} {event : Event}

theorem checkAfter_of_step (stepped : step machine = .ok event after) :
    checkAfter after = .ok (machine.stopAfter? after) { after with writeStop := none } := by
  have stop := writeStop_of_step stepped
  unfold checkAfter stopAfter?
  cases stored : machine.watchedStore? with
  | some store =>
      rw [stored] at stop
      rw [stop]
      rfl
  | none =>
      rw [stored, Option.map_none] at stop
      have unchanged : { after with writeStop := none } = after := by rw [← stop]
      rw [stop, ← lastAddress_of_step stepped, unchanged]
      cases after.status <;> rfl

theorem checkedStep_of_step (stepped : step machine = .ok event after) :
    checkedStep machine = .ok (machine.stopAfter? after) { after with writeStop := none } := by
  simp only [checkedStep, bind, EStateM.bind, stepped]
  exact checkAfter_of_step stepped

theorem checkedStep_of_fault {fault : Fault} (failed : step machine = .error fault after) :
    checkedStep machine = .error fault after := by
  simp only [checkedStep, bind, EStateM.bind, failed]

omit [Device δ] in
/-- The check before an instruction changes nothing if it finds nothing. -/
theorem checkBefore_none {resume : Option UInt8} {checked : Machine δ}
    (passed : checkBefore resume machine = .ok none checked) : checked = machine := by
  unfold checkBefore at passed
  split at passed
  · cases passed
    rfl
  · split at passed
    · cases passed
    · rename_i debugger answered
      cases passed
      rw [Debugger.checkInstruction_none answered]
    · cases passed

omit [Device δ] in
theorem alike_checkBefore (resume : Option UInt8) (machine : Machine δ) :
    machine.Alike (stateOf (checkBefore resume machine)) := by
  unfold checkBefore
  split
  · exact ⟨rfl, rfl, rfl, rfl, rfl, rfl, rfl⟩
  · split <;> exact ⟨rfl, rfl, rfl, rfl, rfl, rfl, rfl⟩

omit [Device δ] in
theorem alike_finishBudget (limit : Option Int) (machine : Machine δ) :
    machine.Alike (stateOf (finishBudget limit machine)) := by
  cases limit <;> exact ⟨rfl, rfl, rfl, rfl, rfl, rfl, rfl⟩

/-- A run with some budget left goes one round and then on with the rest of the budget. -/
theorem runLoop_succ (limit : Option Int) (budget : Nat) (resume : Option UInt8) :
    runLoop limit (budget + 1) resume =
      (checkBefore resume >>= fun found =>
        match found with
        | some event => finish event
        | none => checkedStep >>= fun stop =>
          match stop with
          | some event => finish event
          | none => runLoop limit budget none : Action (Machine δ) (Option Event)) := by
  simp only [checkedStep, bind_assoc]
  rfl

end Rounds

/-! ## Calls and what they attempt -/

/-- A call that makes a machine execute. -/
inductive Call where
  | step
  | run (supply : Nat) (maxSteps : Option Int)

section Attempts

variable [Device δ]

/-- The answer to a call is the event with which it ends. -/
def call : Call → Action (Machine δ) (Option Event)
  | .step => do
    let event ← step
    return some event
  | .run supply maxSteps => run supply maxSteps

/-- The machines in which the rounds of a run set out to execute an instruction, in order. -/
def loopAttempts : Nat → Option UInt8 → Machine δ → List (Machine δ)
  | 0, _, _ => []
  | budget + 1, resume, machine =>
    match checkBefore resume machine with
    | .ok none checked =>
      checked ::
        match checkedStep checked with
        | .ok none after => loopAttempts budget none after
        | _ => []
    | _ => []

/-- What a round of a run can come to: the run ends before the next instruction, or after it, or it
goes on behind it. -/
theorem round_cases (limit : Option Int) (budget : Nat) (resume : Option UInt8)
    (machine : Machine δ) :
    let result := runLoop limit (budget + 1) resume machine
    let attempted := loopAttempts (budget + 1) resume machine
    (attempted = [] ∧ machine.Alike (stateOf result)) ∨
      (attempted = [machine] ∧ (stateOf (step machine)).Alike (stateOf result)) ∨
      ∃ after, attempted = machine :: loopAttempts budget none after ∧
        result = runLoop limit budget none after ∧ (stateOf (step machine)).Alike after ∧
        after.status = .running := by
  have checked_alike := alike_checkBefore resume machine
  simp only [runLoop_succ, loopAttempts, bind, EStateM.bind]
  cases checked : checkBefore resume machine with
  | error fault held =>
      rw [checked] at checked_alike
      exact Or.inl ⟨rfl, checked_alike⟩
  | ok found held =>
      rw [checked] at checked_alike
      cases found with
      | some event => exact Or.inl ⟨rfl, { checked_alike with }⟩
      | none =>
          obtain rfl := checkBefore_none checked
          dsimp only [EStateM.bind]
          cases stepped : step held with
          | error fault after =>
              rw [checkedStep_of_fault stepped]
              exact Or.inr (Or.inl ⟨rfl, ⟨rfl, rfl, rfl, rfl, rfl, rfl, rfl⟩⟩)
          | ok event after =>
              rw [checkedStep_of_step stepped]
              cases stop : held.stopAfter? after with
              | some reason =>
                  exact Or.inr (Or.inl ⟨rfl, ⟨rfl, rfl, rfl, rfl, rfl, rfl, rfl⟩⟩)
              | none =>
                  exact Or.inr (Or.inr ⟨_, rfl, rfl, ⟨rfl, rfl, rfl, rfl, rfl, rfl, rfl⟩,
                    running_of_stopAfter? stop⟩)

/-- The machines in which a call sets out to execute an instruction, in order. -/
def attempts (machine : Machine δ) (call : Call) : List (Machine δ) :=
  match machine.status, call with
  | .halted, _ => []
  | .running, .step => [machine]
  | .running, .run supply maxSteps =>
    loopAttempts (((machine.limit? maxSteps).map Int.toNat).getD supply) machine.resumeAt
      machine.unmarked

/-- The machines in which calls that are made one after the other set out to execute an
instruction, in order. -/
def allAttempts : List Call → Machine δ → List (Machine δ)
  | [], _ => []
  | call :: rest, machine =>
    machine.attempts call ++ allAttempts rest (stateOf (Machine.call call machine))

end Attempts

/-! ## Properties that calls uphold -/

/-- What is picked from a history grows by what is picked from its latest entry. -/
theorem filterMap_concat {α β : Type} (pick : α → Option β) (before : List α) (last : α) :
    (before ++ [last]).filterMap pick = before.filterMap pick ++ (pick last).toList := by
  cases picked : pick last <;> simp [picked]

section Upholding

variable [Device δ]

/-- A property of a machine and of the machines in which it has attempted instructions so far is
upheld by attempts, and does not depend on what a run notes for itself. -/
structure Upheld (holds : List (Machine δ) → Machine δ → Prop) : Prop where
  attempt {before : List (Machine δ)} {machine : Machine δ} : machine.status = .running →
    holds before machine → holds (before ++ [machine]) (stateOf (step machine))
  note {before : List (Machine δ)} {machine other : Machine δ} : machine.Alike other →
    holds before machine → holds before other

namespace Upheld

variable {holds : List (Machine δ) → Machine δ → Prop} {before : List (Machine δ)}
  {machine : Machine δ}

theorem runLoop (upheld : Upheld holds) (limit : Option Int) (budget : Nat)
    (resume : Option UInt8) (running : machine.status = .running) (now : holds before machine) :
    holds (before ++ loopAttempts budget resume machine)
      (stateOf (Machine.runLoop limit budget resume machine)) := by
  induction budget generalizing resume machine before with
  | zero =>
      rw [loopAttempts, List.append_nil]
      exact upheld.note (alike_finishBudget limit machine) now
  | succ budget ih =>
      have attempted := upheld.attempt running now
      obtain ⟨none_attempted, alike⟩ | ⟨one_attempted, alike⟩ |
        ⟨after, more_attempted, goes_on, alike, going⟩ := round_cases limit budget resume machine
      · rw [none_attempted, List.append_nil]
        exact upheld.note alike now
      · rw [one_attempted]
        exact upheld.note alike attempted
      · rw [more_attempted, goes_on, List.append_cons]
        exact ih none going (upheld.note alike attempted)

/-- What every attempt upholds is upheld by a call. -/
theorem call (upheld : Upheld holds) (call : Call) (now : holds before machine) :
    holds (before ++ machine.attempts call) (stateOf (Machine.call call machine)) := by
  cases status : machine.status with
  | halted =>
      cases call with
      | step =>
          simp only [attempts, status, List.append_nil, Machine.call, bind, EStateM.bind,
            step_of_halted status]
          exact now
      | run supply maxSteps =>
          simp only [attempts, status, List.append_nil, Machine.call, run_of_halted status]
          exact now
  | running =>
      cases call with
      | step =>
          have attempted := upheld.attempt status now
          simp only [attempts, status, Machine.call, bind, EStateM.bind]
          cases stepped : step machine <;> rw [stepped] at attempted <;> exact attempted
      | run supply maxSteps =>
          have unmarked : machine.Alike machine.unmarked := ⟨rfl, rfl, rfl, rfl, rfl, rfl, rfl⟩
          simp only [attempts, status, Machine.call, run_of_running status]
          exact upheld.runLoop _ _ _ status (upheld.note unmarked now)

/-- So it is by calls that are made one after the other. -/
theorem calls (upheld : Upheld holds) (calls : List Call) (now : holds before machine) :
    holds (before ++ allAttempts calls machine) (series Machine.call calls machine).2 := by
  induction calls generalizing before machine with
  | nil =>
      rw [allAttempts, List.append_nil]
      exact now
  | cons call rest ih =>
      rw [allAttempts, ← List.append_assoc]
      exact ih (upheld.call call now)

end Upheld

/-- What steps keep is so in every machine that sets out to execute an instruction and in the one
that calls leave behind. A machine that sets out to execute an instruction can go on. -/
theorem kept_by_calls (kept : Machine δ → Prop)
    (attempt : ∀ {now : Machine δ}, now.status = .running → kept now → kept (stateOf (step now)))
    (note : ∀ {now other : Machine δ}, now.Alike other → kept now → kept other)
    {machine : Machine δ} (first : kept machine) (calls : List Call) :
    (∀ now ∈ allAttempts calls machine, now.status = .running ∧ kept now) ∧
      kept (series call calls machine).2 := by
  have upheld : Upheld fun (before : List (Machine δ)) now =>
      (∀ earlier ∈ before, earlier.status = .running ∧ kept earlier) ∧ kept now :=
    { attempt := by
        intro before now running holds
        rw [List.forall_mem_append, List.forall_mem_singleton]
        exact ⟨⟨holds.1, running, holds.2⟩, attempt running holds.2⟩
      note := fun alike holds => ⟨holds.1, note alike holds.2⟩ }
  have nothing : ∀ earlier ∈ ([] : List (Machine δ)), earlier.status = .running ∧ kept earlier :=
    fun _ member => absurd member List.not_mem_nil
  exact upheld.calls calls ⟨nothing, first⟩

/-- A machine that sets out to execute an instruction can go on, and has the configuration with
which the calls began. -/
theorem running_of_attempt {calls : List Call} {machine attempt : Machine δ}
    (attempted : attempt ∈ allAttempts calls machine) :
    attempt.status = .running ∧ attempt.config = machine.config :=
  (kept_by_calls (fun now => now.config = machine.config)
    (fun _ same => (step_frame _).config.trans same) (fun alike same => alike.config ▸ same) rfl
    calls).1 attempt attempted

/-! ## Faults of calls -/

/-- Where a fault of calls comes from, if the calls have set out to execute an instruction in some
machines. -/
inductive ComesFrom (attempted : List (Machine δ)) : Fault → Prop
  /-- A machine that had halted was called. -/
  | halted : ComesFrom attempted .alreadyHalted
  /-- A hook looks at a register that cannot be read. -/
  | hook {fault : Fault} : fault.ConcernsRegister → ComesFrom attempted fault
  /-- An attempt fails. -/
  | attempt {machine after : Machine δ} {fault : Fault} : machine ∈ attempted →
      step machine = .error fault after → ComesFrom attempted fault

section Faults

variable {machine after : Machine δ} {fault : Fault}

theorem ComesFrom.mono {attempted more : List (Machine δ)} (source : ComesFrom attempted fault)
    (subset : attempted ⊆ more) : ComesFrom more fault := by
  cases source with
  | halted => exact .halted
  | hook concerned => exact .hook concerned
  | attempt member failed => exact .attempt (subset member) failed

omit [Device δ] in
theorem checkBefore_error {resume : Option UInt8}
    (failed : checkBefore resume machine = .error fault after) : fault.ConcernsRegister := by
  unfold checkBefore at failed
  split at failed
  · cases failed
  · split at failed
    · rename_i unanswered
      cases failed
      exact Debugger.checkInstruction_error unanswered
    · cases failed
    · cases failed

theorem step_of_checkedStep_error (failed : checkedStep machine = .error fault after) :
    step machine = .error fault after := by
  cases stepped : step machine with
  | ok event next =>
      rw [checkedStep_of_step stepped] at failed
      cases failed
  | error problem next =>
      rw [checkedStep_of_fault stepped] at failed
      cases failed
      rfl

theorem comesFrom_of_runLoop {limit : Option Int} {budget : Nat} {resume : Option UInt8}
    (failed : runLoop limit budget resume machine = .error fault after) :
    ComesFrom (loopAttempts budget resume machine) fault := by
  induction budget generalizing resume machine with
  | zero => cases limit <;> cases failed
  | succ budget ih =>
      rw [runLoop_succ] at failed
      obtain unchecked | ⟨found, held, checked, rest⟩ := bind_error failed
      · exact .hook (checkBefore_error unchecked)
      · cases found with
        | some event => cases rest
        | none =>
            obtain rfl := checkBefore_none checked
            simp only [loopAttempts, checked]
            obtain unperformed | ⟨stop, next, performed, rest⟩ := bind_error rest
            · exact .attempt List.mem_cons_self (step_of_checkedStep_error unperformed)
            · cases stop with
              | some event => cases rest
              | none =>
                  rw [performed]
                  exact (ih rest).mono (List.subset_cons_self _ _)

theorem comesFrom_of_call {call : Call} (failed : Machine.call call machine = .error fault after) :
    ComesFrom (machine.attempts call) fault := by
  cases status : machine.status with
  | halted =>
      cases call with
      | step =>
          simp only [Machine.call, bind, EStateM.bind, step_of_halted status] at failed
          cases failed
          exact .halted
      | run supply maxSteps =>
          rw [Machine.call, run_of_halted status] at failed
          cases failed
          exact .halted
  | running =>
      cases call with
      | step =>
          obtain failed | ⟨event, next, -, rest⟩ := bind_error failed
          · simp only [attempts, status]
            exact .attempt List.mem_cons_self failed
          · cases rest
      | run supply maxSteps =>
          rw [Machine.call, run_of_running status] at failed
          simp only [attempts, status]
          exact comesFrom_of_runLoop failed

/-- A fault that calls answer with comes from a call of a machine that had halted, from a hook, or
from an attempt. -/
theorem comesFrom_of_calls {calls : List Call}
    (failed : .error fault ∈ (series Machine.call calls machine).1) :
    ComesFrom (allAttempts calls machine) fault := by
  induction calls generalizing machine with
  | nil => cases failed
  | cons call rest ih =>
      rw [allAttempts]
      obtain now | later := List.mem_cons.mp failed
      · cases result : Machine.call call machine with
        | ok answer next =>
            rw [result] at now
            cases now
        | error problem next =>
            rw [result] at now
            cases now
            exact (comesFrom_of_call result).mono (List.subset_append_left _ _)
      · exact (ih later).mono (List.subset_append_right _ _)

end Faults

/-- Where a machine is about to fetch an opcode from, and the opcode. -/
def fetch? (machine : Machine δ) : Option (UInt8 × UInt8) :=
  (machine.byteAhead? 0).map fun opcode => (machine.pc, opcode)

/-- An observer is told of the opcode of every attempt. -/
theorem told_of_step {machine : Machine δ} (running : machine.status = .running) :
    (stateOf (step machine)).observer.told = machine.fetch?.toList ++ machine.observer.told := by
  have here : machine.pc + 0 = machine.pc := UInt8.add_zero machine.pc
  cases readable : machine.memory.readByte machine.pc.toNat with
  | error fault =>
      rw [step_of_unreadable running readable]
      simp [fetch?, byteAhead?, here, readable, Except.toOption, stateOf]
  | ok opcode =>
      have kept : Kept (fun _ => True) fun now : Machine δ =>
          now.observer = (machine.fetched opcode).observer :=
        { update := fun _ same => same
          writeCell := fun _ _ _ _ same => same
          afterCall := fun _ same => same
          halt := fun _ same => same
          note := fun _ same => same }
      have told := kept.execute machine.pc opcode (fun _ _ => trivial) rfl
      have fetches : machine.fetch? = some (machine.pc, opcode) := by
        simp [fetch?, byteAhead?, here, readable, Except.toOption]
      rw [step_of_readable running readable, fetches]
      split
      · rename_i executed execution
        rw [execution] at told
        exact congrArg Observer.told told
      · rename_i executed execution
        rw [execution] at told
        exact congrArg Observer.told told

/-- An observer is told of the attempts of a call, and of nothing else. -/
theorem told_of_call (machine : Machine δ) (call : Call) :
    (stateOf (Machine.call call machine)).observer.told =
      ((machine.attempts call).filterMap fetch?).reverse ++ machine.observer.told := by
  have upheld : Upheld fun (before : List (Machine δ)) now =>
      now.observer.told = (before.filterMap fetch?).reverse ++ machine.observer.told :=
    { attempt := by
        intro before now running told
        rw [told_of_step running, told]
        cases fetches : now.fetch? <;> simp [fetches]
      note := by
        intro before now other alike told
        rw [← alike.observer, told] }
  have untold : machine.observer.told =
      (([] : List (Machine δ)).filterMap fetch?).reverse ++ machine.observer.told := rfl
  exact upheld.call call untold

end Upholding

/-! ## Relations that calls respect -/

section Respecting

variable [Device δ] [Device ε]

/-- The rounds of a run respect a relation between machines, where the first one executes only in
machines that are in order. -/
structure RunRespected (excused : Fault → Prop) (inOrder : Machine δ → Prop)
    (alike : Machine δ → Machine ε → Prop) : Prop where
  pc {machine : Machine δ} {other : Machine ε} : alike machine other → machine.pc = other.pc
  status {machine : Machine δ} {other : Machine ε} :
    alike machine other → machine.status = other.status
  steps {machine : Machine δ} {other : Machine ε} :
    alike machine other → machine.steps = other.steps
  maxSteps {machine : Machine δ} {other : Machine ε} :
    alike machine other → machine.config.maxSteps = other.config.maxSteps
  resumeAt {machine : Machine δ} {other : Machine ε} :
    alike machine other → machine.resumeAt = other.resumeAt
  /-- The check before an instruction comes to the same. -/
  check {machine : Machine δ} {other : Machine ε} : alike machine other →
    (∃ fault,
        machine.debugger.checkInstruction machine.registerFile machine.pc.toNat = .error fault ∧
          other.debugger.checkInstruction other.registerFile other.pc.toNat = .error fault) ∨
      ∃ checked counterpart found,
        machine.debugger.checkInstruction machine.registerFile machine.pc.toNat =
            .ok (checked, found) ∧
          other.debugger.checkInstruction other.registerFile other.pc.toNat =
            .ok (counterpart, found) ∧
          alike { machine with debugger := checked } { other with debugger := counterpart }
  /-- An instruction comes to the same. -/
  step {machine : Machine δ} {other : Machine ε} : alike machine other → inOrder machine →
    Corresponds excused alike Eq (step machine) (step other)
  /-- It stores the same byte into the same watched cell, if it does. -/
  store {machine after : Machine δ} {other : Machine ε} {event : Event} : alike machine other →
    inOrder machine → Machine.step machine = .ok event after →
      machine.watchedStore? = other.watchedStore?
  /-- What a run notes for itself. -/
  settle {machine : Machine δ} {other : Machine ε} : alike machine other →
    alike { machine with writeStop := none } { other with writeStop := none }
  remember {machine : Machine δ} {other : Machine ε} (place : Option UInt8) :
    alike machine other → alike { machine with resumeAt := place } { other with resumeAt := place }
  conclude {machine : Machine δ} {other : Machine ε} (event : Event) :
    alike machine other → alike (machine.concluded event) (other.concluded event)

namespace RunRespected

variable {excused : Fault → Prop} {inOrder : Machine δ → Prop}
  {alike : Machine δ → Machine ε → Prop} {machine : Machine δ} {other : Machine ε}

theorem checkBefore (respected : RunRespected excused inOrder alike) (resume : Option UInt8) :
    Simulates excused alike Eq (Machine.checkBefore resume) (Machine.checkBefore resume) := by
  intro machine other related
  unfold Machine.checkBefore
  obtain ⟨fault, failed, same⟩ | ⟨checked, counterpart, found, answered, same, agrees⟩ :=
    respected.check related
  · rw [failed, same, respected.pc related]
    split
    · exact .ok rfl related
    · exact .error related
  · rw [answered, same, respected.pc related]
    split
    · exact .ok rfl related
    · cases found with
      | none => exact .ok rfl agrees
      | some event => exact .ok rfl (respected.remember _ agrees)

theorem finish (respected : RunRespected excused inOrder alike)
    {values : Option Event → Option Event → Prop} {event : Event}
    (same : values (some event) (some event)) :
    Simulates excused alike values (Machine.finish event : Action (Machine δ) (Option Event))
      (Machine.finish event) := by
  refine simulates_bind_eq (simulates_modify ?_) fun _ => simulates_pure same
  intro machine other related
  exact respected.conclude event related

theorem finishBudget (respected : RunRespected excused inOrder alike) (limit : Option Int) :
    Simulates excused alike Eq (Machine.finishBudget limit : Action (Machine δ) (Option Event))
      (Machine.finishBudget limit) := by
  cases limit with
  | none => exact simulates_pure rfl
  | some steps =>
      refine simulates_bind simulates_get ?_
      intro machine other related
      rw [respected.pc related]
      exact respected.finish rfl

/-- An instruction and the check after it come to the same. The check looks only at what the
instruction has set, so the machines need not have agreed in that before. -/
theorem checkedStep (respected : RunRespected excused inOrder alike)
    (related : alike machine other) (ordered : inOrder machine) :
    Corresponds excused alike Eq (Machine.checkedStep machine) (Machine.checkedStep other) := by
  have results := respected.step related ordered
  cases stepped : Machine.step machine with
  | error fault after =>
      rw [checkedStep_of_fault stepped]
      rw [stepped] at results
      cases same : Machine.step other with
      | error problem counterpart =>
          rw [checkedStep_of_fault same]
          rw [same] at results
          cases results with
          | error related => exact .error related
          | excused allowed => exact .excused allowed
      | ok event counterpart =>
          rw [same] at results
          cases results with
          | excused allowed => exact .excused allowed
  | ok event after =>
      cases same : Machine.step other with
      | error fault counterpart =>
          rw [stepped, same] at results
          cases results
      | ok event counterpart =>
          rw [stepped, same] at results
          cases results with
          | ok _ related_after =>
              have stop_eq : machine.stopAfter? after = other.stopAfter? counterpart := by
                rw [stopAfter?, stopAfter?, respected.store related ordered stepped,
                  respected.pc related, respected.status related_after,
                  respected.steps related_after]
              rw [checkedStep_of_step stepped, checkedStep_of_step same, stop_eq]
              exact .ok rfl (respected.settle related_after)

/-- The rounds of two runs come to the same, if the first machine is in order at every instruction
that it comes to, and what the runs come to when their budget is used up is the same. -/
theorem runLoop_of_finish (respected : RunRespected excused inOrder alike)
    {values : Option Event → Option Event → Prop} {limit counterpart : Option Int}
    (same : ∀ event, values (some event) (some event))
    (finishes : Simulates excused alike values (Machine.finishBudget limit)
      (Machine.finishBudget counterpart))
    (budget : Nat) (resume : Option UInt8) (related : alike machine other)
    (ordered : ∀ attempt ∈ loopAttempts budget resume machine, inOrder attempt) :
    Corresponds excused alike values (Machine.runLoop limit budget resume machine)
      (Machine.runLoop counterpart budget resume other) := by
  induction budget generalizing resume machine other with
  | zero => exact finishes machine other related
  | succ budget ih =>
      rw [runLoop_succ, runLoop_succ]
      refine (respected.checkBefore resume machine other related).bind ?_
      intro found held _ heldOther checked found_eq related_held
      cases found_eq
      cases found with
      | some event => exact respected.finish (same event) held heldOther related_held
      | none =>
          obtain rfl := checkBefore_none checked
          simp only [loopAttempts, checked, List.forall_mem_cons] at ordered
          refine (respected.checkedStep related_held ordered.1).bind ?_
          intro stop after _ afterOther stepped stop_eq related_after
          cases stop_eq
          cases stop with
          | some event => exact respected.finish (same event) after afterOther related_after
          | none =>
              rw [stepped] at ordered
              exact ih none related_after ordered.2

/-- Calls come to the same, if the first machine is in order at every instruction that it comes
to. -/
theorem call (respected : RunRespected excused inOrder alike) (call : Call)
    (related : alike machine other) (ordered : ∀ attempt ∈ machine.attempts call, inOrder attempt) :
    Corresponds excused alike Eq (Machine.call call machine) (Machine.call call other) := by
  have status_eq := respected.status related
  cases running : other.status with
  | halted =>
      rw [running] at status_eq
      cases call with
      | step =>
          simp only [Machine.call, bind, EStateM.bind, step_of_halted running,
            step_of_halted status_eq]
          exact .error related
      | run supply maxSteps =>
          simp only [Machine.call, run_of_halted running, run_of_halted status_eq]
          exact .error related
  | running =>
      rw [running] at status_eq
      cases call with
      | step =>
          simp only [attempts, status_eq, List.forall_mem_singleton] at ordered
          refine (respected.step related ordered).bind ?_
          intro event after _ afterOther _ same related_after
          cases same
          exact .ok rfl related_after
      | run supply maxSteps =>
          simp only [attempts, status_eq] at ordered
          rw [Machine.call, Machine.call, run_of_running running, run_of_running status_eq]
          have limit_eq : machine.limit? maxSteps = other.limit? maxSteps := by
            rw [limit?, limit?, respected.maxSteps related]
          rw [limit_eq] at ordered ⊢
          rw [← respected.resumeAt related]
          exact respected.runLoop_of_finish (fun _ => rfl) (respected.finishBudget _) _ _
            (respected.remember none related) ordered

/-- So do calls that are made one after the other, as long as no fault is excused. -/
theorem calls (respected : RunRespected excused inOrder alike) (calls : List Call)
    (related : alike machine other)
    (ordered : ∀ attempt ∈ allAttempts calls machine, inOrder attempt)
    (unexcused : ∀ fault, .error fault ∈ (series Machine.call calls machine).1 → ¬excused fault) :
    (series Machine.call calls machine).1 = (series Machine.call calls other).1 ∧
      alike (series Machine.call calls machine).2 (series Machine.call calls other).2 := by
  induction calls generalizing machine other with
  | nil => exact ⟨rfl, related⟩
  | cons call rest ih =>
      rw [allAttempts, List.forall_mem_append] at ordered
      have unexcused_now (fault : Fault)
          (failed : answerOf (Machine.call call machine) = .error fault) : ¬excused fault :=
        unexcused fault (failed ▸ List.mem_cons_self)
      obtain ⟨answer_eq, related_next⟩ :=
        (respected.call call related ordered.1).agree unexcused_now
      obtain ⟨answers_eq, related_last⟩ := ih related_next ordered.2 fun fault member =>
        unexcused fault (List.mem_cons_of_mem _ member)
      refine ⟨?_, related_last⟩
      simp only [series, answer_eq, answers_eq]

end RunRespected

end Respecting

end Machine

end ByteMachine
