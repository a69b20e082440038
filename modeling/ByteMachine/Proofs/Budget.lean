import ByteMachine.Proofs.Calls

/-!
# Budgets

A run that has used up its budget leaves a machine from which another run can go on. The two runs
come to what one run comes to whose budget is the sum of theirs, wherever the cut falls. Only the
wording of the last event and the journal tell the difference.
-/

namespace ByteMachine

/-- Two events say the same, although they may word it differently. -/
structure Event.SaysSame (event other : Event) : Prop where
  reason : event.reason = other.reason
  address : event.address = other.address
  value : event.value = other.value

namespace Machine

variable {δ : Type}

/-! ## Machines in the same state -/

/-- Two machines are in the same state. They can differ in the event that ended the last run, and in
the journal. -/
structure SameState (machine other : Machine δ) : Prop where
  config : machine.config = other.config
  device : machine.device = other.device
  observer : machine.observer = other.observer
  memory : machine.memory = other.memory
  registers : machine.registers = other.registers
  debugger : machine.debugger = other.debugger
  status : machine.status = other.status
  steps : machine.steps = other.steps
  lastAddress : machine.lastAddress = other.lastAddress
  resumeAt : machine.resumeAt = other.resumeAt
  writeStop : machine.writeStop = other.writeStop

namespace SameState

variable {machine other : Machine δ}

theorem pc (same : SameState machine other) : machine.pc = other.pc :=
  congrArg Registers.pc same.registers

theorem concluded (same : SameState machine other) (event counterpart : Event) :
    SameState (machine.concluded event) (other.concluded counterpart) :=
  { same with }

theorem congruent [Device δ] : Congruent (fun _ => True) (@SameState δ) where
  config := config
  device := device
  memory := memory
  registers := registers
  status := status
  update := fun _ same => { same with registers := rfl }
  writeCell := fun _ _ _ _ same =>
    { same with
      memory := rfl
      debugger := by rw [same.debugger]
      writeStop := by rw [same.debugger] }
  afterCall := fun _ same =>
    { same with
      device := rfl
      debugger := by simp only [afterCall, same.debugger] }
  halt := fun _ same => { same with status := rfl }
  note := fun _ same => { same with }

theorem stepRespected [Device δ] :
    StepRespected (fun _ => False) (fun _ => True) (@SameState δ) where
  toRespected := congruent.respected
  begin := fun same => { same with writeStop := rfl }
  observe := fun _ _ _ _ same =>
    { same with
      observer := by simp only [observe, same.observer]
      debugger := by simp only [observe, same.observer, same.debugger]
      lastAddress := rfl }
  count := fun same => { same with steps := congrArg (· + 1) same.steps }

theorem runRespected [Device δ] :
    RunRespected (fun _ => False) (fun _ => True) (@SameState δ) where
  pc := pc
  status := status
  steps := steps
  maxSteps := fun same => congrArg Config.maxSteps same.config
  resumeAt := resumeAt
  check := by
    intro machine other same
    have file_eq : machine.registerFile = other.registerFile := by
      rw [registerFile, registerFile, variant, variant, same.config, same.registers]
    rw [file_eq, same.pc, same.debugger]
    cases other.debugger.checkInstruction other.registerFile other.pc.toNat with
    | error fault => exact Or.inl ⟨fault, rfl, rfl⟩
    | ok answer =>
        exact Or.inr ⟨answer.1, answer.1, answer.2, rfl, rfl, { same with debugger := rfl }⟩
  step := fun same _ => stepRespected.step (fun _ => trivial) _ _ same
  store := by
    intro machine _ other _ same _ _
    have byteAhead?_eq : machine.byteAhead? = other.byteAhead? := by
      funext distance
      rw [byteAhead?, byteAhead?, same.memory, same.pc]
    have store?_eq : machine.store? = other.store? := by
      unfold store? nextOpcode? variant
      rw [byteAhead?_eq, same.pc, same.config, same.registers]
    rw [watchedStore?, watchedStore?, store?_eq, same.debugger]
  settle := fun same => { same with writeStop := rfl }
  remember := fun _ same => { same with resumeAt := rfl }
  conclude := fun event same => same.concluded event event

end SameState

/-! ## A run that has used up its budget -/

section Cut

variable {machine middle : Machine δ} {event : Event}

theorem reason_of_checkBefore {resume : Option UInt8}
    (held : checkBefore resume machine = .ok (some event) middle) : event.reason ≠ .stepLimit := by
  unfold checkBefore at held
  split at held
  · cases held
  · split at held
    · cases held
    · cases held
    · rename_i answered
      cases held
      obtain ⟨-, -, found⟩ | ⟨-, ⟨-, -, found⟩ | ⟨_, -, found⟩ | ⟨-, -, found⟩⟩ :=
        Debugger.checkInstruction_cases answered
      · exact Option.some.inj found ▸ nofun
      · exact Option.some.inj found ▸ nofun
      · exact Option.some.inj found ▸ nofun
      · cases found

theorem reason_of_stopAfter? (stop : machine.stopAfter? middle = some event) :
    event.reason ≠ .stepLimit := by
  unfold stopAfter? at stop
  cases stored : machine.watchedStore? with
  | some store =>
      rw [stored] at stop
      cases stop
      exact nofun
  | none =>
      rw [stored, Option.map_none, Option.none_or] at stop
      split at stop
      · cases stop
        exact nofun
      · cases stop

variable [Device δ]

theorem checkedStep_ok {stop : Option Event}
    (performed : checkedStep machine = .ok stop middle) :
    stop = machine.stopAfter? middle ∧ middle.resumeAt = machine.resumeAt := by
  cases stepped : step machine with
  | error fault after =>
      rw [checkedStep_of_fault stepped] at performed
      cases performed
  | ok event after =>
      rw [checkedStep_of_step stepped] at performed
      cases performed
      exact ⟨rfl, (frame_of_step stepped).resumeAt⟩

/-- A run that ends because its budget is used up has come to a machine from which a run with a
larger budget goes on with the rest. -/
theorem reached_of_stepLimit {limit : Int} {budget : Nat} {resume : Option UInt8}
    (running : machine.status = .running)
    (ran : runLoop (some limit) budget resume machine = .ok (some event) middle)
    (limited : event.reason = .stepLimit) :
    ∃ reached, middle = reached.concluded event ∧ reached.status = .running ∧
      reached.resumeAt = machine.resumeAt ∧
      ∀ whole more, runLoop whole (budget + more) resume machine =
        runLoop whole more (if budget = 0 then resume else none) reached := by
  induction budget generalizing resume machine with
  | zero =>
      cases ran
      refine ⟨machine, rfl, running, rfl, ?_⟩
      intro whole more
      rw [Nat.zero_add, if_pos rfl]
  | succ budget ih =>
      rw [runLoop_succ] at ran
      obtain ⟨found, held, checked, rest⟩ := bind_ok ran
      -- A run that is held or stopped names another reason, so this round goes on to the next.
      cases found with
      | some found =>
          cases rest
          exact absurd limited (reason_of_checkBefore checked)
      | none =>
          obtain rfl := checkBefore_none checked
          obtain ⟨stop, after, performed, rest⟩ := bind_ok rest
          obtain ⟨stop_eq, resume_eq⟩ := checkedStep_ok performed
          cases stop with
          | some found =>
              cases rest
              exact absurd limited (reason_of_stopAfter? stop_eq.symm)
          | none =>
              obtain ⟨reached, middle_eq, reached_running, reached_resume, further⟩ :=
                ih (running_of_stopAfter? stop_eq.symm) rest
              refine ⟨reached, middle_eq, reached_running, reached_resume.trans resume_eq, ?_⟩
              intro whole more
              rw [Nat.add_right_comm, runLoop_succ, if_neg (Nat.succ_ne_zero budget)]
              simp only [bind, EStateM.bind, checked, performed, further, ite_self]

end Cut

/-! ## Two runs and one -/

section Composition

variable [Device δ]

/-- Runs with different limits but the same budget left come to the same. -/
theorem runLoop_of_sameState {machine other : Machine δ} (same : SameState machine other)
    (limit whole : Int) (budget : Nat) (resume : Option UInt8) :
    Corresponds (fun _ => False) SameState
      (fun first second => ∃ event counterpart, first = some event ∧ second = some counterpart ∧
        event.SaysSame counterpart)
      (runLoop (some limit) budget resume machine) (runLoop (some whole) budget resume other) := by
  refine SameState.runRespected.runLoop_of_finish ?_ ?_ budget resume same fun _ _ => trivial
  · intro event
    exact ⟨event, event, rfl, rfl, rfl, rfl, rfl⟩
  · intro machine other same
    refine .ok ⟨_, _, rfl, rfl, rfl, ?_, rfl⟩ (same.concluded _ _)
    exact congrArg (fun pc : UInt8 => some (pc.toNat : Int)) same.pc

/-- Budgets compose. If a run ends because it has used up its budget, then another run after it
ends as one run does that has the budgets of both: with an event that says the same, or with the
same fault, and in the same state. -/
theorem budgets_compose {machine middle : Machine δ} {event : Event} {supply : Nat}
    {first second : Int} (positive : 1 ≤ first) (natural : 0 ≤ second)
    (ran : run supply (some first) machine = .ok (some event) middle)
    (limited : event.reason = .stepLimit) (supplyAfter supplyWhole : Nat) :
    let rest := run supplyAfter (some second) middle
    let whole := run supplyWhole (some (first + second)) machine
    (∃ stop counterpart final other, rest = .ok (some stop) final ∧
        whole = .ok (some counterpart) other ∧ stop.SaysSame counterpart ∧
        SameState final other) ∨
      ∃ fault final other, rest = .error fault final ∧ whole = .error fault other ∧
        SameState final other := by
  intro rest whole
  have running : machine.status = .running := by
    cases status : machine.status with
    | running => rfl
    | halted =>
        rw [run_of_halted status] at ran
        cases ran
  have ran_loop : runLoop (some first) first.toNat machine.resumeAt machine.unmarked =
      .ok (some event) middle := (run_of_running running supply).symm.trans ran
  have running_loop : machine.unmarked.status = .running := running
  obtain ⟨reached, rfl, reached_running, unmarked, further⟩ :=
    reached_of_stepLimit running_loop ran_loop limited
  have middle_running : (reached.concluded event).status = .running := reached_running
  have middle_resume : (reached.concluded event).resumeAt = none := unmarked
  have same : SameState (reached.concluded event).unmarked reached :=
    ⟨rfl, rfl, rfl, rfl, rfl, rfl, rfl, rfl, rfl, unmarked.symm, rfl⟩
  have budget_eq : (first + second).toNat = first.toNat + second.toNat :=
    Int.toNat_add (by omega) natural
  have spent : first.toNat ≠ 0 := by omega
  have whole_eq : whole = runLoop (some (first + second)) second.toNat none reached := by
    have goes_on := further (some (first + second)) second.toNat
    rw [if_neg spent, ← budget_eq] at goes_on
    exact (run_of_running running supplyWhole).trans goes_on
  have rest_eq : rest =
      runLoop (some second) second.toNat none (reached.concluded event).unmarked := by
    rw [← middle_resume]
    exact run_of_running middle_running supplyAfter
  have results := runLoop_of_sameState same second (first + second) second.toNat none
  rw [← whole_eq, ← rest_eq] at results
  clear_value rest whole
  cases results with
  | ok agreement same_final =>
      obtain ⟨stop, counterpart, rfl, rfl, says_same⟩ := agreement
      exact Or.inl ⟨stop, counterpart, _, _, rfl, rfl, says_same, same_final⟩
  | error same_final => exact Or.inr ⟨_, _, _, rfl, rfl, same_final⟩
  | excused allowed => exact allowed.elim

end Composition

theorem budgets_compose_before_halt :
    ∃ middle stop counterpart final other,
      run 0 (some 1) (holding [0x08, 0xFF]) = .ok (some (.stepLimit 1 1)) middle ∧
        run 0 (some 2) middle = .ok (some stop) final ∧
        run 0 (some (1 + 2)) (holding [0x08, 0xFF]) = .ok (some counterpart) other ∧
        stop.SaysSame counterpart ∧ SameState final other := by
  obtain ⟨middle, ran⟩ : ∃ middle,
      run 0 (some 1) (holding [0x08, 0xFF]) = .ok (some (.stepLimit 1 1)) middle := ⟨_, rfl⟩
  have natural : (0 : Int) ≤ 2 := by decide
  obtain ⟨stop, counterpart, final, other, rest, whole, same_words, same⟩ |
    ⟨_, _, _, -, failed, -⟩ := budgets_compose (by decide) natural ran rfl 0 0
  · exact ⟨middle, stop, counterpart, final, other, ran, rest, whole, same_words, same⟩
  · cases failed

end Machine

end ByteMachine
