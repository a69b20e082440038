import ByteMachine.Listing
import ByteMachine.Proofs.Cells
import ByteMachine.Proofs.Matching
import ByteMachine.Proofs.Resumption

/-!
# Restarts

A reset that clears memory leaves nothing of a session behind but the hooks. Once a program is
loaded, the machine matches one that was just switched on with the same hooks, and both answer
every request alike. What the debugger has found last survives the reset, until it finds something
again.
-/

namespace ByteMachine

/-! ## Requests -/

/-- What can be asked of a machine: to execute, to be changed, or to be reset. -/
inductive Request (δ : Type) where
  | call (call : Machine.Call)
  | access (access : Access δ)
  | reset (clearsMemory : Bool)

/-- The answer to a request that is not a fault. -/
inductive Answer where
  /-- There is nothing to tell. -/
  | done
  /-- The event that was found, if there was one. -/
  | found (event : Option Event)
  /-- The number of a new condition. -/
  | numbered (number : Nat)
  /-- A condition that cannot be looked at. -/
  | refused (problem : Condition.Problem)
  /-- A mask that does not fit the flags. -/
  | refusedMask
deriving DecidableEq

/-- The answer of a debugger to a change. -/
def Debugger.answer (debugger : Debugger) : Operation → Answer
  | .addCondition condition =>
    match debugger.addCondition condition with
    | .ok (_, number) => .numbered number
    | .error problem => .refused problem
  | _ => .done

namespace Machine

variable {δ : Type}

/-- The answer of a machine to an access. -/
def answer (machine : Machine δ) : Access δ → Except Fault Answer
  | .writeByte address value => (answerOf (machine.writeByte address value)).map fun _ => .done
  | .writeWord address value => (answerOf (machine.writeWord address value)).map fun _ => .done
  | .load image address => (answerOf (machine.load image address)).map fun _ => .done
  | .writeRegister number value =>
    (answerOf (machine.writeRegister number value)).map fun _ => .done
  | .writePair value => (answerOf (machine.writePair value)).map fun _ => .done
  | .updateMask mask on =>
    match machine.updateMask? mask on with
    | some _ => .ok .done
    | none => .ok .refusedMask
  | .debug operation => .ok (machine.debugger.answer operation)
  | .checkInstruction pc =>
    (machine.debugger.checkInstruction machine.registerFile pc).map fun found => .found found.2
  | .checkWrite address value => .ok (.found (machine.debugger.checkWrite address value).2)
  | .clearMemory | .clearFlags | .observe _ | .attach _ => .ok .done

/-- A machine responds to a request. -/
def respond [Device δ] : Request δ → Action (Machine δ) Answer
  | .call call => do
    let event ← Machine.call call
    return .found event
  | .access access => fun machine =>
    match machine.answer access with
    | .ok answer => .ok answer (machine.access access)
    | .error fault => .error fault (machine.access access)
  | .reset clearsMemory => do
    modify (·.reset clearsMemory)
    return .done

end Machine

/-! ## Accesses to matched machines -/

/-- Changes from outside come to the same for debuggers that agree. -/
theorem Debugger.Agrees.perform {first second debugger other : Debugger}
    (agrees : Agrees first second debugger other) (operation : Operation) :
    debugger.answer operation = other.answer operation ∧
      Agrees first second (debugger.perform operation) (other.perform operation) := by
  cases operation with
  | addBreakpoint address =>
      exact ⟨rfl, { agrees with breakpoints := congrArg (insertIncreasing _) agrees.breakpoints }⟩
  | removeBreakpoint address =>
      exact ⟨rfl, { agrees with breakpoints := congrArg (List.filter _) agrees.breakpoints }⟩
  | addWatchpoint address =>
      exact ⟨rfl, { agrees with watchpoints := congrArg (insertIncreasing _) agrees.watchpoints }⟩
  | removeWatchpoint address =>
      exact ⟨rfl, { agrees with watchpoints := congrArg (List.filter _) agrees.watchpoints }⟩
  | addCondition condition =>
      simp only [Debugger.answer, Debugger.perform, Debugger.addCondition, agrees.variant,
        agrees.conditions]
      cases missingRegisters other.variant condition with
      | nil => exact ⟨rfl, { agrees with variant := rfl, conditions := rfl }⟩
      | cons register others => exact ⟨rfl, agrees⟩
  | removeCondition number =>
      refine ⟨rfl, ?_⟩
      simp only [Debugger.perform, Debugger.removeCondition, agrees.conditions]
      split
      · exact { agrees with conditions := rfl }
      · exact agrees
  | requestBreak => exact ⟨rfl, { agrees with breakRequested := rfl }⟩
  | clearRequest => exact ⟨rfl, agrees.clearRequest⟩
  | clearAll =>
      exact ⟨rfl, ⟨agrees.variant, rfl, rfl, rfl, rfl, Or.inl rfl⟩⟩

namespace Machine

variable {δ : Type}

namespace Matched

variable {first second machine other : Machine δ}

theorem onMemory (change : Memory → Except Fault Memory) :
    Simulates (fun _ => False) (Matched Eq first second) Eq (Machine.onMemory change)
      (Machine.onMemory change) := by
  intro machine other matched
  unfold Machine.onMemory
  rw [matched.memory]
  cases change other.memory with
  | error fault => exact .error matched
  | ok memory => exact .ok rfl { matched with memory := rfl }

theorem onRegisters {α : Type} (action : Action RegisterFile α) :
    Simulates (fun _ => False) (Matched Eq first second) Eq (Machine.onRegisters action)
      (Machine.onRegisters action) := by
  intro machine other matched
  unfold Machine.onRegisters
  rw [matched.registerFile_eq]
  cases action other.registerFile with
  | error fault file => exact .error { matched with registers := rfl }
  | ok result file => exact .ok rfl { matched with registers := rfl }

theorem load (image : List UInt8) (address : Int) :
    Simulates (fun _ => False) (Matched Eq first second) Eq (Machine.load image address)
      (Machine.load image address) := by
  refine simulates_bind_eq (onMemory (·.load image address)) ?_
  intro _
  exact simulates_modify fun _ _ matched => { matched with }

theorem done_of_lockstep {action : Action (Machine δ) Unit}
    (matched : Matched Eq first second machine other)
    (lockstep : Simulates (fun _ => False) (Matched Eq first second) Eq action action) :
    (answerOf (action machine)).map (fun _ => Answer.done) =
        (answerOf (action other)).map (fun _ => Answer.done) ∧
      Matched Eq first second (stateOf (action machine)) (stateOf (action other)) := by
  obtain ⟨answer_eq, after⟩ := (lockstep machine other matched).agree fun _ _ => id
  exact ⟨congrArg (Except.map _) answer_eq, after⟩

/-- Accesses to matched machines come to the same. -/
theorem access (matched : Matched Eq first second machine other) (access : Access δ) :
    machine.answer access = other.answer access ∧
      Matched Eq first second (machine.access access) (other.access access) := by
  cases access with
  | writeByte address value =>
      exact matched.done_of_lockstep (onMemory (·.writeByte address value))
  | writeWord address value =>
      exact matched.done_of_lockstep (onMemory (·.writeWord address value))
  | load image address => exact matched.done_of_lockstep (load image address)
  | writeRegister number value =>
      exact matched.done_of_lockstep (onRegisters (RegisterFile.write number value))
  | writePair value => exact matched.done_of_lockstep (onRegisters (RegisterFile.writePair value))
  | updateMask mask on =>
      have same : machine.registers.updateMask? mask on = other.registers.updateMask? mask on := by
        rw [matched.registers]
      simp only [answer, Machine.access, updateMask?, same]
      cases other.registers.updateMask? mask on with
      | none => exact ⟨rfl, matched⟩
      | some registers => exact ⟨rfl, { matched with registers := rfl }⟩
  | debug operation =>
      obtain ⟨answer_eq, agrees⟩ := matched.debugger.perform operation
      exact ⟨congrArg Except.ok answer_eq, { matched with debugger := agrees }⟩
  | checkInstruction pc =>
      simp only [answer, Machine.access, matched.registerFile_eq]
      obtain ⟨fault, failed, same⟩ | ⟨checked, counterpart, found, answered, same, agrees⟩ :=
        matched.debugger.checkInstruction other.registerFile pc
      · rw [failed, same]
        exact ⟨rfl, matched⟩
      · rw [answered, same]
        exact ⟨rfl, { matched with debugger := agrees }⟩
  | checkWrite address value =>
      obtain ⟨event_eq, agrees⟩ := matched.debugger.checkWrite address value
      simp only [answer, event_eq]
      exact ⟨trivial, { matched with debugger := agrees }⟩
  | clearMemory =>
      exact ⟨rfl, { matched with memory := congrArg Memory.clear matched.memory }⟩
  | clearFlags =>
      exact ⟨rfl, { matched with registers := congrArg Registers.clearFlags matched.registers }⟩
  | observe observer => exact ⟨rfl, { matched with observer := .refl observer }⟩
  | attach device => exact ⟨rfl, { matched with device := rfl }⟩

/-- Matched machines respond to every request alike. -/
theorem respond [Device δ] (request : Request δ) :
    Simulates (fun _ => False) (Matched Eq first second) Eq (Machine.respond request)
      (Machine.respond request) := by
  cases request with
  | call call =>
      refine simulates_bind_eq (Matched.call (Memory.respected_of_eq id fun _ _ => rfl) call) ?_
      intro event
      exact simulates_pure rfl
  | access access =>
      intro machine other matched
      obtain ⟨answer_eq, after⟩ := matched.access access
      simp only [Machine.respond, answer_eq]
      cases other.answer access with
      | error fault => exact .error after
      | ok answer => exact .ok rfl after
  | reset clearsMemory =>
      refine simulates_bind_eq (simulates_modify ?_) fun _ => simulates_pure rfl
      intro machine other matched
      exact
        { matched with
          memory := by simp only [Machine.reset, matched.memory]
          registers := rfl
          debugger := matched.debugger.clearRequest
          status := rfl
          steps := rfl
          resumeAt := rfl
          lastEvent := Or.inl rfl }

end Matched

/-! ## The size of memory in a session -/

section Size

variable {machine after : Machine δ}

/-- The memory of a machine is as large as its configuration says. -/
def Sized (machine : Machine δ) : Prop :=
  machine.memory.size = machine.config.effectiveMemorySize.cells

theorem Sized.of_eq (sized : machine.Sized) (config_eq : after.config = machine.config)
    (size_eq : after.memory.size = machine.memory.size) : after.Sized := by
  rw [Sized, config_eq, size_eq]
  exact sized

theorem size_onMemory {change : Memory → Except Fault Memory}
    (keeps : ∀ memory, change machine.memory = .ok memory → memory.size = machine.memory.size) :
    (stateOf (onMemory change machine)).memory.size = machine.memory.size := by
  unfold onMemory
  cases changed : change machine.memory with
  | error fault => rfl
  | ok memory => exact keeps memory changed

theorem size_onRegisters {α : Type} (action : Action RegisterFile α) :
    (stateOf (onRegisters action machine)).memory.size = machine.memory.size := by
  unfold onRegisters
  split <;> rfl

theorem size_of_access (machine : Machine δ) (access : Access δ) :
    (machine.access access).memory.size = machine.memory.size := by
  cases access with
  | writeByte address value => exact size_onMemory fun _ => Memory.size_of_writeByte
  | writeWord address value => exact size_onMemory fun _ => Memory.size_of_writeWord
  | load image address =>
      have kept : (stateOf (onMemory (·.load image address) machine)).memory.size =
          machine.memory.size := size_onMemory fun _ => Memory.size_of_load
      simp only [access, Machine.load, bind, EStateM.bind]
      cases loading : onMemory (·.load image address) machine with
      | error fault after =>
          rw [loading] at kept
          exact kept
      | ok done after =>
          rw [loading] at kept
          exact kept
  | clearMemory => exact Memory.size_clear machine.memory
  | writeRegister | writePair => exact size_onRegisters _
  | updateMask mask on =>
      simp only [access, updateMask?]
      cases machine.registers.updateMask? mask on <;> rfl
  | checkInstruction pc =>
      simp only [access]
      split <;> rfl
  | clearFlags | debug | checkWrite | observe | attach => rfl

variable [Device δ]

/-- A call keeps the configuration and the size of memory. -/
theorem kept_of_call (call : Call) (machine : Machine δ) :
    (stateOf (Machine.call call machine)).config = machine.config ∧
      (stateOf (Machine.call call machine)).memory.size = machine.memory.size := by
  -- The machine is matched with itself, over memories of one size.
  have accesses : Memory.Respected (fun _ => False) fun memory other =>
      memory = other ∧ memory.size = machine.memory.size :=
    Memory.respected_of_eq And.left fun related written =>
      ⟨rfl, (Memory.size_of_writeByte written).trans related.2⟩
  obtain ⟨-, matched⟩ :=
    (Matched.call accesses call machine machine (.refl machine ⟨rfl, rfl⟩)).agree fun _ _ => id
  exact ⟨matched.configs.1, matched.memory.2⟩

theorem Sized.step {result : EStateM.Result Fault (Machine δ) Event} (sized : machine.Sized)
    (stepped : Machine.step machine = result) : (stateOf result).Sized := by
  obtain ⟨config_eq, size_eq⟩ := kept_of_call .step machine
  simp only [Machine.call, bind, EStateM.bind, stepped] at config_eq size_eq
  cases result with
  | ok event after => exact sized.of_eq config_eq size_eq
  | error fault after => exact sized.of_eq config_eq size_eq

theorem Sized.run {maxSteps : Option Int} {outcome : Outcome δ} (sized : machine.Sized)
    (runs : machine.RunsTo maxSteps outcome) : outcome.machine.Sized := by
  obtain ⟨enough, runs⟩ := runs
  obtain ⟨config_eq, size_eq⟩ := kept_of_call (.run enough maxSteps) machine
  rw [Machine.call, runs enough (Nat.le_refl enough)] at config_eq size_eq
  cases outcome with
  | stopped event after => exact sized.of_eq config_eq size_eq
  | failed fault after => exact sized.of_eq config_eq size_eq

end Size

end Machine

/-- In every session, memory is as large as the configuration says. -/
theorem Session.sized {δ : Type} [Device δ] {record : List Deed} {machine : Machine δ}
    (session : Session record machine) : machine.Sized := by
  induction session with
  | start config device => exact Memory.size_zeroed config.effectiveMemorySize
  | step _ stepped ih => exact ih.step stepped
  | failedStep _ failed ih => exact ih.step failed
  | run _ runs ih => exact ih.run runs
  | failedRun _ runs ih => exact ih.run runs
  | reset clearsMemory _ ih =>
      refine ih.of_eq rfl ?_
      cases clearsMemory with
      | true => exact Memory.size_clear _
      | false => rfl
  | access access _ ih =>
      exact ih.of_eq (Machine.idle_access _ access).config (Machine.size_of_access _ access)

/-! ## Restarted and fresh machines -/

namespace Machine

variable {δ : Type}

/-- A machine just switched on with the configuration, the device and the hooks of another. -/
def freshLike (machine : Machine δ) (observer : Observer) : Machine δ :=
  { start machine.config machine.device with
    observer := observer
    debugger :=
      { Debugger.empty (some machine.variant) with
        breakpoints := machine.debugger.breakpoints
        watchpoints := machine.debugger.watchpoints
        conditions := machine.debugger.conditions } }

/-- All that can be read of two machines is the same. -/
structure ReadsAlike (machine other : Machine δ) : Prop where
  config : machine.config = other.config
  device : machine.device = other.device
  memory : machine.memory = other.memory
  registers : machine.registers = other.registers
  status : machine.status = other.status
  steps : machine.steps = other.steps
  lastEvent : machine.lastEvent = other.lastEvent
  breakpoints : machine.debugger.breakpoints = other.debugger.breakpoints
  watchpoints : machine.debugger.watchpoints = other.debugger.watchpoints
  conditions : machine.debugger.conditions = other.debugger.conditions
  registerReport : machine.registerReport = other.registerReport
  flagReport : machine.flagReport = other.flagReport
  summary : machine.summary = other.summary
  listing : ∀ address count, machine.listing address count = other.listing address count

theorem Matched.readsAlike {first second machine other : Machine δ}
    (matched : Matched Eq first second machine other) (configs : first.config = second.config)
    (events : first.lastEvent = second.lastEvent) : machine.ReadsAlike other where
  config := matched.configs.1.trans (configs.trans matched.configs.2.symm)
  device := matched.device
  memory := matched.memory
  registers := matched.registers
  status := matched.status
  steps := matched.steps
  lastEvent := matched.lastEvent.eq events
  breakpoints := matched.debugger.breakpoints
  watchpoints := matched.debugger.watchpoints
  conditions := matched.debugger.conditions
  registerReport := by
    simp only [registerReport, matched.registerFile_eq, matched.variant, matched.registers]
  flagReport := by simp only [flagReport, matched.registers]
  summary := by
    unfold Machine.summary
    rw [matched.variant, matched.pc_eq, matched.status, matched.steps]
  listing := by
    intro address count
    simp only [listing, matched.memory, matched.variant]

variable [Device δ] {record : List Deed} {machine restarted : Machine δ} {observer : Observer}
  {image : List UInt8} {address : Int}

/-- After a reset that clears memory, a machine matches one that was just switched on. -/
theorem matched_of_reset (session : Session record machine)
    (alike : machine.observer.Agrees observer) :
    Matched Eq (machine.reset true) (machine.freshLike observer) (machine.reset true)
      (machine.freshLike observer) where
  configs := ⟨rfl, rfl⟩
  variant := rfl
  strictOpcodes := rfl
  maxSteps := rfl
  device := rfl
  observer := alike
  memory := congrArg (fun size => Memory.mk (Array.replicate size 0)) session.sized
  registers := rfl
  debugger := ⟨session.orderly.fits.owner, rfl, rfl, rfl, rfl, Or.inr ⟨rfl, rfl⟩⟩
  status := rfl
  steps := rfl
  resumeAt := rfl
  lastEvent := Or.inl rfl

/-- A reset that clears memory erases all that was done in a session. Once a program is loaded, the
machine answers every series of requests like one that was just switched on with the same hooks and
the same program, and all that can be read of the two stays the same. What their debuggers have
found last is the same too, unless they have found nothing yet. -/
theorem reset_erases_history (session : Session record machine)
    (alike : machine.observer.Agrees observer)
    (loaded : (machine.reset true).load image address = .ok () restarted) :
    ∃ fresh, (machine.freshLike observer).load image address = .ok () fresh ∧
      ∀ requests,
        let final := (series respond requests restarted).2
        let other := (series respond requests fresh).2
        (series respond requests restarted).1 = (series respond requests fresh).1 ∧
          final.ReadsAlike other ∧
          SameOrOld machine.debugger.lastEvent none final.debugger.lastEvent
            other.debugger.lastEvent := by
  have loading := Matched.load image address _ _ (matched_of_reset session alike)
  rw [loaded] at loading
  generalize (machine.freshLike observer).load image address = result at loading ⊢
  cases loading with
  | ok _ matched =>
      refine ⟨_, rfl, ?_⟩
      intro requests
      obtain ⟨answers_eq, matched_last⟩ :=
        series_agree Matched.respond requests matched fun _ _ => id
      exact ⟨answers_eq, matched_last.readsAlike rfl rfl, matched_last.debugger.lastEvent⟩

theorem reset_erases_history_at_breakpoint :
    ∃ restarted fresh, ((paused [0x09, 0x00]).reset true).load [0xFF] 0 = .ok () restarted ∧
      ((paused [0x09, 0x00]).freshLike .silent).load [0xFF] 0 = .ok () fresh ∧
      (series respond [.call (.run 4 none), .call .step] restarted).1 =
        (series respond [.call (.run 4 none), .call .step] fresh).1 := by
  obtain ⟨restarted, loaded⟩ :
      ∃ restarted, ((paused [0x09, 0x00]).reset true).load [0xFF] 0 = .ok () restarted := ⟨_, rfl⟩
  obtain ⟨fresh, loaded_fresh, alike⟩ :=
    reset_erases_history session_paused (.refl Observer.silent) loaded
  exact ⟨restarted, fresh, loaded, loaded_fresh, (alike _).1⟩

end Machine

end ByteMachine
