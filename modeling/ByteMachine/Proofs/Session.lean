import ByteMachine.Proofs.Run

/-!
# Sessions

A session is anything that can be done to a machine after it is switched on: steps, runs, resets,
and accesses to its parts. What was done is kept in a record. The record alone tells where the next
run resumes a stop, and in no session does the debugger come to hold a condition that its machine
cannot look at.
-/

namespace ByteMachine

/-- The address before whose instruction a run was held, if that is what the event is about. -/
def Event.heldAt? (event : Event) : Option Int :=
  match event.reason with
  | .breakpoint | .condition | .interrupt => event.address
  | .halted | .memoryWrite | .step | .stepLimit => none

/-- An access to the parts of a machine that does not make it execute anything. -/
inductive Access (δ : Type) where
  | writeByte (address value : Int)
  | writeWord (address value : Int)
  | load (image : List UInt8) (address : Int)
  | clearMemory
  | writeRegister (number value : Int)
  | writePair (value : Int)
  | updateMask (mask : Int) (on : Bool)
  | clearFlags
  | debug (operation : Debugger.Operation)
  | checkInstruction (pc : Int)
  | checkWrite (address value : Int)
  | observe (observer : Observer)
  | attach (device : δ)

/-- What the record of a session says about one thing that was done. -/
inductive Deed where
  /-- A step has executed an instruction. -/
  | stepped
  /-- A run has ended with an event. -/
  | stopped (event : Event)
  /-- A run has ended with a fault. -/
  | failed (fault : Fault)
  /-- The machine was reset. -/
  | reset
  /-- The machine was accessed, or a step has failed. -/
  | handled

/-- Where the last run was held, unless a reset came after it. The record begins with what was done
last. -/
def lastHold? : List Deed → Option Int
  | [] => none
  | .stopped event :: _ => event.heldAt?
  | .failed _ :: _ => none
  | .reset :: _ => none
  | .stepped :: earlier => lastHold? earlier
  | .handled :: earlier => lastHold? earlier

/-- Where the last run was held, if no instruction was executed after it. -/
def standingHold? : List Deed → Option Int
  | .stopped event :: _ => event.heldAt?
  | .handled :: earlier => standingHold? earlier
  | _ => none

theorem lastHold?_of_standing {record : List Deed} {address : Int}
    (standing : standingHold? record = some address) : lastHold? record = some address := by
  induction record with
  | nil => cases standing
  | cons deed earlier ih =>
      cases deed with
      | stopped event => exact standing
      | handled => exact ih standing
      | stepped | failed | reset => cases standing

/-- Since the last run that was held before an instruction, a step has executed an instruction. -/
def SteppedSinceHold (record : List Deed) : Prop :=
  ∃ recent event earlier, record = recent ++ .stopped event :: earlier ∧
    event.heldAt?.isSome = true ∧ (∀ later, .stopped later ∈ recent → later.heldAt? = none) ∧
    .stepped ∈ recent

namespace Machine

variable {δ : Type}

/-- A machine after an access, whether that succeeds or not. -/
def access (machine : Machine δ) : Access δ → Machine δ
  | .writeByte address value => stateOf (machine.writeByte address value)
  | .writeWord address value => stateOf (machine.writeWord address value)
  | .load image address => stateOf (machine.load image address)
  | .clearMemory => machine.clearMemory
  | .writeRegister number value => stateOf (machine.writeRegister number value)
  | .writePair value => stateOf (machine.writePair value)
  | .updateMask mask on => (machine.updateMask? mask on).getD machine
  | .clearFlags => machine.clearFlags
  | .debug operation => machine.onDebugger (·.perform operation)
  | .checkInstruction pc =>
    match machine.debugger.checkInstruction machine.registerFile pc with
    | .ok (debugger, _) => machine.onDebugger fun _ => debugger
    | .error _ => machine
  | .checkWrite address value =>
    machine.onDebugger fun debugger => (debugger.checkWrite address value).1
  | .observe observer => { machine with observer := observer }
  | .attach device => { machine with device := device }

end Machine

/-- The record of a session and the machine that the session has left. -/
inductive Session {δ : Type} [Device δ] : List Deed → Machine δ → Prop
  | start (config : Config) (device : δ) : Session [] (.start config device)
  | step {record : List Deed} {machine after : Machine δ} {event : Event} :
      Session record machine → machine.step = .ok event after → Session (.stepped :: record) after
  | failedStep {record : List Deed} {machine after : Machine δ} {fault : Fault} :
      Session record machine → machine.step = .error fault after →
        Session (.handled :: record) after
  | run {record : List Deed} {machine after : Machine δ} {maxSteps : Option Int} {event : Event} :
      Session record machine → machine.RunsTo maxSteps (.stopped event after) →
        Session (.stopped event :: record) after
  | failedRun {record : List Deed} {machine after : Machine δ} {maxSteps : Option Int}
      {fault : Fault} :
      Session record machine → machine.RunsTo maxSteps (.failed fault after) →
        Session (.failed fault :: record) after
  | reset {record : List Deed} {machine : Machine δ} (clearsMemory : Bool) :
      Session record machine → Session (.reset :: record) (machine.reset clearsMemory)
  | access {record : List Deed} {machine : Machine δ} (access : Access δ) :
      Session record machine → Session (.handled :: record) (machine.access access)

/-! ## What accesses and runs do to the hold -/

namespace Machine

variable {δ : Type}

/-- What an access leaves as it is. -/
structure Idle (before after : Machine δ) : Prop where
  /-- The configuration is the same. -/
  config : after.config = before.config
  /-- The machine can go on as before. -/
  status : after.status = before.status
  /-- No step is counted. -/
  steps : after.steps = before.steps
  /-- The machine remembers the same stop. -/
  resumeAt : after.resumeAt = before.resumeAt
  /-- A debugger that suits the machine still does. -/
  fits : before.debugger.Fits before.variant → after.debugger.Fits after.variant

theorem idle_onMemory (machine : Machine δ) (change : Memory → Except Fault Memory) :
    Idle machine (stateOf (onMemory change machine)) := by
  unfold onMemory
  split <;> exact ⟨rfl, rfl, rfl, rfl, id⟩

theorem idle_onRegisters {α : Type} (machine : Machine δ) (action : Action RegisterFile α) :
    Idle machine (stateOf (onRegisters action machine)) := by
  unfold onRegisters
  split <;> exact ⟨rfl, rfl, rfl, rfl, id⟩

theorem idle_load (machine : Machine δ) (image : List UInt8) (address : Int) :
    Idle machine (stateOf (machine.load image address)) := by
  have idle := idle_onMemory machine (·.load image address)
  simp only [load, bind, EStateM.bind]
  cases loading : onMemory (·.load image address) machine with
  | error fault after =>
      rw [loading] at idle
      exact idle
  | ok value after =>
      rw [loading] at idle
      exact { idle with }

/-- No access makes a machine execute or forget its last stop. -/
theorem idle_access (machine : Machine δ) (access : Access δ) :
    Idle machine (machine.access access) := by
  cases access with
  | writeByte | writeWord => exact idle_onMemory machine _
  | load image address => exact idle_load machine image address
  | writeRegister | writePair => exact idle_onRegisters machine _
  | updateMask mask on =>
      change Idle machine ((machine.updateMask? mask on).getD machine)
      unfold updateMask?
      cases machine.registers.updateMask? mask on <;> exact ⟨rfl, rfl, rfl, rfl, id⟩
  | debug operation => exact ⟨rfl, rfl, rfl, rfl, fun fits => fits.perform operation⟩
  | checkInstruction pc =>
      unfold Machine.access
      dsimp only
      split
      · rename_i debugger found answered
        obtain ⟨owner_eq, conditions_eq⟩ := Debugger.checkInstruction_keeps answered
        exact ⟨rfl, rfl, rfl, rfl,
          fun fits => ⟨owner_eq.trans fits.owner, conditions_eq ▸ fits.conditions⟩⟩
      · exact ⟨rfl, rfl, rfl, rfl, id⟩
  | checkWrite address value =>
      exact ⟨rfl, rfl, rfl, rfl,
        fun fits => fits.of_hooked ((Debugger.Hooked.refl _).checkWrite _ _)⟩
  | clearMemory | clearFlags | observe | attach => exact ⟨rfl, rfl, rfl, rfl, id⟩

variable [Device δ]

/-- A run that ends with an event remembers the place where it was held, if it was. -/
theorem resumeAt_of_stopped {limit : Option Int} {start final : Machine δ} {count : Nat}
    {event : Event} (ending : ending? limit start count = some (.stopped event final)) :
    final.resumeAt.map (fun address => (address.toNat : Int)) = event.heldAt? := by
  obtain ⟨reached, steps, reason⟩ := stopped_cases ending
  obtain ⟨_, _, -, -, rfl, rfl⟩ | ⟨_, -, -, rfl, rfl⟩ | ⟨_, -, -, rfl, rfl⟩ |
    ⟨_, answered, -, rfl⟩ := reason
  · rfl
  · rfl
  · rfl
  · obtain ⟨-, -, found⟩ | ⟨-, ⟨-, -, found⟩ | ⟨_, -, found⟩ | ⟨-, -, found⟩⟩ :=
      Debugger.checkInstruction_cases answered
    all_goals cases found
    all_goals rfl

/-- A run that ends with a fault remembers no place. -/
theorem resumeAt_of_failed {limit : Option Int} {start final : Machine δ} {count : Nat}
    {fault : Fault} (running : start.status = .running)
    (ending : ending? limit start count = some (.failed fault final)) : final.resumeAt = none := by
  obtain ⟨reached, steps, -, ⟨-, rfl⟩ | ⟨after, -, rfl⟩⟩ := failed_cases running ending
  · rfl
  · rfl

end Machine

/-! ## What every session keeps -/

section Keeping

variable {δ : Type} {record : List Deed} {machine after : Machine δ}

/-- A machine agrees with the record of its session. -/
structure Orderly (record : List Deed) (machine : Machine δ) : Prop where
  /-- The debugger suits the machine. -/
  fits : machine.debugger.Fits machine.variant
  /-- As long as it can go on, the machine remembers the last hold. -/
  remembers : machine.status = .running →
    machine.resumeAt.map (fun address => (address.toNat : Int)) = lastHold? record

namespace Orderly

theorem start (config : Config) (device : δ) : Orderly [] (Machine.start config device) :=
  ⟨.empty config.variant, fun _ => rfl⟩

theorem reset (orderly : Orderly record machine) (clearsMemory : Bool) :
    Orderly (.reset :: record) (machine.reset clearsMemory) :=
  ⟨orderly.fits.perform .clearRequest, fun _ => rfl⟩

theorem access (orderly : Orderly record machine) (access : Access δ) :
    Orderly (.handled :: record) (machine.access access) := by
  have idle := Machine.idle_access machine access
  refine ⟨idle.fits orderly.fits, ?_⟩
  intro running
  rw [idle.resumeAt]
  exact orderly.remembers (idle.status.symm.trans running)

variable [Device δ]

theorem step {event : Event} (orderly : Orderly record machine)
    (stepped : machine.step = .ok event after) : Orderly (.stepped :: record) after := by
  have frame := Machine.frame_of_step stepped
  refine ⟨Machine.fits_of_frame orderly.fits frame, ?_⟩
  intro _
  rw [frame.resumeAt]
  exact orderly.remembers (Machine.step_ok stepped).1

theorem failedStep {fault : Fault} (orderly : Orderly record machine)
    (failed : machine.step = .error fault after) : Orderly (.handled :: record) after := by
  have frame := Machine.frame_of_fault failed
  refine ⟨Machine.fits_of_frame orderly.fits frame, ?_⟩
  intro running
  rw [frame.resumeAt]
  apply orderly.remembers
  cases status : machine.status with
  | running => rfl
  | halted =>
      rw [Machine.step_of_halted status] at failed
      cases failed
      exact status.symm.trans running

theorem run {maxSteps : Option Int} {event : Event} (orderly : Orderly record machine)
    (runs : machine.RunsTo maxSteps (.stopped event after)) :
    Orderly (.stopped event :: record) after := by
  rw [Machine.runsTo_iff (Machine.running_of_runsTo runs)] at runs
  obtain ⟨count, ends⟩ := runs
  exact ⟨Machine.fits_of_stopped orderly.fits ends.1, fun _ => Machine.resumeAt_of_stopped ends.1⟩

theorem failedRun {maxSteps : Option Int} {fault : Fault} (orderly : Orderly record machine)
    (runs : machine.RunsTo maxSteps (.failed fault after)) :
    Orderly (.failed fault :: record) after := by
  cases status : machine.status with
  | halted =>
      -- The run of a halted machine leaves it as it is, with whatever it remembers.
      obtain ⟨enough, runs⟩ := runs
      have ran := runs enough (Nat.le_refl enough)
      rw [Machine.run_of_halted status] at ran
      cases ran
      refine ⟨orderly.fits, ?_⟩
      intro running
      rw [status] at running
      cases running
  | running =>
      rw [Machine.runsTo_iff status] at runs
      obtain ⟨count, ends⟩ := runs
      refine ⟨Machine.fits_of_failed status orderly.fits ends.1, ?_⟩
      intro _
      rw [Machine.resumeAt_of_failed status ends.1]
      rfl

end Orderly

/-- Every session leaves a machine that agrees with its record. -/
theorem Session.orderly [Device δ] (session : Session record machine) :
    Orderly record machine := by
  induction session with
  | start config device => exact .start config device
  | step _ stepped ih => exact ih.step stepped
  | failedStep _ failed ih => exact ih.failedStep failed
  | run _ runs ih => exact ih.run runs
  | failedRun _ runs ih => exact ih.failedRun runs
  | reset clearsMemory _ ih => exact ih.reset clearsMemory
  | access access _ ih => exact ih.access access

/-- A machine resumes at the next instruction just when the last run was held there. -/
theorem Session.resumes_iff [Device δ] (session : Session record machine)
    (running : machine.status = .running) :
    machine.resumeAt = some machine.pc ↔ lastHold? record = some (machine.pc.toNat : Int) := by
  rw [← session.orderly.remembers running]
  cases machine.resumeAt with
  | none => simp
  | some address =>
      rw [Option.map_some, Option.some_inj, Option.some_inj, Int.ofNat_inj, UInt8.toNat_inj]

end Keeping

end ByteMachine
