import ByteMachine.Machine.Step

/-!
# Lockstep

Two actions run in lockstep when they lead from related states to related states with related
values, or both fail with the same fault. A relation between machines that the primitives of an
instruction respect is respected by every instruction, and so by every step. An invariant is the
case in which a machine is related to itself.
-/

namespace ByteMachine

section Action

variable {σ τ α β γ ζ : Type}

theorem get_apply (state : σ) : (get : Action σ σ) state = .ok state state := rfl

theorem modify_apply (change : σ → σ) (state : σ) :
    (modify change : Action σ Unit) state = .ok () (change state) := rfl

/-- Two results correspond: both are good with related values, or both are the same fault, and the
states left behind are related. A fault of the first that is excused corresponds to anything. -/
inductive Corresponds (excused : Fault → Prop) (states : σ → τ → Prop) (values : α → β → Prop) :
    EStateM.Result Fault σ α → EStateM.Result Fault τ β → Prop
  /-- Both are good. -/
  | ok {value : α} {other : β} {left : σ} {right : τ} : values value other → states left right →
      Corresponds excused states values (.ok value left) (.ok other right)
  /-- Both are the same fault. -/
  | error {fault : Fault} {left : σ} {right : τ} : states left right →
      Corresponds excused states values (.error fault left) (.error fault right)
  /-- The first is a fault that is excused. -/
  | excused {fault : Fault} {left : σ} {result : EStateM.Result Fault τ β} : excused fault →
      Corresponds excused states values (.error fault left) result

/-- Two actions run in lockstep. -/
def Simulates (excused : Fault → Prop) (states : σ → τ → Prop) (values : α → β → Prop)
    (left : Action σ α) (right : Action τ β) : Prop :=
  ∀ before other, states before other →
    Corresponds excused states values (left before) (right other)

section Composition

variable {excused : Fault → Prop} {states : σ → τ → Prop} {values : α → β → Prop}

theorem simulates_pure {value : α} {other : β} (related : values value other) :
    Simulates excused states values (pure value) (pure other) :=
  fun _ _ before => .ok related before

theorem simulates_throw (fault : Fault) :
    Simulates excused states values (throw fault) (throw fault) :=
  fun _ _ before => .error before

theorem simulates_get : Simulates excused states states get get :=
  fun _ _ before => .ok before before

theorem simulates_modify {change : σ → σ} {counterpart : τ → τ}
    (respected : ∀ before other, states before other → states (change before) (counterpart other)) :
    Simulates excused states Eq (modify change) (modify counterpart) :=
  fun before other related => .ok rfl (respected before other related)

/-- Results that correspond still do after actions that lead from them to corresponding results. -/
theorem Corresponds.bind {later : γ → ζ → Prop} {left : Action σ α} {right : Action τ β}
    {next : α → Action σ γ} {counterpart : β → Action τ ζ} {before : σ} {before' : τ}
    (first : Corresponds excused states values (left before) (right before'))
    (rest : ∀ value middle other middle', left before = .ok value middle → values value other →
      states middle middle' →
      Corresponds excused states later (next value middle) (counterpart other middle')) :
    Corresponds excused states later ((left >>= next) before)
      ((right >>= counterpart) before') := by
  simp only [Bind.bind, EStateM.bind]
  generalize right before' = result at first
  cases performed : left before with
  | ok value middle =>
      rw [performed] at first
      cases first with
      | ok valuesRelated statesRelated => exact rest _ _ _ _ performed valuesRelated statesRelated
  | error fault middle =>
      rw [performed] at first
      cases first with
      | error statesRelated => exact .error statesRelated
      | excused allowed => exact .excused allowed

/-- Lockstep carries over to one action after another. -/
theorem simulates_bind {later : γ → ζ → Prop} {left : Action σ α} {right : Action τ β}
    {next : α → Action σ γ} {counterpart : β → Action τ ζ}
    (first : Simulates excused states values left right)
    (rest : ∀ value other, values value other →
      Simulates excused states later (next value) (counterpart other)) :
    Simulates excused states later (left >>= next) (right >>= counterpart) := by
  intro before other related
  refine (first before other related).bind ?_
  intro value middle counterpart middle' _ valuesRelated statesRelated
  exact rest value counterpart valuesRelated middle middle' statesRelated

/-- The case in which both actions give the same value, with which both go on. -/
theorem simulates_bind_eq {later : γ → ζ → Prop} {left : Action σ α} {right : Action τ α}
    {next : α → Action σ γ} {counterpart : α → Action τ ζ}
    (first : Simulates excused states Eq left right)
    (rest : ∀ value, Simulates excused states later (next value) (counterpart value)) :
    Simulates excused states later (left >>= next) (right >>= counterpart) := by
  refine simulates_bind first ?_
  rintro value _ rfl
  exact rest value

end Composition

end Action

namespace Machine

section Phases

variable {δ : Type}

/-- A fetch reads the cell at the program counter and then advances the counter. -/
theorem fetch_eq (machine : Machine δ) :
    fetch machine =
      (readCell machine.pc >>= fun byte => do
        update fun registers => { registers with pc := registers.pc + 1 }
        return byte) machine := by
  simp only [fetch, readCell, bind, EStateM.bind]
  cases machine.memory.readByte machine.pc.toNat with
  | error fault => rfl
  | ok byte => rfl

variable [Device δ]

theorem step_of_halted {machine : Machine δ} (halted : machine.status = .halted) :
    step machine = .error .alreadyHalted machine := by
  simp only [step, bind, EStateM.bind, get_apply, halted, ↓reduceIte]
  rfl

/-- What a machine that can go on does in a step. -/
theorem step_of_running {machine : Machine δ} (running : machine.status = .running) :
    step machine =
      (do
        let opcode ← fetch
        modify (observe machine.pc opcode)
        execute machine.pc opcode
        modify fun executed => { executed with steps := executed.steps + 1 }
        return stepEvent machine.pc (← get) : Action (Machine δ) Event)
        { machine with writeStop := none } := by
  simp only [step, bind, EStateM.bind, get_apply, running,
    reduceCtorEq, ↓reduceIte]
  rfl

end Phases

section Respect

variable {δ ε : Type} [Device δ] [Device ε]

/-- The primitives of the allowed instructions respect a relation between machines. -/
structure Respected (excused : Fault → Prop) (allowed : Opcode → Prop)
    (alike : Machine δ → Machine ε → Prop) : Prop where
  /-- Related machines are of the same variant. -/
  variant {machine : Machine δ} {other : Machine ε} :
    alike machine other → machine.variant = other.variant
  /-- Related machines hold the same values in their registers. -/
  registers {machine : Machine δ} {other : Machine ε} :
    alike machine other → machine.registers = other.registers
  /-- Related machines can both go on, or neither can. -/
  status {machine : Machine δ} {other : Machine ε} :
    alike machine other → machine.status = other.status
  /-- A change of the registers. -/
  update (change : Registers → Registers) :
    Simulates excused alike Eq (update change) (update change)
  /-- A read of memory. -/
  readCell (address : UInt8) : Simulates excused alike Eq (readCell address) (readCell address)
  /-- A write to memory. -/
  writeCell (address value : UInt8) : allowed .put →
    Simulates excused alike Eq (writeCell address value) (writeCell address value)
  /-- A read from the device. -/
  readDevice (width : Width) : allowed .inp →
    Simulates excused alike Eq (readDevice width) (readDevice width)
  /-- A write to the device. -/
  writeDevice (width : Width) (value : Nat) : allowed .out →
    Simulates excused alike Eq (writeDevice width value) (writeDevice width value)
  /-- The end of the program. -/
  halt {machine : Machine δ} {other : Machine ε} : allowed .halt → alike machine other →
    alike { machine with status := .halted } { other with status := .halted }
  /-- A byte that is no opcode. -/
  skip (address opcode : UInt8) :
    Simulates excused alike Eq (skip address opcode) (skip address opcode)

/-- So do the parts of a step outside its instruction. -/
structure StepRespected (excused : Fault → Prop) (allowed : Opcode → Prop)
    (alike : Machine δ → Machine ε → Prop) : Prop extends Respected excused allowed alike where
  /-- The beginning of a step. -/
  begin {machine : Machine δ} {other : Machine ε} : alike machine other →
    alike { machine with writeStop := none } { other with writeStop := none }
  /-- The fetch of an opcode. -/
  observe (address opcode : UInt8) {machine : Machine δ} {other : Machine ε} :
    alike machine other → alike (observe address opcode machine) (observe address opcode other)
  /-- The end of a step. -/
  count {machine : Machine δ} {other : Machine ε} : alike machine other →
    alike { machine with steps := machine.steps + 1 } { other with steps := other.steps + 1 }

namespace Respected

variable {excused : Fault → Prop} {allowed : Opcode → Prop}
  {alike : Machine δ → Machine ε → Prop}

theorem fetch (respected : Respected excused allowed alike) :
    Simulates excused alike Eq Machine.fetch Machine.fetch := by
  intro machine other related
  have pc_eq : machine.pc = other.pc := congrArg Registers.pc (respected.registers related)
  rw [fetch_eq, fetch_eq, pc_eq]
  refine simulates_bind_eq (respected.readCell other.pc) ?_ machine other related
  intro byte
  exact simulates_bind_eq (respected.update _) fun _ => simulates_pure rfl

theorem fetchWidth (respected : Respected excused allowed alike) (opcode : Opcode) :
    Simulates excused alike Eq (Machine.fetchWidth opcode) (Machine.fetchWidth opcode) := by
  refine simulates_bind simulates_get ?_
  intro machine other related
  have pc_eq : machine.pc = other.pc := congrArg Registers.pc (respected.registers related)
  rw [respected.variant related, pc_eq]
  split
  · refine simulates_bind_eq respected.fetch ?_
    intro tag
    cases Width.ofTag? tag with
    | some width => exact simulates_pure rfl
    | none => exact simulates_throw _
  · exact simulates_pure rfl

theorem fetchRegister (respected : Respected excused allowed alike) :
    Simulates excused alike Eq Machine.fetchRegister Machine.fetchRegister := by
  refine simulates_bind_eq respected.fetch ?_
  intro number
  refine simulates_bind simulates_get ?_
  intro machine other related
  rw [respected.variant related]
  cases other.variant.registerSet.resolve number.toNat with
  | ok register => exact simulates_pure rfl
  | error fault => exact simulates_throw _

theorem jumpIf (respected : Respected excused allowed alike) (test : Registers → Bool) :
    Simulates excused alike Eq (Machine.jumpIf test) (Machine.jumpIf test) :=
  simulates_bind_eq respected.fetch fun _ => respected.update _

/-- Every allowed instruction respects the relation. -/
theorem perform (respected : Respected excused allowed alike) (opcode : Opcode)
    (permitted : allowed opcode) :
    Simulates excused alike Eq (Machine.perform opcode) (Machine.perform opcode) := by
  cases opcode with
  | nop => exact simulates_pure rfl
  | inp =>
      refine simulates_bind_eq (respected.fetchWidth .inp) ?_
      intro width
      exact simulates_bind_eq (respected.readDevice width permitted) fun _ => respected.update _
  | out =>
      refine simulates_bind_eq (respected.fetchWidth .out) ?_
      intro width
      refine simulates_bind simulates_get ?_
      intro machine other related
      rw [respected.registers related]
      exact respected.writeDevice width _ permitted
  | put =>
      refine simulates_bind_eq respected.fetchRegister ?_
      intro register
      refine simulates_bind_eq respected.fetch ?_
      intro address
      refine simulates_bind simulates_get ?_
      intro machine other related
      rw [respected.registers related]
      exact respected.writeCell address _ permitted
  | get =>
      refine simulates_bind_eq respected.fetchRegister ?_
      intro register
      refine simulates_bind_eq respected.fetch ?_
      intro address
      exact simulates_bind_eq (respected.readCell address) fun _ => respected.update _
  | add =>
      refine simulates_bind_eq (respected.update _) ?_
      intro _
      exact simulates_bind_eq respected.fetch fun _ => respected.update _
  | sub =>
      refine simulates_bind_eq (respected.update _) ?_
      intro _
      exact simulates_bind_eq respected.fetch fun _ => respected.update _
  | inc => exact simulates_bind_eq (respected.fetchWidth .inc) fun _ => respected.update _
  | dec => exact respected.update _
  | jmp => exact respected.jumpIf _
  | jmz => exact respected.jumpIf _
  | jmn => exact respected.jumpIf _
  | halt => exact simulates_modify fun _ _ => respected.halt permitted

/-- So does every byte that is executed, if it stands for an allowed instruction or for none. -/
theorem execute (respected : Respected excused allowed alike) (address opcode : UInt8)
    (permitted : ∀ known, Opcode.ofByte? opcode = some known → allowed known) :
    Simulates excused alike Eq (Machine.execute address opcode)
      (Machine.execute address opcode) := by
  unfold Machine.execute
  cases decoded : Opcode.ofByte? opcode with
  | none => exact respected.skip address opcode
  | some known => exact respected.perform known (permitted known decoded)

end Respected

/-- A relation that all instructions respect is respected by a step. -/
theorem StepRespected.step {excused : Fault → Prop} {allowed : Opcode → Prop}
    {alike : Machine δ → Machine ε → Prop} (respected : StepRespected excused allowed alike)
    (everything : ∀ opcode, allowed opcode) :
    Simulates excused alike Eq Machine.step Machine.step := by
  intro machine other related
  have status_eq := respected.status related
  cases running : other.status with
  | halted =>
      rw [step_of_halted running, step_of_halted (status_eq.trans running)]
      exact .error related
  | running =>
      rw [step_of_running running, step_of_running (status_eq.trans running)]
      have pc_eq : machine.pc = other.pc := congrArg Registers.pc (respected.registers related)
      rw [pc_eq]
      refine simulates_bind_eq respected.fetch ?_ _ _ (respected.begin related)
      intro opcode
      refine simulates_bind_eq (simulates_modify fun _ _ => respected.observe _ _) ?_
      intro _
      refine simulates_bind_eq (respected.execute _ _ fun known _ => everything known) ?_
      intro _
      refine simulates_bind_eq (simulates_modify fun _ _ => respected.count) ?_
      intro _
      refine simulates_bind simulates_get ?_
      intro after counterpart relatedAfter
      apply simulates_pure
      have registers_eq := respected.registers relatedAfter
      simp only [stepEvent, pc, respected.status relatedAfter, registers_eq]

section Calls

variable {excused : Fault → Prop} {alike : Machine δ → Machine δ → Prop}

/-- Machines with the same device read the same from it. -/
theorem simulates_readDevice
    (device : ∀ {machine other : Machine δ}, alike machine other → machine.device = other.device)
    (afterCall : ∀ {machine other : Machine δ} {α : Type} (reply : Device.Reply δ α),
      alike machine other → alike (machine.afterCall reply) (other.afterCall reply))
    (width : Width) : Simulates excused alike Eq (readDevice width) (readDevice width) := by
  intro machine other related
  simp only [Machine.readDevice, device related]
  cases Device.read? width other.device with
  | none => exact .error related
  | some reply =>
      have called := afterCall reply related
      dsimp only
      cases reply.result with
      | error failure => exact .error called
      | ok reading =>
          dsimp only
          cases acceptReading width reading with
          | error problem => exact .error called
          | ok value => exact .ok rfl called

/-- Machines with the same device write the same to it. -/
theorem simulates_writeDevice
    (device : ∀ {machine other : Machine δ}, alike machine other → machine.device = other.device)
    (afterCall : ∀ {machine other : Machine δ} {α : Type} (reply : Device.Reply δ α),
      alike machine other → alike (machine.afterCall reply) (other.afterCall reply))
    (width : Width) (value : Nat) :
    Simulates excused alike Eq (writeDevice width value) (writeDevice width value) := by
  intro machine other related
  simp only [Machine.writeDevice, device related]
  cases Device.write? width value other.device with
  | none => exact .error related
  | some reply =>
      have called := afterCall reply related
      dsimp only
      cases reply.result with
      | error failure => exact .error called
      | ok done => exact .ok rfl called

end Calls

/-- A relation between machines that agree in all that an instruction looks at, kept by the changes
that the primitives of the allowed instructions make. -/
structure Congruent (allowed : Opcode → Prop) (alike : Machine δ → Machine δ → Prop) : Prop where
  config {machine other : Machine δ} : alike machine other → machine.config = other.config
  device {machine other : Machine δ} : alike machine other → machine.device = other.device
  memory {machine other : Machine δ} : alike machine other → machine.memory = other.memory
  registers {machine other : Machine δ} : alike machine other → machine.registers = other.registers
  status {machine other : Machine δ} : alike machine other → machine.status = other.status
  update {machine other : Machine δ} (registers : Registers) : alike machine other →
    alike { machine with registers := registers } { other with registers := registers }
  writeCell {machine other : Machine δ} (memory : Memory) (address value : Int) : allowed .put →
    alike machine other →
      alike
        { machine with
          memory := memory
          debugger := (machine.debugger.checkWrite address value).1
          writeStop := (machine.debugger.checkWrite address value).2 }
        { other with
          memory := memory
          debugger := (other.debugger.checkWrite address value).1
          writeStop := (other.debugger.checkWrite address value).2 }
  afterCall {machine other : Machine δ} {α : Type} (reply : Device.Reply δ α) :
    alike machine other → alike (machine.afterCall reply) (other.afterCall reply)
  halt {machine other : Machine δ} : allowed .halt → alike machine other →
    alike { machine with status := .halted } { other with status := .halted }
  note {machine other : Machine δ} (occurrence : Occurrence) : alike machine other →
    alike (machine.note occurrence) (other.note occurrence)

/-- The primitives of an instruction respect such a relation. -/
theorem Congruent.respected {allowed : Opcode → Prop} {alike : Machine δ → Machine δ → Prop}
    (congruent : Congruent allowed alike) : Respected (fun _ => False) allowed alike where
  variant := fun related => congrArg Config.variant (congruent.config related)
  registers := congruent.registers
  status := congruent.status
  update := by
    intro change machine other related
    have changed :
        alike { machine with registers := change machine.registers }
          { other with registers := change other.registers } := by
      rw [congruent.registers related]
      exact congruent.update _ related
    exact .ok rfl changed
  readCell := by
    intro address machine other related
    simp only [Machine.readCell, congruent.memory related]
    cases other.memory.readByte address.toNat with
    | error fault => exact .error related
    | ok byte => exact .ok rfl related
  writeCell := by
    intro address value permitted machine other related
    simp only [Machine.writeCell, congruent.memory related]
    cases other.memory.writeByte address.toNat value.toNat with
    | error fault => exact .error related
    | ok memory => exact .ok rfl (congruent.writeCell memory _ _ permitted related)
  readDevice := fun width _ => simulates_readDevice congruent.device congruent.afterCall width
  writeDevice := fun width value _ =>
    simulates_writeDevice congruent.device congruent.afterCall width value
  halt := congruent.halt
  skip := by
    intro address opcode machine other related
    simp only [Machine.skip, congruent.config related]
    split
    · exact .error related
    · exact .ok rfl (congruent.note _ related)

end Respect

end Machine

end ByteMachine
