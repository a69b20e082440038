import ByteMachine.Proofs.Exchange
import ByteMachine.Proofs.UnreadInput

/-!
# Input and output

A scripted device loses nothing and keeps the order. The inputs that it was ever given are those
that were read, followed by those that wait. Its outputs are the operands of the writes, one after
the other. A value that is read arrives in the registers unchanged, or it is refused, and then it is
gone as well.
-/

namespace ByteMachine

/-! ## Numbers that fit a width -/

namespace Registers

theorem operand_le (registers : Registers) (width : Width) :
    registers.operand width ≤ width.limit := by
  cases width with
  | byte => exact Nat.le_of_lt_succ registers.a.toNat_lt
  | word =>
      have high := registers.b.toNat_lt
      have low := registers.c.toNat_lt
      simp only [operand, pair, Word.join, Width.limit]
      omega

/-- A number is stored modulo the width. -/
theorem operand_store_mod (registers : Registers) (width : Width) (value : Nat) :
    (registers.store width value).operand width = value % (width.limit + 1) := by
  cases width with
  | byte => simp [store, operand, Width.limit]
  | word =>
      simp only [store, operand, setPair, pair, Word.join, Word.high, Word.low, UInt8.ofInt,
        UInt8.toNat_ofNat', Width.limit]
      omega

/-- A number that fits a width is stored without loss. -/
theorem operand_store {width : Width} {value : Nat} (fits : value ≤ width.limit)
    (registers : Registers) : (registers.store width value).operand width = value := by
  rw [operand_store_mod, Nat.mod_eq_of_lt (Nat.lt_succ_of_le fits)]

end Registers

namespace Machine

/-- A reading is accepted just when it is a number that fits. -/
theorem acceptReading_cases (width : Width) (input : Reading) :
    (acceptReading width input = .error (.refused input width.limit) ∧
        ∀ value : Nat, value ≤ width.limit → input.number? ≠ some (value : Int)) ∨
      ∃ value : Nat, acceptReading width input = .ok value ∧ input.number? = some (value : Int) ∧
        value ≤ width.limit := by
  unfold acceptReading
  cases input.number? with
  | none => exact Or.inl ⟨rfl, fun _ _ => nofun⟩
  | some number =>
      dsimp only
      split
      · rename_i fits
        have natural : (number.toNat : Int) = number := Int.toNat_of_nonneg fits.1
        exact Or.inr ⟨number.toNat, rfl, congrArg some natural.symm, by omega⟩
      · rename_i unfit
        refine Or.inl ⟨rfl, ?_⟩
        intro value fits same
        have number_eq := Option.some.inj same
        omega

/-! ## What a step does with a scripted device -/

/-- The value that the next instruction puts out, if it writes. -/
def output? {δ : Type} (machine : Machine δ) : Option Int :=
  machine.writes?.map fun width => (machine.registers.operand width : Int)

/-- The input that the next instruction takes, if it reads and one is waiting. -/
def input? (machine : Machine Scripted) : Option Reading :=
  machine.reads?.bind fun _ => machine.device.inputs.head?

/-- What a step can do with a scripted device. -/
inductive Exchanges (machine : Machine Scripted) :
    EStateM.Result Fault (Machine Scripted) Event → Prop
  /-- A read takes the input that waits first, and stores just that number. -/
  | stores {width : Width} {input : Reading} {rest : List Reading} {event : Event}
      {after : Machine Scripted} : machine.reads? = some width →
        machine.device.inputs = input :: rest →
        after.device = ⟨rest, machine.device.outputs⟩ →
        input.number? = some (after.registers.operand width : Int) →
          Exchanges machine (.ok event after)
  /-- A read takes the input that waits first, and refuses it because it is no number that fits. -/
  | refuses {width : Width} {input : Reading} {rest : List Reading} {after : Machine Scripted} :
      machine.reads? = some width → machine.device.inputs = input :: rest →
        after.device = ⟨rest, machine.device.outputs⟩ →
        (∀ value : Nat, value ≤ width.limit → input.number? ≠ some (value : Int)) →
          Exchanges machine
            (.error (.device (Device.readName width) (.refused input width.limit)) after)
  /-- A read finds no input. -/
  | lacks {width : Width} {after : Machine Scripted} : machine.reads? = some width →
      machine.device.inputs = [] → after.device = machine.device →
        Exchanges machine
          (.error (.device (Device.readName width) (.failed Scripted.exhausted)) after)
  /-- A write puts out its operand. -/
  | puts {width : Width} {event : Event} {after : Machine Scripted} :
      machine.writes? = some width →
        after.device = machine.device.write (machine.registers.operand width) →
          Exchanges machine (.ok event after)
  /-- Any other step leaves the device alone. If its instruction is a read or a write after all, it
  fails. -/
  | silent {result : EStateM.Result Fault (Machine Scripted) Event} : machine.reads? = none →
      machine.writes? = none → (stateOf result).device = machine.device →
        (machine.nextOpcode? = some .inp ∨ machine.nextOpcode? = some .out →
          ∃ fault after, result = .error fault after) →
          Exchanges machine result

section Scripts

variable {machine : Machine Scripted} {width : Width}

theorem readDevice_of_nil (waiting : machine.device.inputs = []) :
    readDevice width machine =
      .error (.device (Device.readName width) (.failed Scripted.exhausted)) machine := by
  simp only [readDevice, Device.read?, Scripted.read, waiting]
  rfl

theorem readDevice_of_cons {input : Reading} {rest : List Reading}
    (waiting : machine.device.inputs = input :: rest) :
    let after := { machine with device := ⟨rest, machine.device.outputs⟩ }
    readDevice width machine =
      match acceptReading width input with
      | .error problem => .error (.device (Device.readName width) problem) after
      | .ok value => .ok value after := by
  simp only [readDevice, Device.read?, Scripted.read, waiting]
  cases acceptReading width input with
  | error problem => rfl
  | ok value => rfl

theorem exchanges_of_reads (running : machine.status = .running)
    (reads : machine.reads? = some width) : Exchanges machine (step machine) := by
  obtain ⟨byte, pc, stepped⟩ := step_of_reads running reads
  cases waiting : machine.device.inputs with
  | nil =>
      rw [@readDevice_of_nil (machine.fetchedTo byte pc) width waiting] at stepped
      rw [stepped]
      exact .lacks reads waiting rfl
  | cons input rest =>
      rw [@readDevice_of_cons (machine.fetchedTo byte pc) width input rest waiting] at stepped
      obtain ⟨refused, unfit⟩ | ⟨value, accepted, number_eq, fits⟩ :=
        acceptReading_cases width input
      · rw [stepped, refused]
        exact .refuses reads waiting rfl unfit
      · rw [stepped, accepted]
        refine .stores reads waiting rfl ?_
        have stored := Registers.operand_store fits (machine.fetchedTo byte pc).registers
        rw [number_eq]
        exact congrArg (fun operand : Nat => some (operand : Int)) stored.symm

/-- Every step of a machine that can go on exchanges with its device in one of these ways. -/
theorem exchanges_of_attempt (running : machine.status = .running) :
    Exchanges machine (step machine) := by
  cases reads : machine.reads? with
  | some width => exact exchanges_of_reads running reads
  | none =>
      cases writes : machine.writes? with
      | some width =>
          obtain ⟨byte, pc, stepped⟩ := step_of_writes running writes
          rw [stepped]
          exact .puts writes rfl
      | none =>
          refine .silent reads writes (silent_of_step running reads writes).device ?_
          rintro (next | next)
          · rw [reads?, exchange?, if_pos next] at reads
            exact (step_of_widthless rfl running next reads).1
          · rw [writes?, exchange?, if_pos next] at writes
            exact (step_of_widthless rfl running next writes).1

end Scripts

/-! ## Streams -/

namespace Exchanges

variable {machine : Machine Scripted} {result : EStateM.Result Fault (Machine Scripted) Event}

/-- The inputs that wait before a step are the one that it takes and those that wait behind it. -/
theorem inputs (exchanges : Exchanges machine result) :
    machine.device.inputs = machine.input?.toList ++ (stateOf result).device.inputs := by
  cases exchanges with
  | stores reads waiting device_eq | refuses reads waiting device_eq
  | lacks reads waiting device_eq =>
      simp [input?, reads, waiting, stateOf, device_eq]
  | puts writes device_eq =>
      have unread : machine.reads? = none := exchange?_of_other writes (by decide)
      simp [input?, unread, stateOf, device_eq, Scripted.write]
  | silent reads _ device_eq => simp [input?, reads, device_eq]

/-- The outputs after a step are those before it and the one that it puts out. -/
theorem outputs (exchanges : Exchanges machine result) :
    (stateOf result).device.outputs = machine.device.outputs ++ machine.output?.toList := by
  cases exchanges with
  | stores reads _ device_eq | refuses reads _ device_eq | lacks reads _ device_eq =>
      have unwritten : machine.writes? = none := exchange?_of_other reads (by decide)
      simp [output?, unwritten, stateOf, device_eq]
  | puts writes device_eq => simp [output?, writes, stateOf, device_eq, Scripted.write]
  | silent _ writes device_eq => simp [output?, writes, device_eq]

end Exchanges

/-- What is done with a machine that has a scripted device: it is called, or it is given more
inputs. -/
inductive Errand where
  | call (call : Call)
  | feed (inputs : List Reading)

/-- The inputs that come with an errand. -/
def Errand.supplied : Errand → List Reading
  | .call _ => []
  | .feed inputs => inputs

/-- The machine after an errand. -/
def tend (machine : Machine Scripted) : Errand → Machine Scripted
  | .call call => stateOf (Machine.call call machine)
  | .feed inputs => machine.fed inputs

/-- The machine after errands that are done one after the other. -/
def tendAll (machine : Machine Scripted) (errands : List Errand) : Machine Scripted :=
  errands.foldl tend machine

/-- The machines in which errands that are done one after the other set out to execute an
instruction, in order. -/
def errandAttempts : List Errand → Machine Scripted → List (Machine Scripted)
  | [], _ => []
  | .call call :: rest, machine =>
    machine.attempts call ++ errandAttempts rest (machine.tend (.call call))
  | .feed inputs :: rest, machine => errandAttempts rest (machine.fed inputs)

/-- The streams of a machine are accounted for by the attempts so far. All inputs that were supplied
have been taken or are waiting, and what has been put out follows what had been written before. -/
structure Accounts (config : Config) (written : List Int) (supplied : List Reading)
    (attempted : List (Machine Scripted)) (machine : Machine Scripted) : Prop where
  config_eq : machine.config = config
  inputs_eq : supplied = attempted.filterMap input? ++ machine.device.inputs
  outputs_eq : machine.device.outputs = written ++ attempted.filterMap output?
  exchanges : ∀ now ∈ attempted, now.config = config ∧ Exchanges now (step now)

namespace Accounts

variable {config : Config} {written : List Int} {supplied : List Reading}
  {attempted : List (Machine Scripted)} {machine : Machine Scripted}

/-- An attempt keeps the account. -/
theorem upheld : Upheld (Accounts config written supplied) where
  attempt := by
    intro before now running accounts
    have exchanges := exchanges_of_attempt running
    refine ⟨(step_frame now).config.trans accounts.config_eq, ?_, ?_, ?_⟩
    · rw [filterMap_concat, List.append_assoc, ← exchanges.inputs]
      exact accounts.inputs_eq
    · rw [filterMap_concat, ← List.append_assoc, ← accounts.outputs_eq]
      exact exchanges.outputs
    · rw [List.forall_mem_append, List.forall_mem_singleton]
      exact ⟨accounts.exchanges, accounts.config_eq, exchanges⟩
  note := by
    intro before now other alike accounts
    refine ⟨alike.config ▸ accounts.config_eq, ?_, ?_, accounts.exchanges⟩
    · rw [← alike.device]
      exact accounts.inputs_eq
    · rw [← alike.device]
      exact accounts.outputs_eq

theorem feed (accounts : Accounts config written supplied attempted machine)
    (later : List Reading) :
    Accounts config written (supplied ++ later) attempted (machine.fed later) where
  config_eq := accounts.config_eq
  inputs_eq := by
    rw [accounts.inputs_eq, List.append_assoc]
    rfl
  outputs_eq := accounts.outputs_eq
  exchanges := accounts.exchanges

/-- So do errands. -/
theorem tendAll (accounts : Accounts config written supplied attempted machine)
    (errands : List Errand) :
    Accounts config written (supplied ++ errands.flatMap Errand.supplied)
      (attempted ++ errandAttempts errands machine) (machine.tendAll errands) := by
  induction errands generalizing supplied attempted machine with
  | nil =>
      simp only [errandAttempts, List.flatMap_nil, List.append_nil]
      exact accounts
  | cons errand rest ih =>
      rw [List.flatMap_cons, ← List.append_assoc]
      cases errand with
      | call call =>
          rw [errandAttempts, ← List.append_assoc, Errand.supplied, List.append_nil]
          exact ih (upheld.call call accounts)
      | feed inputs =>
          -- Nothing is attempted, and the inputs go behind all others.
          exact ih (accounts.feed inputs)

end Accounts

theorem output_fits {machine : Machine Scripted} {output : Int}
    (put : machine.output? = some output) :
    0 ≤ output ∧ output ≤ 65535 ∧ (machine.variant = .byte → output ≤ 255) := by
  obtain ⟨width, writes, rfl⟩ := Option.map_eq_some_iff.mp put
  have fits := machine.registers.operand_le width
  refine ⟨by omega, ?_, ?_⟩
  · cases width <;> simp only [Width.limit] at fits <;> omega
  · intro bytes
    obtain rfl := exchange?_of_byte bytes writes
    simp only [Width.limit] at fits
    omega

/-- Input and output keep their order and lose nothing. All inputs that a scripted device was ever
given are those that were taken followed by those that wait. Its outputs grow by those of the
writes, and they fit a word, or a byte on a machine for bytes. What a single instruction takes and
puts out is said by `Exchanges`. On a machine for bytes, whatever its device, only the operations
for bytes are called, and the answers are the same if the device lacks those for words. -/
theorem io_ordered_and_lossless (machine : Machine Scripted) (errands : List Errand) :
    let attempted := errandAttempts errands machine
    let final := machine.tendAll errands
    machine.device.inputs ++ errands.flatMap Errand.supplied =
      attempted.filterMap input? ++ final.device.inputs ∧
    final.device.outputs = machine.device.outputs ++ attempted.filterMap output? ∧
    (∀ now ∈ attempted, Exchanges now (step now)) ∧
    (∀ output ∈ attempted.filterMap output?,
      0 ≤ output ∧ output ≤ 65535 ∧ (machine.variant = .byte → output ≤ 255)) ∧
    ∀ (δ : Type) [Device δ] (other : Machine δ) (calls : List Call), other.variant = .byte →
      let plain := series call calls other
      let recorded := series call calls (other.recast id Recorded.fresh)
      let limited := series call calls (other.recast id BytesOnly.mk)
      recorded.1 = plain.1 ∧
        (∀ operation ∈ recorded.2.device.calls, Device.IsForBytes operation) ∧
        limited.1 = plain.1 ∧ plain.2 = limited.2.recast id BytesOnly.device := by
  intro attempted final
  have nothing : Accounts machine.config machine.device.outputs machine.device.inputs [] machine :=
    ⟨rfl, rfl, (List.append_nil _).symm, fun _ member => absurd member List.not_mem_nil⟩
  have accounts := nothing.tendAll errands
  refine ⟨accounts.inputs_eq, accounts.outputs_eq, ?_, ?_, ?_⟩
  · intro now member
    exact (accounts.exchanges now member).2
  · intro output put
    obtain ⟨now, member, put⟩ := List.mem_filterMap.mp put
    have fits := output_fits put
    rwa [variant, (accounts.exchanges now member).1] at fits
  · intro δ _ other calls bytes plain recorded limited
    have recorded_recast : IsRecast id Recorded.device (other.recast id Recorded.fresh) other := rfl
    have limited_recast : IsRecast id BytesOnly.device (other.recast id BytesOnly.mk) other := rfl
    have limited_bytes : (other.recast id BytesOnly.mk).variant = .byte := bytes
    obtain ⟨recorded_answers, -⟩ := Recorded.recasts.runRespected.calls calls recorded_recast
      (fun _ _ => trivial) fun _ _ => id
    obtain ⟨limited_answers, limited_final⟩ := BytesOnly.recasts.runRespected.calls calls
      limited_recast (fun _ _ => trivial) fun _ failed => words_not_lacked limited_bytes failed
    exact ⟨recorded_answers, calls_for_bytes bytes calls, limited_answers, limited_final⟩

/-- A machine for bytes that reads a value, writes it, and reads another one. -/
def echo : Machine Scripted :=
  { holding [0x01, 0x02, 0x01, 0xFF] with device := Scripted.ofInputs [.number 5] }

theorem io_ordered_and_lossless_with_refusal :
    let errands := [.call (.run 0 (some 2)), .feed [.number 300], .call .step]
    (errandAttempts errands echo).filterMap input? = [.number 5, .number 300] ∧
      (echo.tendAll errands).device.inputs = [] ∧ (echo.tendAll errands).device.outputs = [5] := by
  intro errands
  obtain ⟨inputs_eq, outputs_eq, -⟩ := io_ordered_and_lossless echo errands
  have taken : (errandAttempts errands echo).filterMap input? = [.number 5, .number 300] := by
    decide +kernel
  have put : (errandAttempts errands echo).filterMap output? = [5] := by decide +kernel
  rw [taken] at inputs_eq
  rw [put] at outputs_eq
  refine ⟨taken, ?_, outputs_eq⟩
  exact List.append_right_eq_self.mp inputs_eq.symm

end Machine

end ByteMachine
