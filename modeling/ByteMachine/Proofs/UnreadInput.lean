import ByteMachine.Device.Scripted
import ByteMachine.Proofs.Recast

/-!
# Unread input

A machine with a scripted device does not notice inputs that wait behind those it reads: it does
the same without them, and they stay behind the ones that it has not read. Only a read that finds
no input left can tell the difference.
-/

namespace ByteMachine

/-- A fault is that of a read which found no input left. -/
def Fault.LacksInput : Fault → Prop
  | .device _ (.failed failure) => failure.kind = .exhausted
  | _ => False

theorem Scripted.read_feed_of_cons {device : Scripted} {input : Reading} {rest : List Reading}
    (waiting : device.inputs = input :: rest) (later : List Reading) :
    (device.feed later).read = (device.read.1.feed later, device.read.2) := by
  simp [Scripted.read, Scripted.feed, waiting]

namespace Machine

/-- A machine whose device has more inputs behind those that it has not read. -/
def fed (machine : Machine Scripted) (later : List Reading) : Machine Scripted :=
  { machine with device := machine.device.feed later }

/-- The second of two machines is the first with more inputs. -/
abbrev IsFed (later : List Reading) (machine other : Machine Scripted) : Prop :=
  other = machine.fed later

namespace IsFed

variable (later : List Reading)

theorem readDevice (width : Width) :
    Simulates Fault.LacksInput (IsFed later) Eq (Machine.readDevice width)
      (Machine.readDevice width) := by
  rintro machine _ rfl
  cases waiting : machine.device.inputs with
  | nil =>
      have exhausted : machine.device.read.2 = .error Scripted.exhausted := by
        simp [Scripted.read, waiting]
      simp only [Machine.readDevice, Device.read?, exhausted]
      exact .excused rfl
  | cons input rest =>
      have reading := Scripted.read_feed_of_cons waiting later
      have handed : machine.device.read.2 = .ok input := by simp [Scripted.read, waiting]
      simp only [Machine.readDevice, Device.read?, fed, reading, handed]
      cases acceptReading width input with
      | error problem => exact .error rfl
      | ok value => exact .ok rfl rfl

/-- A machine with more inputs is the machine in a cast that makes no difference, except for a read
that finds no input. -/
theorem recasts : Recasts Fault.LacksInput id (Scripted.feed · later) where
  variant := fun _ => rfl
  maxSteps := fun _ => rfl
  readDevice := readDevice later
  writeDevice := by
    rintro width value machine _ rfl
    exact .ok rfl rfl
  skip := simulates_skip_of_strict (fun _ => rfl) _

theorem load (image : List UInt8) (address : Int) :
    Simulates Fault.LacksInput (IsFed later) Eq (Machine.load image address)
      (Machine.load image address) := by
  refine simulates_bind_eq ?_ fun _ => simulates_modify ?_
  · rintro machine _ rfl
    simp only [onMemory, fed]
    cases machine.memory.load image address with
    | error fault => exact .error rfl
    | ok memory => exact .ok rfl rfl
  · rintro machine _ rfl
    rfl

/-- A program that is loaded and run does not notice more inputs either. -/
theorem runProgram (supply : Nat) (program : List UInt8) (maxSteps : Option Int) :
    Simulates Fault.LacksInput (IsFed later) Eq (Machine.runProgram supply program maxSteps)
      (Machine.runProgram supply program maxSteps) := by
  refine simulates_bind_eq (load later program 0) ?_
  intro _ machine other fed
  exact (recasts later).runRespected.call (.run supply maxSteps) fed fun _ _ => trivial

end IsFed

/-- Inputs that a program does not read have no effect on it. If it ends otherwise than for want of
input, it ends in the same way when more inputs follow, and leaves the same machine, but for the
inputs: those not read are followed by the others. -/
theorem unread_input_has_no_effect (config : Config) (program : List UInt8)
    (inputs later : List Reading) (supply : Nat) (maxSteps : Option Int)
    (provided : ∀ fault,
      answerOf (runProgram supply program maxSteps (start config (Scripted.ofInputs inputs))) =
        .error fault → ¬fault.LacksInput) :
    let result := runProgram supply program maxSteps (start config (Scripted.ofInputs inputs))
    let longer :=
      runProgram supply program maxSteps (start config (Scripted.ofInputs (inputs ++ later)))
    let final := stateOf result
    answerOf longer = answerOf result ∧
      stateOf longer =
        { final with device := ⟨final.device.inputs ++ later, final.device.outputs⟩ } := by
  have fed : IsFed later (start config (Scripted.ofInputs inputs))
      (start config (Scripted.ofInputs (inputs ++ later))) := rfl
  obtain ⟨answer_eq, fed_after⟩ :=
    (IsFed.runProgram later supply program maxSteps _ _ fed).agree provided
  exact ⟨answer_eq.symm, fed_after⟩

/-- A machine for bytes with two cells of memory. -/
def twoCells : Config :=
  .ofVariant .byte (MemorySize.ofInt? 2)

/-- What a program of two bytes comes to that reads an input and halts. -/
def readOne (inputs : List Reading) : EStateM.Result Fault (Machine Scripted) (Option Event) :=
  runProgram 3 [0x01, 0xFF] none (start twoCells (Scripted.ofInputs inputs))

theorem unread_input_has_no_effect_after_read :
    answerOf (readOne [.number 5]) = .ok (some (.ranToHalt 1 2)) ∧
      answerOf (readOne [.number 5, .number 7]) = .ok (some (.ranToHalt 1 2)) ∧
      (stateOf (readOne [.number 5, .number 7])).device.inputs =
        (stateOf (readOne [.number 5])).device.inputs ++ [.number 7] := by
  have halts : answerOf (readOne [.number 5]) = .ok (some (.ranToHalt 1 2)) := by decide +kernel
  have provided (fault : Fault) (failed : answerOf (readOne [.number 5]) = .error fault) :
      ¬fault.LacksInput := by
    rw [halts] at failed
    cases failed
  obtain ⟨answer_eq, final_eq⟩ :=
    unread_input_has_no_effect twoCells [0x01, 0xFF] [.number 5] [.number 7] 3 none provided
  refine ⟨halts, answer_eq.trans halts, ?_⟩
  simp only [List.cons_append, List.nil_append] at final_eq
  simp only [readOne, final_eq]

end Machine

end ByteMachine
