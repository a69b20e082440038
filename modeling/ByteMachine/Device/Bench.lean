import ByteMachine.Device.Scripted

/-!
# Test bench

A bench is a scripted device wired in one of several ways, some of them faulty, so that a machine
can be tried out on devices that lack operations, fail, or ask for breaks.
-/

namespace ByteMachine

/-- How a bench is wired. -/
inductive Wiring where
  /-- Everything works. -/
  | complete
  /-- There are no operations on words. -/
  | bytesOnly
  /-- There are no operations at all. -/
  | disconnected
  /-- Every write fails with a message of the system. -/
  | failing (text : String)
  /-- Every write asks for a break after it is done. -/
  | interrupting
deriving DecidableEq, Repr

/-- A scripted device and its wiring. -/
structure Bench where
  /-- How it is wired. -/
  wiring : Wiring
  /-- The device behind the wires. -/
  script : Scripted
deriving DecidableEq, Repr

namespace Bench

/-- A bench with the given inputs, of which a disconnected one starts with none. -/
def ofInputs (wiring : Wiring) (inputs : List Reading) : Bench :=
  ⟨wiring, .ofInputs (if wiring = .disconnected then [] else inputs)⟩

/-- Adds inputs to the device behind the wires. -/
def feed (bench : Bench) (inputs : List Reading) : Bench :=
  { bench with script := bench.script.feed inputs }

/-- Whether the wiring leads to the operations on values of some width. -/
def isWired (bench : Bench) (width : Width) : Bool :=
  match bench.wiring, width with
  | .disconnected, _ => false
  | .bytesOnly, .word => false
  | _, _ => true

end Bench

instance : Device Bench where
  read? width bench :=
    if bench.isWired width then
      some ⟨{ bench with script := bench.script.read.1 }, bench.script.read.2, false⟩
    else none
  write? width value bench :=
    if bench.isWired width then
      match bench.wiring with
      | .failing text => some ⟨bench, .error ⟨.system, text⟩, false⟩
      | wiring =>
        some ⟨{ bench with script := bench.script.write value }, .ok (), wiring = .interrupting⟩
    else none

end ByteMachine
