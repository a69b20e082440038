import ByteMachine.Device

/-!
# Scripted devices

A scripted device hands over the values of a list, whatever their width and kind, and keeps what is
written to it.
-/

namespace ByteMachine

/-- A device that works from a list of inputs. -/
structure Scripted where
  /-- The inputs not yet read, the next one first. -/
  inputs : List Reading
  /-- The outputs written so far, in order. -/
  outputs : List Int
deriving DecidableEq, Repr

namespace Scripted

/-- A device with the given inputs that has written nothing. -/
def ofInputs (inputs : List Reading) : Scripted := ⟨inputs, []⟩

/-- Adds inputs behind those not yet read. -/
def feed (device : Scripted) (inputs : List Reading) : Scripted :=
  { device with inputs := device.inputs ++ inputs }

/-- The failure of a read when no input is left. -/
def exhausted : Device.Failure := ⟨.exhausted, "no input left"⟩

/-- Takes the next input. -/
def read (device : Scripted) : Scripted × Except Device.Failure Reading :=
  match device.inputs with
  | [] => (device, .error exhausted)
  | input :: rest => ({ device with inputs := rest }, .ok input)

/-- Keeps an output. -/
def write (device : Scripted) (value : Int) : Scripted :=
  { device with outputs := device.outputs ++ [value] }

/-- The output written last. -/
def lastOutput? (device : Scripted) : Option Int :=
  device.outputs.getLast?

end Scripted

instance : Device Scripted where
  read? _ device := some ⟨device.read.1, device.read.2, false⟩
  write? _ value device := some ⟨device.write value, .ok (), false⟩

end ByteMachine
