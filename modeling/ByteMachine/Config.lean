import ByteMachine.Variant

/-!
# Configuration

A configuration says which machine to build and how it runs. It is made by overriding the standard
configuration with settings, each of which may be left open; a configuration is valid by its type,
and settings are checked in the order of their fields.
-/

namespace ByteMachine

/-- Settings as they are asked for, before any check. -/
structure Settings where
  /-- Name of the variant. -/
  variant : Option String
  /-- Number of memory cells. -/
  memorySize : Option Int
  /-- Whether unknown opcodes are faults. -/
  strictOpcodes : Option Bool
  /-- Step limit of a run. -/
  maxSteps : Option Int
deriving DecidableEq, Repr

/-- Settings that leave everything open. -/
def Settings.empty : Settings := ⟨none, none, none, none⟩

/-- A configuration of the machine. -/
structure Config where
  /-- Name under which the variant was asked for. -/
  variantName : String
  /-- The variant. -/
  variant : Variant
  /-- The name selects the variant. -/
  named : Variant.ofName? variantName = some variant
  /-- Memory size, if it is not the usual one of the variant. -/
  memorySize : Option MemorySize
  /-- Whether unknown opcodes are faults; otherwise they are skipped. -/
  strictOpcodes : Bool
  /-- Step limit of a run, if it has one. -/
  maxSteps : Option Nat
deriving DecidableEq, Repr

namespace Config

/-- Why a setting is refused. -/
inductive Problem where
  /-- No variant has the name. -/
  | variant (name : String)
  /-- No memory has the size. -/
  | memorySize (cells : Int)
  /-- A step limit is not negative. -/
  | maxSteps (steps : Int)
deriving DecidableEq, Repr

/-- Wording of a problem. -/
def Problem.message : Problem → String
  | .variant name => Variant.refusal name
  | .memorySize cells => MemorySize.refusal cells
  | .maxSteps steps => s!"max_steps must be >= 0, got {steps}"

/-- The configuration in which a variant, under its short name, and a memory size are all that is
chosen. -/
def ofVariant (variant : Variant) (memorySize : Option MemorySize) : Config :=
  ⟨variant.code, variant, variant.ofName?_code, memorySize, true, none⟩

/-- The configuration when nothing is asked for. -/
def standard : Config :=
  ofVariant .word none

/-- Size of the memory of a configured machine. -/
def effectiveMemorySize (config : Config) : MemorySize :=
  config.memorySize.getD config.variant.defaultMemorySize

/-- A variant with a name that selects it. -/
structure NamedVariant where
  /-- The name. -/
  name : String
  /-- The variant. -/
  variant : Variant
  /-- The name selects the variant. -/
  named : Variant.ofName? name = some variant

/-- The variant of a configuration, under the name by which it was asked for. -/
def namedVariant (config : Config) : NamedVariant :=
  ⟨config.variantName, config.variant, config.named⟩

/-- The variant that a name selects, with the name. -/
def namedVariant? (name : String) : Option NamedVariant :=
  match named : Variant.ofName? name with
  | some variant => some ⟨name, variant, named⟩
  | none => none

/-- Chooses the variant by its name. -/
def withVariant (config : Config) (name : String) : Except Problem Config :=
  match namedVariant? name with
  | some chosen =>
    .ok { config with
      variantName := chosen.name
      variant := chosen.variant
      named := chosen.named }
  | none => .error (.variant name)

/-- Chooses the memory size. -/
def withMemorySize (config : Config) (cells : Int) : Except Problem Config :=
  match MemorySize.ofInt? cells with
  | some size => .ok { config with memorySize := some size }
  | none => .error (.memorySize cells)

/-- Chooses the step limit. -/
def withMaxSteps (config : Config) (steps : Int) : Except Problem Config :=
  if 0 ≤ steps then .ok { config with maxSteps := some steps.toNat }
  else .error (.maxSteps steps)

/-- Applies a choice if it is made. -/
def applyIfSet {α : Type} (choose : Config → α → Except Problem Config) (setting : Option α)
    (config : Config) : Except Problem Config :=
  match setting with
  | none => .ok config
  | some value => choose config value

/-- A configuration with the given settings in place of its own. -/
def override (config : Config) (settings : Settings) : Except Problem Config := do
  let config ← applyIfSet withVariant settings.variant config
  let config ← applyIfSet withMemorySize settings.memorySize config
  let config ← applyIfSet withMaxSteps settings.maxSteps config
  return { config with strictOpcodes := settings.strictOpcodes.getD config.strictOpcodes }

end Config

end ByteMachine
