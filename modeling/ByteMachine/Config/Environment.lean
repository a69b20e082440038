import ByteMachine.Config
import ByteMachine.Text.Integer
import ByteMachine.Text.Quoted

/-!
# Configuration from the environment

Four environment variables give a configuration, each its own field. A variable that is not set or
empty leaves the standard value, and so does one whose value is not valid, with a warning.
-/

namespace ByteMachine

/-- The variables that are set, each with its value. -/
abbrev Environment : Type := List (String × String)

namespace Config

/-- A variable whose value is not valid. -/
structure Warning where
  /-- Name of the variable. -/
  name : String
  /-- Its value. -/
  value : String
deriving DecidableEq, Repr

/-- Wording of a warning. -/
def Warning.message (warning : Warning) : String :=
  s!"Ignoring {warning.name}={Text.quote warning.value}"

/-- What a variable contributes: its meaning if it is valid, or a warning if it is not. -/
structure Contribution (α : Type) where
  /-- Meaning of the value. -/
  meaning : Option α
  /-- Warnings about the value. -/
  warnings : List Warning

/-- Reads one variable. -/
def contribution {α : Type} (environment : Environment) (name : String)
    (meaning? : String → Option α) : Contribution α :=
  match environment.lookup name with
  | none => ⟨none, []⟩
  | some value =>
    if value.isEmpty then ⟨none, []⟩
    else
      match meaning? value with
      | some meaning => ⟨some meaning, []⟩
      | none => ⟨none, [⟨name, value⟩]⟩

/-- A memory size, in any marked base. -/
def memorySizeOfText? (text : String) : Option MemorySize :=
  (Text.integer? .marked text).bind MemorySize.ofInt?

/-- A step limit, in base ten. -/
def stepLimitOfText? (text : String) : Option Nat :=
  (Text.integer? .decimal text).bind fun steps => if 0 ≤ steps then some steps.toNat else none

/-- A truth value in words, whatever the case of its letters. No letter outside the basic alphabet
becomes one of these words in lower case. -/
def truthOfText? (text : String) : Option Bool :=
  let word := String.ofList (text.toList.map Char.toLower)
  if word ∈ ["1", "true", "yes", "on"] then some true
  else if word ∈ ["0", "false", "no", "off"] then some false
  else none

/-- The configuration that an environment gives, with the warnings in the order of the variables. -/
def ofEnvironment (environment : Environment) : Config × List Warning :=
  let variant := contribution environment "BYTEVM_VARIANT" namedVariant?
  let size := contribution environment "BYTEVM_MEMORY_SIZE" memorySizeOfText?
  let steps := contribution environment "BYTEVM_MAX_STEPS" stepLimitOfText?
  let strict := contribution environment "BYTEVM_STRICT_OPCODES" truthOfText?
  let chosen := variant.meaning.getD standard.namedVariant
  (⟨chosen.name, chosen.variant, chosen.named, size.meaning,
      strict.meaning.getD standard.strictOpcodes, steps.meaning⟩,
    variant.warnings ++ size.warnings ++ steps.warnings ++ strict.warnings)

end Config

end ByteMachine
