import ByteMachine.RegisterFile
import ByteMachine.Text.Quoted

/-!
# Conditions on registers

A condition compares a register, the pair B:C or a flag with a constant. Conditions are made from
text, where the operand is looked at before the comparison.
-/

namespace ByteMachine

/-- What a condition looks at. -/
inductive Operand where
  /-- A register. -/
  | register (register : Register)
  /-- The pair B:C. -/
  | pair
  /-- A flag. -/
  | flag (flag : Flag)
deriving DecidableEq, Repr

namespace Operand

/-- Every operand, in the order of their names. -/
def all : List Operand :=
  [.register .a, .register .b, .pair, .register .c, .register .d, .register .fl, .flag .overflow,
    .flag .sign, .flag .zero, .register .i, .register .pc]

/-- Name of an operand. -/
def name : Operand → String
  | .register which => which.key
  | .pair => "bc"
  | .flag which => "flag_" ++ which.key

/-- The operand with a given name, whatever the case of its letters. No letter outside the basic
alphabet becomes part of a name in lower case. -/
def ofName? (name : String) : Option Operand :=
  let key := String.ofList (name.toList.map Char.toLower)
  all.find? fun operand => operand.name == key

/-- The registers that an operand reads. -/
def registers : Operand → List Register
  | .register which => [which]
  | .pair => [.b, .c]
  | .flag _ => [.fl]

/-- Value of an operand, where a flag counts as one or zero. -/
def value (operand : Operand) (file : RegisterFile) : Except Fault Int :=
  match operand with
  | .register which => (file.read which.number).map fun byte => (byte.toNat : Int)
  | .pair => file.readPair.map Int.ofNat
  | .flag which => .ok (if file.values.flag which then 1 else 0)

end Operand

/-- How an operand is compared with a constant. -/
inductive Comparison where
  /-- The two are equal. -/
  | eq
  /-- The two differ. -/
  | ne
  /-- The operand is less. -/
  | lt
  /-- The operand is not greater. -/
  | le
  /-- The operand is greater. -/
  | gt
  /-- The operand is not less. -/
  | ge
  /-- The two have a bit in common. -/
  | bits
deriving DecidableEq, Repr

namespace Comparison

/-- Every comparison, in the order of their symbols. -/
def all : List Comparison := [.ne, .bits, .lt, .le, .eq, .gt, .ge]

/-- Symbol of a comparison. -/
def symbol : Comparison → String
  | .eq => "=="
  | .ne => "!="
  | .lt => "<"
  | .le => "<="
  | .gt => ">"
  | .ge => ">="
  | .bits => "&"

/-- The comparison with a given symbol. -/
def ofSymbol? (symbol : String) : Option Comparison :=
  all.find? fun comparison => comparison.symbol == symbol

/-- Whether a comparison holds. Operands are words, so only the low sixteen bits of the constant
can be in common with one. -/
def holds (comparison : Comparison) (operand constant : Int) : Bool :=
  match comparison with
  | .eq => operand == constant
  | .ne => operand != constant
  | .lt => operand < constant
  | .le => operand ≤ constant
  | .gt => constant < operand
  | .ge => constant ≤ operand
  | .bits => operand.toNat &&& (constant % 65536).toNat != 0

end Comparison

/-- A constant in a condition. -/
inductive Constant where
  /-- An integer. -/
  | number (value : Int)
  /-- A truth value. -/
  | truth (value : Bool)
deriving DecidableEq, Repr

namespace Constant

/-- The number that a constant stands for. -/
def value : Constant → Int
  | .number value => value
  | .truth value => if value then 1 else 0

/-- Wording of a constant. -/
def shown : Constant → String
  | .number value => toString value
  | .truth value => if value then "True" else "False"

end Constant

/-- A condition on the registers of a machine. -/
structure Condition where
  /-- What it looks at. -/
  operand : Operand
  /-- How it compares. -/
  comparison : Comparison
  /-- What it compares with. -/
  constant : Constant
  /-- Wording of the condition. -/
  description : String
deriving DecidableEq, Repr

namespace Condition

/-- Why a text is no condition. -/
inductive Problem where
  /-- No operand has the name. -/
  | unknownOperand (name : String)
  /-- No comparison has the symbol. -/
  | unknownComparison (symbol : String)
  /-- The condition reads registers that the variant lacks. -/
  | unavailable (operand : String) (missing : List Register) (variant : String)
deriving DecidableEq, Repr

/-- Wording of a problem. -/
def Problem.message : Problem → String
  | .unknownOperand name =>
    s!"Unknown register '{name}'. Valid registers: " ++
      String.intercalate ", " (Operand.all.map Operand.name)
  | .unknownComparison symbol =>
    s!"Unknown operator '{symbol}'. Valid operators: " ++
      String.intercalate ", " (Comparison.all.map Comparison.symbol)
  | .unavailable operand missing variant =>
    s!"Condition on '{operand}' needs register " ++
      String.intercalate ", " (missing.map Register.name) ++
      s!", not available on the {variant} variant"

/-- The condition that a text asks for. An empty description is replaced by the text itself. -/
def parse (operand comparison : String) (constant : Constant) (description : String) :
    Except Problem Condition :=
  match Operand.ofName? operand with
  | none => .error (.unknownOperand operand)
  | some knownOperand =>
    match Comparison.ofSymbol? comparison with
    | none => .error (.unknownComparison comparison)
    | some knownComparison =>
      let wording :=
        if description.isEmpty then s!"{operand} {comparison} {constant.shown}" else description
      .ok ⟨knownOperand, knownComparison, constant, wording⟩

/-- Whether a condition holds of a register file. -/
def holds (condition : Condition) (file : RegisterFile) : Except Fault Bool :=
  (condition.operand.value file).map fun value =>
    condition.comparison.holds value condition.constant.value

/-- A condition as a programmer would write it. -/
def summary (condition : Condition) : String :=
  let parts := [Text.quote condition.operand.name, Text.quote condition.comparison.symbol,
    condition.constant.shown]
  "RegisterCondition(" ++ String.intercalate ", " parts ++ ")"

end Condition

end ByteMachine
