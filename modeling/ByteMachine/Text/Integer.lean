import ByteMachine.Text.Blank
import ByteMachine.Text.Digit

/-!
# Integers in text

An integer is written as an optional sign and digits, with single underscores between digits and
blanks around it. Decimal digits of any script count. In the `marked` base the digits follow a mark
such as `0x`, and a plain number is decimal and may not begin with a zero unless it is zero.

Only reading knows a limit on the number of decimal digits. Wherever an integer is worded, in a
message or a report, it is written out in full however long it is.
-/

namespace ByteMachine.Text

/-- How the digits of an integer are read. -/
inductive Radix where
  /-- Base ten. -/
  | decimal
  /-- Base sixteen, with or without the mark `0x`. -/
  | hexadecimal
  /-- The base that the mark `0x`, `0o` or `0b` names, or else base ten. -/
  | marked
deriving DecidableEq, Repr

/-- The most digits that a decimal integer may have where it is read. -/
def maxDecimalDigits : Nat := 4300

/-- The value of a basic digit or letter, where `a` stands for ten. -/
def basicDigit? (c : Char) : Option Nat :=
  if c.isDigit then some (c.toNat - '0'.toNat)
  else if c.isLower then some (c.toNat - 'a'.toNat + 10)
  else if c.isUpper then some (c.toNat - 'A'.toNat + 10)
  else none

/-- The basic character that stands for a digit or a blank of another script. -/
def toBasic (c : Char) : Char :=
  if c.toNat < 0x7F then c
  else if isBlank c then ' '
  else
    match decimalValue? c with
    | some value => Char.ofNat ('0'.toNat + value)
    | none => c

/-- A blank that may surround an integer, once other scripts have been reduced to basic ones. -/
def isMargin (c : Char) : Bool :=
  c == ' ' || (0x09 ≤ c.toNat && c.toNat ≤ 0x0D)

/-- Reads digits that continue a number, where `afterDigit` tells whether the character before was
one: an underscore needs a digit on both sides. -/
def continueDigits (base : Nat) (afterDigit : Bool) (value : Nat) : List Char → Option Nat
  | [] => if afterDigit then some value else none
  | '_' :: rest => if afterDigit then continueDigits base false value rest else none
  | c :: rest =>
    match basicDigit? c with
    | some digit =>
      if digit < base then continueDigits base true (value * base + digit) rest else none
    | none => none

/-- Reads a whole number in the given base. -/
def digits? (base : Nat) (text : List Char) : Option Nat :=
  continueDigits base false 0 text

/-- Reads a decimal number that is not too long. -/
def decimalDigits? (text : List Char) : Option Nat :=
  if (text.filter (· ≠ '_')).length ≤ maxDecimalDigits then digits? 10 text else none

/-- One underscore may follow the mark of a base. -/
def afterMark : List Char → List Char
  | '_' :: rest => rest
  | rest => rest

/-- Reads a number without its sign. -/
def magnitude? (radix : Radix) (text : List Char) : Option Nat :=
  match radix, text with
  | .hexadecimal, '0' :: 'x' :: rest => digits? 16 (afterMark rest)
  | .hexadecimal, '0' :: 'X' :: rest => digits? 16 (afterMark rest)
  | .hexadecimal, rest => digits? 16 rest
  | .marked, '0' :: 'x' :: rest => digits? 16 (afterMark rest)
  | .marked, '0' :: 'X' :: rest => digits? 16 (afterMark rest)
  | .marked, '0' :: 'o' :: rest => digits? 8 (afterMark rest)
  | .marked, '0' :: 'O' :: rest => digits? 8 (afterMark rest)
  | .marked, '0' :: 'b' :: rest => digits? 2 (afterMark rest)
  | .marked, '0' :: 'B' :: rest => digits? 2 (afterMark rest)
  | .marked, '0' :: rest => (decimalDigits? ('0' :: rest)).filter (· = 0)
  | _, rest => decimalDigits? rest

/-- Reads the characters of an integer. -/
def integerOfChars? (radix : Radix) (text : List Char) : Option Int :=
  match trimBy isMargin (text.map toBasic) with
  | '-' :: rest => (magnitude? radix rest).map fun n => -(n : Int)
  | '+' :: rest => (magnitude? radix rest).map Int.ofNat
  | rest => (magnitude? radix rest).map Int.ofNat

/-- Reads an integer. -/
def integer? (radix : Radix) (text : String) : Option Int :=
  integerOfChars? radix text.toList

end ByteMachine.Text
