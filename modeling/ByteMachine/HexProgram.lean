import ByteMachine.Text.Integer
import ByteMachine.Text.Line

/-!
# Hexadecimal programs

A program can be written as hexadecimal bytes separated by blanks. A semicolon or a number sign
begins a comment that ends with the line, and a byte may follow a dollar sign and a mark `0x`.
-/

namespace ByteMachine.HexProgram

open Text

/-- Why a token is no byte. -/
inductive Reason where
  /-- It has more than two characters. -/
  | tooLong
  /-- It is not a number from 0 to 255. -/
  | notHex
deriving DecidableEq, Repr

/-- A token that is no byte. -/
structure Problem where
  /-- Number of the line, from one on. -/
  line : Nat
  /-- The token without its marks. -/
  token : String
  /-- What is wrong with it. -/
  reason : Reason
deriving DecidableEq, Repr

/-- Wording of a problem. -/
def Problem.message (problem : Problem) : String :=
  match problem.reason with
  | .tooLong => s!"line {problem.line}: '{problem.token}' is not a byte"
  | .notHex => s!"line {problem.line}: invalid hex byte '{problem.token}'"

/-- A line up to its comment. -/
def withoutComment (line : List Char) : List Char :=
  line.takeWhile fun c => c != ';' && c != '#'

/-- A token without the marks before its digits, each of which may stand once. -/
def withoutMarks (token : List Char) : List Char :=
  dropStart ['0', 'X'] (dropStart ['0', 'x'] (dropStart ['$'] token))

/-- The byte that a token without marks stands for. -/
def byteOf (line : Nat) (token : List Char) : Except Problem UInt8 :=
  if 2 < token.length then .error ⟨line, String.ofList token, .tooLong⟩
  else
    match integerOfChars? .hexadecimal token with
    | none => .error ⟨line, String.ofList token, .notHex⟩
    | some value =>
      if 0 ≤ value ∧ value ≤ 255 then .ok (UInt8.ofInt value)
      else .error ⟨line, String.ofList token, .notHex⟩

/-- The bytes of a line. -/
def parseLine (number : Nat) (line : List Char) : Except Problem (List UInt8) :=
  (words (withoutComment line)).mapM fun token => byteOf number (withoutMarks token)

/-- The bytes of lines that are numbered from `number` on. -/
def parseLines (number : Nat) : List (List Char) → Except Problem (List UInt8)
  | [] => .ok []
  | line :: rest => do
    let bytes ← parseLine number line
    let others ← parseLines (number + 1) rest
    return bytes ++ others

/-- The program image that some characters stand for. -/
def parseChars (text : List Char) : Except Problem (List UInt8) :=
  parseLines 1 (lines text)

/-- The program image that a text stands for. -/
def parse (text : String) : Except Problem (List UInt8) :=
  parseChars text.toList

end ByteMachine.HexProgram
