import ByteMachine.Text.Printable

/-!
# Quoted text

A text is shown between single quotes, or between double quotes when it holds a single quote and no
double one. Characters that would not show as themselves are written as escapes.
-/

namespace ByteMachine.Text

/-- Lower-case hexadecimal digits of `n`, padded with zeros to `width` of them. -/
def lowerHex (width n : Nat) : List Char :=
  let digits := Nat.toDigits 16 n
  List.replicate (width - digits.length) '0' ++ digits

/-- The quote mark that needs the fewest escapes. -/
def quoteMark (text : List Char) : Char :=
  if text.contains '\'' && !text.contains '"' then '"' else '\''

/-- One character of a text quoted with `mark`. -/
def escapeChar (mark c : Char) : List Char :=
  if c = mark ∨ c = '\\' then ['\\', c]
  else if c = '\n' then ['\\', 'n']
  else if c = '\r' then ['\\', 'r']
  else if c = '\t' then ['\\', 't']
  else if isPrintable c then [c]
  else if c.toNat < 0x100 then '\\' :: 'x' :: lowerHex 2 c.toNat
  else if c.toNat < 0x10000 then '\\' :: 'u' :: lowerHex 4 c.toNat
  else '\\' :: 'U' :: lowerHex 8 c.toNat

/-- A text between quote marks. -/
def quote (text : String) : String :=
  let chars := text.toList
  let mark := quoteMark chars
  String.ofList (mark :: chars.flatMap (escapeChar mark) ++ [mark])

/-- The text of several messages given as one: nothing for none, the message itself for one, and
otherwise their quoted forms in brackets. -/
def together : List String → String
  | [] => ""
  | [message] => message
  | messages => "(" ++ String.intercalate ", " (messages.map quote) ++ ")"

end ByteMachine.Text
