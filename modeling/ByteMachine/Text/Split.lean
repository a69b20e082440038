/-!
# Cutting a text into pieces

A text is cut at each character of a class. There is always one piece more than there are cuts, and
pieces may be empty.
-/

namespace ByteMachine.Text

/-- Puts a character in front of the first of some pieces. -/
def extendFirst (c : Char) : List (List Char) → List (List Char)
  | [] => [[c]]
  | piece :: others => (c :: piece) :: others

/-- The pieces of a text between the characters of a class. -/
def splitBy (isCut : Char → Bool) : List Char → List (List Char)
  | [] => [[]]
  | c :: rest =>
    if isCut c then [] :: splitBy isCut rest else extendFirst c (splitBy isCut rest)

/-- The rest of a text after `start`, or the whole text if it does not begin so. -/
def dropStart (start text : List Char) : List Char :=
  (start.isPrefixOf? text).getD text

end ByteMachine.Text
