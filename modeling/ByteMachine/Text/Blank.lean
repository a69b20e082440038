import ByteMachine.Text.Split

/-!
# Blank characters

The blanks of the Unicode standard together with the control characters that separate lines,
files, groups, records and units. Text is trimmed of them and split at them.
-/

namespace ByteMachine.Text

/-- A character that separates words. -/
def isBlank (c : Char) : Bool :=
  let n := c.toNat
  (0x09 ≤ n && n ≤ 0x0D) || (0x1C ≤ n && n ≤ 0x20) || n == 0x85 || n == 0xA0 || n == 0x1680 ||
    (0x2000 ≤ n && n ≤ 0x200A) || n == 0x2028 || n == 0x2029 || n == 0x202F || n == 0x205F ||
    n == 0x3000

/-- What is left of a text when the characters of a class are dropped at both ends. -/
def trimBy (isDropped : Char → Bool) (text : List Char) : List Char :=
  ((text.dropWhile isDropped).reverse.dropWhile isDropped).reverse

/-- A text without the blanks at its ends. -/
def trim (text : List Char) : List Char :=
  trimBy isBlank text

/-- The nonempty stretches between blanks, in order. -/
def words (text : List Char) : List (List Char) :=
  (splitBy isBlank text).filter fun word => !word.isEmpty

end ByteMachine.Text
