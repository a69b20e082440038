import ByteMachine.Text.Split

/-!
# Lines of a text

A line ends at a line feed, at a carriage return with or without a line feed after it, and at the
other line separators of the Unicode standard. The text after the last break is a line only if it
is not empty.
-/

namespace ByteMachine.Text

/-- A character that ends a line. -/
def isLineBreak (c : Char) : Bool :=
  let n := c.toNat
  (0x0A ≤ n && n ≤ 0x0D) || (0x1C ≤ n && n ≤ 0x1E) || n == 0x85 || n == 0x2028 || n == 0x2029

/-- The lines of a text without their ends. -/
def lines : List Char → List (List Char)
  | [] => []
  | '\r' :: '\n' :: rest => [] :: lines rest
  | c :: rest => if isLineBreak c then [] :: lines rest else extendFirst c (lines rest)

/-- The lines of a text in which only line feeds, carriage returns and the pair of both end a
line, as terminals and text files are read. -/
def terminalLines : List Char → List (List Char)
  | [] => []
  | '\r' :: '\n' :: rest => [] :: terminalLines rest
  | c :: rest =>
    if c == '\n' || c == '\r' then [] :: terminalLines rest
    else extendFirst c (terminalLines rest)

end ByteMachine.Text
