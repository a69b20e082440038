/-!
# Hexadecimal text

Numbers are written with upper-case digits and padded with zeros to a least width, in which a
minus sign counts as one character. A number wider than the field keeps all its digits.
-/

namespace ByteMachine.Text

/-- Upper-case digits of a natural number in base sixteen, most significant first. -/
def hexDigits (n : Nat) : List Char :=
  (Nat.toDigits 16 n).map Char.toUpper

/-- The characters of `hex`. -/
def hexChars (width : Nat) (n : Int) : List Char :=
  let sign := if n < 0 then ['-'] else []
  let digits := hexDigits n.natAbs
  sign ++ List.replicate (width - sign.length - digits.length) '0' ++ digits

/-- An integer in hexadecimal, at least `width` characters wide. -/
def hex (width : Nat) (n : Int) : String :=
  String.ofList (hexChars width n)

/-- Blanks are added on the right until the text is `width` characters long. -/
def padRight (width : Nat) (text : String) : String :=
  text ++ String.ofList (List.replicate (width - text.length) ' ')

end ByteMachine.Text
