/-!
# Words

A word is a pair of bytes, the high byte first. Integers of any size and sign are reduced modulo
256 to a byte and modulo 65536 to a word.
-/

namespace ByteMachine.Word

/-- High byte of an integer reduced to a word. -/
def high (value : Int) : UInt8 :=
  UInt8.ofInt (value / 256)

/-- Low byte of an integer reduced to a word. -/
def low (value : Int) : UInt8 :=
  UInt8.ofInt value

/-- The word with the given high and low bytes. -/
def join (high low : UInt8) : Nat :=
  high.toNat * 256 + low.toNat

end ByteMachine.Word
