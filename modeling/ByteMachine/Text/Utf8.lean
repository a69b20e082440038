import ByteMachine.Text.Quoted

/-!
# UTF-8 text

Bytes are decoded strictly: no overlong forms, no surrogates and nothing beyond the last code. A
failure names the bytes that cannot be part of a text and why.
-/

namespace ByteMachine.Text

/-- Why bytes are not UTF-8. -/
inductive DecodeReason where
  /-- No character begins with the byte. -/
  | invalidStart
  /-- A byte does not continue the character begun before it. -/
  | invalidContinuation
  /-- The bytes end within a character. -/
  | unexpectedEnd
deriving DecidableEq, Repr

/-- Wording of a reason. -/
def DecodeReason.text : DecodeReason → String
  | .invalidStart => "invalid start byte"
  | .invalidContinuation => "invalid continuation byte"
  | .unexpectedEnd => "unexpected end of data"

/-- The first stretch of bytes that is not UTF-8. -/
structure DecodeFailure where
  /-- Position of its first byte. -/
  start : Nat
  /-- Its first byte. -/
  lead : UInt8
  /-- How many bytes it has. -/
  length : Nat
  /-- Why it is refused. -/
  reason : DecodeReason
deriving DecidableEq, Repr

/-- Wording of a failure. -/
def DecodeFailure.message (failure : DecodeFailure) : String :=
  let place :=
    if failure.length = 1 then
      "byte 0x" ++ String.ofList (lowerHex 2 failure.lead.toNat) ++
        s!" in position {failure.start}"
    else
      s!"bytes in position {failure.start}-{failure.start + failure.length - 1}"
  "'utf-8' codec can't decode " ++ place ++ ": " ++ failure.reason.text

/-- A character of which some bytes have been read. -/
structure PartialChar where
  /-- Position of its first byte. -/
  start : Nat
  /-- Its first byte. -/
  lead : UInt8
  /-- How many bytes have been read. -/
  seen : Nat
  /-- How many bytes are still owed. -/
  owed : Nat
  /-- The bits read so far. -/
  code : Nat
  /-- Least value of the next byte. -/
  low : Nat
  /-- Greatest value of the next byte. -/
  high : Nat
deriving Repr

/-- The character that a byte of at least `0x80` begins. -/
def PartialChar.begin? (start : Nat) (lead : UInt8) : Option PartialChar :=
  let n := lead.toNat
  if n < 0xC2 then none
  else if n < 0xE0 then some ⟨start, lead, 1, 1, n - 0xC0, 0x80, 0xBF⟩
  else if n = 0xE0 then some ⟨start, lead, 1, 2, 0, 0xA0, 0xBF⟩
  else if n = 0xED then some ⟨start, lead, 1, 2, 0xD, 0x80, 0x9F⟩
  else if n < 0xF0 then some ⟨start, lead, 1, 2, n - 0xE0, 0x80, 0xBF⟩
  else if n = 0xF0 then some ⟨start, lead, 1, 3, 0, 0x90, 0xBF⟩
  else if n < 0xF4 then some ⟨start, lead, 1, 3, n - 0xF0, 0x80, 0xBF⟩
  else if n = 0xF4 then some ⟨start, lead, 1, 3, 4, 0x80, 0x8F⟩
  else none

/-- Decodes the bytes from a position on, where `pending` is the character begun before it. -/
def decodeFrom (position : Nat) (pending : Option PartialChar) :
    List UInt8 → Except DecodeFailure (List Char)
  | [] =>
    match pending with
    | none => .ok []
    | some char => .error ⟨char.start, char.lead, char.seen, .unexpectedEnd⟩
  | byte :: rest =>
    match pending with
    | none =>
      if byte < 0x80 then
        (decodeFrom (position + 1) none rest).map (Char.ofNat byte.toNat :: ·)
      else
        match PartialChar.begin? position byte with
        | none => .error ⟨position, byte, 1, .invalidStart⟩
        | some char => decodeFrom (position + 1) (some char) rest
    | some char =>
      if char.low ≤ byte.toNat ∧ byte.toNat ≤ char.high then
        let code := char.code * 64 + (byte.toNat - 0x80)
        if char.owed ≤ 1 then
          (decodeFrom (position + 1) none rest).map (Char.ofNat code :: ·)
        else
          decodeFrom (position + 1)
            (some ⟨char.start, char.lead, char.seen + 1, char.owed - 1, code, 0x80, 0xBF⟩) rest
      else
        .error ⟨char.start, char.lead, char.seen, .invalidContinuation⟩

/-- Decodes a whole text. -/
def decodeUtf8 (bytes : List UInt8) : Except DecodeFailure (List Char) :=
  decodeFrom 0 none bytes

end ByteMachine.Text
