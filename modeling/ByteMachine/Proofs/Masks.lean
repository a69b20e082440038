import Mathlib.Data.Int.Bitwise
import ByteMachine.Proofs.Effect

/-!
# Registers, the pair and masks

What is written to a register is read back modulo 256, and what is written to the pair B:C modulo
65536. Flags are changed and tested by masks, which are integers of any size and sign. All that is
said of masks follows from their single bits; a negative mask has every bit from some place on, and
so never fits the flag register.
-/

namespace ByteMachine

/-! ## Single bits of integers -/

section Bits

variable {value other : Int}

/-- An integer of either sign keeps its lowest bits when it is reduced modulo a power of two. -/
theorem testBit_emod_two_pow (value : Int) (width bit : Nat) :
    (value % (2 ^ width : Nat)).toNat.testBit bit =
      (decide (bit < width) && value.testBit bit) := by
  cases value with
  | ofNat magnitude => exact Nat.testBit_mod_two_pow magnitude width bit
  | negSucc magnitude =>
      have positive : 0 < 2 ^ width := Nat.two_pow_pos width
      have small : magnitude % 2 ^ width < 2 ^ width := Nat.mod_lt _ positive
      have reduced : (Int.negSucc magnitude % (2 ^ width : Nat)).toNat =
          2 ^ width - (magnitude % 2 ^ width + 1) := by
        rw [Int.negSucc_emod _ (Int.natCast_pos.mpr positive)]
        omega
      rw [reduced, Nat.testBit_two_pow_sub_succ small, Nat.testBit_mod_two_pow]
      cases bits : decide (bit < width) <;> simp [Int.testBit]

/-- Only zero has no bit set. -/
theorem eq_zero_of_testBit (clear : ∀ bit, value.testBit bit = false) : value = 0 := by
  cases value with
  | ofNat magnitude => exact congrArg Int.ofNat (Nat.zero_of_testBit_eq_false clear)
  | negSucc magnitude =>
      have beyond : magnitude.testBit magnitude = false :=
        Nat.testBit_lt_two_pow Nat.lt_two_pow_self
      have set := clear magnitude
      rw [Int.testBit, beyond] at set
      cases set

theorem land_eq_zero_iff :
    value.land other = 0 ↔ ∀ bit, value.testBit bit = true → other.testBit bit = false := by
  constructor
  · intro apart bit here
    have common := Int.testBit_land value other bit
    rw [apart, here, Bool.true_and] at common
    rw [← common]
    exact Nat.zero_testBit bit
  · intro apart
    apply eq_zero_of_testBit
    intro bit
    rw [Int.testBit_land]
    cases here : value.testBit bit with
    | false => rfl
    | true => exact apart bit here

/-- A byte has no bit beyond the eighth. -/
theorem testBit_byte {bit : Nat} (high : 8 ≤ bit) (byte : UInt8) :
    byte.toNat.testBit bit = false :=
  Nat.testBit_lt_two_pow
    (Nat.lt_of_lt_of_le byte.toNat_lt (Nat.pow_le_pow_right Nat.two_pos high))

theorem testBit_ofInt (value : Int) (bit : Nat) :
    (UInt8.ofInt value).toNat.testBit bit = (decide (bit < 8) && value.testBit bit) := by
  have reduced : (UInt8.ofInt value).toNat = (value % (2 ^ 8 : Nat)).toNat := by
    rw [UInt8.ofInt, UInt8.toNat_ofNat']
    omega
  rw [reduced, testBit_emod_two_pow]

theorem testBit_not {bit : Nat} (low : bit < 8) (byte : UInt8) :
    (~~~byte).toNat.testBit bit = !byte.toNat.testBit bit := by
  have complement : (~~~byte).toNat = 2 ^ 8 - (byte.toNat + 1) := by
    rw [UInt8.toNat_not, UInt8.size]
    omega
  rw [complement, Nat.testBit_two_pow_sub_succ byte.toNat_lt, decide_eq_true low, Bool.true_and]

end Bits

/-! ## Masks on the flag register -/

namespace Registers

variable {registers after : Registers} {mask other : Int}

/-- A mask is found if the flag register has all its bits. -/
theorem testMask_iff :
    registers.testMask mask = true ↔
      ∀ bit, mask.testBit bit = true → registers.fl.toNat.testBit bit = true := by
  cases mask with
  | ofNat bits =>
      have found_iff : registers.testMask (Int.ofNat bits) = true ↔
          registers.fl.toNat &&& bits = bits := by simp [testMask]
      rw [found_iff]
      constructor
      · intro found bit here
        have both := Nat.testBit_and registers.fl.toNat bits bit
        rw [found] at both
        change bits.testBit bit = true at here
        rw [here, Bool.and_true] at both
        exact both.symm
      · intro contained
        apply Nat.eq_of_testBit_eq
        intro bit
        rw [Nat.testBit_and]
        cases here : bits.testBit bit with
        | false => exact Bool.and_false _
        | true => rw [contained bit here, Bool.true_and]
  | negSucc bits =>
      -- the mask has a bit that no byte has
      have beyond : (Int.negSucc bits).testBit (bits + 8) = true := by
        have small : bits < 2 ^ (bits + 8) :=
          Nat.lt_of_lt_of_le Nat.lt_two_pow_self (Nat.pow_le_pow_right Nat.two_pos (by omega))
        rw [Int.testBit, Nat.testBit_lt_two_pow small]
        rfl
      have absent : registers.fl.toNat.testBit (bits + 8) = false :=
        testBit_byte (Nat.le_add_left 8 bits) registers.fl
      constructor
      · intro found
        simp [testMask] at found
      · intro contained
        rw [contained _ beyond] at absent
        cases absent

/-- A mask fits a byte just when its bits together with those of the flag register do. -/
theorem lor_fits_iff (byte : UInt8) :
    (0 ≤ Int.lor byte.toNat mask ∧ Int.lor byte.toNat mask ≤ 255) ↔ 0 ≤ mask ∧ mask < 256 := by
  cases mask with
  | ofNat bits =>
      have joined : Int.lor byte.toNat (Int.ofNat bits) = ((byte.toNat ||| bits : Nat) : Int) := rfl
      have at_most : bits ≤ byte.toNat ||| bits := Nat.right_le_or
      have small : bits < 256 → byte.toNat ||| bits < 256 :=
        Nat.or_lt_two_pow (n := 8) byte.toNat_lt
      rw [joined, Int.ofNat_eq_natCast]
      omega
  | negSucc bits =>
      have joined : Int.lor byte.toNat (Int.negSucc bits) =
          Int.negSucc (Nat.ldiff bits byte.toNat) := rfl
      rw [joined]
      omega

theorem setMask?_isSome_iff :
    (registers.setMask? mask).isSome = true ↔
      0 ≤ Int.lor registers.fl.toNat mask ∧ Int.lor registers.fl.toNat mask ≤ 255 := by
  rw [lor_fits_iff, setMask?]
  split <;> simp_all

theorem fl_of_setMask? (set : registers.setMask? mask = some after) :
    (after.fl.toNat : Int) = Int.lor registers.fl.toNat mask := by
  unfold setMask? at set
  split at set
  · rename_i fits
    cases set
    obtain ⟨bits, rfl⟩ := Int.eq_ofNat_of_zero_le fits.1
    have same : (UInt8.ofInt bits).toNat = bits := by
      rw [UInt8.ofInt, UInt8.toNat_ofNat']
      omega
    rw [UInt8.toNat_or, same]
    rfl
  · cases set

theorem testBit_setMask? (set : registers.setMask? mask = some after) (bit : Nat) :
    after.fl.toNat.testBit bit = (registers.fl.toNat.testBit bit || mask.testBit bit) := by
  have bits := Int.testBit_lor registers.fl.toNat mask bit
  rw [← fl_of_setMask? set] at bits
  exact bits

theorem testBit_clearMask (registers : Registers) (mask : Int) (bit : Nat) :
    (registers.clearMask mask).fl.toNat.testBit bit =
      (registers.fl.toNat.testBit bit && !mask.testBit bit) := by
  rw [clearMask, UInt8.toNat_and, Nat.testBit_and]
  obtain low | high := Nat.lt_or_ge bit 8
  · rw [testBit_not low, testBit_ofInt, decide_eq_true low, Bool.true_and]
  · rw [testBit_byte high registers.fl, Bool.false_and, Bool.false_and]

theorem testMask_setMask? (set : registers.setMask? mask = some after) :
    after.testMask mask = true := by
  rw [testMask_iff]
  intro bit here
  rw [testBit_setMask? set, here, Bool.or_true]

theorem testMask_clearMask (nonzero : mask ≠ 0) :
    (registers.clearMask mask).testMask mask = false := by
  rw [Bool.eq_false_iff]
  intro found
  apply nonzero
  apply eq_zero_of_testBit
  intro bit
  rw [Bool.eq_false_iff]
  intro here
  have kept := testMask_iff.mp found bit here
  rw [testBit_clearMask, here, Bool.not_true, Bool.and_false] at kept
  cases kept

/-- A mask is found as before if its bits in the flag register are as before. -/
theorem testMask_congr
    (same : ∀ bit, mask.testBit bit = true →
      after.fl.toNat.testBit bit = registers.fl.toNat.testBit bit) :
    after.testMask mask = registers.testMask mask := by
  rw [Bool.eq_iff_iff, testMask_iff, testMask_iff]
  constructor
  · intro found bit here
    rw [← same bit here]
    exact found bit here
  · intro found bit here
    rw [same bit here]
    exact found bit here

/-- Masks without a common bit do not affect each other. -/
theorem testMask_of_disjoint {on : Bool} (disjoint : mask.land other = 0)
    (updated : registers.updateMask? mask on = some after) :
    after.testMask other = registers.testMask other := by
  apply testMask_congr
  intro bit here
  have spared : mask.testBit bit = false := by
    rw [Bool.eq_false_iff]
    intro there
    rw [land_eq_zero_iff.mp disjoint bit there] at here
    cases here
  cases on with
  | true => rw [testBit_setMask? updated, spared, Bool.or_false]
  | false =>
      cases updated
      rw [testBit_clearMask, spared, Bool.not_false, Bool.and_true]

theorem agreeBut_fl (registers : Registers) (byte : UInt8) :
    registers.AgreeBut [.fl] { registers with fl := byte } :=
  (AgreeBut.refl _ registers).set .fl List.mem_cons_self byte

theorem agreeBut_updateMask? {on : Bool}
    (updated : registers.updateMask? mask on = some after) : registers.AgreeBut [.fl] after := by
  cases on with
  | true =>
      change registers.setMask? mask = some after at updated
      unfold setMask? at updated
      split at updated
      · cases updated
        exact agreeBut_fl registers _
      · cases updated
  | false =>
      cases updated
      exact agreeBut_fl registers _

end Registers

/-! ## Registers and the pair -/

theorem Registers.get_set (registers : Registers) (register other : Register) (value : UInt8) :
    (registers.set register value).get other =
      if other = register then value else registers.get other := by
  split
  · rename_i same
    subst same
    cases other <;> rfl
  · rename_i different
    exact get_set_of_ne different registers value

namespace RegisterFile

variable {layout : RegisterSet} {register : Register}

theorem write_number (member : register ∈ layout.members) (value : Int) (values : Registers) :
    write register.number value ⟨layout, values⟩ =
      .ok () ⟨layout, values.set register (UInt8.ofInt value)⟩ := by
  rw [write, RegisterSet.resolve_number member]

/-- Where B and C can be named, the pair takes a word and nothing else changes. -/
theorem writePair_of_members (high : .b ∈ layout.members) (low : .c ∈ layout.members)
    (value : Int) (values : Registers) :
    writePair value ⟨layout, values⟩ = .ok () ⟨layout, values.setPair value⟩ := by
  simp only [writePair, bind, EStateM.bind, write_number high]
  rw [Memory.ofInt_toNat, write_number low, Memory.ofInt_toNat]
  rfl

/-! ## The laws -/

/-- What holds of a register file, whatever its registers hold. -/
structure Lawful (file : RegisterFile) : Prop where
  /-- A register that is written holds the value modulo 256, and all others are as before. -/
  read_write : ∀ register ∈ file.layout.members, ∀ other ∈ file.layout.members, ∀ value : Int,
    ∃ after old new, write register.number value file = .ok () after ∧
      file.read other.number = .ok old ∧ after.read other.number = .ok new ∧
      (new.toNat : Int) = if other = register then value % 256 else old.toNat
  /-- A word that is written to the pair is read back modulo 65536. Its high byte is in B, and no
  register but B and C has changed. -/
  readPair_writePair : .b ∈ file.layout.members → .c ∈ file.layout.members → ∀ value : Int,
    ∃ after high, writePair value file = .ok () after ∧
      after.readPair = .ok (value % 65536).toNat ∧
      after.read Register.b.number = .ok high ∧ (high.toNat : Int) = value / 256 % 256 ∧
      file.values.AgreeBut [.b, .c] after.values
  /-- A mask can be set if its bits together with those of the flag register fit a byte. -/
  set_succeeds_iff : ∀ mask : Int, (file.values.updateMask? mask true).isSome = true ↔
    0 ≤ Int.lor file.values.fl.toNat mask ∧ Int.lor file.values.fl.toNat mask ≤ 255
  /-- The flag register then has these bits, and the mask is found. -/
  set_mask : ∀ mask after, file.values.updateMask? mask true = some after →
    after.testMask mask = true ∧ (after.fl.toNat : Int) = Int.lor file.values.fl.toNat mask
  /-- A mask can always be cleared. It is not found any more, unless it is zero, and the flag
  register has lost just the bits of the mask. -/
  clear_mask : ∀ mask : Int, ∃ after, file.values.updateMask? mask false = some after ∧
    (mask ≠ 0 → after.testMask mask = false) ∧
    ∀ bit, after.fl.toNat.testBit bit = (file.values.fl.toNat.testBit bit && !mask.testBit bit)
  /-- Masks without a common bit do not affect each other. -/
  independent : ∀ mask other on after, Int.land mask other = 0 →
    file.values.updateMask? mask on = some after →
      after.testMask other = file.values.testMask other
  /-- No change of flags affects a register other than the flag register. -/
  flags_only : ∀ mask on after, file.values.updateMask? mask on = some after →
    file.values.AgreeBut [.fl] after
  /-- Nor does clearing all flags. -/
  clearFlags_only : file.values.AgreeBut [.fl] file.values.clearFlags

/-- The laws hold of every register file. -/
theorem every_file_lawful (file : RegisterFile) : file.Lawful where
  read_write := by
    intro register member other readable value
    refine ⟨_, _, _, write_number member value file.values, read_number readable file.values,
      read_number readable _, ?_⟩
    rw [Registers.get_set]
    split
    · exact toNat_ofInt value
    · rfl
  readPair_writePair := by
    intro high low value
    refine ⟨_, _, writePair_of_members high low value file.values, ?_, read_number high _, ?_, ?_⟩
    · rw [readPair_of_members high low]
      exact congrArg Except.ok (Word.join_high_low value)
    · exact toNat_ofInt (value / 256)
    · intro register spared
      cases register <;> simp [Registers.setPair, Registers.get] at spared ⊢
  set_succeeds_iff := fun _ => Registers.setMask?_isSome_iff
  set_mask := fun _ _ set => ⟨Registers.testMask_setMask? set, Registers.fl_of_setMask? set⟩
  clear_mask := fun mask =>
    ⟨_, rfl, Registers.testMask_clearMask, Registers.testBit_clearMask file.values mask⟩
  independent := fun _ _ _ _ => Registers.testMask_of_disjoint
  flags_only := fun _ _ _ => Registers.agreeBut_updateMask?
  clearFlags_only := Registers.agreeBut_fl file.values 0

end RegisterFile

end ByteMachine
