import ByteMachine.Memory

/-!
# Cells of memory

Reads and writes of one byte, said by the cells. A program names a cell by a natural number, so an
access to it fails only where the memory is too small.
-/

namespace ByteMachine

/-! ## Integers as bytes and words -/

theorem toNat_ofInt (value : Int) : ((UInt8.ofInt value).toNat : Int) = value % 256 := by
  rw [UInt8.ofInt, UInt8.toNat_ofNat']
  omega

theorem Word.join_high_low (value : Int) :
    Word.join (Word.high value) (Word.low value) = (value % 65536).toNat := by
  have high := toNat_ofInt (value / 256)
  have low := toNat_ofInt value
  unfold Word.join Word.high Word.low
  omega

namespace Memory

variable {memory after : Memory} {index : Nat} {byte : UInt8} {value : Int} {fault : Fault}

theorem covers_one_iff : memory.Covers index 1 ↔ index < memory.size := by
  unfold Covers
  omega

theorem readByte_of_lt (within : index < memory.size) :
    memory.readByte index = .ok (memory.cell index) := by
  rw [readByte, if_pos (covers_one_iff.mpr within), Int.toNat_natCast]

theorem readByte_of_le (beyond : memory.size ≤ index) :
    memory.readByte index = .error (memory.refusal index 1) := by
  have uncovered : ¬memory.Covers index 1 := by
    rw [covers_one_iff]
    omega
  rw [readByte, if_neg uncovered]

/-- A read gives the byte of a cell that exists. -/
theorem readByte_ok_iff :
    memory.readByte index = .ok byte ↔ index < memory.size ∧ memory.cell index = byte := by
  by_cases within : index < memory.size
  · simp [readByte_of_lt within, within]
  · simp [readByte_of_le (Nat.le_of_not_lt within), within]

/-- A read fails for want of the cell. -/
theorem readByte_error (failed : memory.readByte index = .error fault) :
    memory.size ≤ index ∧ fault = .outsideMemory index memory.size 1 := by
  by_cases within : index < memory.size
  · simp [readByte_of_lt within] at failed
  · have beyond := Nat.le_of_not_lt within
    rw [readByte_of_le beyond] at failed
    cases failed
    exact ⟨beyond, rfl⟩

@[simp]
theorem size_overwrite (memory : Memory) (index : Nat) (block : List UInt8) :
    (memory.overwrite index block).size = memory.size := by
  induction block generalizing memory index with
  | nil => rfl
  | cons byte rest ih =>
      rw [overwrite, ih]
      simp [size]

theorem cell_overwrite_ne {other : Nat} (different : index ≠ other) (byte : UInt8) :
    (memory.overwrite index [byte]).cell other = memory.cell other := by
  simp [overwrite, cell, Array.getD_eq_getD_getElem?, Array.getElem?_setIfInBounds_ne different]

theorem cell_overwrite_one (within : index < memory.size) (other : Nat) :
    (memory.overwrite index [byte]).cell other =
      if other = index then byte else memory.cell other := by
  have within' : index < memory.cells.size := within
  by_cases same : other = index
  · subst same
    simp [overwrite, cell, Array.getD_eq_getD_getElem?, within']
  · rw [if_neg same, cell_overwrite_ne fun equal => same equal.symm]

theorem readByte_overwrite (within : index < memory.size) :
    (memory.overwrite index [byte]).readByte index = .ok byte := by
  rw [readByte_ok_iff, size_overwrite, cell_overwrite_one within, if_pos rfl]
  exact ⟨within, rfl⟩

theorem writeByte_of_lt (within : index < memory.size) :
    memory.writeByte index value = .ok (memory.overwrite index [UInt8.ofInt value]) := by
  rw [writeByte, if_pos (covers_one_iff.mpr within), Int.toNat_natCast]

theorem writeByte_of_le (beyond : memory.size ≤ index) :
    memory.writeByte index value = .error (memory.refusal index 1) := by
  have uncovered : ¬memory.Covers index 1 := by
    rw [covers_one_iff]
    omega
  rw [writeByte, if_neg uncovered]

theorem ofInt_toNat (byte : UInt8) : UInt8.ofInt byte.toNat = byte := by
  have small := byte.toNat_lt
  apply UInt8.toNat_inj.mp
  simp only [UInt8.ofInt, UInt8.toNat_ofNat']
  omega

/-- A write of a byte replaces what is in a cell that exists. -/
theorem writeByte_ok (written : memory.writeByte index byte.toNat = .ok after) :
    index < memory.size ∧ after = memory.overwrite index [byte] := by
  by_cases within : index < memory.size
  · rw [writeByte_of_lt within, ofInt_toNat] at written
    cases written
    exact ⟨within, rfl⟩
  · simp [writeByte_of_le (Nat.le_of_not_lt within)] at written

/-- A write fails for want of the cell. -/
theorem writeByte_error (failed : memory.writeByte index value = .error fault) :
    memory.size ≤ index ∧ fault = .outsideMemory index memory.size 1 := by
  by_cases within : index < memory.size
  · simp [writeByte_of_lt within] at failed
  · have beyond := Nat.le_of_not_lt within
    rw [writeByte_of_le beyond] at failed
    cases failed
    exact ⟨beyond, rfl⟩

/-! ## The size of a memory -/

theorem size_of_writeByte {address : Int} (written : memory.writeByte address value = .ok after) :
    after.size = memory.size := by
  unfold writeByte at written
  split at written
  · cases written
    exact size_overwrite memory _ _
  · cases written

theorem size_of_writeWord {address : Int} (written : memory.writeWord address value = .ok after) :
    after.size = memory.size := by
  unfold writeWord at written
  split at written
  · cases written
    exact size_overwrite memory _ _
  · cases written

theorem size_of_load {block : List UInt8} {address : Int}
    (loaded : memory.load block address = .ok after) : after.size = memory.size := by
  unfold load at loaded
  split at loaded
  · cases loaded
    rfl
  · split at loaded
    · cases loaded
      exact size_overwrite memory _ _
    · cases loaded

@[simp]
theorem size_zeroed (size : MemorySize) : (zeroed size).size = size.cells :=
  Array.size_replicate

@[simp]
theorem size_clear (memory : Memory) : memory.clear.size = memory.size :=
  Array.size_replicate

end Memory

end ByteMachine
