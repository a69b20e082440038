import Mathlib.Data.List.DropRight
import ByteMachine.Proofs.Cells

/-!
# What memory recalls

Memory is changed by commands that write a byte, a word or a block, or clear it. A command is obeyed
if all the cells that it covers exist, and otherwise changes nothing. However the cells of earlier
and later commands overlap, each cell holds what was written there last since memory was cleared,
and words and blocks are read back cell by cell.
-/

namespace ByteMachine.Memory

/-! ## Commands -/

/-- A command that changes memory. -/
inductive Command where
  | writeByte (address value : Int)
  | writeWord (address value : Int)
  | load (block : List UInt8) (address : Int)
  | clear
deriving DecidableEq, Repr

/-- The memory that a command makes of another one, or why the command is refused. -/
def obey (memory : Memory) : Command → Except Fault Memory
  | .writeByte address value => memory.writeByte address value
  | .writeWord address value => memory.writeWord address value
  | .load block address => memory.load block address
  | .clear => .ok memory.clear

/-- The memory after a command. One that is refused changes nothing. -/
def afterCommand (memory : Memory) (command : Command) : Memory :=
  match memory.obey command with
  | .ok after => after
  | .error _ => memory

/-- A memory that was zero at first, after commands that are given one after the other. -/
def afterCommands (size : MemorySize) (commands : List Command) : Memory :=
  commands.foldl afterCommand (zeroed size)

namespace Command

/-- Where a command begins to write, if it writes anything. -/
def address : Command → Int
  | .writeByte address _ => address
  | .writeWord address _ => address
  | .load _ address => address
  | .clear => 0

/-- The values that a command writes, one to each cell that it covers. -/
def values : Command → List Int
  | .writeByte _ value => [value % 256]
  | .writeWord _ value => [value / 256 % 256, value % 256]
  | .load block _ => block.map fun byte => (byte.toNat : Int)
  | .clear => []

/-- All cells that a command covers exist in a memory of some size. -/
def Fits (size : Nat) (command : Command) : Prop :=
  ∀ offset < command.values.length,
    0 ≤ command.address + offset ∧ command.address + offset < size

instance (size : Nat) (command : Command) : Decidable (command.Fits size) :=
  inferInstanceAs (Decidable (∀ offset < _, _))

/-- What a command writes to a cell of a memory of some size. -/
def written? (size cell : Nat) (command : Command) : Option Int :=
  if command.Fits size ∧ command.address ≤ cell then
    command.values[(cell - command.address).toNat]?
  else none

/-- A command fills memory with zeros. -/
def clears : Command → Bool
  | .clear => true
  | _ => false

end Command

/-- The value that commands wrote last to a cell since the last clearing, or zero. -/
def lastWritten (size : Nat) (commands : List Command) (cell : Nat) : Int :=
  ((commands.rtakeWhile fun command => !command.clears).filterMap
    (Command.written? size cell)).getLast?.getD 0

/-! ## Blocks of cells -/

section Blocks

variable {memory : Memory} {address : Int}

/-- A block that is laid over memory is found in the cells from its start on. -/
theorem cell_overwrite {cell : Nat} (within : cell < memory.size) (index : Nat)
    (block : List UInt8) :
    (memory.overwrite index block).cell cell =
      if index ≤ cell then block[cell - index]?.getD (memory.cell cell) else memory.cell cell := by
  induction block generalizing memory index with
  | nil => simp [overwrite]
  | cons byte rest ih =>
      have within_next : cell < (memory.overwrite index [byte]).size := by
        rwa [size_overwrite]
      have later := ih within_next (index + 1)
      change (memory.overwrite index (byte :: rest)).cell cell = _ at later
      rw [later]
      obtain before | rfl | behind := Nat.lt_trichotomy cell index
      · rw [if_neg (by omega), if_neg (by omega), cell_overwrite_ne (by omega)]
      · rw [if_neg (by omega), cell_overwrite_one within]
        simp
      · obtain ⟨gap, rfl⟩ := Nat.exists_eq_add_of_lt behind
        rw [if_pos (by omega), if_pos (by omega), cell_overwrite_ne (by omega),
          show index + gap + 1 - index = gap + 1 by omega,
          show index + gap + 1 - (index + 1) = gap by omega, List.getElem?_cons_succ]

theorem cell_zeros (count cell : Nat) : Memory.cell ⟨Array.replicate count 0⟩ cell = 0 := by
  unfold Memory.cell
  rw [Array.getD_eq_getD_getElem?, Array.getElem?_replicate]
  split <;> rfl

theorem readByte_of_covers (covered : memory.Covers address 1) :
    memory.readByte address = .ok (memory.cell address.toNat) := by
  rw [readByte, if_pos covered]

/-- A block that exists is dumped cell by cell. -/
theorem dump_of_covers {count : Nat} (positive : 0 < count)
    (covered : memory.Covers address count) :
    memory.dump address (some count) =
      .ok ((List.range count).map fun offset => memory.cell (address.toNat + offset)) := by
  have wanted : ¬(count : Int) ≤ 0 := by omega
  have within : address.toNat + count ≤ memory.cells.size := by
    unfold Covers size at covered
    omega
  simp only [dump, Option.getD_some, if_neg wanted, Int.toNat_natCast, if_pos covered]
  congr 1
  apply List.ext_getElem
  · simp only [List.length_take, List.length_drop, Array.length_toList, List.length_map,
      List.length_range]
    omega
  · intro offset inside _
    have exists_cell : address.toNat + offset < memory.cells.size := by
      rw [List.length_take, List.length_drop, Array.length_toList] at inside
      omega
    simp [cell, Array.getD_eq_getD_getElem?, exists_cell]

end Blocks

/-! ## Obedience -/

section Obedience

variable {memory : Memory} {command : Command} {size : Nat}

/-- The bytes that a command writes, one to each cell that it covers. -/
def Command.block : Command → List UInt8
  | .writeByte _ value => [UInt8.ofInt value]
  | .writeWord _ value => [Word.high value, Word.low value]
  | .load block _ => block
  | .clear => []

theorem Command.values_eq (command : Command) :
    command.values = command.block.map fun byte => (byte.toNat : Int) := by
  cases command with
  | writeByte address value => simp [values, block, toNat_ofInt]
  | writeWord address value => simp [values, block, Word.high, Word.low, toNat_ofInt]
  | load | clear => rfl

theorem Command.length_values (command : Command) :
    command.values.length = command.block.length := by
  rw [values_eq, List.length_map]

theorem Command.fits_iff :
    command.Fits memory.size ↔
      command.block = [] ∨ memory.Covers command.address command.block.length := by
  unfold Fits Covers
  rw [length_values]
  constructor
  · intro fits
    rw [or_iff_not_imp_left]
    intro nonempty
    have positive : 0 < command.block.length := List.length_pos_iff.mpr nonempty
    have first := fits 0 positive
    have last := fits (command.block.length - 1) (by omega)
    omega
  · rintro (empty | covered) offset within
    · rw [empty] at within
      cases within
    · omega

theorem obey_of_fits (fits : command.Fits memory.size) (keeps : command.clears = false) :
    memory.obey command = .ok (memory.overwrite command.address.toNat command.block) := by
  cases command with
  | writeByte address value =>
      have covered := (Command.fits_iff.mp fits).resolve_left (List.cons_ne_nil _ _)
      exact if_pos covered
  | writeWord address value =>
      have covered := (Command.fits_iff.mp fits).resolve_left (List.cons_ne_nil _ _)
      exact if_pos covered
  | load block address =>
      cases block with
      | nil => rfl
      | cons first rest =>
          have covered := (Command.fits_iff.mp fits).resolve_left (List.cons_ne_nil _ _)
          exact if_pos covered
  | clear => cases keeps

theorem obey_of_misfit (misfit : ¬command.Fits memory.size) :
    memory.obey command =
      .error (.outsideMemory command.address memory.size command.values.length) := by
  have uncovered := mt Command.fits_iff.mpr misfit
  rw [not_or] at uncovered
  rw [Command.length_values]
  cases command with
  | writeByte | writeWord => exact if_neg uncovered.2
  | load block address =>
      have nonempty : ¬block.isEmpty = true := by
        rw [List.isEmpty_iff]
        exact uncovered.1
      rw [obey, load, if_neg nonempty]
      exact if_neg uncovered.2
  | clear => exact absurd rfl uncovered.1

theorem obey_ok_iff : (∃ after, memory.obey command = .ok after) ↔ command.Fits memory.size := by
  constructor
  · rintro ⟨after, obeyed⟩
    by_contra misfit
    rw [obey_of_misfit misfit] at obeyed
    cases obeyed
  · intro fits
    cases keeps : command.clears with
    | false => exact ⟨_, obey_of_fits fits keeps⟩
    | true =>
        cases command with
        | clear => exact ⟨_, rfl⟩
        | writeByte | writeWord | load => cases keeps

theorem afterCommand_of_misfit (misfit : ¬command.Fits memory.size) :
    memory.afterCommand command = memory := by
  rw [afterCommand, obey_of_misfit misfit]

theorem size_afterCommand (memory : Memory) (command : Command) :
    (memory.afterCommand command).size = memory.size := by
  unfold afterCommand
  split
  · rename_i after obeyed
    cases command with
    | writeByte address value => exact size_of_writeByte obeyed
    | writeWord address value => exact size_of_writeWord obeyed
    | load block address => exact size_of_load obeyed
    | clear =>
        cases obeyed
        exact size_clear memory
  · rfl

theorem written?_of_fits (fits : command.Fits size) (cell : Nat) :
    command.written? size cell =
      if command.address ≤ cell then
        command.block[(cell - command.address).toNat]?.map fun byte => (byte.toNat : Int)
      else none := by
  unfold Command.written?
  rw [Command.values_eq, List.getElem?_map]
  simp only [fits, true_and]

/-- A cell holds what a command has written there, and otherwise what it held before. -/
theorem cell_afterCommand {cell : Nat} (within : cell < memory.size) (command : Command) :
    ((memory.afterCommand command).cell cell).toNat =
      if command.clears then 0
      else (command.written? memory.size cell).getD (memory.cell cell).toNat := by
  cases keeps : command.clears with
  | true =>
      cases command with
      | clear => exact congrArg (fun byte : UInt8 => (byte.toNat : Int)) (cell_zeros _ cell)
      | writeByte | writeWord | load => cases keeps
  | false =>
      by_cases fits : command.Fits memory.size
      · rw [afterCommand, obey_of_fits fits keeps, written?_of_fits fits, cell_overwrite within]
        -- a command that covers no cell may name any address
        obtain empty | ⟨natural, -⟩ := Command.fits_iff.mp fits
        · simp [empty]
        · obtain ⟨index, start⟩ := Int.eq_ofNat_of_zero_le natural
          have distance : ((cell : Int) - index).toNat = cell - index := by omega
          rw [start, Int.toNat_natCast, distance]
          by_cases reached : index ≤ cell
          · rw [if_pos reached, if_pos (Int.ofNat_le.mpr reached)]
            cases command.block[cell - index]? <;> rfl
          · rw [if_neg reached, if_neg (mt Int.ofNat_le.mp reached)]
            rfl
      · have unwritten : command.written? memory.size cell = none := by
          simp [Command.written?, fits]
        rw [afterCommand_of_misfit fits, unwritten]
        rfl

end Obedience

/-! ## Histories of commands -/

section Histories

variable {size : MemorySize} {commands : List Command}

theorem afterCommands_concat (size : MemorySize) (commands : List Command) (command : Command) :
    afterCommands size (commands ++ [command]) =
      (afterCommands size commands).afterCommand command := by
  simp [afterCommands]

theorem size_afterCommands (size : MemorySize) (commands : List Command) :
    (afterCommands size commands).size = size.cells := by
  induction commands using List.reverseRecOn with
  | nil => exact size_zeroed size
  | append_singleton commands command ih => rw [afterCommands_concat, size_afterCommand, ih]

theorem lastWritten_concat (size : Nat) (commands : List Command) (command : Command)
    (cell : Nat) :
    lastWritten size (commands ++ [command]) cell =
      if command.clears then 0
      else (command.written? size cell).getD (lastWritten size commands cell) := by
  unfold lastWritten
  rw [List.rtakeWhile_concat]
  cases command.clears with
  | true => rfl
  | false => cases written : command.written? size cell <;> simp [written]

/-- Every cell holds what was written there last. -/
theorem cell_afterCommands {cell : Nat} (within : cell < size.cells) (commands : List Command) :
    ((afterCommands size commands).cell cell).toNat = lastWritten size.cells commands cell := by
  induction commands using List.reverseRecOn with
  | nil => exact congrArg (fun byte : UInt8 => (byte.toNat : Int)) (cell_zeros _ cell)
  | append_singleton commands command ih =>
      have within_now : cell < (afterCommands size commands).size := by
        rwa [size_afterCommands]
      rw [afterCommands_concat, cell_afterCommand within_now, lastWritten_concat, ih,
        size_afterCommands]

end Histories

/-! ## Reading back -/

section Reading

variable {memory after : Memory} {address : Int}

theorem covers_overwrite_iff {width index : Nat} {block : List UInt8} :
    (memory.overwrite index block).Covers address width ↔ memory.Covers address width := by
  unfold Covers
  rw [size_overwrite]

/-- An access that is made where memory covers it fails nowhere else. -/
theorem guarded_fails_iff {α : Type} {result : α} {width : Nat} :
    (∃ fault, (if memory.Covers address width then .ok result
      else .error (memory.refusal address width) : Except Fault α) = .error fault) ↔
      ¬memory.Covers address width := by
  by_cases covered : memory.Covers address width
  · simp [covered]
  · simp [covered]

theorem readByte_fails_iff :
    (∃ fault, memory.readByte address = .error fault) ↔
      ¬(0 ≤ address ∧ address < memory.size) := by
  refine guarded_fails_iff.trans ?_
  unfold Covers
  omega

theorem readWord_fails_iff :
    (∃ fault, memory.readWord address = .error fault) ↔
      ¬(0 ≤ address ∧ address < memory.size) ∨
        ¬(0 ≤ address + 1 ∧ address + 1 < memory.size) := by
  refine guarded_fails_iff.trans ?_
  unfold Covers
  omega

theorem covers_of_readByte {byte : UInt8} (read : memory.readByte address = .ok byte) :
    memory.Covers address 1 ∧ memory.cell address.toNat = byte := by
  unfold readByte at read
  split at read
  · rename_i covered
    cases read
    exact ⟨covered, rfl⟩
  · cases read

/-- A word is made of the bytes in its two cells. -/
theorem readWord_of_readByte {high low : UInt8} (first : memory.readByte address = .ok high)
    (second : memory.readByte (address + 1) = .ok low) :
    memory.readWord address = .ok (256 * high.toNat + low.toNat) := by
  obtain ⟨covered, rfl⟩ := covers_of_readByte first
  obtain ⟨covered_next, rfl⟩ := covers_of_readByte second
  have both : memory.Covers address 2 := by
    unfold Covers at covered covered_next ⊢
    omega
  have next : (address + 1).toNat = address.toNat + 1 := by
    unfold Covers at covered
    omega
  rw [readWord, if_pos both, Word.join, next, Nat.mul_comm]

theorem readWord_of_writeWord {value : Int}
    (written : memory.writeWord address value = .ok after) :
    after.readWord address = .ok (value % 65536).toNat := by
  unfold writeWord at written
  split at written
  · rename_i covered
    cases written
    have first : address.toNat < memory.size := by
      unfold Covers at covered
      omega
    have second : address.toNat + 1 < memory.size := by
      unfold Covers at covered
      omega
    rw [readWord, if_pos (covers_overwrite_iff.mpr covered), cell_overwrite first,
      cell_overwrite second]
    simp [Word.join_high_low]
  · cases written

/-- A dump gives what is read from its cells one by one. -/
theorem dump_eq_reads {count : Nat} (positive : 0 < count)
    (covered : memory.Covers address count) :
    ∃ bytes, memory.dump address (some count) = .ok bytes ∧
      bytes.map Except.ok =
        (List.range count).map fun offset : Nat => memory.readByte (address + offset) := by
  refine ⟨_, dump_of_covers positive covered, ?_⟩
  rw [List.map_map]
  apply List.map_congr_left
  intro offset member
  rw [List.mem_range] at member
  unfold Covers at covered
  have within : memory.Covers (address + offset) 1 := by
    unfold Covers
    omega
  have place : (address + offset).toNat = address.toNat + offset := by omega
  rw [readByte_of_covers within, place]
  rfl

/-- A block that was loaded is dumped as it is. -/
theorem dump_of_load {block : List UInt8} (nonempty : block ≠ [])
    (loaded : memory.load block address = .ok after) :
    after.dump address (some block.length) = .ok block := by
  have positive : 0 < block.length := List.length_pos_iff.mpr nonempty
  rw [load, if_neg (by simpa using nonempty)] at loaded
  split at loaded
  · rename_i covered
    cases loaded
    rw [dump_of_covers positive (covers_overwrite_iff.mpr covered)]
    congr 1
    apply List.ext_getElem
    · simp
    · intro offset _ inside
      have exists_cell : address.toNat + offset < memory.size := by
        unfold Covers at covered
        omega
      simp [cell_overwrite exists_cell, inside]
  · cases loaded

end Reading

/-! ## The map of bytes -/

/-- A memory of some size is a map of bytes that was filled by commands. -/
structure Recalls (size : Nat) (commands : List Command) (memory : Memory) : Prop where
  /-- The commands have not changed its size. -/
  size_eq : memory.size = size
  /-- A command succeeds just when all cells that it covers exist. -/
  obeys_iff : ∀ command, (∃ after, memory.obey command = .ok after) ↔ command.Fits size
  /-- A command that is refused tells its address, the size and the number of cells that it covers,
  and changes nothing. -/
  refuses : ∀ command, ¬command.Fits size →
    memory.obey command =
        .error (.outsideMemory command.address size command.values.length) ∧
      memory.afterCommand command = memory
  /-- An empty block can be loaded anywhere, and changes nothing. -/
  loads_nothing : ∀ address, memory.obey (.load [] address) = .ok memory
  /-- A cell holds the value that was written there last since memory was cleared, or zero. -/
  readByte_eq : ∀ cell : Nat, cell < size →
    ∃ byte, memory.readByte cell = .ok byte ∧ (byte.toNat : Int) = lastWritten size commands cell
  /-- Only the cells that exist can be read. -/
  readByte_fails : ∀ address : Int,
    (∃ fault, memory.readByte address = .error fault) ↔ ¬(0 ≤ address ∧ address < size)
  /-- A word is made of the bytes in its two cells, the high one first. -/
  readWord_eq : ∀ address high low, memory.readByte address = .ok high →
    memory.readByte (address + 1) = .ok low →
      memory.readWord address = .ok (256 * high.toNat + low.toNat)
  /-- It cannot be read if one of them does not exist. -/
  readWord_fails : ∀ address : Int, (∃ fault, memory.readWord address = .error fault) ↔
    ¬(0 ≤ address ∧ address < size) ∨ ¬(0 ≤ address + 1 ∧ address + 1 < size)
  /-- A word that is written is read back modulo 65536. -/
  readWord_written : ∀ address value after, memory.obey (.writeWord address value) = .ok after →
    after.readWord address = .ok (value % 65536).toNat
  /-- A block of cells that exist is dumped as the bytes read from them one by one. -/
  dump_eq : ∀ address count : Int, 0 < count → 0 ≤ address → address + count ≤ size →
    ∃ bytes, memory.dump address (some count) = .ok bytes ∧
      bytes.map Except.ok =
        (List.range count.toNat).map fun offset : Nat => memory.readByte (address + offset)
  /-- A block that is loaded is dumped as it is. -/
  dump_loaded : ∀ block address after, block ≠ [] → memory.obey (.load block address) = .ok after →
    after.dump address (some block.length) = .ok block

/-- Whatever commands a memory is given, obeyed or not, it is the map of bytes that they make. -/
theorem memory_recalls_commands (size : MemorySize) (commands : List Command) :
    Recalls size.cells commands (afterCommands size commands) := by
  have size_eq := size_afterCommands size commands
  exact {
    size_eq := size_eq
    obeys_iff := by
      intro command
      rw [← size_eq]
      exact obey_ok_iff
    refuses := by
      intro command misfit
      rw [← size_eq] at misfit ⊢
      exact ⟨obey_of_misfit misfit, afterCommand_of_misfit misfit⟩
    loads_nothing := fun _ => rfl
    readByte_eq := by
      intro cell within
      exact ⟨_, readByte_of_lt (size_eq ▸ within), cell_afterCommands within commands⟩
    readByte_fails := by
      intro address
      rw [← size_eq]
      exact readByte_fails_iff
    readWord_eq := fun _ _ _ => readWord_of_readByte
    readWord_fails := by
      intro address
      rw [← size_eq]
      exact readWord_fails_iff
    readWord_written := fun _ _ _ => readWord_of_writeWord
    dump_eq := by
      intro address count positive natural within
      obtain ⟨number, rfl⟩ := Int.eq_ofNat_of_zero_le (Int.le_of_lt positive)
      rw [← size_eq] at within
      exact dump_eq_reads (Int.natCast_pos.mp positive) ⟨natural, within⟩
    dump_loaded := fun _ _ _ => dump_of_load }

end ByteMachine.Memory
