import ByteMachine.Proofs.Partition
import ByteMachine.Proofs.Tokens
import Mathlib.Data.List.TakeWhile

/-!
# Reading a listing back

The column of bytes takes up eight characters of a line, right behind the first colon with a blank.
It holds nothing but pairs of digits and blanks, so it is a line of a hexadecimal program, and the
columns of a listing are a program for the image that is listed.
-/

namespace ByteMachine.Listing

open Text

/-! ## The column of bytes -/

theorem mem_intercalate {separator : List Char} {parts : List (List Char)} {c : Char}
    (member : c ∈ separator.intercalate parts) : c ∈ separator ∨ ∃ part ∈ parts, c ∈ part := by
  induction parts with
  | nil => simp at member
  | cons part others ih =>
      cases others with
      | nil =>
          rw [List.intercalate_singleton] at member
          exact Or.inr ⟨part, by simp, member⟩
      | cons next later =>
          rw [List.intercalate_cons_cons, List.mem_append, List.mem_append] at member
          rcases member with (inside | between) | behind
          · exact Or.inr ⟨part, by simp, inside⟩
          · exact Or.inl between
          · rcases ih behind with between | ⟨found, listed, inside⟩
            · exact Or.inl between
            · exact Or.inr ⟨found, List.mem_cons_of_mem _ listed, inside⟩

/-- The pairs of digits of some bytes, with blanks between them. -/
def pairs (bytes : List UInt8) : List Char :=
  [' '].intercalate (bytes.map fun byte => hexChars 2 byte.toNat)

theorem length_pairs (byte : UInt8) (rest : List UInt8) :
    (pairs (byte :: rest)).length = 3 * rest.length + 2 := by
  induction rest generalizing byte with
  | nil => simp [pairs, hexChars_byte]
  | cons next rest ih =>
      have shorter := ih next
      simp only [pairs, List.map_cons] at shorter ⊢
      rw [List.intercalate_cons_cons, List.length_append, shorter, hexChars_byte]
      simp only [List.length_append, List.length_cons, List.length_nil]
      omega

theorem toList_hexColumn (shown : Entry) :
    shown.hexColumn.toList =
      pairs shown.raw ++ List.replicate (8 - (pairs shown.raw).length) ' ' := by
  have joined : (String.intercalate " " (shown.raw.map Entry.byteText)).toList =
      pairs shown.raw := by
    simp [String.toList_intercalate, pairs, Entry.byteText, hex, Function.comp_def]
  rw [Entry.hexColumn, padRight, String.toList_append, String.toList_ofList, joined,
    ← String.length_toList, joined]

/-- A column of bytes consists of digits and blanks. -/
theorem mem_hexColumn {shown : Entry} {c : Char} (member : c ∈ shown.hexColumn.toList) :
    c = ' ' ∨ ∃ value < 16, c = upperDigit value := by
  rw [toList_hexColumn, List.mem_append] at member
  rcases member with digits | padding
  · rcases mem_intercalate digits with blank | ⟨part, listed, inside⟩
    · exact Or.inl (List.mem_singleton.mp blank)
    · obtain ⟨byte, -, rfl⟩ := List.mem_map.mp listed
      rw [hexChars_byte] at inside
      have bound := byte.toNat_lt
      simp only [List.mem_cons, List.not_mem_nil, or_false] at inside
      rcases inside with rfl | rfl
      · exact Or.inr ⟨_, by omega, rfl⟩
      · exact Or.inr ⟨_, by omega, rfl⟩
  · exact Or.inl (List.mem_replicate.mp padding).2

/-- No instruction is longer than the column is wide. -/
theorem length_hexColumn {variant : Variant} {start : Int} {image : List UInt8} {shown : Entry}
    (member : shown ∈ ofBytes variant start image) : shown.hexColumn.length = 8 := by
  obtain ⟨place, opcode, rest, rfl, -⟩ := exists_place_of_mem variant start member
  have few : (operandsIn variant opcode rest).length ≤ 2 := by
    refine (length_operandsIn_le variant opcode rest).trans ?_
    rcases operandKinds_cases variant opcode with kinds | ⟨kind, kinds | kinds⟩ <;> simp [kinds]
  have width : (pairs (entry variant (start + place) opcode
      (operandsIn variant opcode rest)).raw).length ≤ 8 := by
    change (pairs (opcode :: operandsIn variant opcode rest)).length ≤ 8
    rw [length_pairs]
    omega
  rw [← String.length_toList, toList_hexColumn, List.length_append, List.length_replicate]
  omega

/-! ## The place of the column in a line -/

/-- What stands in a text behind the first place at which a mark occurs. -/
def behindFirst? (mark : List Char) : List Char → Option (List Char)
  | [] => mark.isPrefixOf? []
  | c :: rest => (mark.isPrefixOf? (c :: rest)).or (behindFirst? mark rest)

/-- The eight characters of a line behind the first colon with a blank. -/
def column? (line : String) : Option String :=
  (behindFirst? [':', ' '] line.toList).map fun rest => String.ofList (rest.take 8)

theorem behindFirst?_append {front : List Char} (absent : ':' ∉ front) (rest : List Char) :
    behindFirst? [':', ' '] (front ++ ':' :: ' ' :: rest) = some rest := by
  induction front with
  | nil => simp [behindFirst?, List.isPrefixOf?]
  | cons c others ih =>
      rw [List.mem_cons, not_or] at absent
      simp [behindFirst?, List.isPrefixOf?, absent.1, ih absent.2]

/-- A line: the address, a colon with a blank, the column of bytes, and the rest. -/
theorem toList_line (shown : Entry) :
    ∃ rest, shown.line.toList =
      ('$' :: hexChars 2 shown.address) ++ ':' :: ' ' :: (shown.hexColumn.toList ++ rest) := by
  have plain (text : String) : toString text = text := rfl
  simp only [Entry.line, plain]
  split
  · exact ⟨' ' :: ' ' :: shown.assembly.toList, by simp [hex]⟩
  · exact ⟨' ' :: ' ' :: (padRight 14 shown.assembly).toList ++ " ; ".toList ++
      shown.comment.toList, by simp [hex]⟩

theorem colon_not_mem_address (address : Int) : ':' ∉ '$' :: hexChars 2 address := by
  rw [List.mem_cons, not_or]
  refine ⟨by decide, ?_⟩
  intro member
  rcases mem_hexChars member with minus | ⟨value, small, digit⟩
  · exact absurd minus (by decide)
  · exact upperDigit_ne_mark small (by simp) digit.symm

theorem column?_line {variant : Variant} {start : Int} {image : List UInt8} {shown : Entry}
    (member : shown ∈ ofBytes variant start image) :
    column? shown.line = some shown.hexColumn := by
  obtain ⟨rest, line_eq⟩ := toList_line shown
  have width : shown.hexColumn.toList.length = 8 := by
    rw [String.length_toList]
    exact length_hexColumn member
  rw [column?, line_eq, behindFirst?_append (colon_not_mem_address _), Option.map_some,
    List.take_left' width, String.ofList_toList]

/-! ## Columns as a program -/

theorem isWord_hexChars (byte : UInt8) : IsWord (hexChars 2 byte.toNat) := by
  have bound := byte.toNat_lt
  rw [hexChars_byte]
  refine ⟨by simp, ?_⟩
  simp [isBlank_upperDigit (show byte.toNat / 16 < 16 by omega),
    isBlank_upperDigit (show byte.toNat % 16 < 16 by omega)]

theorem withoutComment_hexColumn (shown : Entry) :
    HexProgram.withoutComment shown.hexColumn.toList = shown.hexColumn.toList := by
  rw [HexProgram.withoutComment, List.takeWhile_eq_self_iff]
  intro c member
  rcases mem_hexColumn member with rfl | ⟨value, small, rfl⟩
  · decide
  · simp [upperDigit_ne_mark small]

theorem unbroken_hexColumn (shown : Entry) :
    ∀ c ∈ shown.hexColumn.toList, isLineBreak c = false := by
  intro c member
  rcases mem_hexColumn member with rfl | ⟨value, small, rfl⟩
  · decide
  · rw [Bool.eq_false_iff]
    intro broken
    have blank := isBlank_of_isLineBreak broken
    rw [isBlank_upperDigit small] at blank
    cases blank

theorem mapM_byteOf (number : Nat) (bytes : List UInt8) :
    (bytes.map fun byte => hexChars 2 byte.toNat).mapM
      (fun token => HexProgram.byteOf number (HexProgram.withoutMarks token)) = .ok bytes := by
  induction bytes with
  | nil => rfl
  | cons byte rest ih =>
      rw [List.map_cons, List.mapM_cons, HexProgram.byteOf_hexChars, ih]
      rfl

/-- The column of an entry is a line of a program, which gives the bytes of the entry. -/
theorem parseLine_hexColumn (number : Nat) (shown : Entry) :
    HexProgram.parseLine number shown.hexColumn.toList = .ok shown.raw := by
  have areWords : ∀ part ∈ shown.raw.map fun byte => hexChars 2 byte.toNat, IsWord part := by
    intro part listed
    obtain ⟨byte, -, rfl⟩ := List.mem_map.mp listed
    exact isWord_hexChars byte
  rw [HexProgram.parseLine, withoutComment_hexColumn, toList_hexColumn, pairs,
    words_intercalate areWords, mapM_byteOf]

theorem parseLines_hexColumns (number : Nat) (entries : List Entry) :
    HexProgram.parseLines number (entries.map fun shown => shown.hexColumn.toList) =
      .ok (entries.flatMap Entry.raw) := by
  induction entries generalizing number with
  | nil => rfl
  | cons shown others ih =>
      rw [List.map_cons, HexProgram.parseLines, parseLine_hexColumn, ih]
      rfl

/-- In every line of a listing the column of bytes takes up the eight characters behind the first
colon with a blank, and these columns, one to a line, are a hexadecimal program for the image. -/
theorem listing_reads_back (variant : Variant) (start : Int) (image : List UInt8) :
    let entries := ofBytes variant start image
    (∀ shown ∈ entries,
      column? shown.line = some shown.hexColumn ∧ shown.hexColumn.length = 8) ∧
    HexProgram.parse
      (String.intercalate "\n" ((entries.map Entry.line).filterMap column?)) = .ok image := by
  intro entries
  refine ⟨fun _ member => ⟨column?_line member, length_hexColumn member⟩, ?_⟩
  have columns : (entries.map Entry.line).filterMap column? = entries.map Entry.hexColumn := by
    rw [List.filterMap_map, ← List.filterMap_eq_map]
    exact List.filterMap_congr fun _ member => column?_line member
  have listed : ((entries.map Entry.hexColumn).map String.toList) =
      entries.map fun shown => shown.hexColumn.toList := by
    rw [List.map_map]
    rfl
  rw [columns, HexProgram.parse, HexProgram.parseChars, String.toList_intercalate, listed]
  change HexProgram.parseLines 1 (lines (['\n'].intercalate _)) = _
  rw [lines_intercalate, parseLines_hexColumns, flatMap_raw]
  · intro part member
    obtain ⟨shown, -, rfl⟩ := List.mem_map.mp member
    exact unbroken_hexColumn shown
  · intro part member
    obtain ⟨shown, present, rfl⟩ := List.mem_map.mp member
    have width := length_hexColumn present
    rw [← String.length_toList] at width
    exact List.ne_nil_of_length_pos (by omega)

theorem listing_reads_back_below_zero :
    let shown := entry .byte (-1) 0x03 [0x01, 0x32]
    shown ∈ ofBytes .byte (-1) [0x03, 0x01, 0x32, 0x05] ∧
      shown.line = "$-1: 03 01 32  PUT A,$32" ∧ column? shown.line = some "03 01 32" := by
  intro shown
  have member : shown ∈ ofBytes .byte (-1) [0x03, 0x01, 0x32, 0x05] := by
    rw [ofBytes_cons]
    exact List.mem_cons_self
  have column_eq : shown.hexColumn = "03 01 32" := by decide +kernel
  have column := ((listing_reads_back .byte (-1) [0x03, 0x01, 0x32, 0x05]).1 shown member).1
  rw [column_eq] at column
  exact ⟨member, by decide +kernel, column⟩

end ByteMachine.Listing
