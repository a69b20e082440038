import ByteMachine.Proofs.Diagnosis
import Mathlib.Data.List.Chain
import Mathlib.Data.List.Infix

/-!
# Listings and the bytes they list

A listing goes through an image from its first byte to its last. Each entry takes as many bytes as
the table gives its instruction, and only the last one may find fewer of them. So the bytes of the
entries make up the image, a listing can be cut wherever an entry ends, and going through the image
with an offset that moves from one instruction to the next gives the same entries.
-/

namespace ByteMachine

theorem Opcode.ofInt?_toNat (byte : UInt8) : ofInt? byte.toNat = ofByte? byte := by
  have same (opcode : Opcode) :
      ((opcode.code.toNat : Int) == (byte.toNat : Int)) = (opcode.code == byte) := by
    rw [Bool.eq_iff_iff, beq_iff_eq, beq_iff_eq, Int.ofNat_inj, UInt8.toNat_inj]
  simp only [ofInt?, ofByte?, same]

namespace Listing

/-! ## Single entries -/

theorem suffix_intercalate {α : Type} (separator : List α) (parts : List (List α))
    (last : List α) : last <:+ separator.intercalate (parts ++ [last]) := by
  induction parts with
  | nil => simp
  | cons part others ih =>
      have nonempty : others ++ [last] ≠ [] := by simp
      rw [List.cons_append, List.intercalate_cons_of_ne_nil nonempty]
      exact ih.trans (List.suffix_append _ _)

/-- Number of bytes that the table gives the instruction of an entry, where data has one byte. -/
def Entry.fullSize (variant : Variant) (entry : Entry) : Nat :=
  ((Opcode.ofInt? entry.opcode).map (Opcode.size variant.isTagged)).getD 1

/-- An entry says that the image ends within its instruction. -/
def Entry.NotesCut (entry : Entry) : Prop :=
  Problem.truncated.text.toList <:+: entry.comment.toList

section Single

variable {variant : Variant} {address : Int} {opcode : UInt8} {operands : List UInt8}

@[simp]
theorem size_entry : (entry variant address opcode operands).size = operands.length + 1 := rfl

@[simp]
theorem fullSize_entry :
    (entry variant address opcode operands).fullSize variant =
      (operandKinds variant opcode).length + 1 := by
  rw [Nat.add_comm, ← Machine.instructionSize_eq]
  change ((Opcode.ofInt? opcode.toNat).map _).getD 1 = _
  rw [Opcode.ofInt?_toNat]
  rfl

/-- An instruction has at most one operand besides an address. -/
theorem operandKinds_cases (variant : Variant) (opcode : UInt8) :
    operandKinds variant opcode = [] ∨
      ∃ kind, operandKinds variant opcode = [kind] ∨
        operandKinds variant opcode = [kind, .address] := by
  unfold operandKinds
  cases Opcode.ofByte? opcode with
  | none => exact Or.inl rfl
  | some known =>
      cases variant <;> cases known <;>
        simp [Opcode.operandKinds, Opcode.isSized, Opcode.operands, Variant.isTagged]

theorem operandKinds_of_known {known : Opcode} (found : Opcode.ofByte? opcode = some known)
    (variant : Variant) : operandKinds variant opcode = known.operandKinds variant.isTagged := by
  simp [operandKinds, found]

theorem ne_truncated_of_operand {kind : OperandKind} {value : UInt8} {problem : Problem}
    (wrong : operandProblem? variant kind value = some problem) : problem ≠ .truncated := by
  rintro rfl
  cases kind with
  | width => simp [operandProblem?] at wrong
  | register =>
      simp only [operandProblem?] at wrong
      split at wrong
      · cases wrong
      · split at wrong <;> cases wrong
  | immediate | address => cases wrong

theorem operandProblems_of_fine_rest {kind : OperandKind} {kinds : List OperandKind}
    {value : UInt8} (fine : operandProblems variant kinds operands = []) :
    operandProblems variant (kind :: kinds) (value :: operands) = [] ∨
      ∃ problem ≠ .truncated,
        operandProblems variant (kind :: kinds) (value :: operands) = [problem] := by
  cases wrong : operandProblem? variant kind value with
  | none =>
      rw [operandProblems_of_fine wrong]
      exact Or.inl fine
  | some problem =>
      rw [operandProblems_of_wrong wrong, fine]
      exact Or.inr ⟨problem, ne_truncated_of_operand wrong, rfl⟩

/-- With an instruction whose operands are all there, at most one thing is wrong, and it is not that
the image ends. -/
theorem problems_of_complete
    (complete : operands.length = (operandKinds variant opcode).length) :
    problems variant opcode operands = [] ∨
      ∃ problem ≠ .truncated, problems variant opcode operands = [problem] := by
  cases found : Opcode.ofByte? opcode with
  | none => exact Or.inr ⟨.unknownOpcode, by decide, problems_of_unknown found variant operands⟩
  | some known =>
      rw [problems_of_known found, ← operandKinds_of_known found]
      rcases operandKinds_cases variant opcode with kinds | ⟨kind, kinds | kinds⟩
      · rw [kinds] at complete ⊢
        rw [List.eq_nil_of_length_eq_zero complete]
        exact Or.inl rfl
      · rw [kinds] at complete ⊢
        obtain ⟨value, rfl⟩ := List.length_eq_one_iff.mp complete
        exact operandProblems_of_fine_rest rfl
      · rw [kinds] at complete ⊢
        obtain ⟨value, address, rfl⟩ := List.length_eq_two.mp complete
        exact operandProblems_of_fine_rest rfl

/-- No other problem is worded like that of an image that ends. -/
theorem Problem.not_infix_text {problem : Problem} (other : problem ≠ .truncated) :
    ¬Problem.truncated.text.toList <:+: problem.text.toList := by
  cases problem with
  | missingRegister register variant => cases register <;> cases variant <;> decide
  | unknownOpcode | invalidWidth | unknownRegister => decide
  | truncated => exact absurd rfl other

/-- An entry notes that the image ends just when operands are missing. -/
theorem notesCut_entry_iff (within : operands.length ≤ (operandKinds variant opcode).length) :
    (entry variant address opcode operands).NotesCut ↔
      operands.length < (operandKinds variant opcode).length := by
  change Problem.truncated.text.toList <:+:
    (String.intercalate "; " ((problems variant opcode operands).map Problem.text)).toList ↔ _
  constructor
  · intro noted
    by_contra enough
    have complete : operands.length = (operandKinds variant opcode).length := by omega
    rcases problems_of_complete complete with none | ⟨problem, other, one⟩
    · rw [none] at noted
      exact absurd noted (by decide)
    · rw [one] at noted
      exact Problem.not_infix_text other (by simpa using noted)
  · intro missing
    cases found : Opcode.ofByte? opcode with
    | none => simp [operandKinds, found] at missing
    | some known =>
        rw [operandKinds_of_known found] at missing
        rw [problems_of_known found, operandProblems, if_pos missing, String.toList_intercalate,
          List.map_append, List.map_append]
        exact (suffix_intercalate _ _ _).isInfix

end Single

/-! ## The entries of an image -/

/-- The operands of an instruction, as far as the bytes behind its opcode go. -/
def operandsIn (variant : Variant) (opcode : UInt8) (rest : List UInt8) : List UInt8 :=
  rest.take (operandKinds variant opcode).length

section Image

variable (variant : Variant) (start : Int)

theorem ofBytes_nil : ofBytes variant start [] = [] := by
  rw [ofBytes]

theorem ofBytes_cons (opcode : UInt8) (rest : List UInt8) :
    ofBytes variant start (opcode :: rest) =
      entry variant start opcode (operandsIn variant opcode rest) ::
        ofBytes variant (start + 1 + (operandsIn variant opcode rest).length)
          (rest.drop (operandsIn variant opcode rest).length) := by
  rw [ofBytes]
  rfl

theorem length_operandsIn_le (opcode : UInt8) (rest : List UInt8) :
    (operandsIn variant opcode rest).length ≤ (operandKinds variant opcode).length :=
  List.length_take_le _ _

/-- Operands are missing only at the end of an image. -/
theorem complete_or_last (opcode : UInt8) (rest : List UInt8) :
    (operandsIn variant opcode rest).length = (operandKinds variant opcode).length ∨
      rest.drop (operandsIn variant opcode rest).length = [] := by
  simp only [operandsIn, List.length_take, List.drop_eq_nil_iff]
  omega

/-- The bytes of the entries make up the image. -/
theorem flatMap_raw (image : List UInt8) :
    (ofBytes variant start image).flatMap Entry.raw = image := by
  fun_induction ofBytes variant start image with
  | case1 => rfl
  | case2 start opcode rest operands ih =>
      have taken : operands = rest.take operands.length := by
        simp [operands]
      rw [List.flatMap_cons, ih]
      change opcode :: (operands ++ rest.drop operands.length) = opcode :: rest
      rw [List.cons_inj_right]
      nth_rewrite 1 [taken]
      exact List.take_append_drop _ _

theorem address_head (image : List UInt8) :
    ∀ first ∈ (ofBytes variant start image).head?, first.address = start := by
  intro first member
  cases image with
  | nil => simp [ofBytes_nil] at member
  | cons opcode rest =>
      rw [ofBytes_cons, List.head?_cons, Option.mem_some_iff] at member
      exact member ▸ rfl

/-- Each entry stands right behind the one before it. -/
theorem isChain_address (image : List UInt8) :
    (ofBytes variant start image).IsChain
      fun before after : Entry => after.address = before.address + before.size := by
  fun_induction ofBytes variant start image with
  | case1 => exact List.isChain_nil
  | case2 start opcode rest operands ih =>
      rw [List.isChain_cons]
      refine ⟨?_, ih⟩
      intro next member
      rw [address_head _ _ _ next member, size_entry]
      change _ = start + _
      omega

/-- An entry that another one follows has all its bytes. -/
theorem size_of_mem_dropLast (image : List UInt8) :
    ∀ entry ∈ (ofBytes variant start image).dropLast, entry.size = entry.fullSize variant := by
  fun_induction ofBytes variant start image with
  | case1 => simp
  | case2 start opcode rest operands ih =>
      intro shown member
      rcases complete_or_last variant opcode rest with complete | last
      · cases others : ofBytes variant (start + 1 + operands.length)
            (rest.drop operands.length) with
        | nil => simp [others] at member
        | cons next later =>
            rw [List.dropLast_cons_of_ne_nil (by simp [others]), List.mem_cons] at member
            rcases member with rfl | member
            · rw [size_entry, fullSize_entry]
              exact congrArg (· + 1) complete
            · exact ih shown member
      · change rest.drop operands.length = [] at last
        simp [last, ofBytes_nil] at member

/-- The entries up to a place and those from it on are listings of their own bytes. -/
theorem ofBytes_of_split {image : List UInt8} {first later : List Entry}
    (split : ofBytes variant start image = first ++ later) :
    ofBytes variant start (first.flatMap Entry.raw) = first ∧
      ofBytes variant (start + (first.flatMap Entry.raw).length) (later.flatMap Entry.raw) =
        later := by
  induction first generalizing start image with
  | nil =>
      have same : later.flatMap Entry.raw = image := by
        rw [← flatMap_raw variant start image, split, List.nil_append]
      simpa [same, ofBytes_nil] using split
  | cons shown others ih =>
      cases image with
      | nil => simp [ofBytes_nil] at split
      | cons opcode rest =>
          rw [ofBytes_cons, List.cons_append, List.cons.injEq] at split
          obtain ⟨rfl, split⟩ := split
          obtain ⟨listed, remaining⟩ := ih _ split
          have bounded := length_operandsIn_le variant opcode rest
          have complete_or_last := complete_or_last variant opcode rest
          generalize operandsIn variant opcode rest = operands at *
          -- The operands are all there, or else nothing follows them.
          have same : operandsIn variant opcode (operands ++ others.flatMap Entry.raw) =
              operands := by
            rcases complete_or_last with complete | last
            · exact List.take_left' complete
            · rw [last, ofBytes_nil, eq_comm, List.append_eq_nil_iff] at split
              rw [split.1, List.flatMap_nil, List.append_nil]
              exact List.take_of_length_le bounded
          have raw_eq : (entry variant start opcode operands).raw = opcode :: operands := rfl
          rw [List.flatMap_cons, raw_eq, List.cons_append]
          refine ⟨?_, ?_⟩
          · rw [ofBytes_cons, same, List.drop_left, listed]
          · have place : start + ((opcode :: (operands ++ others.flatMap Entry.raw)).length : Int) =
                start + 1 + operands.length + (others.flatMap Entry.raw).length := by
              rw [List.length_cons, List.length_append]
              omega
            rw [place]
            exact remaining

/-- The first `cut` bytes of an image are those of some of its first entries. -/
def IsBoundary (image : List UInt8) (cut : Nat) : Prop :=
  ∃ count, (((ofBytes variant start image).take count).flatMap Entry.raw).length = cut

/-- A listing can be cut where an entry ends. -/
theorem ofBytes_append {front back : List UInt8}
    (boundary : IsBoundary variant start (front ++ back) front.length) :
    ofBytes variant start (front ++ back) =
      ofBytes variant start front ++ ofBytes variant (start + front.length) back := by
  obtain ⟨count, length_eq⟩ := boundary
  have split := (List.take_append_drop count (ofBytes variant start (front ++ back))).symm
  have whole := flatMap_raw variant start (front ++ back)
  generalize (ofBytes variant start (front ++ back)).take count = first at *
  generalize (ofBytes variant start (front ++ back)).drop count = later at *
  rw [split, List.flatMap_append] at whole
  obtain ⟨front_eq, back_eq⟩ := List.append_inj whole length_eq
  obtain ⟨listed, remaining⟩ := ofBytes_of_split variant start split
  rw [front_eq] at listed remaining
  rw [back_eq] at remaining
  rw [split, listed, remaining]

end Image

/-! ## Going through an image with an offset -/

theorem size_pos_of_entryAt? {variant : Variant} {image : List UInt8} {address offset : Int}
    {shown : Entry} (found : entryAt? variant image address offset = some shown) :
    0 < shown.size := by
  simp only [entryAt?, Option.ite_none_left_eq_some, Option.map_eq_some_iff] at found
  obtain ⟨-, opcode, -, rfl⟩ := found
  exact Nat.succ_pos _

/-- Lists an image from an offset on, where `taken` entries are already there: instruction after
instruction, until the image ends or there are as many entries as asked for. -/
def sweep (variant : Variant) (start : Int) (most : Option Int) (image : List UInt8)
    (offset taken : Nat) : List Entry :=
  if offset < image.length then
    if most.any (· ≤ (taken : Int)) then []
    else
      match found : entryAt? variant image (start + offset) offset with
      | none => []
      | some shown => shown :: sweep variant start most image (offset + shown.size) (taken + 1)
  else []
termination_by image.length - offset
decreasing_by
  have positive := size_pos_of_entryAt? found
  omega

section Sweep

variable (variant : Variant) (start : Int) {image : List UInt8} {offset : Nat}

/-- The first entry from an offset on is the one at this offset. -/
theorem ofBytes_drop (within : offset < image.length) :
    ∃ shown, entryAt? variant image (start + offset) offset = some shown ∧
      ofBytes variant (start + offset) (image.drop offset) =
        shown :: ofBytes variant (start + (offset + shown.size : Nat))
          (image.drop (offset + shown.size)) := by
  refine ⟨_, entryAt?_of_lt within variant (start + offset), ?_⟩
  rw [List.drop_eq_getElem_cons within, ofBytes_cons, List.drop_drop, size_entry, operandsIn]
  congr 2
  · omega
  · rw [← Nat.add_assoc, Nat.add_right_comm]

/-- What a sweep still gives: the entries from its offset on, as many as are still asked for. -/
theorem sweep_eq (most : Option Int) (taken : Nat) :
    sweep variant start most image offset taken =
      let remaining := ofBytes variant (start + offset) (image.drop offset)
      most.elim remaining fun count => remaining.take (count.toNat - taken) := by
  fun_induction sweep variant start most image offset taken with
  | case1 offset taken within enough =>
      cases most with
      | none => simp at enough
      | some count =>
          have spent : count.toNat - taken = 0 := by
            simp at enough
            omega
          simp [spent]
  | case2 offset taken within more missing =>
      obtain ⟨shown, found, -⟩ := ofBytes_drop variant start within
      rw [missing] at found
      cases found
  | case3 offset taken within more shown found ih =>
      obtain ⟨first, found', listed⟩ := ofBytes_drop variant start within
      obtain rfl : shown = first := Option.some.inj (found.symm.trans found')
      rw [ih, listed]
      cases most with
      | none => rfl
      | some count =>
          have positive : count.toNat - taken = count.toNat - (taken + 1) + 1 := by
            simp at more
            omega
          simp only [Option.elim_some]
          rw [positive, List.take_succ_cons]
  | case4 offset taken beyond =>
      have nothing : image.drop offset = [] := List.drop_eq_nil_of_le (Nat.le_of_not_lt beyond)
      cases most <;> simp [nothing, ofBytes_nil]

theorem sweep_start (most : Option Int) :
    sweep variant start most image 0 0 = upTo variant start most image := by
  rw [sweep_eq]
  cases most <;> simp [upTo]

theorem mem_sweep {most : Option Int} {taken : Nat} {shown : Entry}
    (member : shown ∈ sweep variant start most image offset taken) :
    ∃ place : Nat, place < image.length ∧
      entryAt? variant image (start + place) place = some shown := by
  fun_induction sweep variant start most image offset taken with
  | case1 | case2 | case4 => simp at member
  | case3 offset taken within more first found ih =>
      rw [List.mem_cons] at member
      rcases member with rfl | later
      · exact ⟨offset, within, found⟩
      · exact ih later

/-- Where an entry of a listing stands in the image, and what it takes from there. -/
theorem exists_place_of_mem {shown : Entry} (member : shown ∈ ofBytes variant start image) :
    ∃ (place : Nat) (opcode : UInt8) (rest : List UInt8),
      shown = entry variant (start + place) opcode (operandsIn variant opcode rest) ∧
        entryAt? variant image (start + place) place = some shown := by
  have swept : shown ∈ sweep variant start none image 0 0 := by
    rw [sweep_start]
    exact member
  obtain ⟨place, within, found⟩ := mem_sweep variant start swept
  refine ⟨place, image[place], image.drop (place + 1), ?_, found⟩
  rw [entryAt?_of_lt within] at found
  exact (Option.some.inj found).symm

end Sweep

theorem mnemonic_eq_data_iff (variant : Variant) (address : Int) (opcode : UInt8)
    (operands : List UInt8) :
    (entry variant address opcode operands).mnemonic = "DB" ↔ Opcode.ofByte? opcode = none := by
  change ((Opcode.ofByte? opcode).map Opcode.mnemonic).getD "DB" = "DB" ↔ _
  cases Opcode.ofByte? opcode with
  | none => simp
  | some known => cases known <;> simp [Opcode.mnemonic]

end Listing

/-- Memory from an address on. -/
theorem Memory.dump_from {memory : Memory} {address : Int} (natural : 0 ≤ address)
    (within : address ≤ memory.size) :
    memory.dump address none = .ok (memory.cells.toList.drop address.toNat) := by
  have length_eq : memory.cells.toList.length = memory.size := Array.length_toList
  simp only [dump, Option.getD_none]
  by_cases ended : (memory.size : Int) - address ≤ 0
  · rw [if_pos ended, List.drop_eq_nil_of_le (by omega)]
  · have covered : memory.Covers address ((memory.size : Int) - address).toNat := by
      unfold Covers
      omega
    rw [if_neg ended, if_pos covered, List.take_of_length_le]
    rw [List.length_drop]
    omega

namespace Listing

/-- What an entry says about its place in an image whose first byte has the address `start`. -/
structure Entry.Describes (variant : Variant) (start : Int) (image : List UInt8)
    (shown : Entry) : Prop where
  /-- Its bytes are its opcode and its operands. -/
  bytes : ∃ opcode : UInt8, shown.opcode = opcode.toNat ∧ shown.raw = opcode :: shown.operands
  /-- It is data just when its opcode is none. -/
  data : shown.mnemonic = "DB" ↔ Opcode.ofInt? shown.opcode = none
  /-- It notes that the image ends just when bytes are missing. -/
  cut : shown.NotesCut ↔ shown.size < shown.fullSize variant
  /-- It is what its place in the image shows by itself. -/
  alone : entryAt? variant image shown.address (shown.address - start) = some shown

theorem describes_of_mem {variant : Variant} {start : Int} {image : List UInt8} {shown : Entry}
    (member : shown ∈ ofBytes variant start image) : shown.Describes variant start image := by
  obtain ⟨place, opcode, rest, rfl, found⟩ := exists_place_of_mem variant start member
  refine ⟨⟨opcode, rfl, rfl⟩, ?_, ?_, ?_⟩
  · rw [mnemonic_eq_data_iff, ← Opcode.ofInt?_toNat]
    rfl
  · rw [notesCut_entry_iff (length_operandsIn_le variant opcode rest), size_entry, fullSize_entry]
    omega
  · have place_eq : start + place - start = (place : Int) := by omega
    change entryAt? variant image (start + place) (start + place - start) = _
    rw [place_eq]
    exact found

/-- A listing shows every byte of an image in exactly one entry, from the first byte to the last and
entry behind entry. An entry is its opcode with its operands, as it is shown at its place by itself.
It has all the bytes that the table gives it, or else it is the last and says so. A number of
entries asked for gives the first ones, as does going through the image until they are there. Where
an entry ends, the listing falls into those of the two parts. Memory is listed like any image. -/
theorem entries_partition_image (variant : Variant) (start : Int) (image : List UInt8) :
    let entries := ofBytes variant start image
    entries.flatMap Entry.raw = image ∧
    (∀ shown ∈ entries, shown.Describes variant start image) ∧
    (∀ first ∈ entries.head?, first.address = start) ∧
    entries.IsChain (fun before after : Entry => after.address = before.address + before.size) ∧
    (∀ shown ∈ entries.dropLast, shown.size = shown.fullSize variant ∧ ¬shown.NotesCut) ∧
    (∀ count, upTo variant start (some count) image = entries.take (max count 0).toNat) ∧
    (∀ most, upTo variant start most image = sweep variant start most image 0 0) ∧
    (∀ front back, image = front ++ back → IsBoundary variant start image front.length →
      entries = ofBytes variant start front ++ ofBytes variant (start + front.length) back) ∧
    (∀ {δ : Type} (machine : Machine δ) (address : Int) (count : Option Int),
      0 ≤ address → address ≤ machine.memory.size →
        machine.listing address count =
          .ok ((upTo machine.variant address count
            (machine.memory.cells.toList.drop address.toNat)).map Entry.line)) := by
  intro entries
  refine ⟨flatMap_raw variant start image, fun _ member => describes_of_mem member,
    address_head variant start image, isChain_address variant start image, ?_, ?_, ?_, ?_, ?_⟩
  · intro shown member
    have complete := size_of_mem_dropLast variant start image shown member
    have describes := describes_of_mem (List.mem_of_mem_dropLast member)
    refine ⟨complete, ?_⟩
    rw [describes.cut]
    omega
  · intro count
    have nonneg : (max count 0).toNat = count.toNat := by omega
    rw [nonneg]
    rfl
  · intro most
    rw [sweep_start]
  · rintro front back rfl boundary
    exact ofBytes_append variant start boundary
  · intro δ machine address count natural within
    rw [Machine.listing, Memory.dump_from natural within]
    rfl

theorem entries_partition_image_cut_off :
    IsBoundary .byte 0 [0x03, 0x01, 0x32, 0x42, 0x05] 3 ∧
      ofBytes .byte 0 [0x03, 0x01, 0x32, 0x42, 0x05] =
        ofBytes .byte 0 [0x03, 0x01, 0x32] ++ ofBytes .byte 3 [0x42, 0x05] ∧
      (Machine.holding [0x00, 0x42, 0x05]).listing 1 none =
        .ok ((upTo .byte 1 none [0x42, 0x05]).map Entry.line) := by
  have boundary : IsBoundary .byte 0 [0x03, 0x01, 0x32, 0x42, 0x05] 3 := by
    refine ⟨1, ?_⟩
    rw [ofBytes_cons]
    rfl
  obtain ⟨-, -, -, -, -, -, -, splits, lists⟩ :=
    entries_partition_image .byte 0 [0x03, 0x01, 0x32, 0x42, 0x05]
  exact ⟨boundary, splits [0x03, 0x01, 0x32] [0x42, 0x05] rfl boundary,
    lists (Machine.holding [0x00, 0x42, 0x05]) 1 none (by decide) (by decide)⟩

end Listing

end ByteMachine
