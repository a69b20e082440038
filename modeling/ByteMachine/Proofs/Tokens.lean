import ByteMachine.HexProgram
import ByteMachine.Proofs.Cells
import ByteMachine.Text.Hex
import Mathlib.Data.List.Basic

/-!
# Words, lines and hexadecimal digits

How a text that is put together from pieces falls apart again: into the words between its blanks and
into the lines between its line feeds. A number is written with digits only, and two hexadecimal
digits are read back as the byte they stand for.
-/

namespace ByteMachine

namespace Text

/-! ## Words -/

section Pieces

variable {isCut : Char → Bool} {piece : List Char}

theorem splitBy_of_uncut (uncut : ∀ c ∈ piece, isCut c = false) :
    splitBy isCut piece = [piece] := by
  induction piece with
  | nil => rfl
  | cons c rest ih =>
      rw [List.forall_mem_cons] at uncut
      simp [splitBy, uncut.1, ih uncut.2, extendFirst]

theorem splitBy_append_cut (uncut : ∀ c ∈ piece, isCut c = false) {cut : Char}
    (isCut_cut : isCut cut = true) (rest : List Char) :
    splitBy isCut (piece ++ cut :: rest) = piece :: splitBy isCut rest := by
  induction piece with
  | nil => simp [splitBy, isCut_cut]
  | cons c others ih =>
      rw [List.forall_mem_cons] at uncut
      simp [splitBy, uncut.1, ih uncut.2, extendFirst]

end Pieces

/-- A word: a text that is not empty and holds no blank. -/
structure IsWord (text : List Char) : Prop where
  /-- It is not empty. -/
  ne_nil : text ≠ []
  /-- It holds no blank. -/
  unblank : ∀ c ∈ text, isBlank c = false

variable {word : List Char}

theorem words_of_isWord (isWord : IsWord word) : words word = [word] := by
  simp [words, splitBy_of_uncut isWord.unblank, isWord.ne_nil]

theorem words_append_blank (isWord : IsWord word) {blank : Char} (isBlank_blank : isBlank blank)
    (rest : List Char) : words (word ++ blank :: rest) = word :: words rest := by
  simp [words, splitBy_append_cut isWord.unblank isBlank_blank, isWord.ne_nil]

theorem words_blanks (count : Nat) : words (List.replicate count ' ') = [] := by
  induction count with
  | zero => rfl
  | succ count ih =>
      rw [List.replicate_succ, words, splitBy, if_pos (by decide)]
      simpa [words] using ih

/-- Words that are joined by blanks, with more blanks behind them, are the words of the text. -/
theorem words_intercalate {parts : List (List Char)} (areWords : ∀ part ∈ parts, IsWord part)
    (count : Nat) :
    words ([' '].intercalate parts ++ List.replicate count ' ') = parts := by
  induction parts with
  | nil => exact words_blanks count
  | cons part others ih =>
      rw [List.forall_mem_cons] at areWords
      cases others with
      | nil =>
          cases count with
          | zero => simpa using words_of_isWord areWords.1
          | succ count =>
              rw [List.intercalate_singleton, List.replicate_succ,
                words_append_blank areWords.1 (by decide), words_blanks]
      | cons next later =>
          rw [List.intercalate_cons_cons, List.append_assoc, List.append_assoc,
            List.singleton_append, words_append_blank areWords.1 (by decide), ih areWords.2]

/-! ## Lines -/

section Lines

variable {line : List Char}

theorem lines_cons_of_unbroken {c : Char} (unbroken : isLineBreak c = false) (rest : List Char) :
    lines (c :: rest) = extendFirst c (lines rest) := by
  have other : c ≠ '\r' := by
    rintro rfl
    exact absurd unbroken (by decide)
  rw [lines]
  · simp [unbroken]
  · intro rest' c_eq
    exact absurd c_eq other

theorem lines_append_feed (unbroken : ∀ c ∈ line, isLineBreak c = false) (rest : List Char) :
    lines (line ++ '\n' :: rest) = line :: lines rest := by
  induction line with
  | nil =>
      rw [List.nil_append, lines]
      · simp [isLineBreak]
      · simp
  | cons c others ih =>
      rw [List.forall_mem_cons] at unbroken
      rw [List.cons_append, lines_cons_of_unbroken unbroken.1, ih unbroken.2, extendFirst]

theorem lines_of_unbroken (unbroken : ∀ c ∈ line, isLineBreak c = false) (nonempty : line ≠ []) :
    lines line = [line] := by
  induction line with
  | nil => exact absurd rfl nonempty
  | cons c others ih =>
      rw [List.forall_mem_cons] at unbroken
      rw [lines_cons_of_unbroken unbroken.1]
      cases others with
      | nil => rfl
      | cons next later => rw [ih unbroken.2 (by simp), extendFirst]

/-- Lines that are joined by line feeds are the lines of the text. -/
theorem lines_intercalate {parts : List (List Char)}
    (unbroken : ∀ part ∈ parts, ∀ c ∈ part, isLineBreak c = false)
    (nonempty : ∀ part ∈ parts, part ≠ []) : lines (['\n'].intercalate parts) = parts := by
  induction parts with
  | nil => rfl
  | cons part others ih =>
      rw [List.forall_mem_cons] at unbroken nonempty
      cases others with
      | nil =>
          rw [List.intercalate_singleton]
          exact lines_of_unbroken unbroken.1 nonempty.1
      | cons next later =>
          rw [List.intercalate_cons_cons, List.append_assoc, List.singleton_append,
            lines_append_feed unbroken.1, ih unbroken.2 nonempty.2]

end Lines

/-! ## Hexadecimal digits -/

/-- The digit of a number below sixteen. -/
def upperDigit (value : Nat) : Char :=
  value.digitChar.toUpper

theorem hexDigits_of_lt {n : Nat} (small : n < 16) : hexDigits n = [upperDigit n] := by
  rw [hexDigits, Nat.toDigits_of_lt_base small]
  rfl

theorem hexDigits_of_le {n : Nat} (large : 16 ≤ n) :
    hexDigits n = hexDigits (n / 16) ++ [upperDigit (n % 16)] := by
  rw [hexDigits, Nat.toDigits_of_base_le (by decide) large, List.map_append]
  rfl

theorem mem_hexDigits {n : Nat} {c : Char} (member : c ∈ hexDigits n) :
    ∃ value < 16, c = upperDigit value := by
  induction n using Nat.strongRecOn with
  | ind n ih =>
      by_cases small : n < 16
      · rw [hexDigits_of_lt small, List.mem_singleton] at member
        exact ⟨n, small, member⟩
      · rw [hexDigits_of_le (by omega), List.mem_append, List.mem_singleton] at member
        rcases member with higher | lowest
        · exact ih (n / 16) (by omega) higher
        · exact ⟨n % 16, by omega, lowest⟩

/-- An integer is written with digits and a minus sign. -/
theorem mem_hexChars {width : Nat} {n : Int} {c : Char} (member : c ∈ hexChars width n) :
    c = '-' ∨ ∃ value < 16, c = upperDigit value := by
  simp only [hexChars, List.mem_append] at member
  rcases member with (sign | zero) | digit
  · split at sign
    · exact Or.inl (List.mem_singleton.mp sign)
    · cases sign
  · exact Or.inr ⟨0, by decide, (List.mem_replicate.mp zero).2⟩
  · exact Or.inr (mem_hexDigits digit)

/-- A byte is written with two digits. -/
theorem hexChars_byte (byte : UInt8) :
    hexChars 2 byte.toNat = [upperDigit (byte.toNat / 16), upperDigit (byte.toNat % 16)] := by
  have bound := byte.toNat_lt
  have natural : ¬(byte.toNat : Int) < 0 := by omega
  rw [hexChars, if_neg natural, Int.natAbs_natCast]
  by_cases small : byte.toNat < 16
  · rw [hexDigits_of_lt small, Nat.div_eq_of_lt small, Nat.mod_eq_of_lt small]
    rfl
  · rw [hexDigits_of_le (by omega), hexDigits_of_lt (by omega)]
    rfl

section Digit

variable {value : Nat}

theorem basicDigit?_upperDigit (small : value < 16) :
    basicDigit? (upperDigit value) = some value := by
  revert value
  decide

theorem toBasic_upperDigit (small : value < 16) :
    toBasic (upperDigit value) = upperDigit value := by
  revert value
  decide

theorem isBlank_upperDigit (small : value < 16) : isBlank (upperDigit value) = false := by
  revert value
  decide

/-- No digit is one of the marks that have a meaning of their own. -/
theorem upperDigit_ne_mark (small : value < 16) {mark : Char}
    (isMark : mark ∈ ['-', '+', '_', '$', 'x', 'X', ';', '#', ':']) : upperDigit value ≠ mark := by
  have unmarked : upperDigit value ∉ ['-', '+', '_', '$', 'x', 'X', ';', '#', ':'] := by
    clear isMark
    revert value
    decide
  rintro rfl
  exact unmarked isMark

/-- Line breaks and the blanks around a number are blanks. -/
theorem isBlank_of_isLineBreak {c : Char} (isBreak : isLineBreak c = true) : isBlank c = true := by
  simp only [isLineBreak, isBlank, Bool.or_eq_true, Bool.and_eq_true, decide_eq_true_eq,
    beq_iff_eq] at isBreak ⊢
  omega

theorem isBlank_of_isMargin {c : Char} (isMargin_c : isMargin c = true) : isBlank c = true := by
  simp only [isMargin, isBlank, Bool.or_eq_true, Bool.and_eq_true, decide_eq_true_eq,
    beq_iff_eq] at isMargin_c ⊢
  rcases isMargin_c with rfl | within
  · decide
  · omega

end Digit

theorem continueDigits_upperDigit {value : Nat} (small : value < 16) (afterDigit : Bool)
    (before : Nat) (rest : List Char) :
    continueDigits 16 afterDigit before (upperDigit value :: rest) =
      continueDigits 16 true (before * 16 + value) rest := by
  rw [continueDigits]
  · simp [basicDigit?_upperDigit small, small]
  · exact upperDigit_ne_mark small (by simp)

theorem dropWhile_of_kept {isDropped : Char → Bool} {text : List Char}
    (kept : ∀ c ∈ text, isDropped c = false) : text.dropWhile isDropped = text := by
  cases text with
  | nil => rfl
  | cons c rest => rw [List.dropWhile_cons_of_neg (by simp [kept])]

theorem trimBy_of_kept {isDropped : Char → Bool} {text : List Char}
    (kept : ∀ c ∈ text, isDropped c = false) : trimBy isDropped text = text := by
  have kept_reverse : ∀ c ∈ text.reverse, isDropped c = false := by simpa using kept
  rw [trimBy, dropWhile_of_kept kept, dropWhile_of_kept kept_reverse, List.reverse_reverse]

theorem magnitude?_of_unmarked {first second : Char} (no_x : second ≠ 'x') (no_X : second ≠ 'X')
    (rest : List Char) :
    magnitude? .hexadecimal (first :: second :: rest) = digits? 16 (first :: second :: rest) := by
  rw [magnitude?]
  · simp [no_x]
  · simp [no_X]

/-- Two digits are read as the number they stand for. -/
theorem integerOfChars?_pair {high low : Nat} (high_small : high < 16) (low_small : low < 16) :
    integerOfChars? .hexadecimal [upperDigit high, upperDigit low] =
      some ((high * 16 + low : Nat) : Int) := by
  have kept : ∀ c ∈ [upperDigit high, upperDigit low], isMargin c = false := by
    have unmarked {value : Nat} (small : value < 16) : isMargin (upperDigit value) = false := by
      rw [Bool.eq_false_iff]
      intro margin
      have blank := isBlank_of_isMargin margin
      rw [isBlank_upperDigit small] at blank
      cases blank
    simp [unmarked high_small, unmarked low_small]
  have read : magnitude? .hexadecimal [upperDigit high, upperDigit low] =
      some (high * 16 + low) := by
    rw [magnitude?_of_unmarked (upperDigit_ne_mark low_small (by simp))
      (upperDigit_ne_mark low_small (by simp)), digits?, continueDigits_upperDigit high_small,
      continueDigits_upperDigit low_small, Nat.zero_mul, Nat.zero_add]
    rfl
  simp only [integerOfChars?, List.map_cons, List.map_nil, toBasic_upperDigit high_small,
    toBasic_upperDigit low_small, trimBy_of_kept kept]
  split
  · rename_i rest minus
    exact absurd (List.cons.inj minus).1 (upperDigit_ne_mark high_small (by simp))
  · rename_i rest plus
    exact absurd (List.cons.inj plus).1 (upperDigit_ne_mark high_small (by simp))
  · rw [read]
    rfl

end Text

namespace HexProgram

open Text

theorem dropStart_of_ne_second {first second a b : Char} (other : b ≠ second) :
    dropStart [first, second] [a, b] = [a, b] := by
  simp [dropStart, List.isPrefixOf?, other.symm]

/-- A pair of digits carries no marks. -/
theorem withoutMarks_pair {high low : Nat} (high_small : high < 16) (low_small : low < 16) :
    withoutMarks [upperDigit high, upperDigit low] = [upperDigit high, upperDigit low] := by
  have no_dollar : upperDigit high ≠ '$' := upperDigit_ne_mark high_small (by simp)
  have kept : dropStart ['$'] [upperDigit high, upperDigit low] =
      [upperDigit high, upperDigit low] := by
    simp [dropStart, List.isPrefixOf?, no_dollar.symm]
  rw [withoutMarks, kept, dropStart_of_ne_second (upperDigit_ne_mark low_small (by simp)),
    dropStart_of_ne_second (upperDigit_ne_mark low_small (by simp))]

/-- A byte is read back from its two digits. -/
theorem byteOf_hexChars (line : Nat) (byte : UInt8) :
    byteOf line (withoutMarks (hexChars 2 byte.toNat)) = .ok byte := by
  have bound := byte.toNat_lt
  have high_small : byte.toNat / 16 < 16 := by omega
  have low_small : byte.toNat % 16 < 16 := by omega
  have value_eq : byte.toNat / 16 * 16 + byte.toNat % 16 = byte.toNat := by omega
  have fits : (byte.toNat : Int) ≤ 255 := by omega
  rw [hexChars_byte, withoutMarks_pair high_small low_small, byteOf, if_neg (by simp),
    integerOfChars?_pair high_small low_small, value_eq]
  simp [fits, Memory.ofInt_toNat]

end HexProgram

end ByteMachine
