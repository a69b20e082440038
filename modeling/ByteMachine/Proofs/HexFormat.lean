import ByteMachine.Proofs.Reading
import ByteMachine.Proofs.Tokens

/-!
# The format of hexadecimal programs

A text is a program if each of its tokens can be read as a byte. One or two hexadecimal digits can,
as the format has it. So can tokens that the format does not name: decimal digits of other scripts
stand for their values, and a plus sign may stand before a single digit, or a minus sign before a
zero. The first token that cannot be read is the one that is reported, with its line.
-/

namespace ByteMachine

namespace Text

/-! ## Digits -/

/-- The value of a hexadecimal digit. -/
def hexDigit? (c : Char) : Option Nat :=
  if '0' ≤ c ∧ c ≤ '9' then some (c.toNat - '0'.toNat)
  else if 'a' ≤ c ∧ c ≤ 'f' then some (c.toNat - 'a'.toNat + 10)
  else if 'A' ≤ c ∧ c ≤ 'F' then some (c.toNat - 'A'.toNat + 10)
  else none

/-- The value of a hexadecimal digit, or of a decimal digit of another script. -/
def digitValue? (c : Char) : Option Nat :=
  (hexDigit? c).or (decimalValue? c)

theorem decimalValue?_lt {c : Char} {value : Nat} (read : decimalValue? c = some value) :
    value < 10 := by
  obtain ⟨first, found, rfl⟩ := Option.map_eq_some_iff.mp read
  have within := List.find?_some found
  simp only [Bool.and_eq_true, decide_eq_true_eq] at within
  omega

theorem digitValue?_of_basic :
    ∀ n < 0x7F, (basicDigit? (Char.ofNat n)).filter (· < 16) = digitValue? (Char.ofNat n) := by
  decide +kernel

section Character

variable {c : Char}

theorem not_le_of_large (large : 0x7F ≤ c.toNat) (last : UInt32) (small : last.toNat < 0x7F) :
    ¬c.val ≤ last := by
  rw [UInt32.le_iff_toNat_le]
  exact fun most => absurd (Nat.le_trans large most) (Nat.not_le.mpr small)

theorem basicDigit?_of_large (large : 0x7F ≤ c.toNat) : basicDigit? c = none := by
  have beyond := not_le_of_large large
  have undigit : c.isDigit = false :=
    Bool.and_eq_false_iff.mpr (Or.inr (decide_eq_false (beyond 0x39 (by decide))))
  have unlower : c.isLower = false :=
    Bool.and_eq_false_iff.mpr (Or.inr (decide_eq_false (beyond 0x7A (by decide))))
  have unupper : c.isUpper = false :=
    decide_eq_false fun upper => beyond 0x5A (by decide) upper.2
  simp [basicDigit?, undigit, unlower, unupper]

theorem hexDigit?_of_large (large : 0x7F ≤ c.toNat) : hexDigit? c = none := by
  have beyond := not_le_of_large large
  simp [hexDigit?, Char.le_def, beyond 0x39 (by decide), beyond 0x66 (by decide),
    beyond 0x46 (by decide)]

/-- What a character becomes when other scripts are reduced to the basic one. -/
theorem toBasic_cases (unblank : isBlank c = false) :
    (c.toNat < 0x7F ∧ toBasic c = c) ∨
      0x7F ≤ c.toNat ∧
        ((∃ value < 10, decimalValue? c = some value ∧
            toBasic c = Char.ofNat ('0'.toNat + value)) ∨
          decimalValue? c = none ∧ toBasic c = c) := by
  by_cases small : c.toNat < 0x7F
  · exact Or.inl ⟨small, if_pos small⟩
  · refine Or.inr ⟨Nat.not_lt.mp small, ?_⟩
    rw [toBasic, if_neg small, if_neg (by simp [unblank])]
    cases read : decimalValue? c with
    | none => exact Or.inr ⟨rfl, rfl⟩
    | some value => exact Or.inl ⟨value, decimalValue?_lt read, rfl, rfl⟩

theorem digitValue?_toBasic (unblank : isBlank c = false) :
    (basicDigit? (toBasic c)).filter (· < 16) = digitValue? c := by
  obtain ⟨small, same⟩ | ⟨large, ⟨value, small, read, same⟩ | ⟨read, same⟩⟩ :=
    toBasic_cases unblank
  · rw [same, ← Char.ofNat_toNat c]
    exact digitValue?_of_basic c.toNat small
  · rw [same, digitValue?, hexDigit?_of_large large, read]
    clear read same
    revert value
    decide
  · rw [same, basicDigit?_of_large large, digitValue?, hexDigit?_of_large large, read]
    rfl

/-- Only a blank is taken for one. -/
theorem isMargin_toBasic (unblank : isBlank c = false) : isMargin (toBasic c) = false := by
  have unmargined : isMargin c = false := by
    rw [Bool.eq_false_iff]
    intro margin
    rw [isBlank_of_isMargin margin] at unblank
    cases unblank
  obtain ⟨-, same⟩ | ⟨-, ⟨value, small, -, same⟩ | ⟨-, same⟩⟩ := toBasic_cases unblank
  · rw [same]
    exact unmargined
  · rw [same]
    clear same
    revert value
    decide
  · rw [same]
    exact unmargined

/-- Only a sign is taken for one. -/
theorem toBasic_eq_sign_iff (unblank : isBlank c = false) {sign : Char}
    (isSign : sign = '-' ∨ sign = '+') : toBasic c = sign ↔ c = sign := by
  obtain ⟨-, same⟩ | ⟨large, ⟨value, small, -, same⟩ | ⟨-, same⟩⟩ := toBasic_cases unblank
  · rw [same]
  · have digit : toBasic c ≠ sign := by
      rw [same]
      clear same
      revert value
      rcases isSign with rfl | rfl <;> decide
    refine iff_of_false digit ?_
    rintro rfl
    rcases isSign with rfl | rfl <;> exact absurd large (by decide)
  · rw [same]

end Character

/-! ## Numbers of one or two characters -/

theorem continueDigits_last (base value : Nat) (afterDigit : Bool) (c : Char) :
    continueDigits base afterDigit value [c] =
      ((basicDigit? c).filter (· < base)).map (value * base + ·) := by
  by_cases underscore : c = '_'
  · subst underscore
    cases afterDigit <;> rfl
  · rw [continueDigits]
    · cases basicDigit? c with
      | none => rfl
      | some digit =>
          simp only [Option.filter_some, decide_eq_true_eq]
          split <;> rfl
    · exact underscore

theorem continueDigits_next (base value : Nat) (c d : Char) :
    continueDigits base false value [c, d] =
      ((basicDigit? c).filter (· < base)).bind fun high =>
        ((basicDigit? d).filter (· < base)).map ((value * base + high) * base + ·) := by
  by_cases underscore : c = '_'
  · subst underscore
    rfl
  · rw [continueDigits]
    · cases basicDigit? c with
      | none => rfl
      | some digit =>
          simp only [Option.filter_some, decide_eq_true_eq]
          split
          · exact continueDigits_last base _ true d
          · rfl
    · exact underscore

/-- Two characters are too few for a mark with digits behind it. -/
theorem magnitude?_of_short {text : List Char} (short : text.length ≤ 2) :
    magnitude? .hexadecimal text = digits? 16 text := by
  unfold magnitude?
  split
  · rename_i rest _
    obtain rfl : rest = [] := by simpa using short
    rfl
  · rename_i rest _
    obtain rfl : rest = [] := by simpa using short
    rfl
  · rfl
  all_goals contradiction

section Short

variable {c d : Char}

theorem magnitude?_one (unblank : isBlank c = false) :
    magnitude? .hexadecimal [toBasic c] = digitValue? c := by
  rw [magnitude?_of_short (by simp), digits?, continueDigits_last, digitValue?_toBasic unblank]
  simp

/-- A single character is a number if it is a digit. -/
theorem integerOfChars?_one (unblank : isBlank c = false) :
    integerOfChars? .hexadecimal [c] = (digitValue? c).map Int.ofNat := by
  have kept : ∀ b ∈ [toBasic c], isMargin b = false := by
    simp [isMargin_toBasic unblank]
  simp only [integerOfChars?, List.map_cons, List.map_nil, trimBy_of_kept kept]
  split
  · rename_i rest minus
    obtain ⟨sign, rfl⟩ := List.cons.inj minus
    rw [(toBasic_eq_sign_iff unblank (Or.inl rfl)).mp sign]
    rfl
  · rename_i rest plus
    obtain ⟨sign, rfl⟩ := List.cons.inj plus
    rw [(toBasic_eq_sign_iff unblank (Or.inr rfl)).mp sign]
    rfl
  · rw [magnitude?_one unblank]

/-- Two characters are a number if they are a sign and a digit, or two digits. -/
theorem integerOfChars?_two (unblank_c : isBlank c = false) (unblank_d : isBlank d = false) :
    integerOfChars? .hexadecimal [c, d] =
      if c = '-' then (digitValue? d).map fun (n : Nat) => -(n : Int)
      else if c = '+' then (digitValue? d).map Int.ofNat
      else (digitValue? c).bind fun high =>
        (digitValue? d).map fun low => Int.ofNat (high * 16 + low) := by
  have kept : ∀ b ∈ [toBasic c, toBasic d], isMargin b = false := by
    simp [isMargin_toBasic unblank_c, isMargin_toBasic unblank_d]
  -- The signs are looked for after the reduction, which neither makes nor hides one.
  simp only [integerOfChars?, List.map_cons, List.map_nil, trimBy_of_kept kept,
    ← toBasic_eq_sign_iff unblank_c (Or.inl rfl), ← toBasic_eq_sign_iff unblank_c (Or.inr rfl)]
  split
  · rename_i rest minus
    obtain ⟨sign, rfl⟩ := List.cons.inj minus
    rw [if_pos sign, magnitude?_one unblank_d]
    cases digitValue? d <;> rfl
  · rename_i rest plus
    obtain ⟨sign, rfl⟩ := List.cons.inj plus
    rw [if_neg (by simp [sign]), if_pos sign, magnitude?_one unblank_d]
  · rename_i rest no_minus no_plus
    rw [if_neg fun sign => no_minus _ (congrArg (· :: _) sign),
      if_neg fun sign => no_plus _ (congrArg (· :: _) sign), magnitude?_of_short (by simp),
      digits?, continueDigits_next, digitValue?_toBasic unblank_c, digitValue?_toBasic unblank_d]
    simp [Option.map_bind, Function.comp_def]

end Short

end Text

namespace HexProgram

open Text

/-! ## Bytes -/

/-- One or two digits, with the value that they stand for. -/
inductive Numeral (digit? : Char → Option Nat) : List Char → Nat → Prop
  | one {c : Char} {value : Nat} : digit? c = some value → Numeral digit? [c] value
  | two {c d : Char} {high low : Nat} : digit? c = some high → digit? d = some low →
      Numeral digit? [c, d] (high * 16 + low)

/-- A token without marks that can be read as a byte, with its value. -/
inductive Reads : List Char → Nat → Prop
  /-- Digits of any script. -/
  | digits {token : List Char} {value : Nat} : Numeral digitValue? token value → Reads token value
  /-- A plus sign before a digit. -/
  | plus {c : Char} {value : Nat} : digitValue? c = some value → Reads ['+', c] value
  /-- A minus sign before a zero. -/
  | minus {c : Char} : digitValue? c = some 0 → Reads ['-', c] 0

theorem digitValue?_of_hexDigit? {c : Char} {value : Nat} (read : hexDigit? c = some value) :
    digitValue? c = some value := by
  rw [digitValue?, read, Option.some_or]

theorem hexDigit?_of_isSome {c : Char} {value : Nat} (hexadecimal : (hexDigit? c).isSome = true)
    (read : digitValue? c = some value) : hexDigit? c = some value := by
  rwa [digitValue?, Option.or_of_isSome hexadecimal] at read

theorem digitValue?_lt {c : Char} {value : Nat} (read : digitValue? c = some value) :
    value < 16 := by
  by_cases small : c.toNat < 0x7F
  · have basic := digitValue?_of_basic c.toNat small
    rw [Char.ofNat_toNat, read] at basic
    simpa using (Option.filter_eq_some_iff.mp basic).2
  · rw [digitValue?, hexDigit?_of_large (Nat.not_lt.mp small)] at read
    have bound := decimalValue?_lt read
    omega

/-- A sign is no digit. -/
theorem ne_sign_of_digit {c : Char} {value : Nat} (read : digitValue? c = some value) :
    c ≠ '-' ∧ c ≠ '+' := by
  constructor <;> rintro rfl <;> cases read

theorem Reads.short {token : List Char} {value : Nat} (reads : Reads token value) :
    token.length ≤ 2 := by
  cases reads with
  | digits numeral => cases numeral <;> simp
  | plus | minus => simp

theorem reads_iff {token : List Char} (unblank : ∀ c ∈ token, isBlank c = false)
    (short : token.length ≤ 2) {value : Nat} :
    Reads token value ↔ integerOfChars? .hexadecimal token = some (value : Int) := by
  match token with
  | [] =>
    constructor
    · rintro ⟨⟨⟩⟩
    · intro read
      cases read
  | [c] =>
    rw [integerOfChars?_one (unblank c (by simp)), Option.map_eq_some_iff]
    constructor
    · rintro ⟨⟨read⟩⟩
      exact ⟨value, read, rfl⟩
    · rintro ⟨found, read, same⟩
      cases same
      exact .digits (.one read)
  | [c, d] =>
    rw [integerOfChars?_two (unblank c (by simp)) (unblank d (by simp))]
    constructor
    · intro reads
      cases reads with
      | digits numeral =>
          cases numeral with
          | two read_high read_low =>
              obtain ⟨no_minus, no_plus⟩ := ne_sign_of_digit read_high
              rw [if_neg no_minus, if_neg no_plus, read_high, read_low]
              rfl
      | plus read =>
          rw [if_neg (by decide), if_pos rfl, read]
          rfl
      | minus read =>
          rw [if_pos rfl, read]
          rfl
    · intro read
      split at read
      · rename_i sign
        obtain ⟨found, digit, same⟩ := Option.map_eq_some_iff.mp read
        -- A negative number is no byte, so the digit behind a minus sign is a zero.
        obtain ⟨rfl, rfl⟩ : found = 0 ∧ value = 0 := by omega
        rw [sign]
        exact .minus digit
      · split at read
        · rename_i sign
          obtain ⟨found, read, same⟩ := Option.map_eq_some_iff.mp read
          cases same
          rw [sign]
          exact .plus read
        · obtain ⟨high, read_high, read⟩ := Option.bind_eq_some_iff.mp read
          obtain ⟨low, read_low, same⟩ := Option.map_eq_some_iff.mp read
          cases same
          exact .digits (.two read_high read_low)

theorem Reads.lt {token : List Char} {value : Nat} (reads : Reads token value) : value < 256 := by
  cases reads with
  | digits numeral =>
      cases numeral with
      | one read =>
          have bound := digitValue?_lt read
          omega
      | two read_high read_low =>
          have bound_high := digitValue?_lt read_high
          have bound_low := digitValue?_lt read_low
          omega
  | plus read =>
      have bound := digitValue?_lt read
      omega
  | minus => decide

section Token

variable {line : Nat} {token : List Char}

/-- A token is a byte if it can be read as the value of the byte. -/
theorem byteOf_eq_ok_iff (unblank : ∀ c ∈ token, isBlank c = false) {byte : UInt8} :
    byteOf line token = .ok byte ↔ Reads token byte.toNat := by
  unfold byteOf
  split
  · rename_i long
    exact iff_of_false nofun fun reads => absurd reads.short (Nat.not_le.mpr long)
  · rename_i short
    rw [reads_iff unblank (Nat.not_lt.mp short)]
    split
    · rename_i unread
      exact iff_of_false nofun (by simp [unread])
    · rename_i value read
      rw [read, Option.some_inj]
      split
      · rename_i within
        constructor
        · intro same
          cases same
          simp only [UInt8.ofInt, UInt8.toNat_ofNat']
          omega
        · rintro rfl
          rw [Memory.ofInt_toNat]
      · rename_i outside
        have bound := byte.toNat_lt
        refine iff_of_false nofun ?_
        rintro rfl
        omega

theorem readable_iff (unblank : ∀ c ∈ token, isBlank c = false) :
    (∃ byte, byteOf line token = .ok byte) ↔ ∃ value, Reads token value := by
  constructor
  · rintro ⟨byte, read⟩
    exact ⟨byte.toNat, (byteOf_eq_ok_iff unblank).mp read⟩
  · rintro ⟨value, reads⟩
    have same : (UInt8.ofNat value).toNat = value := UInt8.toNat_ofNat_of_lt' reads.lt
    exact ⟨UInt8.ofNat value, (byteOf_eq_ok_iff unblank).mpr (same.symm ▸ reads)⟩

/-- Why a token cannot be read. -/
def problemOf (line : Nat) (token : List Char) : Problem :=
  ⟨line, String.ofList token, if 2 < token.length then .tooLong else .notHex⟩

theorem byteOf_error {problem : Problem} (failed : byteOf line token = .error problem) :
    problem = problemOf line token := by
  unfold byteOf at failed
  unfold problemOf
  split at failed
  · rename_i long
    cases failed
    rw [if_pos long]
  · rename_i short
    rw [if_neg short]
    split at failed
    · cases failed
      rfl
    · split at failed
      · cases failed
      · cases failed
        rfl

/-- A token that cannot be read is reported with its line. -/
theorem byteOf_eq_error_iff (unblank : ∀ c ∈ token, isBlank c = false) {problem : Problem} :
    byteOf line token = .error problem ↔
      (∀ value, ¬Reads token value) ∧ problem = problemOf line token := by
  constructor
  · intro failed
    refine ⟨?_, byteOf_error failed⟩
    intro value reads
    obtain ⟨byte, read⟩ := (readable_iff unblank).mpr ⟨value, reads⟩
    rw [failed] at read
    cases read
  · rintro ⟨unread, rfl⟩
    cases result : byteOf line token with
    | ok byte => exact absurd ((byteOf_eq_ok_iff unblank).mp result) (unread _)
    | error problem => rw [byteOf_error result]

end Token

/-! ## Tokens of a text -/

/-- A token of a text, without the marks before its digits. -/
structure Token where
  /-- Number of its line, from one on. -/
  line : Nat
  /-- Its characters. -/
  chars : List Char
deriving DecidableEq

/-- The tokens of a line up to its comment. -/
def lineTokens (number : Nat) (line : List Char) : List Token :=
  (words (withoutComment line)).map fun word => ⟨number, withoutMarks word⟩

/-- The tokens of lines that are numbered from `number` on. -/
def linesTokens (number : Nat) : List (List Char) → List Token
  | [] => []
  | line :: rest => lineTokens number line ++ linesTokens (number + 1) rest

/-- The tokens of a text. -/
def tokens (text : List Char) : List Token :=
  linesTokens 1 (lines text)

/-- The byte of a token. -/
def Token.byte (token : Token) : Except Problem UInt8 :=
  byteOf token.line token.chars

theorem parseLines_eq (number : Nat) (rows : List (List Char)) :
    parseLines number rows = (linesTokens number rows).mapM Token.byte := by
  induction rows generalizing number with
  | nil => rfl
  | cons line rest ih =>
      rw [parseLines, parseLine, linesTokens, List.mapM_append, lineTokens, List.mapM_map, ih]
      rfl

/-- A text is read token by token. -/
theorem parseChars_eq (text : List Char) : parseChars text = (tokens text).mapM Token.byte :=
  parseLines_eq 1 (lines text)

theorem uncut_of_mem_splitBy {isCut : Char → Bool} {text piece : List Char}
    (member : piece ∈ splitBy isCut text) : ∀ c ∈ piece, isCut c = false := by
  induction text generalizing piece with
  | nil =>
      rw [splitBy, List.mem_singleton] at member
      simp [member]
  | cons c rest ih =>
      rw [splitBy] at member
      split at member
      · rcases List.mem_cons.mp member with rfl | later
        · simp
        · exact ih later
      · rename_i uncut
        rw [Bool.not_eq_true] at uncut
        cases pieces : splitBy isCut rest with
        | nil =>
            rw [pieces, extendFirst, List.mem_singleton] at member
            simp [member, uncut]
        | cons first others =>
            rw [pieces] at ih member
            rcases List.mem_cons.mp member with rfl | later
            · exact List.forall_mem_cons.mpr ⟨uncut, ih List.mem_cons_self⟩
            · exact ih (List.mem_cons_of_mem _ later)

theorem suffix_of_isPrefixOf? {start text rest : List Char}
    (dropped : start.isPrefixOf? text = some rest) : rest <:+ text := by
  induction start generalizing text with
  | nil =>
      cases dropped
      exact List.suffix_refl rest
  | cons c others ih =>
      cases text with
      | nil => cases dropped
      | cons d later =>
          rw [List.isPrefixOf?] at dropped
          split at dropped
          · exact (ih dropped).trans (List.suffix_cons d later)
          · cases dropped

theorem dropStart_suffix (start text : List Char) : dropStart start text <:+ text := by
  rw [dropStart]
  cases dropped : start.isPrefixOf? text with
  | none => exact List.suffix_refl text
  | some rest => exact suffix_of_isPrefixOf? dropped

theorem withoutMarks_suffix (token : List Char) : withoutMarks token <:+ token :=
  (dropStart_suffix _ _).trans ((dropStart_suffix _ _).trans (dropStart_suffix _ _))

/-- No token holds a blank. -/
theorem unblank_of_mem_linesTokens {number : Nat} {rows : List (List Char)} {token : Token}
    (member : token ∈ linesTokens number rows) : ∀ c ∈ token.chars, isBlank c = false := by
  induction rows generalizing number with
  | nil => cases member
  | cons line rest ih =>
      rcases List.mem_append.mp member with here | later
      · obtain ⟨word, isWord, rfl⟩ := List.mem_map.mp here
        have uncut := uncut_of_mem_splitBy (List.mem_filter.mp isWord).1
        intro c inside
        exact uncut c ((withoutMarks_suffix word).subset inside)
      · exact ih later

/-- The tokens of the format are those that can be read and hold hexadecimal digits only. -/
theorem numeral_hexDigit?_iff {token : List Char} {value : Nat} :
    Numeral hexDigit? token value ↔
      Reads token value ∧ ∀ c ∈ token, (hexDigit? c).isSome = true := by
  constructor
  · intro numeral
    cases numeral with
    | one read => exact ⟨.digits (.one (digitValue?_of_hexDigit? read)), by simp [read]⟩
    | two read_high read_low =>
        refine ⟨.digits (.two ?_ ?_), by simp [read_high, read_low]⟩
        · exact digitValue?_of_hexDigit? read_high
        · exact digitValue?_of_hexDigit? read_low
  · rintro ⟨reads, hexadecimal⟩
    cases reads with
    | digits numeral =>
        cases numeral with
        | one read => exact .one (hexDigit?_of_isSome (hexadecimal _ (by simp)) read)
        | two read_high read_low =>
            exact .two (hexDigit?_of_isSome (hexadecimal _ (by simp)) read_high)
              (hexDigit?_of_isSome (hexadecimal _ (by simp)) read_low)
    | plus | minus => cases hexadecimal _ List.mem_cons_self

/-- A text is read as a program just when each of its tokens can be read, and then each of them
gives its byte. If not, the first token that cannot be read is reported with its line. Documented
are tokens of hexadecimal digits; besides them, signs and digits of other scripts are read. -/
theorem parse_reads_tokens (text : String) :
    (∀ image, parse text = .ok image ↔
      List.Forall₂ (fun token byte => Reads token.chars byte.toNat) (tokens text.toList) image) ∧
    (∀ problem, parse text = .error problem ↔
      ∃ before token after, tokens text.toList = before ++ token :: after ∧
        (∀ earlier ∈ before, ∃ value, Reads earlier.chars value) ∧
        (∀ value, ¬Reads token.chars value) ∧
        problem = problemOf token.line token.chars) ∧
    (∀ token value, Numeral hexDigit? token value ↔
      Reads token value ∧ ∀ c ∈ token, (hexDigit? c).isSome = true) := by
  have unblank (token : Token) (member : token ∈ tokens text.toList) :
      ∀ c ∈ token.chars, isBlank c = false :=
    unblank_of_mem_linesTokens member
  refine ⟨?_, ?_, fun _ _ => numeral_hexDigit?_iff⟩
  · intro image
    rw [parse, parseChars_eq]
    exact mapM_eq_ok_iff fun token member _ => byteOf_eq_ok_iff (unblank token member)
  · intro problem
    rw [parse, parseChars_eq, mapM_eq_error_iff]
    refine exists_congr fun before => exists_congr fun token => exists_congr fun after =>
      and_congr_right fun split => ?_
    have unblank_before (earlier : Token) (member : earlier ∈ before) :=
      unblank earlier (split ▸ List.mem_append_left _ member)
    have unblank_token := unblank token (by simp [split])
    refine and_congr (forall₂_congr fun earlier member => ?_) (byteOf_eq_error_iff unblank_token)
    exact readable_iff (unblank_before earlier member)

/-- A sign before a digit is read, although the format has none. -/
theorem sign_accepted :
    ¬∀ text : String, (∃ image, parse text = .ok image) ↔
      ∀ token ∈ tokens text.toList, ∃ value, Numeral hexDigit? token.chars value := by
  intro documented
  have accepted : parse "+5" = .ok [5] := by decide
  obtain ⟨value, numeral⟩ := (documented "+5").mp ⟨[5], accepted⟩ ⟨1, ['+', '5']⟩ (by decide)
  cases numeral with
  | two read_high read_low => cases read_high

end HexProgram

end ByteMachine
