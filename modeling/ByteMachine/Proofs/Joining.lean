import ByteMachine.Proofs.HexFormat

/-!
# Joining hexadecimal programs

Two texts with a line feed between them are the program of the first followed by the program of the
second, however the first one ends: within a line, within a comment, with a line break or with a
carriage return that the line feed then belongs to. A comment behind a text changes nothing.
-/

namespace ByteMachine

/-! ## Lines of joined texts -/

namespace Text

theorem extendFirst_append (c : Char) {pieces : List (List Char)} (nonempty : pieces ≠ [])
    (others : List (List Char)) :
    extendFirst c (pieces ++ others) = extendFirst c pieces ++ others := by
  cases pieces with
  | nil => exact absurd rfl nonempty
  | cons first rest => rfl

theorem lines_ne_nil {text : List Char} (nonempty : text ≠ []) : lines text ≠ [] := by
  fun_cases lines text with
  | case1 => exact absurd rfl nonempty
  | case2 | case3 => exact List.cons_ne_nil _ _
  | case4 c rest => cases lines rest <;> exact List.cons_ne_nil _ _

/-- A line break ends a line, unless it is a carriage return with a line feed behind it. -/
theorem lines_cons_of_break {c : Char} {rest : List Char} (breaks : isLineBreak c = true)
    (apart : ∀ later, c = '\r' → rest ≠ '\n' :: later) : lines (c :: rest) = [] :: lines rest := by
  rw [lines, if_pos breaks]
  exact apart

/-- Text behind a line break leaves the break as it is, unless a line feed comes behind a carriage
return. -/
theorem lines_cons_append_of_break {c : Char} {rest more : List Char}
    (breaks : isLineBreak c = true) (apart : ∀ later, c = '\r' → rest ≠ '\n' :: later)
    (kept : c = '\r' → rest ≠ []) :
    lines (c :: (rest ++ more)) = [] :: lines (rest ++ more) := by
  apply lines_cons_of_break breaks
  intro later isReturn joined
  cases rest with
  | nil => exact kept isReturn rfl
  | cons next others =>
      obtain ⟨rfl, -⟩ := List.cons.inj joined
      exact apart others isReturn rfl

/-- A line feed ends the lines before it. -/
theorem lines_append_feed_append (first second : List Char) :
    lines (first ++ '\n' :: second) = lines (first ++ ['\n']) ++ lines second := by
  fun_induction lines first with
  | case1 => simp [lines, isLineBreak]
  | case2 rest ih => simp [lines, ih]
  | case3 c rest apart breaks ih =>
      -- Only a carriage return at the very end is changed by what follows.
      by_cases last : c = '\r' ∧ rest = []
      · obtain ⟨rfl, rfl⟩ := last
        simp [lines]
      · have kept (isReturn : c = '\r') : rest ≠ [] := fun nothing => last ⟨isReturn, nothing⟩
        rw [List.cons_append, List.cons_append, lines_cons_append_of_break breaks apart kept,
          lines_cons_append_of_break breaks apart kept, ih, List.cons_append]
  | case4 c rest apart unbroken ih =>
      rw [Bool.not_eq_true] at unbroken
      rw [List.cons_append, List.cons_append, lines_cons_of_unbroken unbroken,
        lines_cons_of_unbroken unbroken, ih,
        extendFirst_append c (lines_ne_nil (by simp))]

end Text

namespace HexProgram

open Text

/-! ## Text without tokens -/

/-- The second rows are the first ones with other comments, and maybe with one more row that holds
a comment only. -/
inductive SameCode : List (List Char) → List (List Char) → Prop
  | none : SameCode [] []
  | more {row : List Char} : withoutComment row = [] → SameCode [] [row]
  | next {row other : List Char} {rows others : List (List Char)} :
      withoutComment row = withoutComment other → SameCode rows others →
        SameCode (row :: rows) (other :: others)

theorem withoutComment_cons_congr (c : Char) {row other : List Char}
    (same : withoutComment row = withoutComment other) :
    withoutComment (c :: row) = withoutComment (c :: other) := by
  unfold withoutComment at same ⊢
  rw [List.takeWhile_cons, List.takeWhile_cons, same]

theorem SameCode.extendFirst (c : Char) {rows others : List (List Char)}
    (same : SameCode rows others) : SameCode (extendFirst c rows) (extendFirst c others) := by
  cases same with
  | none => exact .next rfl .none
  -- The character starts a row on the left, and on the right it stands before the comment.
  | more blank => exact .next (withoutComment_cons_congr c blank.symm) .none
  | next code later => exact .next (withoutComment_cons_congr c code) later

/-- Whatever a text ends with, more text adds no code if it has none by itself and none behind a
carriage return. -/
theorem sameCode_append {more : List Char} (alone : SameCode [] (lines more))
    (returned : SameCode [[]] (lines ('\r' :: more))) (text : List Char) :
    SameCode (lines text) (lines (text ++ more)) := by
  fun_induction lines text with
  | case1 => exact alone
  | case2 rest ih => exact .next rfl ih
  | case3 c rest apart breaks ih =>
      by_cases last : c = '\r' ∧ rest = []
      · obtain ⟨rfl, rfl⟩ := last
        exact returned
      · rw [List.cons_append, lines_cons_append_of_break breaks apart
          fun isReturn nothing => last ⟨isReturn, nothing⟩]
        exact .next rfl ih
  | case4 c rest apart unbroken ih =>
      rw [Bool.not_eq_true] at unbroken
      rw [List.cons_append, lines_cons_of_unbroken unbroken]
      exact ih.extendFirst c

theorem SameCode.linesTokens_eq {rows others : List (List Char)} (same : SameCode rows others)
    (number : Nat) : linesTokens number others = linesTokens number rows := by
  induction same generalizing number with
  | none => rfl
  | more blank => simp [linesTokens, lineTokens, blank, words, splitBy]
  | next code later ih => rw [linesTokens, linesTokens, lineTokens, lineTokens, code, ih]

/-- A line feed behind a text adds no token. -/
theorem tokens_append_feed (text : List Char) : tokens (text ++ ['\n']) = tokens text := by
  have alone : SameCode [] (lines ['\n']) := .more rfl
  have returned : SameCode [[]] (lines ['\r', '\n']) := .next rfl .none
  exact (sameCode_append alone returned text).linesTokens_eq 1

/-- A comment behind a text adds no token. -/
theorem tokens_append_comment (text : List Char) {mark : Char} (isMark : mark = ';' ∨ mark = '#')
    {remark : List Char} (unbroken : ∀ c ∈ remark, isLineBreak c = false) :
    tokens (text ++ mark :: remark) = tokens text := by
  have blank : withoutComment (mark :: remark) = [] := by
    rcases isMark with rfl | rfl <;> rfl
  have unbroken_mark : isLineBreak mark = false ∧ mark ≠ '\n' := by
    rcases isMark with rfl | rfl <;> decide
  have alone : lines (mark :: remark) = [mark :: remark] :=
    lines_of_unbroken (List.forall_mem_cons.mpr ⟨unbroken_mark.1, unbroken⟩) (by simp)
  have returned : lines ('\r' :: mark :: remark) = [[], mark :: remark] := by
    rw [lines_cons_of_break (by decide), alone]
    intro later _ feed
    exact unbroken_mark.2 (List.cons.inj feed).1
  refine SameCode.linesTokens_eq (sameCode_append ?_ ?_ text) 1
  · rw [alone]
    exact .more blank
  · rw [returned]
    exact .next rfl (.more blank)

/-! ## Tokens of joined texts -/

/-- The same token some lines further down. -/
def Token.lowered (count : Nat) (token : Token) : Token :=
  { token with line := token.line + count }

/-- The same problem some lines further down. -/
def Problem.lowered (count : Nat) (problem : Problem) : Problem :=
  { problem with line := problem.line + count }

theorem linesTokens_append (number : Nat) (rows others : List (List Char)) :
    linesTokens number (rows ++ others) =
      linesTokens number rows ++ linesTokens (number + rows.length) others := by
  induction rows generalizing number with
  | nil => rfl
  | cons row rest ih =>
      rw [List.cons_append, linesTokens, linesTokens, ih, List.append_assoc, List.length_cons,
        Nat.add_right_comm, Nat.add_assoc]

theorem linesTokens_lowered (number count : Nat) (rows : List (List Char)) :
    linesTokens (number + count) rows = (linesTokens number rows).map (Token.lowered count) := by
  induction rows generalizing number with
  | nil => rfl
  | cons row rest ih =>
      rw [linesTokens, linesTokens, List.map_append, ← ih, Nat.add_right_comm, lineTokens,
        lineTokens, List.map_map]
      rfl

/-- Number of the lines of a text that a line feed is put behind. -/
def lineCount (text : List Char) : Nat :=
  (lines (text ++ ['\n'])).length

/-- The tokens of two texts with a line feed between them are those of the first and, further down,
those of the second. -/
theorem tokens_join (first second : List Char) :
    tokens (first ++ '\n' :: second) =
      tokens first ++ (tokens second).map (Token.lowered (lineCount first)) := by
  rw [tokens, lines_append_feed_append, linesTokens_append, linesTokens_lowered]
  exact congrArg (· ++ _) (tokens_append_feed first)

/-- Further down, a token is read alike, and a problem is reported further down. -/
theorem byteOf_lowered (line count : Nat) (token : List Char) :
    byteOf (line + count) token = (byteOf line token).mapError (Problem.lowered count) := by
  unfold byteOf
  by_cases long : 2 < token.length
  · rw [if_pos long, if_pos long]
    rfl
  · rw [if_neg long, if_neg long]
    cases integerOfChars? .hexadecimal token with
    | none => rfl
    | some value =>
        by_cases within : 0 ≤ value ∧ value ≤ 255
        · simp only [if_pos within]
          rfl
        · simp only [if_neg within]
          rfl

theorem mapM_lowered (count : Nat) (items : List Token) :
    (items.map (Token.lowered count)).mapM Token.byte =
      (items.mapM Token.byte).mapError (Problem.lowered count) := by
  induction items with
  | nil => rfl
  | cons item rest ih =>
      have lowered : (item.lowered count).byte = item.byte.mapError (Problem.lowered count) :=
        byteOf_lowered item.line count item.chars
      rw [List.map_cons, List.mapM_cons, List.mapM_cons, ih, lowered]
      cases item.byte with
      | error problem => rfl
      | ok byte => cases rest.mapM Token.byte <;> rfl

/-- Two texts with a line feed between them are read one after the other. -/
theorem parseChars_join (first second : List Char) :
    parseChars (first ++ '\n' :: second) = do
      let bytes ← parseChars first
      let others ← (parseChars second).mapError (Problem.lowered (lineCount first))
      return bytes ++ others := by
  rw [parseChars_eq, parseChars_eq, parseChars_eq, tokens_join, List.mapM_append, mapM_lowered]

/-- Texts with a line feed between them are read as a program just when both of them are, and then
the programs follow one another. A problem is that of the first text or, if it has none, that of the
second, further down by the lines up to the line feed. A comment behind a text changes neither its
program nor its problem. -/
theorem programs_join (first second : String) :
    (∀ image, parse (first ++ "\n" ++ second) = .ok image ↔
      ∃ bytes others, parse first = .ok bytes ∧ parse second = .ok others ∧
        image = bytes ++ others) ∧
    (∀ problem, parse (first ++ "\n" ++ second) = .error problem ↔
      parse first = .error problem ∨
        (∃ bytes, parse first = .ok bytes) ∧ ∃ found, parse second = .error found ∧
          problem = found.lowered (lineCount first.toList)) ∧
    (∀ remark : String, (∀ c ∈ remark.toList, isLineBreak c = false) →
      parse (first ++ ";" ++ remark) = parse first ∧
        parse (first ++ "#" ++ remark) = parse first) := by
  have joined : parse (first ++ "\n" ++ second) = do
      let bytes ← parse first
      let others ← (parse second).mapError (Problem.lowered (lineCount first.toList))
      return bytes ++ others := by
    rw [parse, parse, parse, ← parseChars_join]
    simp
  refine ⟨?_, ?_, ?_⟩
  · intro image
    rw [joined]
    cases parse first with
    | error problem => simp [bind, Except.bind]
    | ok bytes =>
        cases parse second with
        | error problem => simp [bind, Except.bind, Except.mapError]
        | ok others => simp [bind, Except.bind, Except.mapError, pure, Except.pure, eq_comm]
  · intro problem
    rw [joined]
    cases parse first with
    | error found => simp [bind, Except.bind]
    | ok bytes =>
        cases parse second with
        | error found => simp [bind, Except.bind, Except.mapError, eq_comm]
        | ok others => simp [bind, Except.bind, Except.mapError, pure, Except.pure]
  · intro remark unbroken
    have commented (mark : Char) (isMark : mark = ';' ∨ mark = '#') (whole : String)
        (same : whole.toList = first.toList ++ mark :: remark.toList) :
        parse whole = parse first := by
      rw [parse, parse, parseChars_eq, parseChars_eq, same,
        tokens_append_comment first.toList isMark unbroken]
    exact ⟨commented ';' (Or.inl rfl) _ (by simp), commented '#' (Or.inr rfl) _ (by simp)⟩

/-- A line feed belongs to the carriage return before it, and a comment does not. -/
theorem programs_join_behind_return :
    parse ("01\r" ++ "\n" ++ "zz") = .error ⟨2, "zz", .notHex⟩ ∧
      parse ("01\r" ++ ";" ++ "zz") = .ok [1] := by
  obtain ⟨-, failed, commented⟩ := programs_join "01\r" "zz"
  have read : parse "01\r" = .ok [1] := by decide
  have unread : parse "zz" = .error ⟨1, "zz", .notHex⟩ := by decide
  constructor
  · exact (failed _).mpr (Or.inr ⟨⟨[1], read⟩, _, unread, by decide⟩)
  · rw [(commented "zz" (by simp [isLineBreak])).1]
    exact read

end HexProgram

end ByteMachine
