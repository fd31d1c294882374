import Mathlib
import RouteAtlas.Proofs.Signature.Capture
import RouteAtlas.Proofs.Signature.LineBreaks

/-
  Captures of parameter lists on several lines.

  Blanks open no group and close none, so a list is captured
  from its lines up to the same parenthesis as from one
  line, with a space for each new line.

  Main statements:
    * `closedPart_onLines`
    * `joinWith_linesFrom`
    * `Wrapping.parameterList_captureFrom`
-/

------------------------------------------------------------
-- Balanced Lists
------------------------------------------------------------

namespace RouteAtlas

namespace Signature

open Text

/- Both parts of a text are passed if the whole is. -/
theorem closedPart_append_eq_error
    {state next : Parens}
    {front back : Text} :
    closedPart state (front ++ back) = .error next ↔
      ∃ between,
        closedPart state front = .error between ∧
          closedPart between back = .error next := by
  rw [closedPart_append]
  cases closedPart state front with
  | ok part => simp
  | error between =>
      cases hBack : closedPart between back <;>
        simp [hBack, Except.map]

theorem closedPart_gap
    {gap : Text}
    (hGap : IsGap gap)
    (state : Parens) :
    closedPart state gap = .error state := by
  apply closedPart_of_plain
  · intro hOpening
    exact absurd (hGap '(' hOpening) (by decide)
  · intro hClosing
    exact absurd (hGap ')' hClosing) (by decide)

/- The breaks of a list open nothing and close nothing. -/
theorem closedPart_onLines
    {state next : Parens}
    {rest : List (LineBreak × Text)} :
    closedPart state (onLines rest) = .error next ↔
      closedPart state (onOneLine rest) = .error next := by
  induction rest generalizing state with
  | nil => rfl
  | cons entry rest ih =>
      rcases entry with ⟨lineBreak, piece⟩
      simp only [onLines, onOneLine,
        closedPart_append_eq_error, ih,
        closedPart_gap lineBreak.gap.blank,
        closedPart_gap lineBreak.isGap_blanks]

/- A balanced text is passed within a group. -/
theorem passed_iff
    {t : Text} :
    closedPart ⟨1, true⟩ t = .error ⟨1, true⟩ ↔
      StaysOpen t ∧ depth t = 0 := by
  constructor
  · exact staysOpen_of_passed
  · rintro ⟨hStays, hDepth⟩
    cases hClosed : closedPart ⟨1, true⟩ t with
    | ok part =>
        rcases exists_of_closedPart_eq_ok hClosed with
          ⟨inside, back, rfl, hText, hPart⟩
        have hSplit : t = (inside ++ [')']) ++ back := by
          rw [hText]
          simp
        have hBeginning := hStays (inside ++ [')']).length
        rw [hSplit, List.take_left] at hBeginning
        omega
    | error next =>
        rcases of_closedPart_eq_error Int.one_pos hClosed
          with ⟨rfl, -⟩
        rw [hDepth]
        rfl

theorem Wrapping.balanced_captured
    {wrapping : Wrapping}
    (hBalanced :
      StaysOpen wrapping.text ∧ depth wrapping.text = 0) :
    StaysOpen wrapping.captured ∧
      depth wrapping.captured = 0 := by
  rw [← passed_iff] at hBalanced ⊢
  unfold Wrapping.text at hBalanced
  unfold Wrapping.captured
  rw [closedPart_append_eq_error] at hBalanced ⊢
  rcases hBalanced with ⟨between, hFirst, hRest⟩
  exact ⟨between, hFirst, closedPart_onLines.mpr hRest⟩

------------------------------------------------------------
-- Captured Lines
------------------------------------------------------------

theorem length_linesFrom
    (after head : Text)
    (rest : List (LineBreak × Text)) :
    (linesFrom after head rest).length = rest.length + 1 := by
  induction rest generalizing head with
  | nil => rfl
  | cons entry rest ih =>
      rw [linesFrom, List.length_cons, ih, List.length_cons]

theorem linesFrom_ne_nil
    (after head : Text)
    (rest : List (LineBreak × Text)) :
    linesFrom after head rest ≠ [] := by
  cases rest <;> simp [linesFrom]

/- What stands in front is on the first line. -/
theorem linesFrom_append
    (after front head : Text)
    (rest : List (LineBreak × Text)) :
    linesFrom after (front ++ head) rest =
      (linesFrom after head rest).modifyHead (front ++ ·) := by
  cases rest <;> simp [linesFrom]

theorem joinWith_linesFrom
    (after head : Text)
    (rest : List (LineBreak × Text)) :
    joinWith [' '] (linesFrom after head rest) =
      head ++ (onLines rest ++ ')' :: after) := by
  induction rest generalizing head with
  | nil => simp [linesFrom, onLines]
  | cons entry rest ih =>
      rcases entry with ⟨lineBreak, piece⟩
      have hRest := ih (lineBreak.indent.text ++ piece)
      rw [linesFrom]
      cases hLines :
          linesFrom after (lineBreak.indent.text ++ piece)
            rest with
      | nil => exact absurd hLines (linesFrom_ne_nil _ _ _)
      | cons second others =>
          rw [hLines] at hRest
          rw [joinWith_cons_cons, hRest]
          simp [onLines, LineBreak.blanks]

theorem exists_joinWith_append
    {parts : List Text}
    (hParts : parts ≠ [])
    (more : List Text) :
    ∃ behind,
      joinWith [' '] (parts ++ more) =
        joinWith [' '] parts ++ behind := by
  induction parts with
  | nil => exact absurd rfl hParts
  | cons first parts ih =>
      cases parts with
      | nil =>
          cases more with
          | nil => exact ⟨[], by simp⟩
          | cons second more =>
              refine
                ⟨[' '] ++ joinWith [' '] (second :: more), ?_⟩
              rw [List.singleton_append, joinWith_cons_cons,
                joinWith_singleton, List.append_assoc]
      | cons second parts =>
          rcases ih (by simp) with ⟨behind, hRest⟩
          refine ⟨behind, ?_⟩
          rw [List.cons_append, List.cons_append,
            joinWith_cons_cons, joinWith_cons_cons,
            ← List.cons_append, hRest]
          simp

/- What a capture reads, from the parenthesis on. -/
theorem read_linesFrom
    {wrapping : Wrapping}
    {window : Nat}
    (hWindow : wrapping.rest.length ≤ window)
    {before after line : Text}
    {below others : List Text}
    (hLines :
      line :: below = wrapping.lines before after ++ others) :
    line.drop before.length :: below.take window =
      linesFrom after ('(' :: wrapping.first) wrapping.rest ++
        others.take (window - wrapping.rest.length) := by
  have hLength :=
    length_linesFrom after (before ++ '(' :: wrapping.first)
      wrapping.rest
  have hTake :
      (line :: below).take (window + 1) =
        wrapping.lines before after ++
          others.take (window - wrapping.rest.length) := by
    unfold Wrapping.lines at hLines ⊢
    rw [hLines, List.take_append, hLength,
      List.take_of_length_le (by omega), Nat.add_sub_add_right]
  unfold Wrapping.lines at hTake
  rw [List.take_succ_cons, linesFrom_append] at hTake
  cases hFirst :
      linesFrom after ('(' :: wrapping.first)
        wrapping.rest with
  | nil =>
      exact absurd hFirst (linesFrom_ne_nil _ _ _)
  | cons head tail =>
      rw [hFirst, List.modifyHead_cons, List.cons_append,
        List.cons.injEq] at hTake
      rw [hTake.1, hTake.2, List.drop_left, List.cons_append]

/-
  The list of a declaration whose pieces stand on lines that
  a capture may read is captured with a space for each new
  line.
-/
theorem Wrapping.parameterList_captureFrom
    (wrapping : Wrapping)
    (hBalanced :
      StaysOpen wrapping.text ∧ depth wrapping.text = 0)
    {window : Nat}
    (hWindow : wrapping.rest.length ≤ window)
    {before after line : Text}
    {below others : List Text}
    (hLines :
      line :: below = wrapping.lines before after ++ others) :
    parameterList
        (captureFrom line below before.length window) =
      wrapping.captured := by
  have hRead :=
    read_linesFrom hWindow hLines
  have hSome :=
    linesFrom_ne_nil after ('(' :: wrapping.first)
      wrapping.rest
  rcases exists_joinWith_append hSome
      (others.take (window - wrapping.rest.length)) with
    ⟨behind, hJoined⟩
  have hText :
      '(' :: wrapping.first ++
          (onLines wrapping.rest ++ ')' :: after) ++ behind =
        '(' ::
          (wrapping.captured ++ ')' :: (after ++ behind)) := by
    simp [Wrapping.captured]
  have hCaptured := Wrapping.balanced_captured hBalanced
  unfold captureFrom
  rw [joinWith_closedLines, hRead, hJoined,
    joinWith_linesFrom, hText, parameterList_upToClosing_iff]
  exact ⟨hCaptured.1, Or.inl hCaptured.2⟩

end Signature

end RouteAtlas
