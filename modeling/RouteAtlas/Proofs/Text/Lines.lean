import Mathlib
import RouteAtlas.Proofs.Text.Split
import RouteAtlas.Text.Lines

/-
  Lines of a text.

  Every line stands in the text as it is, at its beginning
  or behind a line end.  Lines that hold no line end are
  found again in the text joined from them.

  Main statements:
    * `mem_lines`
    * `lines_joinWith`
-/

------------------------------------------------------------
-- Line by Line
------------------------------------------------------------

namespace RouteAtlas

namespace Text

/- Whether a character ends a line. -/
def endsLine
    (c : Char) :
    Bool :=
  c == '\n' || c == '\r'

theorem lines_ne_nil
    (t : Text) :
    lines t ≠ [] :=
  splitOn_ne_nil (unifyNewlines t)

/- The first line of a text without its line end. -/
def firstLine
    (t : Text) :
    Text :=
  (lines t).headD []

/- All lines but the first. -/
def laterLines
    (t : Text) :
    List Text :=
  (lines t).tail

theorem lines_eq
    (t : Text) :
    lines t = firstLine t :: laterLines t := by
  unfold firstLine laterLines
  cases hLines : lines t with
  | nil => exact absurd hLines (lines_ne_nil t)
  | cons first later => rfl

theorem lines_newline
    {t rest : Text}
    (hUnified :
      unifyNewlines t = '\n' :: unifyNewlines rest) :
    lines t = [] :: lines rest := by
  unfold lines
  rw [hUnified, splitOn_mark_cons]

theorem lines_cons
    {c : Char}
    {rest : Text}
    (hUnified :
      unifyNewlines (c :: rest) = c :: unifyNewlines rest)
    (hNewline : c ≠ '\n') :
    lines (c :: rest) =
      (c :: firstLine rest) :: laterLines rest := by
  have hRest := lines_eq rest
  unfold lines at hRest ⊢
  rw [hUnified]
  exact splitOn_cons_of_ne hNewline hRest

/- Whether a line stands behind the end of another one. -/
def StandsLater
    (t line : Text) :
    Prop :=
  ∃ before stop after,
    t = before ++ stop :: (line ++ after) ∧
      endsLine stop = true

theorem StandsLater.append
    {rest line : Text}
    (hLine : StandsLater rest line)
    (front : Text) :
    StandsLater (front ++ rest) line := by
  rcases hLine with ⟨before, stop, after, rfl, hStop⟩
  exact ⟨front ++ before, stop, after, by simp, hStop⟩

/- Behind a line end every line is a later one. -/
theorem standsLater_of_stop
    {rest : Text}
    {stop : Char}
    (hStop : endsLine stop = true)
    (hFirst : firstLine rest <+: rest)
    (hLater :
      ∀ line ∈ laterLines rest, StandsLater rest line) :
    ∀ line ∈ lines rest,
      StandsLater (stop :: rest) line := by
  intro line hLine
  rw [lines_eq, List.mem_cons] at hLine
  rcases hLine with rfl | hLine
  · rcases hFirst with ⟨after, hAfter⟩
    exact ⟨[], stop, after, by rw [hAfter]; rfl, hStop⟩
  · exact (hLater line hLine).append [stop]

/-
  The first line begins the text, and every later line
  stands behind a character that ends a line.
-/
theorem lines_located
    (t : Text) :
    firstLine t <+: t ∧
      ∀ line ∈ laterLines t, StandsLater t line := by
  induction t using unifyNewlines.induct with
  | case1 =>
      simp [firstLine, laterLines, lines, unifyNewlines,
        splitOn]
  | case2 rest ih =>
      have hLines :
          lines ('\r' :: '\n' :: rest) = [] :: lines rest :=
        lines_newline (by simp [unifyNewlines])
      unfold firstLine laterLines
      rw [hLines]
      refine ⟨by simp, fun line hLine => ?_⟩
      have hStop : endsLine '\n' = true := rfl
      have hLater :=
        standsLater_of_stop hStop ih.1 ih.2 line hLine
      exact hLater.append ['\r']
  | case3 rest hAlone ih =>
      have hLines :
          lines ('\r' :: rest) = [] :: lines rest :=
        lines_newline (by
          rw [unifyNewlines]
          intro tail hTail
          exact hAlone tail hTail)
      unfold firstLine laterLines
      rw [hLines]
      exact ⟨by simp, standsLater_of_stop rfl ih.1 ih.2⟩
  | case4 c rest hPair hReturn ih =>
      have hUnified :
          unifyNewlines (c :: rest) =
            c :: unifyNewlines rest := by
        rw [unifyNewlines]
        · exact hPair
        · exact hReturn
      by_cases hLineFeed : c = '\n'
      · subst hLineFeed
        have hLines :
            lines ('\n' :: rest) = [] :: lines rest :=
          lines_newline hUnified
        unfold firstLine laterLines
        rw [hLines]
        exact ⟨by simp, standsLater_of_stop rfl ih.1 ih.2⟩
      · have hLines := lines_cons hUnified hLineFeed
        have hFirst :
            firstLine (c :: rest) = c :: firstLine rest := by
          simp [firstLine, hLines]
        have hLater :
            laterLines (c :: rest) = laterLines rest := by
          simp [laterLines, hLines]
        rw [hFirst, hLater]
        refine ⟨List.cons_prefix_cons.mpr ⟨rfl, ih.1⟩, ?_⟩
        intro line hLine
        exact (ih.2 line hLine).append [c]

/-
  Every line stands in the text, and what precedes it is
  nothing or ends with the end of another line.
-/
theorem mem_lines
    {t line : Text}
    (hLine : line ∈ lines t) :
    ∃ before after,
      t = before ++ line ++ after ∧
        ∀ c ∈ before.getLast?, endsLine c = true := by
  rw [lines_eq, List.mem_cons] at hLine
  rcases hLine with rfl | hLine
  · rcases (lines_located t).1 with ⟨after, hAfter⟩
    exact ⟨[], after, by simp [hAfter], by simp⟩
  · rcases (lines_located t).2 line hLine with
      ⟨before, stop, after, hText, hStop⟩
    refine ⟨before ++ [stop], after, by simp [hText], ?_⟩
    intro c hLast
    rw [List.getLast?_concat, Option.mem_some_iff] at hLast
    exact hLast ▸ hStop

------------------------------------------------------------
-- Joined Lines
------------------------------------------------------------

theorem unifyNewlines_of_not_mem
    {t : Text}
    (hReturn : '\r' ∉ t) :
    unifyNewlines t = t := by
  induction t with
  | nil => rfl
  | cons c rest ih =>
      rw [List.mem_cons, not_or] at hReturn
      rw [unifyNewlines]
      · rw [ih hReturn.2]
      · rintro tail rfl
        exact absurd rfl hReturn.1
      · rintro rfl
        exact absurd rfl hReturn.1

/- Lines without line ends are found again. -/
theorem lines_joinWith
    {parts : List Text}
    (hParts : parts ≠ [])
    (hStops :
      ∀ part ∈ parts, ∀ c ∈ part, endsLine c = false) :
    lines (joinWith ['\n'] parts) = parts := by
  have hReturn : '\r' ∉ joinWith ['\n'] parts := by
    apply not_mem_joinWith (by decide)
    intro part hPart hChar
    exact absurd (hStops part hPart _ hChar) (by decide)
  unfold lines
  rw [unifyNewlines_of_not_mem hReturn]
  apply splitOn_joinWith hParts
  intro part hPart hChar
  exact absurd (hStops part hPart _ hChar) (by decide)

end Text

end RouteAtlas
