import Mathlib
import RouteAtlas.Proofs.Sections.Basic
import RouteAtlas.Proofs.Signature.Splitting
import RouteAtlas.Proofs.Text.BlankRuns

/-
  Parameter lists on several lines.

  A list may be broken where blanks stand, behind its opening
  parenthesis, behind a comma that separates parameters, and
  before its closing parenthesis.  Captured, each break is a
  run of blanks, and such a run does not show in the
  parameters once their own runs are collapsed.

  Main definitions:
    * `Signature.Wrapping`

  Main statements:
    * `splitFrom_append`
    * `tidiedParts_gap`
    * `Wrapping.collapsed_split`
-/

------------------------------------------------------------
-- Wrapped Lists
------------------------------------------------------------

namespace RouteAtlas

namespace Signature

open Text

/- What is open behind a text. -/
def Nesting.after
    (nesting : Nesting)
    (t : Text) :
    Nesting :=
  t.foldl Nesting.step nesting

/- Whether a list ends with a comma that separates. -/
def EndsParameter
    (t : Text) :
    Prop :=
  ∃ front,
    t = front ++ [','] ∧
      (Nesting.start.after front).isOutside = true

/-
  Whether a list may be broken between two parts of it, with
  some blanks between them.
-/
def MayBreak
    (front gap back : Text) :
    Prop :=
  gap ≠ [] ∨ front = [] ∨ EndsParameter front ∨ back = []

/-
  A line break: the blanks in the place of which it stands,
  those that end a line, and those that start the next one.
-/
structure LineBreak where
  gap : Sections.Gap
  trailing : Sections.Gap
  indent : Sections.Gap

/- What is captured of the break: a space for the new line. -/
def LineBreak.blanks
    (lineBreak : LineBreak) :
    Text :=
  lineBreak.trailing.text ++ ' ' :: lineBreak.indent.text

/- Pieces of a list, as they are written on one line. -/
def onOneLine :
    List (LineBreak × Text) → Text
  | [] => []
  | (lineBreak, piece) :: rest =>
      lineBreak.gap.text ++ (piece ++ onOneLine rest)

/- Pieces of a list, as they are captured from their lines. -/
def onLines :
    List (LineBreak × Text) → Text
  | [] => []
  | (lineBreak, piece) :: rest =>
      lineBreak.blanks ++ (piece ++ onLines rest)

/- Whether each of the breaks behind a list may stand there. -/
def MayBreakAll
    (front : Text) :
    List (LineBreak × Text) → Prop
  | [] => True
  | (lineBreak, piece) :: rest =>
      MayBreak front lineBreak.gap.text
          (piece ++ onOneLine rest) ∧
        MayBreakAll (front ++ (lineBreak.gap.text ++ piece))
          rest

/-
  The lines of a declaration, from the first piece of its
  list on: `after` is what follows the list.
-/
def linesFrom
    (after head : Text) :
    List (LineBreak × Text) → List Text
  | [] => [head ++ ')' :: after]
  | (lineBreak, piece) :: rest =>
      (head ++ lineBreak.trailing.text) ::
        linesFrom after (lineBreak.indent.text ++ piece) rest

/- A parameter list in pieces, each on its own line. -/
structure Wrapping where
  first : Text
  rest : List (LineBreak × Text)
  mayBreak : MayBreakAll first rest

namespace Wrapping

/- The list on one line. -/
def text
    (wrapping : Wrapping) :
    Text :=
  wrapping.first ++ onOneLine wrapping.rest

/- The list as it is captured from its lines. -/
def captured
    (wrapping : Wrapping) :
    Text :=
  wrapping.first ++ onLines wrapping.rest

/- The line of a declaration with the list on one line. -/
def line
    (wrapping : Wrapping)
    (before after : Text) :
    Text :=
  before ++ '(' :: (wrapping.text ++ ')' :: after)

/- Its lines with each piece on its own. -/
def lines
    (wrapping : Wrapping)
    (before after : Text) :
    List Text :=
  linesFrom after (before ++ '(' :: wrapping.first)
    wrapping.rest

/- The list that is never broken. -/
def whole
    (wrapping : Wrapping) :
    Wrapping :=
  ⟨wrapping.text, [], trivial⟩

@[simp] theorem text_whole
    (wrapping : Wrapping) :
    wrapping.whole.text = wrapping.text :=
  List.append_nil _

@[simp] theorem captured_whole
    (wrapping : Wrapping) :
    wrapping.whole.captured = wrapping.text :=
  List.append_nil _

@[simp] theorem lines_whole
    (wrapping : Wrapping)
    (before after : Text) :
    wrapping.whole.lines before after =
      [wrapping.line before after] := by
  simp [whole, lines, line, linesFrom]

end Wrapping

------------------------------------------------------------
-- Pieces of a Beginning
------------------------------------------------------------

theorem Nesting.after_append
    (nesting : Nesting)
    (front back : Text) :
    nesting.after (front ++ back) =
      (nesting.after front).after back :=
  List.foldl_append

/-
  A beginning of a list leaves some whole pieces and the
  start of another one.
-/
theorem splitFrom_append
    (nesting : Nesting)
    (front : Text) :
    ∃ whole last,
      ∀ back,
        splitFrom nesting (front ++ back) =
          whole ++
            (splitFrom (nesting.after front) back).modifyHead
              (last ++ ·) := by
  induction front generalizing nesting with
  | nil =>
      refine ⟨[], [], fun back => ?_⟩
      exact (congrFun List.modifyHead_id _).symm
  | cons c front ih =>
      rcases ih (nesting.step c) with ⟨whole, last, hRest⟩
      by_cases hComma : c = ',' ∧ nesting.isOutside = true
      · rcases hComma with ⟨rfl, hOutside⟩
        refine ⟨[] :: whole, last, fun back => ?_⟩
        rw [List.cons_append, splitFrom_comma hOutside, hRest]
        rfl
      · have hKept : c = ',' → nesting.isOutside = false := by
          intro hChar
          cases hOutside : nesting.isOutside with
          | false => rfl
          | true => exact absurd ⟨hChar, hOutside⟩ hComma
        have hKeeps := Nesting.keepsWhole_char hKept
        cases whole with
        | nil =>
            refine ⟨[], c :: last, fun back => ?_⟩
            rw [List.cons_append, ← List.singleton_append,
              hKeeps, hRest, List.nil_append,
              List.modifyHead_modifyHead]
            rfl
        | cons piece whole =>
            refine ⟨(c :: piece) :: whole, last,
              fun back => ?_⟩
            rw [List.cons_append, ← List.singleton_append,
              hKeeps, hRest]
            rfl

/- Whether no comma of a text separates. -/
def Nesting.StaysWhole
    (nesting : Nesting)
    (t : Text) :
    Prop :=
  ∀ front back,
    t = front ++ ',' :: back →
      (nesting.after front).isOutside = false

namespace Nesting

theorem staysWhole_nil
    (nesting : Nesting) :
    nesting.StaysWhole [] := by
  intro front back hText
  exact absurd hText.symm (by simp)

theorem StaysWhole.cons
    {nesting : Nesting}
    {c : Char}
    {t : Text}
    (hFirst : c = ',' → nesting.isOutside = false)
    (hRest : (nesting.step c).StaysWhole t) :
    nesting.StaysWhole (c :: t) := by
  intro front back hText
  cases front with
  | nil => exact hFirst (List.cons.inj hText).1
  | cons d front =>
      rw [List.cons_append, List.cons.injEq] at hText
      rcases hText with ⟨rfl, hText⟩
      exact hRest front back hText

theorem staysWhole_of_no_comma
    {t : Text}
    (hComma : ',' ∉ t)
    (nesting : Nesting) :
    nesting.StaysWhole t := by
  rintro front back rfl
  exact absurd (by simp) hComma

/- What has no separating comma goes to one piece. -/
theorem StaysWhole.keepsWhole
    {nesting : Nesting}
    {t : Text}
    (hWhole : nesting.StaysWhole t) :
    nesting.KeepsWhole t (nesting.after t) := by
  induction t generalizing nesting with
  | nil => exact nesting.keepsWhole_nil
  | cons c t ih =>
      have hFirst : c = ',' → nesting.isOutside = false := by
        rintro rfl
        exact hWhole [] t rfl
      have hRest : (nesting.step c).StaysWhole t := by
        intro front back hText
        exact hWhole (c :: front) back (by rw [hText]; rfl)
      exact KeepsWhole.cons hFirst (ih hRest)

theorem StaysWhole.splitFrom
    {nesting : Nesting}
    {t : Text}
    (hWhole : nesting.StaysWhole t) :
    splitFrom nesting t = [t] := by
  have hAlone := hWhole.keepsWhole []
  rw [List.append_nil] at hAlone
  rw [hAlone]
  simp [Signature.splitFrom]

end Nesting

/- Text without commas stays in its piece. -/
theorem keepsWhole_of_no_comma
    {t : Text}
    (hComma : ',' ∉ t)
    (nesting : Nesting) :
    nesting.KeepsWhole t (nesting.after t) :=
  (Nesting.staysWhole_of_no_comma hComma nesting).keepsWhole

/- Whether the list goes on with a new piece behind a text. -/
def StartsPiece
    (front : Text) :
    Prop :=
  (Nesting.start.after front).isOutside = true ∧
    ∃ whole,
      ∀ back,
        splitFrom .start (front ++ back) =
          whole ++ splitFrom (Nesting.start.after front) back

theorem startsPiece_nil :
    StartsPiece [] :=
  ⟨rfl, [], fun _ => rfl⟩

/- So it does behind a comma that separates. -/
theorem EndsParameter.startsPiece
    {front : Text}
    (hFront : EndsParameter front) :
    StartsPiece front := by
  rcases hFront with ⟨inside, rfl, hOutside⟩
  rcases splitFrom_append .start inside with
    ⟨whole, last, hSplit⟩
  constructor
  · rw [Nesting.after_append]
    revert hOutside
    rcases Nesting.start.after inside with
      ⟨groups, inString, previous⟩
    cases inString <;>
      simp +contextual [Nesting.isOutside, Nesting.after,
        Nesting.step, isOpening, openingOf?]
  · refine ⟨whole ++ [last], fun back => ?_⟩
    rw [List.append_assoc, hSplit, List.singleton_append,
      splitFrom_comma hOutside, Nesting.after_append]
    simp [Nesting.after]

------------------------------------------------------------
-- Blanks of a List
------------------------------------------------------------

theorem comma_not_mem_of_isGap
    {gap : Text}
    (hGap : IsGap gap) :
    ',' ∉ gap := by
  intro hComma
  exact absurd (hGap ',' hComma) (by decide)

/- A blank opens nothing and closes nothing. -/
theorem step_blank
    {c : Char}
    (hBlank : isBlank c = true)
    (groups : List Char)
    (inString : Bool)
    (previous : Option Char) :
    Nesting.step ⟨groups, inString, previous⟩ c =
      ⟨groups, inString, some c⟩ := by
  have hSolid :
      ∀ d, isBlank d = false → c ≠ d := by
    rintro d hOther rfl
    rw [hBlank] at hOther
    exact absurd hOther (by simp)
  cases inString with
  | true =>
      have hQuote : c ≠ '"' := hSolid '"' (by decide)
      simp [Nesting.step, hQuote]
  | false =>
      apply step_mark
      refine ⟨hSolid '"' (by decide), ?_⟩
      intro kind hKind
      have hBrackets :
          isBlank kind.opening = false ∧
            isBlank kind.closing = false := by
        fin_cases hKind <;> decide
      exact
        ⟨hSolid _ hBrackets.1, hSolid _ hBrackets.2⟩

theorem after_gap
    {gap : Text}
    (hGap : IsGap gap)
    (groups : List Char)
    (inString : Bool)
    (previous : Option Char) :
    Nesting.after ⟨groups, inString, previous⟩ gap =
      ⟨groups, inString, charBefore previous gap⟩ := by
  induction gap generalizing previous with
  | nil => rfl
  | cons c gap ih =>
      have hGap' := List.forall_mem_cons.mp hGap
      rw [charBefore_cons, ← ih hGap'.2 (some c),
        ← step_blank hGap'.1 groups inString previous]
      rfl

/- The last of some blanks is no backslash. -/
theorem charBefore_gap
    {gap : Text}
    (hGap : IsGap gap)
    (hSome : gap ≠ [])
    (previous : Option Char) :
    charBefore previous gap ≠ some '\\' := by
  rcases List.eq_nil_or_concat gap with
    hNone | ⟨front, last, rfl⟩
  · exact absurd hNone hSome
  · rw [List.concat_eq_append] at hGap ⊢
    have hLast : isBlank last = true := hGap last (by simp)
    rw [charBefore_append]
    intro hEscape
    have hChar : last = '\\' := Option.some.inj hEscape
    subst hChar
    exact absurd hLast (by decide)

/-
  In a literal it only matters whether the last character is
  a backslash, and elsewhere not even that.
-/
theorem splitFrom_congr
    {groups : List Char}
    {inString : Bool}
    {previous previous' : Option Char}
    (hEscape :
      inString = true →
        previous ≠ some '\\' ∧ previous' ≠ some '\\')
    (t : Text) :
    splitFrom ⟨groups, inString, previous⟩ t =
      splitFrom ⟨groups, inString, previous'⟩ t := by
  cases inString with
  | false => exact Nesting.splitFrom_outside _ _ _ t
  | true =>
      have hNone :
          (previous != some '\\') = (previous' != some '\\') := by
        rw [bne_iff_ne.mpr (hEscape rfl).1,
          bne_iff_ne.mpr (hEscape rfl).2]
      cases t with
      | nil => rfl
      | cons c t =>
          have hStep :
              Nesting.step ⟨groups, true, previous⟩ c =
                Nesting.step ⟨groups, true, previous'⟩ c := by
            simp only [Nesting.step, hNone]
          rw [splitFrom, splitFrom, hStep]
          rfl

/- Blanks in front of a text go to its first piece. -/
theorem splitFrom_gap
    {gap gap' : Text}
    (hGap : IsGap gap)
    (hGap' : IsGap gap')
    (hSome' : gap' ≠ [])
    (nesting : Nesting)
    (hSome : nesting.inString = true → gap ≠ [])
    (back : Text) :
    ∃ piece pieces,
      splitFrom nesting (gap ++ back) =
          (gap ++ piece) :: pieces ∧
        splitFrom nesting (gap' ++ back) =
          (gap' ++ piece) :: pieces := by
  rcases nesting with ⟨groups, inString, previous⟩
  have hFront :=
    keepsWhole_of_no_comma (comma_not_mem_of_isGap hGap)
      ⟨groups, inString, previous⟩ back
  have hFront' :=
    keepsWhole_of_no_comma (comma_not_mem_of_isGap hGap')
      ⟨groups, inString, previous⟩ back
  have hBack :
      splitFrom ⟨groups, inString, charBefore previous gap'⟩
          back =
        splitFrom ⟨groups, inString, charBefore previous gap⟩
          back :=
    splitFrom_congr
      (fun hInside =>
        ⟨charBefore_gap hGap' hSome' previous,
          charBefore_gap hGap (hSome hInside) previous⟩)
      back
  rw [after_gap hGap] at hFront
  rw [after_gap hGap', hBack] at hFront'
  rcases hPieces :
      splitFrom ⟨groups, inString, charBefore previous gap⟩
        back with
    _ | ⟨piece, pieces⟩
  · exact absurd hPieces (splitFrom_ne_nil _ back)
  · rw [hPieces] at hFront hFront'
    exact ⟨piece, pieces, hFront, hFront'⟩

------------------------------------------------------------
-- Tidied Parameters
------------------------------------------------------------

/- The parameters of a list with each run as one space. -/
def tidiedParts
    (t : Text) :
    List Text :=
  ((splitFrom .start t).map tidied).filter
    fun part => !part.isEmpty

theorem map_collapseBlanks_split
    (t : Text) :
    (split t).map collapseBlanks = tidiedParts t := by
  have hKept :
      (fun part : Text => !part.isEmpty) ∘ collapseBlanks =
        fun part => !part.isEmpty := by
    funext part
    simp [isEmpty_collapseBlanks]
  have hTidied :
      (splitFrom .start t).map tidied =
        ((splitFrom .start t).map strip).map
          collapseBlanks := by
    rw [List.map_map]
    rfl
  unfold split tidiedParts
  rw [hTidied,
    List.filter_map (l := (splitFrom .start t).map strip),
    hKept]

/-
  Blanks may stand for others, and where a piece starts or
  the list ends even for none.  There are three cases: there
  are some, and their run is collapsed; or they are stripped
  in front of a piece, or behind the last one.
-/
theorem tidiedParts_gap
    {gap gap' : Text}
    (hGap : IsGap gap)
    (hGap' : IsGap gap')
    (hSome' : gap' ≠ [])
    {front back : Text}
    (hBreak : gap ≠ [] ∨ StartsPiece front ∨ IsGap back) :
    tidiedParts (front ++ (gap ++ back)) =
      tidiedParts (front ++ (gap' ++ back)) := by
  unfold tidiedParts
  congr 1
  rcases splitFrom_append .start front with
    ⟨whole, last, hSplit⟩
  rcases hBreak with hSome | hStarts | hBack
  · rcases splitFrom_gap hGap hGap' hSome'
        (Nesting.start.after front) (fun _ => hSome) back with
      ⟨piece, pieces, hPieces, hPieces'⟩
    rw [hSplit, hSplit, hPieces, hPieces']
    simp [tidied_gap hGap hGap' hSome hSome']
  · rcases hStarts with ⟨hOutside, whole, hWhole⟩
    rw [Nesting.isOutside, Bool.and_eq_true,
      Bool.not_eq_true'] at hOutside
    rcases splitFrom_gap hGap hGap' hSome'
        (Nesting.start.after front)
        (fun hInside => by simp [hOutside.2] at hInside)
        back with
      ⟨piece, pieces, hPieces, hPieces'⟩
    rw [hWhole, hWhole, hPieces, hPieces']
    simp [tidied, strip_gap_append hGap,
      strip_gap_append hGap']
  · have hPieces :
        ∀ blanks, IsGap blanks →
          (splitFrom .start (front ++ blanks)).map tidied =
            whole.map tidied ++ [tidied last] := by
      intro blanks hBlanks
      rw [hSplit,
        (Nesting.staysWhole_of_no_comma
          (comma_not_mem_of_isGap hBlanks) _).splitFrom]
      simp [tidied, strip_append_gap hBlanks]
    rw [hPieces _ (isGap_append.mpr ⟨hGap, hBack⟩),
      hPieces _ (isGap_append.mpr ⟨hGap', hBack⟩)]

theorem LineBreak.isGap_blanks
    (lineBreak : LineBreak) :
    IsGap lineBreak.blanks := by
  refine isGap_append.mpr ⟨lineBreak.trailing.blank, ?_⟩
  exact
    List.forall_mem_cons.mpr
      ⟨isBlank_space, lineBreak.indent.blank⟩

theorem LineBreak.blanks_ne_nil
    (lineBreak : LineBreak) :
    lineBreak.blanks ≠ [] := by
  simp [LineBreak.blanks]

theorem isGap_onLines
    {rest : List (LineBreak × Text)}
    (hGap : IsGap (onOneLine rest)) :
    IsGap (onLines rest) := by
  induction rest with
  | nil => exact isGap_nil
  | cons entry rest ih =>
      rcases entry with ⟨lineBreak, piece⟩
      rw [onOneLine] at hGap
      have hTail := isGap_append.mp (isGap_append.mp hGap).2
      exact isGap_append.mpr
        ⟨lineBreak.isGap_blanks,
          isGap_append.mpr ⟨hTail.1, ih hTail.2⟩⟩

/-
  The breaks of a list do not show in its tidied parameters:
  by induction on the breaks, the first one of them being
  taken back while the others stay.
-/
theorem tidiedParts_onLines
    {front : Text}
    {rest : List (LineBreak × Text)}
    (hBreaks : MayBreakAll front rest) :
    tidiedParts (front ++ onLines rest) =
      tidiedParts (front ++ onOneLine rest) := by
  induction rest generalizing front with
  | nil => rfl
  | cons entry rest ih =>
      rcases entry with ⟨lineBreak, piece⟩
      rcases hBreaks with ⟨hBreak, hBreaks⟩
      have hHere :
          lineBreak.gap.text ≠ [] ∨ StartsPiece front ∨
            IsGap (piece ++ onLines rest) := by
        rcases hBreak with hSome | rfl | hComma | hNone
        · exact Or.inl hSome
        · exact Or.inr (Or.inl startsPiece_nil)
        · exact Or.inr (Or.inl hComma.startsPiece)
        · rw [List.append_eq_nil_iff] at hNone
          rw [hNone.1]
          apply Or.inr (Or.inr (isGap_onLines _))
          rw [hNone.2]
          exact isGap_nil
      have hFirst :=
        tidiedParts_gap lineBreak.gap.blank
          lineBreak.isGap_blanks lineBreak.blanks_ne_nil hHere
      have hOthers := ih hBreaks
      rw [onLines, onOneLine, ← hFirst]
      simpa only [List.append_assoc] using hOthers

/- A wrapped list has the parameters it has on one line. -/
theorem Wrapping.collapsed_split
    (wrapping : Wrapping) :
    (split wrapping.captured).map collapseBlanks =
      (split wrapping.text).map collapseBlanks := by
  rw [map_collapseBlanks_split, map_collapseBlanks_split]
  exact tidiedParts_onLines wrapping.mayBreak

end Signature

end RouteAtlas
