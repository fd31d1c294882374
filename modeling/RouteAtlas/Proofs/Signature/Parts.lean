import Mathlib
import RouteAtlas.Proofs.Signature.LineBreaks

/-
  What splitting keeps of a parameter list.

  The parameters stand in the list in their order, with
  nothing but blanks and commas around them, however its
  brackets and literals are closed.  A comma that separates
  leaves nothing open, so what follows it is split on its
  own; only the last parameter may end within a group or a
  literal.  Hence each parameter is split into itself, and
  parameters that are joined again are found again.

  Main definitions:
    * `StandIn`

  Main statements:
    * `split_append_comma`
    * `split_cases`
    * `split_standIn_and_resplit`
-/

------------------------------------------------------------
-- Texts without Separating Commas
------------------------------------------------------------

namespace RouteAtlas

namespace Signature

open Text

namespace Nesting

/- Part of a text stays whole where it stands. -/
theorem StaysWhole.part
    {nesting : Nesting}
    {before t behind : Text}
    (hWhole : nesting.StaysWhole (before ++ (t ++ behind))) :
    (nesting.after before).StaysWhole t := by
  rintro front back rfl
  rw [← after_append]
  exact hWhole (before ++ front) (back ++ behind) (by simp)

/- Blanks at the start open nothing. -/
theorem start_after_gap
    {gap : Text}
    (hGap : IsGap gap) :
    start.after gap = ⟨[], false, charBefore none gap⟩ :=
  after_gap hGap [] false none

/- What is open behind blanks was open before them. -/
theorem isOutside_after_gap
    {gap : Text}
    (hGap : IsGap gap)
    (nesting : Nesting) :
    (nesting.after gap).isOutside = nesting.isOutside := by
  rcases nesting with ⟨groups, inString, previous⟩
  rw [after_gap hGap]
  rfl

/- Outside of all, the last character does not matter. -/
theorem isOutside_after_congr
    (previous : Option Char)
    (t : Text) :
    (after ⟨[], false, previous⟩ t).isOutside =
      (start.after t).isOutside := by
  cases t <;> rfl

theorem StaysWhole.congr
    {previous : Option Char}
    {t : Text}
    (hWhole : StaysWhole ⟨[], false, previous⟩ t) :
    start.StaysWhole t := by
  intro front back hText
  rw [← isOutside_after_congr previous]
  exact hWhole front back hText

end Nesting

/-
  A text stays whole, or its first separating comma ends a
  part that does.
-/
theorem staysWhole_or_exists_comma
    (nesting : Nesting)
    (t : Text) :
    nesting.StaysWhole t ∨
      ∃ part rest,
        t = part ++ ',' :: rest ∧
          nesting.StaysWhole part ∧
          (nesting.after part).isOutside = true := by
  induction t generalizing nesting with
  | nil => exact Or.inl nesting.staysWhole_nil
  | cons c t ih =>
      by_cases hComma : c = ',' ∧ nesting.isOutside = true
      · rcases hComma with ⟨rfl, hOutside⟩
        exact Or.inr
          ⟨[], t, rfl, nesting.staysWhole_nil, hOutside⟩
      · have hKept : c = ',' → nesting.isOutside = false := by
          intro hChar
          simpa [hChar] using hComma
        rcases ih (nesting.step c) with
          hWhole | ⟨part, rest, rfl, hPart, hOutside⟩
        · exact Or.inl (hWhole.cons hKept)
        · exact Or.inr
            ⟨c :: part, rest, rfl, hPart.cons hKept, hOutside⟩

/-
  Induction on the separating commas of a list: it is a text
  that stays whole, or one such text that leaves nothing
  open, a comma, and a shorter list.
-/
@[elab_as_elim] theorem comma_induction
    {motive : Text → Prop}
    (whole : ∀ t, Nesting.start.StaysWhole t → motive t)
    (comma :
      ∀ part rest,
        Nesting.start.StaysWhole part →
        (Nesting.start.after part).isOutside = true →
        motive rest →
        motive (part ++ ',' :: rest))
    (t : Text) :
    motive t := by
  rcases staysWhole_or_exists_comma .start t with
    hWhole | ⟨part, rest, hText, hPart, hOutside⟩
  · exact whole t hWhole
  · have hShorter : rest.length < t.length := by
      rw [hText, List.length_append, List.length_cons]
      omega
    rw [hText]
    exact comma part rest hPart hOutside
      (comma_induction whole comma rest)
termination_by t.length

------------------------------------------------------------
-- Blanks at the Ends
------------------------------------------------------------

/- Whether a text neither starts nor ends with a blank. -/
structure IsTrimmed
    (t : Text) :
    Prop where
  start : startsBlank t = false
  ending : EndsSolid t

/- A text is what is left of it, and blanks around that. -/
theorem strip_split
    (t : Text) :
    ∃ before behind,
      t = before ++ (strip t ++ behind) ∧
        IsGap before ∧ IsGap behind ∧ IsTrimmed (strip t) := by
  rcases dropBlanks_split t with ⟨before, hText, hBefore⟩
  rcases stripEnd_split (dropBlanks t) with
    ⟨kept, behind, hSplit, hKept, hBehind⟩
  have hStrip : strip t = kept := by
    unfold strip
    rw [hSplit, stripEnd_append_gap hBehind, hKept.stripEnd]
  have hTrimmed : IsTrimmed (strip t) :=
    ⟨startsBlank_strip t, by rwa [hStrip]⟩
  refine ⟨before, behind, ?_, hBefore, hBehind, hTrimmed⟩
  rw [hStrip, ← hSplit]
  exact hText

/-
  Without the blanks at its ends a part stays whole too, and
  leaves open what it left open with them.
-/
theorem staysWhole_strip
    {t : Text}
    (hWhole : Nesting.start.StaysWhole t) :
    Nesting.start.StaysWhole (strip t) ∧
      (Nesting.start.after (strip t)).isOutside =
        (Nesting.start.after t).isOutside := by
  rcases strip_split t with
    ⟨before, behind, hText, hBefore, hBehind, -⟩
  have hInner :
      (Nesting.start.after before).StaysWhole (strip t) := by
    rw [hText] at hWhole
    exact hWhole.part
  have hAfter := Nesting.start_after_gap hBefore
  rw [hAfter] at hInner
  refine ⟨hInner.congr, ?_⟩
  conv_rhs => rw [hText]
  rw [Nesting.after_append, Nesting.after_append,
    Nesting.isOutside_after_gap hBehind, hAfter,
    Nesting.isOutside_after_congr]

------------------------------------------------------------
-- Parameters
------------------------------------------------------------

/- The parameter that a part without commas is, if any. -/
theorem split_of_staysWhole
    {t : Text}
    (hWhole : Nesting.start.StaysWhole t) :
    split t = if strip t = [] then [] else [strip t] := by
  unfold split
  rw [hWhole.splitFrom]
  by_cases hBlank : strip t = [] <;> simp [hBlank]

/- A list is split on both sides of a separating comma. -/
theorem split_append_comma
    {front : Text}
    (hOutside :
      (Nesting.start.after front).isOutside = true)
    (rest : Text) :
    split (front ++ ',' :: rest) =
      split front ++ split rest := by
  rcases splitFrom_append .start front with
    ⟨whole, last, hSplit⟩
  have hFront : splitFrom .start front = whole ++ [last] := by
    have hNone := hSplit []
    rw [List.append_nil] at hNone
    simpa [splitFrom] using hNone
  have hStart :
      splitFrom ((Nesting.start.after front).step ',') rest =
        splitFrom .start rest := by
    revert hOutside
    rcases Nesting.start.after front with
      ⟨groups, inString, previous⟩
    intro hOutside
    simp only [Nesting.isOutside, Bool.and_eq_true,
      List.isEmpty_iff, Bool.not_eq_true'] at hOutside
    rcases hOutside with ⟨rfl, rfl⟩
    exact Nesting.splitFrom_outside [] (some ',') none rest
  have hPieces :
      splitFrom .start (front ++ ',' :: rest) =
        splitFrom .start front ++ splitFrom .start rest := by
    rw [hSplit, splitFrom_comma hOutside, hStart, hFront]
    simp
  unfold split
  rw [hPieces, List.map_append, List.filter_append]

/- Blanks in front of a list are in no parameter. -/
theorem split_gap_append
    {gap : Text}
    (hGap : IsGap gap)
    (t : Text) :
    split (gap ++ t) = split t := by
  have hWhole :=
    keepsWhole_of_no_comma (comma_not_mem_of_isGap hGap)
      .start t
  have hStart :
      splitFrom ⟨[], false, charBefore none gap⟩ t =
        splitFrom .start t :=
    Nesting.splitFrom_outside [] _ none t
  rw [Nesting.start_after_gap hGap, hStart] at hWhole
  unfold split
  rw [hWhole]
  cases splitFrom .start t with
  | nil => rfl
  | cons piece pieces =>
      rw [List.modifyHead_cons, List.map_cons,
        List.map_cons, strip_gap_append hGap]

/- Whether a text is a parameter that is split into itself. -/
structure IsPart
    (part : Text) :
    Prop where
  nonempty : part ≠ []
  trimmed : IsTrimmed part
  whole : Nesting.start.StaysWhole part

theorem IsPart.split
    {part : Text}
    (hPart : IsPart part) :
    Signature.split part = [part] := by
  have hStrip : strip part = part :=
    strip_of_solid hPart.trimmed.start hPart.trimmed.ending
  rw [split_of_staysWhole hPart.whole, hStrip,
    if_neg hPart.nonempty]

/-
  Whether a text holds a parameter and only blanks around
  it, so that it leaves open what the parameter does.
-/
structure Holds
    (t part : Text) :
    Prop where
  between :
    ∃ before behind,
      t = before ++ (part ++ behind) ∧
        IsGap before ∧ IsGap behind
  isPart : IsPart part
  isOutside :
    (Nesting.start.after part).isOutside =
      (Nesting.start.after t).isOutside
  split : split t = [part]

/-
  A text without separating commas is blank, or it holds one
  parameter.
-/
theorem split_cases
    {t : Text}
    (hWhole : Nesting.start.StaysWhole t) :
    (IsGap t ∧ split t = []) ∨ ∃ part, Holds t part := by
  rcases strip_split t with
    ⟨before, behind, hText, hBefore, hBehind, hTrimmed⟩
  rcases staysWhole_strip hWhole with ⟨hStrip, hOutside⟩
  have hSplit := split_of_staysWhole hWhole
  by_cases hBlank : strip t = []
  · rw [if_pos hBlank] at hSplit
    rw [hBlank, List.nil_append] at hText
    have hGap : IsGap t := by
      rw [hText]
      exact isGap_append.mpr ⟨hBefore, hBehind⟩
    exact Or.inl ⟨hGap, hSplit⟩
  · rw [if_neg hBlank] at hSplit
    exact Or.inr
      ⟨strip t,
        { between := ⟨before, behind, hText, hBefore, hBehind⟩
          isPart := ⟨hBlank, hTrimmed, hStrip⟩
          isOutside := hOutside
          split := hSplit }⟩

theorem isPart_of_staysWhole
    {t part : Text}
    (hWhole : Nesting.start.StaysWhole t)
    (hPart : part ∈ split t) :
    IsPart part := by
  rcases split_cases hWhole with ⟨-, hNone⟩ | ⟨only, hOnly⟩
  · rw [hNone] at hPart
    exact absurd hPart List.not_mem_nil
  · rw [hOnly.split, List.mem_singleton] at hPart
    rw [hPart]
    exact hOnly.isPart

/- Every parameter of a list is one that stays itself. -/
theorem isPart_of_mem_split
    {t part : Text}
    (hPart : part ∈ split t) :
    IsPart part := by
  induction t using comma_induction with
  | whole t hWhole => exact isPart_of_staysWhole hWhole hPart
  | comma first rest hWhole hOutside ih =>
      rw [split_append_comma hOutside, List.mem_append]
        at hPart
      rcases hPart with hFirst | hRest
      · exact isPart_of_staysWhole hWhole hFirst
      · exact ih hRest

------------------------------------------------------------
-- Places in the List
------------------------------------------------------------

/- Whether a character may stand between parameters. -/
def IsSeparating
    (c : Char) :
    Prop :=
  isBlank c = true ∨ c = ','

/-
  Whether some parts stand in a text one after the other,
  all characters around them being blanks and commas.
-/
inductive StandIn : List Text → Text → Prop where
  | none (gap : Text)
      (isGap : ∀ c ∈ gap, IsSeparating c) :
      StandIn [] gap
  | part (gap part : Text) {parts : List Text} {rest : Text}
      (isGap : ∀ c ∈ gap, IsSeparating c)
      (others : StandIn parts rest) :
      StandIn (part :: parts) (gap ++ (part ++ rest))

/- More separating characters may stand in front. -/
theorem StandIn.behind
    {parts : List Text}
    {t : Text}
    (hStand : StandIn parts t)
    {front : Text}
    (hFront : ∀ c ∈ front, IsSeparating c) :
    StandIn parts (front ++ t) := by
  cases hStand with
  | none gap isGap =>
      exact .none _ (List.forall_mem_append.mpr ⟨hFront, isGap⟩)
  | part gap first isGap others =>
      rw [← List.append_assoc]
      exact .part _ first
        (List.forall_mem_append.mpr ⟨hFront, isGap⟩) others

theorem StandIn.append
    {parts later : List Text}
    {t rest : Text}
    (hStand : StandIn parts t)
    (hLater : StandIn later rest) :
    StandIn (parts ++ later) (t ++ rest) := by
  induction hStand with
  | none gap isGap => exact hLater.behind isGap
  | part gap first isGap others ih =>
      rw [List.append_assoc, List.append_assoc]
      exact .part gap first isGap ih

/- The parameter of a part stands in it. -/
theorem standIn_of_staysWhole
    {t : Text}
    (hWhole : Nesting.start.StaysWhole t) :
    StandIn (split t) t := by
  rcases split_cases hWhole with
    ⟨hGap, hNone⟩ | ⟨part, hHolds⟩
  · rw [hNone]
    exact .none t fun c hChar => Or.inl (hGap c hChar)
  · rcases hHolds.between with
      ⟨before, behind, hText, hBefore, hBehind⟩
    rw [hHolds.split, hText]
    exact .part before part
      (fun c hChar => Or.inl (hBefore c hChar))
      (.none behind fun c hChar => Or.inl (hBehind c hChar))

/- The parameters of a list stand in it. -/
theorem standIn_split
    (t : Text) :
    StandIn (split t) t := by
  induction t using comma_induction with
  | whole t hWhole => exact standIn_of_staysWhole hWhole
  | comma part rest hWhole hOutside ih =>
      have hComma : ∀ c ∈ [','], IsSeparating c :=
        fun c hChar => Or.inr (List.mem_singleton.mp hChar)
      rw [split_append_comma hOutside]
      exact (standIn_of_staysWhole hWhole).append
        (ih.behind hComma)

------------------------------------------------------------
-- Splitting Again
------------------------------------------------------------

/-
  Parameters behind another one, joined to it, are found
  behind it if it leaves nothing open.
-/
theorem split_joinWith_cons
    {part : Text}
    (hPart : IsPart part)
    (hOutside :
      (Nesting.start.after part).isOutside = true)
    (parts : List Text) :
    split (joinWith [',', ' '] (part :: parts)) =
      part :: split (joinWith [',', ' '] parts) := by
  cases parts with
  | nil =>
      rw [joinWith_singleton, joinWith_nil, hPart.split]
      rfl
  | cons next parts =>
      have hBlank : IsGap [' '] := by
        simp [IsGap]
      have hText :
          joinWith [',', ' '] (part :: next :: parts) =
            part ++
              ',' :: ([' '] ++
                joinWith [',', ' '] (next :: parts)) := by
        rw [joinWith_cons_cons]
        simp
      rw [hText, split_append_comma hOutside,
        split_gap_append hBlank, hPart.split]
      rfl

/- Parameters joined again are found again. -/
theorem split_joinWith_split
    (t : Text) :
    split (joinWith [',', ' '] (split t)) = split t := by
  induction t using comma_induction with
  | whole t hWhole =>
      rcases split_cases hWhole with
        ⟨-, hNone⟩ | ⟨part, hHolds⟩
      · rw [hNone]
        rfl
      · rw [hHolds.split, joinWith_singleton,
          hHolds.isPart.split]
  | comma part rest hWhole hOutside ih =>
      rw [split_append_comma hOutside]
      rcases split_cases hWhole with
        ⟨-, hNone⟩ | ⟨first, hHolds⟩
      · rw [hNone]
        exact ih
      · have hFirst :
            (Nesting.start.after first).isOutside = true := by
          rw [hHolds.isOutside, hOutside]
        rw [hHolds.split, List.singleton_append,
          split_joinWith_cons hHolds.isPart hFirst, ih]

/-
  Splitting loses nothing: the parameters stand in the list
  in their order, and all other characters of it are blanks
  and commas.  Each is some text without blanks at its ends
  and is split into itself, and all of them joined by commas
  are split into the same ones again.
-/
theorem split_standIn_and_resplit
    (t : Text) :
    StandIn (split t) t ∧
      (∀ part ∈ split t,
        part ≠ [] ∧ IsTrimmed part ∧ split part = [part]) ∧
      split (joinWith ", ".toList (split t)) = split t := by
  refine ⟨standIn_split t, ?_, split_joinWith_split t⟩
  intro part hMember
  have hPart := isPart_of_mem_split hMember
  exact ⟨hPart.nonempty, hPart.trimmed, hPart.split⟩

/- A literal that is never closed takes all that follows. -/
example :
    split "int id,, [In] string mark = \"a, b".toList =
      ["int id".toList,
        "[In] string mark = \"a, b".toList] := by
  decide +kernel

end Signature

end RouteAtlas
