import Mathlib
import RouteAtlas.Proofs.Parameter.Reading
import RouteAtlas.Proofs.Text.CollapsedReaders

/-
  Parameters with runs of blanks collapsed.

  Every reader of a parameter passes blanks as a run, so on
  a text with each run as one space it reads the same: the
  same name, a type that differs in its blanks at most, and
  the same binding attribute.

  Main statements:
    * `readDeclaration_collapseBlanks`
    * `ofText?_collapseBlanks`
    * `bind_collapsed`
-/

------------------------------------------------------------
-- Marks of a Type
------------------------------------------------------------

namespace RouteAtlas

namespace FormalParameter

open Text Source

theorem modifierThenBlanks?_collapseBlanks
    (t : Text) :
    wordThenBlanks? modifiers (collapseBlanks t) =
      (wordThenBlanks? modifiers t).map collapseBlanks := by
  have hWords :
      modifiers.all (·.all (!isBlank ·)) = true := by
    decide
  have hRead :
      oneOf? modifiers (collapseBlanks t) =
        (oneOf? modifiers t).map
          (Prod.map id collapseBlanks) := by
    apply findSome?_eq_map
    intro word hWord
    rw [isPrefixOf?_collapseBlanks
      (List.all_eq_true.mp hWords word hWord)]
    cases word.isPrefixOf? t <;> rfl
  unfold wordThenBlanks?
  rw [hRead]
  cases oneOf? modifiers t with
  | none => rfl
  | some read => exact blanks?_collapseBlanks read.2

/- A mark in front of a text is passed as before. -/
theorem skipAt_collapseBlanks
    (t : Text) :
    skipAt (collapseBlanks t) = collapseBlanks (skipAt t) := by
  cases t with
  | nil => rfl
  | cons c t =>
      by_cases hMark : c = '@'
      · subst hMark
        rfl
      · rcases collapseBlanks_cons_of_ne (by decide) hMark t
          with ⟨d, s, hText, hOther⟩
        simp [skipAt, hMark, hText, hOther]

theorem skipNullableMark_collapseBlanks
    (t : Text) :
    skipNullableMark (collapseBlanks t) =
      collapseBlanks (skipNullableMark t) := by
  cases t with
  | nil => rfl
  | cons c t =>
      by_cases hMark : c = '?'
      · subst hMark
        rfl
      · rcases collapseBlanks_cons_of_ne (by decide) hMark t
          with ⟨d, s, hText, hOther⟩
        simp [skipNullableMark, hMark, hText, hOther]

/- Blanks within brackets do not show either. -/
theorem skipRanks_collapseBlanks
    (fuel : Nat)
    (t : Text) :
    skipRanks fuel (collapseBlanks t) =
      collapseBlanks (skipRanks fuel t) := by
  induction fuel generalizing t with
  | zero => rfl
  | succ fuel ih =>
      cases t with
      | nil => rfl
      | cons c t =>
          by_cases hMark : c = '['
          · subst hMark
            have hText :
                collapseBlanks ('[' :: t) =
                  '[' :: collapseBlanks t :=
              collapseBlanks_solid (by decide) t
            rw [hText, skipRanks, skipRanks,
              dropBlanks_collapseBlanks]
            cases hInside : dropBlanks t with
            | nil => exact hText.symm
            | cons d rest =>
                by_cases hClosing : d = ']'
                · subst hClosing
                  exact ih rest
                · rcases
                    collapseBlanks_cons_of_ne (by decide)
                      hClosing rest
                    with ⟨e, s, hRest, hOther⟩
                  simp [hRest, hClosing, hOther, hText]
          · rcases
              collapseBlanks_cons_of_ne (by decide) hMark t
              with ⟨d, s, hText, hOther⟩
            simp [skipRanks, hMark, hText, hOther]

theorem default?_collapseBlanks
    (t : Text) :
    default? (dropBlanks (collapseBlanks t)) =
      default? (dropBlanks t) := by
  have hStart := startsBlank_dropBlanks t
  rw [dropBlanks_collapseBlanks]
  cases hText : dropBlanks t with
  | nil => rfl
  | cons c rest =>
      rw [hText] at hStart
      rw [collapseBlanks_solid hStart]
      by_cases hSign : c = '='
      · subst hSign
        rfl
      · simp [default?, hSign]

------------------------------------------------------------
-- Declarations
------------------------------------------------------------

/- A declaration with the blanks of its type as one each. -/
def Declaration.collapsed
    (declaration : Declaration) :
    Declaration :=
  { declaration with
      typeText := collapseBlanks declaration.typeText }

/-
  The end of a type is read as before.  What stands in front
  of it goes into the type and must not end with a blank,
  else a run would lie on both sides.
-/
theorem readTypeEnd_collapseBlanks
    {front : Text}
    (hFront : EndsSolid front)
    (t : Text) :
    readTypeEnd (collapseBlanks (front ++ t))
        (collapseBlanks t) =
      (readTypeEnd (front ++ t) t).map
        Declaration.collapsed := by
  rcases skipRanks_split t.length t with
    ⟨ranks, hRanks, hRanksSolid⟩
  rcases skipNullableMark_split (skipRanks t.length t) with
    ⟨mark, hMark, hMarkSolid⟩
  have hSkipped :
      skipNullableMark
          (skipRanks (collapseBlanks t).length
            (collapseBlanks t)) =
        collapseBlanks
          (skipNullableMark (skipRanks t.length t)) := by
    have hShort :
        (collapseBlanks t).length ≤ t.length :=
      length_collapseBlanks_le t
    rw [← skipRanks_eq hShort, skipRanks_collapseBlanks,
      skipNullableMark_collapseBlanks]
  unfold readTypeEnd
  rw [hSkipped]
  generalize skipNullableMark (skipRanks t.length t) = rest
    at hMark hSkipped ⊢
  -- What was read of the type, and what is left behind it.
  have hWhole :
      front ++ t = (front ++ (ranks ++ mark)) ++ rest := by
    rw [hRanks, hMark]
    simp
  have hSolid : EndsSolid (front ++ (ranks ++ mark)) :=
    hFront.append (hRanksSolid.append hMarkSolid)
  rw [hWhole, hSolid.collapseBlanks_append]
  generalize front ++ (ranks ++ mark) = typeText
  simp only [List.length_append, Nat.add_sub_cancel,
    List.take_left, blanks?_collapseBlanks]
  cases blanks? rest with
  | none => rfl
  | some rest =>
      simp only [Option.map_some, Option.bind_eq_bind,
        Option.bind_some, skipAt_collapseBlanks,
        word?_collapseBlanks]
      cases word? (skipAt rest) with
      | none => rfl
      | some read =>
          simp only [Option.map_some, Option.bind_some,
            Prod.map_fst, Prod.map_snd, id,
            default?_collapseBlanks]
          cases default? (dropBlanks read.2) <;> rfl

/-
  The closing marks of a text stay, and what follows each of
  them is read as before.
-/
theorem lastClosing?_collapseBlanks
    {accept accept' : Text → Option Declaration}
    {t : Text}
    (hAccept :
      ∀ front back,
        t = front ++ '>' :: back →
          accept' (collapseBlanks back) =
            (accept back).map Declaration.collapsed) :
    lastClosing? (fun _ => false) accept' (collapseBlanks t) =
      (lastClosing? (fun _ => false) accept t).map
        Declaration.collapsed := by
  induction t with
  | nil => rfl
  | cons c t ih =>
      have hRest := ih fun front back hText =>
        hAccept (c :: front) back (by rw [hText]; rfl)
      by_cases hClosing : c = '>'
      · subst hClosing
        have hHere := hAccept [] t rfl
        rw [collapseBlanks_solid (by decide)]
        simp only [lastClosing?, hRest, hHere]
        cases lastClosing? (fun _ => false) accept t <;> simp
      · have hLater :
            lastClosing? (fun _ => false) accept (c :: t) =
              lastClosing? (fun _ => false) accept t := by
          simp [lastClosing?, hClosing]
        rw [hLater, ← hRest, collapseBlanks]
        split
        · split
          · rfl
          · simp [lastClosing?]
        · simp [lastClosing?, hClosing]

/- A declaration is read as before, up to its type's blanks. -/
theorem readDeclaration_collapseBlanks
    (t : Text) :
    readDeclaration (collapseBlanks t) =
      (readDeclaration t).map Declaration.collapsed := by
  rcases hSpan : t.span isDottedChar with ⟨name, rest⟩
  have hSpan' :
      (collapseBlanks t).span isDottedChar =
        (name, collapseBlanks rest) := by
    rw [span_collapseBlanks fun c hChar =>
      isBlank_of_isDottedChar hChar, hSpan]
    rfl
  rcases span_split hSpan with ⟨hText, hDotted⟩
  by_cases hNamed : name = []
  · subst hNamed
    rw [readDeclaration_nameless hSpan,
      readDeclaration_nameless hSpan']
    rfl
  have hName : EndsSolid name :=
    endsSolid_of_forall fun c hChar =>
      isBlank_of_isDottedChar (hDotted c hChar)
  have hStart := startsBlank_dropBlanks rest
  rcases dropBlanks_split rest with ⟨blanks, hRest, -⟩
  by_cases hAngle : (dropBlanks rest).head? = some '<'
  · rcases List.head?_eq_some_iff.mp hAngle with
      ⟨arguments, hDrop⟩
    have hDrop' :
        dropBlanks (collapseBlanks rest) =
          '<' :: collapseBlanks arguments := by
      rw [dropBlanks_collapseBlanks, hDrop]
      exact collapseBlanks_solid (by decide) arguments
    rw [readDeclaration_arguments hSpan hNamed hDrop,
      readDeclaration_arguments hSpan' hNamed hDrop']
    apply lastClosing?_collapseBlanks
    intro front back hArguments
    have hFront :
        t = (name ++ blanks ++ '<' :: front ++ ['>']) ++
          back := by
      rw [hText, hRest, hDrop, hArguments]
      simp
    rw [hFront]
    exact readTypeEnd_collapseBlanks
      (endsSolid_concat (by decide) _) back
  · have hAngle' :
        (dropBlanks (collapseBlanks rest)).head? ≠
          some '<' := by
      rw [dropBlanks_collapseBlanks]
      cases hDrop : dropBlanks rest with
      | nil => simp [collapseBlanks]
      | cons c behind =>
          rw [hDrop] at hStart hAngle
          rw [collapseBlanks_solid hStart]
          exact hAngle
    rw [readDeclaration_plain hSpan hNamed hAngle,
      readDeclaration_plain hSpan' hNamed hAngle', hText]
    exact readTypeEnd_collapseBlanks hName rest

------------------------------------------------------------
-- Modifiers
------------------------------------------------------------

theorem readModifiersUpTo_collapseBlanks
    (fuel : Nat)
    (t : Text) :
    readModifiersUpTo fuel (collapseBlanks t) =
      (readModifiersUpTo fuel t).map
        Declaration.collapsed := by
  induction fuel generalizing t with
  | zero => exact readDeclaration_collapseBlanks t
  | succ fuel ih =>
      rw [readModifiersUpTo, readModifiersUpTo,
        modifierThenBlanks?_collapseBlanks,
        readDeclaration_collapseBlanks]
      cases wordThenBlanks? modifiers t with
      | none => rfl
      | some rest =>
          simp only [Option.map_some, ih rest]
          cases readModifiersUpTo fuel rest <;> rfl

/- Sections end where they did. -/
theorem skipSections_collapseBlanks
    (fuel : Nat)
    (t : Text) :
    skipSections fuel (collapseBlanks t) =
      collapseBlanks (skipSections fuel t) := by
  induction fuel generalizing t with
  | zero => rfl
  | succ fuel ih =>
      cases t with
      | nil => rfl
      | cons c t =>
          by_cases hMark : c = '['
          · subst hMark
            have hText :
                collapseBlanks ('[' :: t) =
                  '[' :: collapseBlanks t :=
              collapseBlanks_solid (by decide) t
            rw [hText, skipSections, skipSections,
              after?_collapseBlanks (by decide)]
            cases after? ']' t with
            | none => exact hText.symm
            | some rest =>
                simp only [Option.map_some,
                  dropBlanks_collapseBlanks]
                exact ih (dropBlanks rest)
          · rcases
              collapseBlanks_cons_of_ne (by decide) hMark t
              with ⟨d, s, hText, hOther⟩
            simp [skipSections, hMark, hText, hOther]

------------------------------------------------------------
-- Formal Parameters
------------------------------------------------------------

/- A parameter with the blanks of its attributes as one each. -/
def collapsed
    (parameter : FormalParameter) :
    FormalParameter :=
  { parameter with
      attributes := collapseBlanks parameter.attributes }

/-
  A parameter is read as before, with the blanks of its
  attributes as one each; those of its type are anyway.
-/
theorem ofText?_collapseBlanks
    (t : Text) :
    ofText? (collapseBlanks t) =
      (ofText? t).map collapsed := by
  have hStart := startsBlank_strip t
  unfold ofText?
  rw [strip_collapseBlanks]
  generalize strip t = t at hStart
  have hShort := length_collapseBlanks_le t
  have hSkipped :
      skipSections (collapseBlanks t).length
          (collapseBlanks t) =
        collapseBlanks (skipSections t.length t) := by
    rw [← skipSections_eq hShort, skipSections_collapseBlanks]
  have hRest := startsBlank_skipSections t.length hStart
  rcases skipSections_split t.length t with
    ⟨sections, hSections⟩
  simp only [hSkipped]
  generalize skipSections t.length t = rest
    at hSections hRest
  subst hSections
  have hModifiers :
      readModifiersUpTo (collapseBlanks rest).length
          (collapseBlanks rest) =
        (readModifiersUpTo rest.length rest).map
          Declaration.collapsed := by
    rw [← readModifiersUpTo_eq (length_collapseBlanks_le rest),
      readModifiersUpTo_collapseBlanks]
  rw [hModifiers, collapseBlanks_append hRest]
  cases readModifiersUpTo rest.length rest with
  | none => rfl
  | some declaration =>
      simp [collapsed, Declaration.collapsed,
        collapseBlanks_idem]

end FormalParameter

------------------------------------------------------------
-- Binding
------------------------------------------------------------

namespace ParameterSource

open Text Source

/- No binding attribute starts with a blank. -/
theorem readBinding_of_startsBlank
    (previous : Option Char)
    {t : Text}
    (hStart : startsBlank t = true) :
    readBinding previous t = none := by
  have hWord : "From".toList.isPrefixOf? t = none := by
    cases t with
    | nil => simp [startsBlank] at hStart
    | cons c t =>
        have hOther : c ≠ 'F' := by
          rintro rfl
          have hSolid : isBlank 'F' = false := by decide
          exact absurd hStart (by simp [startsBlank, hSolid])
        simp [List.isPrefixOf?, Ne.symm hOther]
  unfold readBinding
  rw [hWord]
  split <;> rfl

/- The source it names is the same. -/
theorem readBinding_collapseBlanks
    {previous previous' : Option Char}
    (hPrevious : wordMayStart previous = wordMayStart previous')
    (t : Text) :
    readBinding previous' (collapseBlanks t) =
      readBinding previous t := by
  have hFrom : "From".toList.all (!isBlank ·) = true := by
    decide
  have hWords :
      bindingWords.all (·.1.all (!isBlank ·)) = true := by
    decide
  unfold readBinding
  rw [hPrevious, isPrefixOf?_collapseBlanks hFrom]
  cases "From".toList.isPrefixOf? t with
  | none => rfl
  | some rest =>
      simp only [Option.map_some, Option.bind_eq_bind,
        Option.bind_some]
      congr 1
      refine
        (findSome?_eq_map ?_).trans (congrFun Option.map_id _)
      intro (word, source) hWord
      rw [isPrefixOf?_collapseBlanks
        (List.all_eq_true.mp hWords (word, source) hWord)]
      cases word.isPrefixOf? rest with
      | none => rfl
      | some rest => simp

/-
  The first binding attribute of a text names the same
  source.  The character before a blank does not matter, and
  a run may have lost all of them but one.
-/
theorem findFrom_readBinding_collapseBlanks
    {previous previous' : Option Char}
    {column column' : Nat}
    {t : Text}
    (hPrevious :
      startsBlank t = false →
        wordMayStart previous = wordMayStart previous') :
    (findFrom readBinding previous' column'
        (collapseBlanks t)).map Prod.snd =
      (findFrom readBinding previous column t).map
        Prod.snd := by
  induction t generalizing previous previous' column column' with
  | nil =>
      have hHere :=
        readBinding_collapseBlanks (hPrevious rfl) []
      rw [collapseBlanks] at hHere ⊢
      rw [findFrom, findFrom, hHere]
      cases readBinding previous [] <;> rfl
  | cons c t ih =>
      cases hBlank : isBlank c with
      | false =>
          have hHere :=
            readBinding_collapseBlanks (hPrevious hBlank)
              (c :: t)
          rw [collapseBlanks_solid hBlank] at hHere ⊢
          rw [findFrom, findFrom, hHere]
          cases readBinding previous (c :: t) with
          | some source => rfl
          | none => exact ih fun _ => rfl
      | true =>
          have hNone :
              ∀ previous d s,
                isBlank d = true →
                  readBinding previous (d :: s) = none :=
            fun previous d s hStart =>
              readBinding_of_startsBlank previous hStart
          have hAfter :
              wordMayStart (some c) = wordMayStart (some ' ') := by
            simp [wordMayStart, isWordChar_of_isBlank, hBlank]
          rw [findFrom.eq_def _ _ _ (c :: t), hNone _ _ _ hBlank,
            collapseBlanks, if_pos hBlank]
          split
          next hNext =>
            exact ih fun hSolid => by
              rw [hNext] at hSolid
              exact absurd hSolid (by simp)
          next =>
            rw [findFrom, hNone _ _ _ isBlank_space]
            exact ih fun _ => hAfter

end ParameterSource

/- A parameter is bound to the same source. -/
theorem FormalParameter.bind_collapsed
    (parameter : FormalParameter)
    (verb : HttpVerb)
    (pathParameters : List Text) :
    parameter.collapsed.bind verb pathParameters =
      parameter.bind verb pathParameters := by
  have hFound :
      (Text.findFrom ParameterSource.readBinding none 0
          (Text.collapseBlanks parameter.attributes)).map
            Prod.snd =
        (Text.findFrom ParameterSource.readBinding none 0
          parameter.attributes).map Prod.snd :=
    ParameterSource.findFrom_readBinding_collapseBlanks
      fun _ => rfl
  unfold FormalParameter.bind Text.find?
  simp only [FormalParameter.collapsed]
  revert hFound
  cases Text.findFrom ParameterSource.readBinding none 0
      parameter.attributes <;>
    cases Text.findFrom ParameterSource.readBinding none 0
        (Text.collapseBlanks parameter.attributes) <;>
      simp

end RouteAtlas
