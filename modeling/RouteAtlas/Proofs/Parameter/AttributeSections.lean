import Mathlib
import RouteAtlas.Proofs.Parameter.WrittenModifiers

/-
  The attributes of a written parameter.

  A section of attributes is passed up to its first closing
  bracket, wherever that stands.  So a written parameter is
  read in full exactly if each closing bracket among its
  attributes has another section or the end behind it: one
  within a literal, say, must not be followed by the rest of
  the literal.

  Main statements:
    * `skipSections_append_iff`
    * `ofText?_written_iff`
-/

------------------------------------------------------------
-- Closing Brackets
------------------------------------------------------------

namespace RouteAtlas

namespace FormalParameter

open Text Source

/- Whether a text is at its end, or at another section. -/
def IsBetweenSections
    (t : Text) :
    Prop :=
  ∀ c ∈ t.head?, c = '['

/-
  Whether each closing bracket of a text has, after blanks,
  another section or the end behind it.
-/
def EndsOnlySections
    (t : Text) :
    Prop :=
  ∀ front back,
    t = front ++ ']' :: back →
      IsBetweenSections (dropBlanks back)

theorem endsOnlySections_nil :
    EndsOnlySections [] := by
  intro front back hText
  exact absurd hText (by simp)

theorem endsOnlySections_cons
    {c : Char}
    (hOther : c ≠ ']')
    {t : Text} :
    EndsOnlySections (c :: t) ↔ EndsOnlySections t := by
  constructor
  · intro hEnds front back hText
    exact hEnds (c :: front) back (by rw [hText]; rfl)
  · intro hEnds front back hText
    cases front with
    | nil => exact absurd (List.cons.inj hText).1 hOther
    | cons d front =>
        exact hEnds front back (List.cons.inj hText).2

theorem endsOnlySections_mark
    {t : Text} :
    EndsOnlySections (']' :: t) ↔
      IsBetweenSections (dropBlanks t) ∧
        EndsOnlySections t := by
  constructor
  · intro hEnds
    refine ⟨hEnds [] t rfl, ?_⟩
    intro front back hText
    exact hEnds (']' :: front) back (by rw [hText]; rfl)
  · rintro ⟨hHere, hEnds⟩ front back hText
    cases front with
    | nil =>
        rw [← (List.cons.inj hText).2]
        exact hHere
    | cons d front =>
        exact hEnds front back (List.cons.inj hText).2

/- Text without closing brackets can be left out in front. -/
theorem endsOnlySections_append
    {front : Text}
    (hFront : ']' ∉ front)
    {back : Text} :
    EndsOnlySections (front ++ back) ↔
      EndsOnlySections back := by
  induction front with
  | nil => rfl
  | cons c front ih =>
      rw [List.mem_cons, not_or] at hFront
      rw [List.cons_append,
        endsOnlySections_cons (Ne.symm hFront.1),
        ih hFront.2]

theorem bracket_not_mem_of_isGap
    {gap : Text}
    (hGap : IsGap gap) :
    ']' ∉ gap := by
  intro hBracket
  exact absurd (hGap ']' hBracket) (by decide)

theorem endsOnlySections_dropBlanks
    {t : Text} :
    EndsOnlySections (dropBlanks t) ↔ EndsOnlySections t := by
  rcases dropBlanks_split t with ⟨blanks, hText, hBlanks⟩
  conv_rhs => rw [hText]
  exact
    (endsOnlySections_append
      (bracket_not_mem_of_isGap hBlanks)).symm

/- One section ends, and the same is asked of the others. -/
theorem endsOnlySections_section
    {inside : Text}
    (hInside : ']' ∉ inside)
    {back : Text} :
    EndsOnlySections ('[' :: (inside ++ ']' :: back)) ↔
      IsBetweenSections (dropBlanks back) ∧
        EndsOnlySections (dropBlanks back) := by
  rw [endsOnlySections_cons (by decide),
    endsOnlySections_append hInside, endsOnlySections_mark,
    endsOnlySections_dropBlanks]

------------------------------------------------------------
-- Passing Sections
------------------------------------------------------------

/- A section is passed up to its first closing bracket. -/
theorem skipSections_section
    {inside : Text}
    (hInside : ']' ∉ inside)
    (back : Text)
    (fuel : Nat) :
    skipSections (fuel + 1) ('[' :: (inside ++ ']' :: back)) =
      skipSections fuel (dropBlanks back) := by
  simp only [skipSections, after?_append hInside]

/- Nothing is passed where no section starts. -/
theorem skipSections_of_head?
    {t : Text}
    (hHead : t.head? ≠ some '[')
    (fuel : Nat) :
    skipSections fuel t = t := by
  cases fuel with
  | zero => rfl
  | succ fuel =>
      unfold skipSections
      split
      next => simp at hHead
      next => rfl

/- So what stands in front of a text is not all passed. -/
theorem skipSections_append_ne
    {front : Text}
    (hFront : ¬IsBetweenSections front)
    (back : Text)
    (fuel : Nat) :
    skipSections fuel (front ++ back) ≠ back := by
  cases front with
  | nil => exact absurd (by simp [IsBetweenSections]) hFront
  | cons c front =>
      have hOther : c ≠ '[' := by
        rintro rfl
        exact hFront (by simp [IsBetweenSections])
      rw [skipSections_of_head? (by simpa using hOther)]
      intro hSame
      have hLength := congrArg List.length hSame
      simp only [List.length_append, List.length_cons]
        at hLength
      omega

/-
  The sections in front of a text are passed, and nothing
  else, exactly if their closing brackets end no more than
  sections.  The induction goes from one closing bracket to
  the next section: `hEnd` says that a rest of sections that
  is not blank has another closing bracket.
-/
theorem skipSections_append_iff
    {sections rest : Text}
    (hStart : IsBetweenSections sections)
    (hEnd :
      ∀ back, back <:+ sections → ']' ∈ back ∨ IsGap back)
    (hSome : rest ≠ [])
    (hSolid : startsBlank rest = false)
    (hRest : rest.head? ≠ some '[')
    {fuel : Nat}
    (hFuel : (sections ++ rest).length ≤ fuel) :
    skipSections fuel (sections ++ rest) = rest ↔
      EndsOnlySections sections := by
  induction fuel generalizing sections with
  | zero =>
      rw [Nat.le_zero, List.length_eq_zero_iff,
        List.append_eq_nil_iff] at hFuel
      exact absurd hFuel.2 hSome
  | succ fuel ih =>
      cases sections with
      | nil =>
          simp [skipSections_of_head? hRest,
            endsOnlySections_nil]
      | cons c inside =>
          obtain rfl : c = '[' := hStart c rfl
          have hClosing : ']' ∈ inside := by
            rcases hEnd _ List.suffix_rfl with hMem | hGap
            · simpa using hMem
            · exact absurd (hGap '[' List.mem_cons_self)
                (by decide)
          rcases List.eq_append_cons_of_mem hClosing with
            ⟨front, back, rfl, hFront⟩
          have hText :
              '[' :: (front ++ ']' :: back) ++ rest =
                '[' :: (front ++ ']' :: (back ++ rest)) := by
            simp
          rw [hText, skipSections_section hFront,
            endsOnlySections_section hFront,
            dropBlanks_append_of_solid_right hSolid]
          by_cases hBetween :
              IsBetweenSections (dropBlanks back)
          · have hSuffix :
                dropBlanks back <:+
                  '[' :: (front ++ ']' :: back) :=
              (List.dropWhile_suffix isBlank).trans
                ⟨'[' :: (front ++ [']']), by simp⟩
            have hShort :
                (dropBlanks back ++ rest).length ≤ fuel := by
              have hBlanks := length_dropBlanks_le back
              simp only [List.length_append,
                List.length_cons] at hFuel ⊢
              omega
            rw [ih hBetween
              (fun part hPart =>
                hEnd part (hPart.trans hSuffix))
              hShort]
            simp [hBetween]
          · have hStops :
                skipSections fuel (dropBlanks back ++ rest) ≠
                  rest :=
              skipSections_append_ne hBetween rest fuel
            simp [hStops, hBetween]

------------------------------------------------------------
-- Written Parameters
------------------------------------------------------------

/- Some sections begin with a bracket. -/
theorem isBetweenSections_sections
    (sections : List WrittenSection) :
    IsBetweenSections (sections.flatMap (·.text)) := by
  cases sections with
  | nil => simp [IsBetweenSections]
  | cons part sections =>
      simp [IsBetweenSections, WrittenSection.text]

/- The last of them ends with a bracket and blanks. -/
theorem bracket_mem_of_suffix
    {sections : List WrittenSection}
    {back : Text}
    (hBack : back <:+ sections.flatMap (·.text)) :
    ']' ∈ back ∨ IsGap back := by
  rcases List.eq_nil_or_concat sections with
    rfl | ⟨others, last, rfl⟩
  · rw [List.flatMap_nil, List.suffix_nil] at hBack
    rw [hBack]
    exact Or.inr isGap_nil
  · have hLast :
        ']' :: last.gap.text <:+
          (others.concat last).flatMap (·.text) :=
      ⟨others.flatMap (·.text) ++ '[' :: last.content.text,
        by simp [WrittenSection.text]⟩
    rcases List.suffix_or_suffix_of_suffix hBack hLast with
      hInside | hOutside
    · rcases List.suffix_cons_iff.mp hInside with
        rfl | hGap
      · exact Or.inl List.mem_cons_self
      · exact Or.inr fun c hChar =>
          last.gap.blank c (hGap.subset hChar)
    · exact Or.inl (hOutside.subset List.mem_cons_self)

/- Contents without closing brackets end only sections. -/
theorem endsOnlySections_sections
    {sections : List WrittenSection}
    (hContent :
      ∀ part ∈ sections, ']' ∉ part.content.text) :
    EndsOnlySections (sections.flatMap (·.text)) := by
  induction sections with
  | nil => exact endsOnlySections_nil
  | cons part sections ih =>
      rw [List.forall_mem_cons] at hContent
      have hHead := isBetweenSections_sections sections
      have hText :
          (part :: sections).flatMap (·.text) =
            '[' :: (part.content.text ++
              ']' :: (part.gap.text ++
                sections.flatMap (·.text))) := by
        simp [WrittenSection.text]
      rw [hText, endsOnlySections_cons (by decide),
        endsOnlySections_append hContent.1,
        endsOnlySections_mark,
        dropBlanks_gap_append part.gap.blank,
        endsOnlySections_append
          (bracket_not_mem_of_isGap part.gap.blank)]
      refine ⟨?_, ih hContent.2⟩
      cases hOthers : sections.flatMap (·.text) with
      | nil => simp [IsBetweenSections, dropBlanks]
      | cons c others =>
          obtain rfl : c = '[' := hHead c (by simp [hOthers])
          rw [dropBlanks_cons_of_not_blank (by decide)]
          simp [IsBetweenSections]

theorem endsSolid_rankText
    (ranks : List Sections.Gap) :
    EndsSolid (WrittenType.rankText ranks) := by
  have hBracket : EndsSolid [']'] :=
    endsSolid_concat (by decide) []
  induction ranks with
  | nil => exact endsSolid_nil
  | cons gap ranks ih =>
      exact
        ((hBracket.append ih).append_left (by simp)
          gap.text).append_left (by simp) ['[']

namespace Written

/- A type has no blanks at its ends. -/
theorem strip_type
    (written : Written) :
    strip written.type.text = written.type.text := by
  have hName : EndsSolid written.type.name :=
    endsSolid_of_forall fun c hChar =>
      isBlank_of_isDottedChar (written.type.dotted c hChar)
  have hArguments : EndsSolid written.type.argumentText := by
    unfold WrittenType.argumentText
    cases written.type.arguments? with
    | none => exact endsSolid_nil
    | some arguments =>
        have hAngle : EndsSolid ['>'] :=
          endsSolid_concat (by decide) []
        refine EndsSolid.append_left ?_ (by simp) _
        exact
          (hAngle.append_left (by simp) _).append_left
            (by simp) ['<']
  have hMarks : EndsSolid written.type.marks := by
    apply (endsSolid_rankText _).append
    split
    · exact endsSolid_concat (by decide) []
    · exact endsSolid_nil
  apply strip_of_solid
  · have hDotted := written.type.dotted
    unfold WrittenType.text
    cases hFirst : written.type.name with
    | nil => exact absurd hFirst written.type.named
    | cons c name =>
        exact
          isBlank_of_isDottedChar (hDotted c (by simp [hFirst]))
  · exact hName.append (hArguments.append hMarks)

/- Neither has a parameter. -/
theorem strip_text
    (written : Written) :
    strip written.text = written.text := by
  apply strip_of_solid
  · have hHead := isBetweenSections_sections written.sections
    unfold text attributes
    cases hSections :
        written.sections.flatMap (·.text) with
    | nil =>
        rcases written.exists_modified written.modifiers with
          ⟨c, t, hText, hChar⟩
        rw [List.nil_append, rest, hText]
        exact isBlank_of_isDottedChar hChar
    | cons c sections =>
        obtain rfl : c = '[' := hHead c (by simp [hSections])
        have hSolid : isBlank '[' = false := by decide
        exact hSolid
  · have hName : EndsSolid written.name :=
      endsSolid_of_forall fun c hChar =>
        isBlank_of_isWordChar (written.isWord c hChar)
    have hSign : EndsSolid ['='] :=
      endsSolid_concat (by decide) []
    have hDefault : EndsSolid written.defaultText := by
      unfold defaultText
      cases written.default? with
      | none => exact endsSolid_nil
      | some default =>
          exact
            (hSign.append default.solid).append_left (by simp)
              default.gap.text
    have hEnd :=
      (hName.append hDefault).append_left
        (by simp [written.named])
        (written.attributes ++
          (written.modifiers.flatMap (·.text) ++
            (written.type.text ++
              (written.gap.text ++
                if written.verbatim then ['@'] else []))))
    simpa [text, rest, declaration, nameText] using hEnd

/- It is read in full if its attributes are passed. -/
theorem ofText?_eq_some_iff
    (written : Written) :
    ofText? written.text = some written.parameter ↔
      skipSections written.text.length written.text =
        written.rest := by
  rcases skipSections_split written.text.length written.text
    with ⟨passed, hPassed⟩
  unfold ofText?
  rw [strip_text]
  constructor
  · intro hSome
    rw [Option.map_eq_some_iff] at hSome
    rcases hSome with ⟨declaration, -, hParameter⟩
    have hAttributes :=
      congrArg FormalParameter.attributes hParameter
    generalize skipSections written.text.length written.text =
      left at hPassed hAttributes ⊢
    have hTaken :
        written.text.take (written.text.length - left.length) =
          passed := by
      rw [hPassed, List.length_append, Nat.add_sub_cancel,
        List.take_left]
    simp only [hTaken] at hAttributes
    subst hAttributes
    exact (List.append_cancel_left hPassed).symm
  · intro hSkipped
    have hTaken :
        written.text.take
            (written.text.length - written.rest.length) =
          written.attributes := by
      rw [text, List.length_append, Nat.add_sub_cancel,
        List.take_left]
    simp only [hSkipped, readModifiersUpTo_rest,
      Option.map_some, hTaken]
    simp only [declared, parameter, strip_collapseBlanks,
      strip_type]

/-
  A written parameter is read in full exactly if each closing
  bracket among its attributes ends a section; this is so if
  none stands within a section.
-/
theorem ofText?_written_iff
    (written : Written) :
    (ofText? written.text = some written.parameter ↔
        EndsOnlySections written.attributes) ∧
      ((∀ part ∈ written.sections,
          ']' ∉ part.content.text) →
        ofText? written.text = some written.parameter) := by
  have hRead := written.ofText?_eq_some_iff
  have hSections :
      skipSections written.text.length written.text =
          written.rest ↔
        EndsOnlySections written.attributes := by
    rcases written.exists_modified written.modifiers with
      ⟨c, t, hText, hChar⟩
    have hRest : written.rest = c :: t := hText
    have hBracket : c ≠ '[' := by
      rintro rfl
      exact absurd hChar (by decide)
    apply skipSections_append_iff
      (isBetweenSections_sections written.sections)
      (fun back => bracket_mem_of_suffix)
    · simp [hRest]
    · rw [hRest]
      exact isBlank_of_isDottedChar hChar
    · simpa [hRest] using hBracket
    · exact Nat.le_refl _
  refine ⟨hRead.trans hSections, ?_⟩
  intro hContent
  exact
    (hRead.trans hSections).mpr
      (endsOnlySections_sections hContent)

end Written

/- A section with a literal that holds brackets. -/
def idsSection : WrittenSection where
  content :=
    (Signature.Nested.literal
        (.ofText "ids[]".toList (by decide) (by decide))
        (Signature.Nested.done.marks ")".toList
          (by decide))).marks
      "FromQuery(Name = ".toList (by decide)
  gap := .spaces 1

/- The parameter that has it. -/
def idsParameter : Written where
  sections := [idsSection]
  modifiers := []
  type :=
    { name := "int".toList
      named := by decide
      dotted := List.all_eq_true.mp (by decide)
      arguments? := none
      ranks := [.spaces 0]
      nullable := false }
  gap := .spaces 1
  spaced := by decide
  verbatim := false
  name := "ids".toList
  named := by decide
  isWord := List.all_eq_true.mp (by decide)
  notModifier := by decide
  default? := none

/- It is no parameter when it is read. -/
theorem ofText?_idsParameter :
    idsParameter.text =
        "[FromQuery(Name = \"ids[]\")] int[] ids".toList ∧
      idsParameter.parameter =
        { attributes :=
            "[FromQuery(Name = \"ids[]\")] ".toList
          declaredType := "int[]".toList
          name := "ids".toList
          hasDefault := false } ∧
      ofText? idsParameter.text = none := by
  decide +kernel

end FormalParameter

end RouteAtlas
