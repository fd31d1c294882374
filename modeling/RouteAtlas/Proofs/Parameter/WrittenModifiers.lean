import Mathlib
import RouteAtlas.Proofs.Parameter.Written

/-
  The modifiers of a written parameter.

  As many modifiers as possible are taken first, then fewer.
  Those that are written are all taken.  A type that is
  spelled like a modifier is taken for one too, but what is
  left then is no declaration, so it is given back.

  Main statements:
    * `Written.readModifiersUpTo_declaration`
    * `Written.readModifiersUpTo_rest`
-/

------------------------------------------------------------
-- Modifiers
------------------------------------------------------------

namespace RouteAtlas

namespace FormalParameter

open Text Source

theorem areModifiers :
    modifiers.all (·.all isWordChar) = true := by
  decide

/- A modifier is read with the blanks behind it. -/
theorem wordThenBlanks?_modifier
    (modifier : WrittenModifier)
    {t : Text}
    (hStart : startsBlank t = false) :
    wordThenBlanks? modifiers (modifier.text ++ t) =
      some t := by
  unfold wordThenBlanks? WrittenModifier.text
  rw [List.append_assoc,
    oneOf?_append (by decide) modifier.isModifier]
  exact blanks?_gap modifier.gap.blank modifier.spaced hStart

theorem readModifiersUpTo_eq_none
    {t : Text}
    (hModifier : wordThenBlanks? modifiers t = none)
    (hDeclaration : readDeclaration t = none)
    (fuel : Nat) :
    readModifiersUpTo fuel t = none := by
  cases fuel with
  | zero => exact hDeclaration
  | succ fuel =>
      rw [readModifiersUpTo, hModifier]
      exact hDeclaration

/- Neither a modifier nor a type begins with a bracket. -/
theorem readModifiersUpTo_cons_eq_none
    {c : Char}
    (hChar : isDottedChar c = false)
    (t : Text)
    (fuel : Nat) :
    readModifiersUpTo fuel (c :: t) = none := by
  apply readModifiersUpTo_eq_none
  · cases hRead : wordThenBlanks? modifiers (c :: t) with
    | none => rfl
    | some rest =>
        have hModifier :=
          front_of_wordThenBlanks? areModifiers isDottedChar []
            (c :: t)
            (fun d hWord => by simp [isDottedChar, hWord])
            (fun d => isBlank_of_isDottedChar)
            (by simp) (by simpa using hChar) hRead
        exact absurd hModifier.1 (by decide)
  · apply readDeclaration_nameless
    change ([] ++ c :: t).span isDottedChar = ([], c :: t)
    exact span_append (by simp) (by simpa using hChar)

namespace Written

theorem head?_defaultText
    (written : Written) :
    ∀ c ∈ written.defaultText.head?,
      c = '=' ∨ isBlank c = true := by
  unfold defaultText
  cases written.default? with
  | none => simp
  | some default =>
      cases hGap : default.gap.text with
      | nil => simp [WrittenDefault.text, hGap]
      | cons c gap =>
          have hBlank := default.gap.blank c (by simp [hGap])
          simp [WrittenDefault.text, hGap, hBlank]

/- No marks of a type stand behind the name. -/
theorem skipMarks_defaultText
    (written : Written) :
    skipNullableMark
        (skipRanks written.defaultText.length
          written.defaultText) =
      written.defaultText := by
  have hHead := written.head?_defaultText
  have hRanks :=
    skipRanks_rankText
      (t := written.defaultText)
      (fun hBracket => by
        rcases hHead '[' hBracket with hSign | hBlank
        · exact absurd hSign (by decide)
        · exact absurd hBlank (by decide))
      []
  rw [WrittenType.rankText, List.nil_append] at hRanks
  rw [hRanks]
  cases hText : written.defaultText with
  | nil => rfl
  | cons c t =>
      have hOther : c ≠ '?' := by
        rintro rfl
        rcases hHead '?' (by simp [hText]) with hSign | hBlank
        · exact absurd hSign (by decide)
        · exact absurd hBlank (by decide)
      simp [skipNullableMark, hOther]

/- The end of a type is none behind the name. -/
theorem readTypeEnd_defaultText
    (written : Written)
    (whole : Text) :
    readTypeEnd whole written.defaultText = none := by
  unfold readTypeEnd
  simp only [written.skipMarks_defaultText]
  unfold defaultText
  cases written.default? with
  | none => rfl
  | some default =>
      have hSign : isWordChar '=' = false := by decide
      have hSolid : isBlank '=' = false := by decide
      by_cases hGap : default.gap.text = []
      · simp [WrittenDefault.text, hGap, blanks?, hSolid]
      · have hBlanks :
            blanks? default.text =
              some ('=' :: default.value) :=
          blanks?_gap default.gap.blank hGap hSolid
        have hWord : word? ('=' :: default.value) = none := by
          simp [word?, List.span_eq_takeWhile_dropWhile, hSign]
        simp [hBlanks, skipAt, hWord]

/- No declaration begins with the name. -/
theorem readDeclaration_name
    (written : Written) :
    readDeclaration (written.name ++ written.defaultText) =
      none := by
  have hName : ∀ c ∈ written.name, isDottedChar c = true :=
    fun c hChar => by simp [isDottedChar, written.isWord c hChar]
  have hDefault :
      ∀ c ∈ written.defaultText.head?,
        isDottedChar c = false := by
    intro c hHead
    rcases written.head?_defaultText c hHead with
      rfl | hBlank
    · decide
    · exact isDottedChar_of_isBlank hBlank
  have hAngle :
      (dropBlanks written.defaultText).head? ≠ some '<' := by
    unfold defaultText
    cases written.default? with
    | none => simp [dropBlanks]
    | some default =>
        have hSolid : isBlank '=' = false := by decide
        simp [WrittenDefault.text,
          dropBlanks_gap_append default.gap.blank,
          dropBlanks_cons_of_not_blank hSolid]
  rw [readDeclaration_plain (span_append hName hDefault)
    written.named hAngle]
  exact written.readTypeEnd_defaultText _

/- Nothing is read from the name on. -/
theorem readModifiersUpTo_nameText
    (written : Written)
    (fuel : Nat) :
    readModifiersUpTo fuel written.nameText = none := by
  unfold nameText
  cases written.verbatim with
  | true => exact readModifiersUpTo_cons_eq_none (by decide) _ _
  | false =>
      apply readModifiersUpTo_eq_none _
        written.readDeclaration_name
      cases hRead :
          wordThenBlanks? FormalParameter.modifiers
            (written.name ++ written.defaultText) with
      | none => rfl
      | some rest =>
          have hDefault :
              ∀ c ∈ written.defaultText.head?,
                isWordChar c = false := by
            intro c hHead
            rcases written.head?_defaultText c hHead with
              rfl | hBlank
            · decide
            · exact isWordChar_of_isBlank hBlank
          have hModifier :=
            front_of_wordThenBlanks? areModifiers isWordChar _ _
              (fun _ => id)
              (fun c => isBlank_of_isWordChar)
              written.isWord hDefault hRead
          exact absurd hModifier.1 written.notModifier

/- What follows a name and blanks is no declaration. -/
theorem readModifiersUpTo_behind_name
    (written : Written)
    {rest : Text}
    (hBlanks :
      blanks? (written.type.argumentText ++ written.typeTail) =
        some rest)
    (fuel : Nat) :
    readModifiersUpTo fuel rest = none := by
  have hName :=
    blanks?_gap written.gap.blank written.spaced
      written.startsBlank_nameText
  unfold WrittenType.argumentText at hBlanks
  cases hArguments : written.type.arguments? with
  | none =>
      unfold typeTail WrittenType.marks at hBlanks
      cases hRanks : written.type.ranks with
      | cons gap ranks =>
          have hSolid : isBlank '[' = false := by decide
          simp [hArguments, hRanks, WrittenType.rankText,
            blanks?, hSolid] at hBlanks
      | nil =>
          cases hNullable : written.type.nullable with
          | true =>
              have hSolid : isBlank '?' = false := by decide
              simp [hArguments, hRanks, hNullable,
                WrittenType.rankText, blanks?, hSolid]
                at hBlanks
          | false =>
              simp only [hArguments, hRanks, hNullable,
                WrittenType.rankText, List.nil_append,
                Bool.false_eq_true, if_false, hName,
                Option.some.injEq] at hBlanks
              subst hBlanks
              exact written.readModifiersUpTo_nameText fuel
  | some arguments =>
      rcases arguments with ⟨gap, inside⟩
      have hSolid : isBlank '<' = false := by decide
      simp only [hArguments, List.append_assoc,
        List.cons_append] at hBlanks
      by_cases hGap : gap.text = []
      · simp [hGap, blanks?, hSolid] at hBlanks
      · have hAngle :
            ∀ t, blanks? (gap.text ++ '<' :: t) =
              some ('<' :: t) :=
          fun t => blanks?_gap gap.blank hGap hSolid
        rw [hAngle] at hBlanks
        rw [← Option.some.inj hBlanks]
        exact readModifiersUpTo_cons_eq_none (by decide) _ fuel

/-
  A type that is spelled like a modifier is first taken for
  one, but then nothing is left to be the type.
-/
theorem readModifiersUpTo_declaration
    (written : Written)
    (fuel : Nat) :
    readModifiersUpTo fuel written.declaration =
      some written.declared := by
  cases fuel with
  | zero => exact written.readDeclaration_declaration
  | succ fuel =>
      rw [readModifiersUpTo]
      cases hRead :
          wordThenBlanks? FormalParameter.modifiers
            written.declaration with
      | none => exact written.readDeclaration_declaration
      | some rest =>
          rw [declaration_eq] at hRead
          have hBlanks :=
            (front_of_wordThenBlanks? areModifiers isDottedChar _ _
              (fun c hWord => by simp [isDottedChar, hWord])
              (fun c => isBlank_of_isDottedChar)
              written.type.dotted written.head?_behind_name
              hRead).2
          have hNone :=
            written.readModifiersUpTo_behind_name hBlanks fuel
          simp only [hNone, Option.orElse_none,
            written.readDeclaration_declaration]

/- Modifiers and a declaration begin with a word. -/
theorem exists_modified
    (written : Written)
    (modifiers : List WrittenModifier) :
    ∃ c t,
      modifiers.flatMap (·.text) ++ written.declaration =
          c :: t ∧
        isDottedChar c = true := by
  cases modifiers with
  | nil =>
      have hDotted := written.type.dotted
      rw [declaration_eq]
      cases hName : written.type.name with
      | nil => exact absurd hName written.type.named
      | cons c name =>
          exact ⟨c, _, rfl, hDotted c (by simp [hName])⟩
  | cons modifier modifiers =>
      have hModifier := modifier.isModifier
      cases hWord : modifier.word with
      | nil =>
          rw [hWord] at hModifier
          exact absurd hModifier (by decide)
      | cons c word =>
          have hChar :=
            isWordChar_of_mem areModifiers hModifier c
              (by simp [hWord])
          refine
            ⟨c,
              word ++
                (modifier.gap.text ++
                  (modifiers.flatMap (·.text) ++
                    written.declaration)),
              ?_, by simp [isDottedChar, hChar]⟩
          simp [WrittenModifier.text, hWord]

/- All modifiers are read: by induction on them. -/
theorem readModifiersUpTo_modified
    (written : Written)
    (modifiers : List WrittenModifier)
    (fuel : Nat) :
    readModifiersUpTo (modifiers.length + fuel)
        (modifiers.flatMap (·.text) ++ written.declaration) =
      some written.declared := by
  induction modifiers with
  | nil => exact written.readModifiersUpTo_declaration _
  | cons modifier modifiers ih =>
      rcases written.exists_modified modifiers with
        ⟨c, t, hText, hChar⟩
      have hStart :
          startsBlank
              (modifiers.flatMap (·.text) ++
                written.declaration) =
            false := by
        rw [hText]
        exact isBlank_of_isDottedChar hChar
      rw [List.length_cons, Nat.add_right_comm,
        List.flatMap_cons, List.append_assoc,
        readModifiersUpTo,
        wordThenBlanks?_modifier modifier hStart]
      simp only [ih, Option.orElse_some]

/- Behind its attributes a parameter is read as written. -/
theorem readModifiersUpTo_rest
    (written : Written) :
    readModifiersUpTo written.rest.length written.rest =
      some written.declared := by
  have hFuel :
      written.rest.length ≤
        written.modifiers.length + written.rest.length :=
    Nat.le_add_left _ _
  rw [← readModifiersUpTo_eq hFuel]
  exact written.readModifiersUpTo_modified _ _

end Written

end FormalParameter

end RouteAtlas
