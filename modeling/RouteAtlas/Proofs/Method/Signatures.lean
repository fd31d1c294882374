import Mathlib
import RouteAtlas.Proofs.Method.TypeArguments

/-
  What is read from the return type on.

  Behind the marks of the return type there are blanks, the
  name with its type parameters, and the parenthesis.  The
  type parameters close with the parenthesis behind them, so
  for the return type their closing mark is no end: the last
  one that is an end closes its own arguments.

  Main statements:
    * `readTypeEnd_marks`
    * `WrittenMethod.readMethodName_named`
    * `WrittenMethod.readSignature_named`
    * `WrittenMethod.readSignature_typed`
-/

------------------------------------------------------------
-- Parentheses
------------------------------------------------------------

namespace RouteAtlas

namespace Source

open Text

theorem openParen?_eq_none
    {c : Char}
    (hSolid : isBlank c = false)
    (hOther : c ≠ '(')
    (rest : Text) :
    openParen? (c :: rest) = none := by
  unfold openParen?
  rw [dropBlanks_cons_of_not_blank hSolid]
  simp [hOther]

/- No parenthesis opens behind a type within another. -/
theorem refusesWithin_openParen? :
    RefusesWithin openParen? := by
  intro marks c rest hBehind
  cases hText : marks.text with
  | nil =>
      rcases hBehind with rfl | rfl
      · exact openParen?_eq_none (by decide) (by decide) rest
      · exact openParen?_eq_none (by decide) (by decide) rest
  | cons d t =>
      have hMark : d ∈ marks.text := by simp [hText]
      apply openParen?_eq_none
      · rcases mem_marks hMark with rfl | rfl | rfl <;> decide
      · rcases mem_marks hMark with rfl | rfl | rfl <;> decide

------------------------------------------------------------
-- Ends of Types
------------------------------------------------------------

/- Behind its marks a type ends with blanks and a name. -/
theorem readTypeEnd_marks
    (marks : TypeMarks)
    {rest : Text}
    (hEnd : ¬ContinuesMarks rest)
    (whole : Text) :
    readTypeEnd whole (marks.text ++ rest) =
      (blanks? rest).bind fun named =>
        (readMethodName named).map fun (name, paren) =>
          ⟨whole.take (whole.length - rest.length), name,
            paren⟩ := by
  unfold readTypeEnd
  simp only [skipMarks_text marks hEnd]
  cases blanks? rest with
  | none => rfl
  | some named =>
      cases hName : readMethodName named with
      | none => simp [hName]
      | some read => simp [hName]

/- A type within another is followed by no blank. -/
theorem refusesWithin_readTypeEnd
    (whole : Text) :
    RefusesWithin (readTypeEnd whole) := by
  intro marks c rest hBehind
  have hEnd : ¬ContinuesMarks (c :: rest) := by
    rcases hBehind with rfl | rfl <;> simp [ContinuesMarks]
  have hSolid : isBlank c = false := by
    rcases hBehind with rfl | rfl <;> decide
  rw [readTypeEnd_marks marks hEnd]
  simp [blanks?, hSolid]

------------------------------------------------------------
-- Return Types
------------------------------------------------------------

section ReturnTypes

variable {t name rest : Text}

/- A return type without arguments ends behind its name. -/
theorem readSignature_plain
    (hMethod : startsOtherDeclaration t = false)
    (hSpan : t.span isDottedChar = (name, rest))
    (hNamed : name ≠ [])
    (hAngle : (dropBlanks rest).head? ≠ some '<') :
    readSignature t = readTypeEnd t rest := by
  unfold readSignature
  rw [hMethod, hSpan]
  cases name with
  | nil => exact absurd rfl hNamed
  | cons c name =>
      simp only [Bool.false_eq_true, if_false]
      split
      next arguments hDrop =>
        rw [hDrop] at hAngle
        exact absurd rfl hAngle
      next => rfl

/- One with arguments ends behind a closing mark. -/
theorem readSignature_arguments
    (hMethod : startsOtherDeclaration t = false)
    (hSpan : t.span isDottedChar = (name, rest))
    (hNamed : name ≠ [])
    {arguments : Text}
    (hAngle : dropBlanks rest = '<' :: arguments) :
    readSignature t =
      lastClosing? isParenthesis (readTypeEnd t)
        arguments := by
  unfold readSignature
  rw [hMethod, hSpan]
  cases name with
  | nil => exact absurd rfl hNamed
  | cons c name =>
      simp only [Bool.false_eq_true, if_false, hAngle]

theorem readSignature_nameless
    {c : Char}
    (hChar : isDottedChar c = false) :
    readSignature (c :: t) = none := by
  have hSpan :
      (c :: t).span isDottedChar = ([], c :: t) := by
    change ([] ++ c :: t).span isDottedChar = ([], c :: t)
    exact span_append (by simp) (by simpa using hChar)
  unfold readSignature
  rw [hSpan]
  split
  · rfl
  · rfl

end ReturnTypes

/- A type is told from another declaration by its word. -/
theorem startsOtherDeclaration_of_word
    {t : Text}
    (hWord : t.takeWhile isWordChar ∉ typeWords) :
    startsOtherDeclaration t = false := by
  have hLetters :
      typeWords.all (·.all isWordChar) = true := by
    decide
  unfold startsOtherDeclaration
  rw [List.any_eq_false]
  intro word hMember hStarts
  cases hPrefix : word.isPrefixOf? t with
  | none => simp [hPrefix] at hStarts
  | some rest =>
      rw [hPrefix, Option.any_some, wordEndsAt_iff] at hStarts
      rw [isPrefixOf?_eq_some_iff.mp hPrefix,
        takeWhile_append_of_head hStarts,
        List.takeWhile_eq_self_iff.mpr
          (isWordChar_of_mem hLetters hMember)] at hWord
      exact hWord hMember

/- Behind the name of a type stand other marks. -/
theorem TypeText.head?_behindName
    (type : TypeText) :
    ∀ c ∈ type.behindName.head?,
      isDottedChar c = false ∧ isBlank c = false := by
  intro c hHead
  cases type with
  | plain name marks =>
      have hMark := mem_marks (List.mem_of_head? hHead)
      rcases hMark with rfl | rfl | rfl <;> decide
  | generic name arguments marks =>
      obtain rfl : '<' = c := by
        simpa [TypeText.behindName] using hHead
      decide

------------------------------------------------------------
-- Written Names
------------------------------------------------------------

namespace WrittenMethod

theorem dropBlanks_ending
    (method : WrittenMethod) :
    dropBlanks method.ending = method.paren := by
  unfold ending
  rw [dropBlanks_gap_append method.parenGap.blank]
  rfl

theorem openParen?_ending
    (method : WrittenMethod) :
    openParen? method.ending = some method.paren := by
  unfold openParen?
  rw [dropBlanks_ending]
  rfl

/- No closing mark stands between the parameters and that. -/
theorem lastClosing?_ending
    {α : Type}
    {accept : Text → Option α}
    (method : WrittenMethod) :
    lastClosing? isParenthesis accept method.ending = none := by
  unfold ending
  rw [lastClosing?_passed (gap_isPassed method.parenGap)]
  exact lastClosing?_stopped rfl method.rest

/- What may stand behind the name of a method. -/
theorem behindName_split
    (method : WrittenMethod) :
    method.behindName = method.ending ∨
      ∃ parameters : TypeArguments,
        method.behindName =
          '<' :: (parameters.text ++ '>' :: method.ending) := by
  unfold behindName typeParameterText
  cases method.typeParameters? with
  | none => exact Or.inl rfl
  | some parameters => exact Or.inr ⟨parameters, by simp⟩

theorem head?_ending
    (method : WrittenMethod) :
    ∀ c ∈ method.ending.head?, c = '(' ∨ isBlank c = true := by
  unfold ending
  cases hGap : method.parenGap.text with
  | nil => simp [paren]
  | cons c gap =>
      have hBlank := method.parenGap.blank c (by simp [hGap])
      simp [hBlank]

/- The name goes on with nothing behind it. -/
theorem head?_behindName
    (method : WrittenMethod) :
    ∀ c ∈ method.behindName.head?,
      isDottedChar c = false := by
  intro c hHead
  rcases method.behindName_split with
    hText | ⟨parameters, hText⟩
  · rw [hText] at hHead
    rcases method.head?_ending c hHead with rfl | hBlank
    · decide
    · exact isDottedChar_of_isBlank hBlank
  · rw [hText, List.head?_cons, Option.mem_some_iff] at hHead
    rw [← hHead]
    decide

/- A name is read with its type parameters. -/
theorem readMethodName_named
    (method : WrittenMethod) :
    readMethodName (method.name ++ method.behindName) =
      some (method.name, method.paren) := by
  have hEnds : wordEndsAt method.behindName = true := by
    rw [wordEndsAt_iff]
    intro c hHead
    have hChar := method.head?_behindName c hHead
    rw [isDottedChar, Bool.or_eq_false_iff] at hChar
    exact hChar.1
  unfold readMethodName
  rw [word?_append method.named method.isWord hEnds]
  simp only [Option.bind_eq_bind, Option.bind_some]
  rcases method.behindName_split with
    hText | ⟨parameters, hText⟩
  · rw [hText, dropBlanks_ending]
    rfl
  · have hClosing :
        lastClosing? isParenthesis openParen?
            (parameters.text ++ '>' :: method.ending) =
          some method.paren := by
      rw [parameters.lastClosing?_text refusesWithin_openParen?]
      exact
        lastClosing?_accepted rfl method.lastClosing?_ending
          method.openParen?_ending
    rw [hText, dropBlanks_cons_of_not_blank (by decide)]
    simp only [hClosing]
    rfl

/- No type ends where the parenthesis opens. -/
theorem readTypeEnd_ending
    (method : WrittenMethod)
    (whole : Text) :
    readTypeEnd whole method.ending = none := by
  have hEnd : ¬ContinuesMarks method.ending := by
    rintro (hBracket | hMark)
    · exact absurd (method.head?_ending _ hBracket) (by decide)
    · exact absurd (method.head?_ending _ hMark) (by decide)
  have hRead := readTypeEnd_marks ⟨0, false⟩ hEnd whole
  change readTypeEnd whole method.ending = _ at hRead
  rw [hRead, Option.bind_eq_none_iff]
  intro named hBlanks
  rw [← dropBlanks_of_blanks? hBlanks, dropBlanks_ending]
  rfl

/- No type ends in the type parameters, nor behind them. -/
theorem lastClosing?_parameters
    (method : WrittenMethod)
    (whole : Text)
    (parameters : TypeArguments) :
    lastClosing? isParenthesis (readTypeEnd whole)
        (parameters.text ++ '>' :: method.ending) =
      none := by
  rw [parameters.lastClosing?_text
      (refusesWithin_readTypeEnd whole),
    lastClosing?_refused rfl (method.readTypeEnd_ending whole)]
  exact method.lastClosing?_ending

theorem lastClosing?_behindName
    (method : WrittenMethod)
    (whole : Text) :
    lastClosing? isParenthesis (readTypeEnd whole)
        method.behindName =
      none := by
  rcases method.behindName_split with
    hText | ⟨parameters, hText⟩
  · rw [hText]
    exact method.lastClosing?_ending
  · have hOpening : ∀ c ∈ ['<'], IsPassed c :=
      isPassed_singleton (by decide)
    rw [hText, ← List.singleton_append,
      lastClosing?_passed hOpening]
    exact method.lastClosing?_parameters whole parameters

theorem startsBlank_name
    (method : WrittenMethod) :
    startsBlank (method.name ++ method.behindName) =
      false := by
  have hWord := method.isWord
  cases hName : method.name with
  | nil => exact absurd hName method.named
  | cons c name =>
      exact isBlank_of_isWordChar (hWord c (by simp [hName]))

/- What follows a blank and is no type is no return type. -/
theorem readSignature_named
    (method : WrittenMethod) :
    readSignature (method.name ++ method.behindName) =
      none := by
  have hSpan :
      (method.name ++ method.behindName).span isDottedChar =
        (method.name, method.behindName) :=
    span_append
      (fun c hChar => by
        simp [isDottedChar, method.isWord c hChar])
      method.head?_behindName
  cases hOther :
      startsOtherDeclaration
        (method.name ++ method.behindName) with
  | true =>
      unfold readSignature
      rw [hOther, if_pos rfl]
  | false =>
      rcases method.behindName_split with
        hText | ⟨parameters, hText⟩
      · have hAngle :
            (dropBlanks method.behindName).head? ≠
              some '<' := by
          rw [hText, dropBlanks_ending, paren]
          simp
        rw [readSignature_plain hOther hSpan method.named
          hAngle]
        nth_rewrite 2 [hText]
        exact method.readTypeEnd_ending _
      · have hAngle :
            dropBlanks method.behindName =
              '<' ::
                (parameters.text ++ '>' :: method.ending) := by
          rw [hText]
          exact dropBlanks_cons_of_not_blank (by decide) _
        rw [readSignature_arguments hOther hSpan method.named
          hAngle]
        exact method.lastClosing?_parameters _ parameters

------------------------------------------------------------
-- Written Return Types
------------------------------------------------------------

theorem blanks?_behindType
    (method : WrittenMethod) :
    blanks? method.behindType =
      some (method.name ++ method.behindName) :=
  blanks?_gap method.gap.blank method.spaced
    method.startsBlank_name

theorem head?_behindType
    (method : WrittenMethod) :
    ∀ c ∈ method.behindType.head?, isBlank c = true := by
  unfold behindType
  cases hGap : method.gap.text with
  | nil => exact absurd hGap method.spaced
  | cons c gap =>
      have hBlank := method.gap.blank c (by simp [hGap])
      simpa using hBlank

theorem typed_eq
    (method : WrittenMethod) :
    method.typed =
      method.returnType.name.text ++
        (method.returnType.behindName ++
          method.behindType) := by
  rw [typed, method.returnType.text_eq, List.append_assoc]

/- The name of a return type goes on with nothing behind. -/
theorem head?_behindTypeName
    (method : WrittenMethod) :
    ∀ c ∈
      (method.returnType.behindName ++
        method.behindType).head?,
      isDottedChar c = false := by
  intro c hHead
  cases hText : method.returnType.behindName with
  | nil =>
      rw [hText, List.nil_append] at hHead
      have hBlank := method.head?_behindType c hHead
      exact isDottedChar_of_isBlank hBlank
  | cons d t =>
      have hMark := method.returnType.head?_behindName d
        (by simp [hText])
      obtain rfl : d = c := by simpa [hText] using hHead
      exact hMark.1

theorem span_typed
    (method : WrittenMethod) :
    method.typed.span isDottedChar =
      (method.returnType.name.text,
        method.returnType.behindName ++
          method.behindType) := by
  rw [typed_eq]
  exact span_append method.returnType.name.dotted
    method.head?_behindTypeName

/- The return type is no word for another declaration. -/
theorem startsOtherDeclaration_typed
    (method : WrittenMethod) :
    startsOtherDeclaration method.typed = false := by
  apply startsOtherDeclaration_of_word
  rw [typed_eq, takeWhile_append_of_head]
  · exact method.isType
  · intro c hHead
    have hChar := method.head?_behindTypeName c hHead
    rw [isDottedChar, Bool.or_eq_false_iff] at hChar
    exact hChar.1

/- The return type ends behind its marks. -/
theorem readTypeEnd_typed
    (method : WrittenMethod)
    (marks : TypeMarks) :
    readTypeEnd method.typed
        (marks.text ++ method.behindType) =
      some method.signature := by
  have hEnd : ¬ContinuesMarks method.behindType := by
    rintro (hBracket | hMark)
    · exact absurd (method.head?_behindType _ hBracket)
        (by decide)
    · exact absurd (method.head?_behindType _ hMark)
        (by decide)
  have hType :
      method.typed.take
          (method.typed.length - method.behindType.length) =
        method.returnType.text := by
    simp [typed]
  rw [readTypeEnd_marks marks hEnd, blanks?_behindType,
    Option.bind_some, readMethodName_named, Option.map_some,
    hType]
  rfl

/- Behind the return type no other one ends. -/
theorem lastClosing?_behindType
    (method : WrittenMethod)
    (marks : TypeMarks)
    (whole : Text) :
    lastClosing? isParenthesis (readTypeEnd whole)
        (marks.text ++ method.behindType) =
      none := by
  have hName : ∀ c ∈ method.name, IsPassed c :=
    fun c hChar =>
      isPassed_of_test (by decide) (method.isWord c hChar)
  rw [lastClosing?_passed marks.isPassed, behindType,
    lastClosing?_passed (gap_isPassed method.gap),
    lastClosing?_passed hName]
  exact method.lastClosing?_behindName whole

/- Behind the marks of the return type no arguments open. -/
theorem head?_dropBlanks_marks
    (method : WrittenMethod)
    (marks : TypeMarks) :
    (dropBlanks (marks.text ++ method.behindType)).head? ≠
      some '<' := by
  intro hHead
  cases hText : marks.text with
  | nil =>
      rw [hText, List.nil_append, behindType,
        dropBlanks_gap_append method.gap.blank,
        dropBlanks_of_not_startsBlank method.startsBlank_name,
        List.head?_append_of_ne_nil _ method.named] at hHead
      have hWord := method.isWord _ (List.mem_of_head? hHead)
      exact absurd hWord (by decide)
  | cons c t =>
      have hMember : c ∈ marks.text := by simp [hText]
      have hMark := mem_marks hMember
      have hSolid : isBlank c = false := by
        rcases hMark with rfl | rfl | rfl <;> decide
      rw [hText, List.cons_append,
        dropBlanks_cons_of_not_blank hSolid, List.head?_cons,
        Option.some.injEq] at hHead
      rw [hHead] at hMark
      exact absurd hMark (by decide)

/- A return type and a name are read as they are written. -/
theorem readSignature_typed
    (method : WrittenMethod) :
    readSignature method.typed = some method.signature := by
  have hMethod := method.startsOtherDeclaration_typed
  have hSpan := method.span_typed
  have hNamed := method.returnType.name.named
  cases hType : method.returnType with
  | plain name marks =>
      rw [hType, TypeText.behindName] at hSpan
      rw [hType] at hNamed
      rw [readSignature_plain hMethod hSpan hNamed
        (method.head?_dropBlanks_marks marks)]
      exact method.readTypeEnd_typed marks
  | generic name arguments marks =>
      rw [hType, TypeText.behindName, List.cons_append,
        List.append_assoc, List.cons_append] at hSpan
      rw [hType] at hNamed
      rw [readSignature_arguments hMethod hSpan hNamed
          (dropBlanks_cons_of_not_blank (by decide) _),
        arguments.lastClosing?_text
          (refusesWithin_readTypeEnd _)]
      exact
        lastClosing?_accepted rfl
          (method.lastClosing?_behindType marks _)
          (method.readTypeEnd_typed marks)

end WrittenMethod

end Source

end RouteAtlas
