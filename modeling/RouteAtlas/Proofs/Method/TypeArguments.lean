import Mathlib
import RouteAtlas.Proofs.Method.Grammar
import RouteAtlas.Proofs.Text.BlankRuns

/-
  Closing marks in type arguments.

  A reader that looks for the last closing mark also comes
  across those of the types within.  Behind each of them
  stand marks of its type and then a comma or another closing
  mark, so neither a method name nor a parenthesis follows
  it, and it is passed.

  Main definitions:
    * `Source.RefusesWithin`

  Main statements:
    * `skipMarks_text`
    * `TypeArguments.lastClosing?_text`
-/

------------------------------------------------------------
-- Marks of Types
------------------------------------------------------------

namespace RouteAtlas

namespace Source

open Text

/- Whether a text continues the marks of a type. -/
def ContinuesMarks
    (t : Text) :
    Prop :=
  t.head? = some '[' ∨ t.head? = some '?'

/- Marks are passed up to what does not continue them. -/
theorem skipMarks_text
    (marks : TypeMarks)
    {rest : Text}
    (hEnd : ¬ContinuesMarks rest) :
    skipNullableMark (skipArrayMarks (marks.text ++ rest)) =
      rest := by
  rw [ContinuesMarks, not_or] at hEnd
  have hRanks :
      ∀ ranks {t : Text},
        t.head? ≠ some '[' →
          skipArrayMarks (TypeMarks.rankText ranks ++ t) =
            t := by
    intro ranks t hBracket
    induction ranks with
    | zero =>
        cases t with
        | nil => rfl
        | cons c t =>
            have hOther : c ≠ '[' := by simpa using hBracket
            simp [TypeMarks.rankText, skipArrayMarks, hOther]
    | succ ranks ih => exact ih
  unfold TypeMarks.text
  cases marks.nullable with
  | true =>
      rw [List.append_assoc, hRanks _ (by simp)]
      rfl
  | false =>
      rw [List.append_assoc, hRanks _ (by simpa using hEnd.1)]
      cases rest with
      | nil => rfl
      | cons c rest =>
          have hOther : c ≠ '?' := by simpa using hEnd.2
          simp [skipNullableMark, hOther]

theorem mem_rankText
    {ranks : Nat}
    {c : Char}
    (hChar : c ∈ TypeMarks.rankText ranks) :
    c = '[' ∨ c = ']' := by
  induction ranks with
  | zero => exact absurd hChar List.not_mem_nil
  | succ ranks ih =>
      simp only [TypeMarks.rankText, List.mem_cons] at hChar
      rcases hChar with rfl | rfl | hRest
      · exact Or.inl rfl
      · exact Or.inr rfl
      · exact ih hRest

theorem mem_marks
    {marks : TypeMarks}
    {c : Char}
    (hChar : c ∈ marks.text) :
    c = '[' ∨ c = ']' ∨ c = '?' := by
  unfold TypeMarks.text at hChar
  rcases List.mem_append.mp hChar with hRank | hMark
  · rcases mem_rankText hRank with hOpening | hClosing
    · exact Or.inl hOpening
    · exact Or.inr (Or.inl hClosing)
  · split at hMark
    · exact Or.inr (Or.inr (List.mem_singleton.mp hMark))
    · exact absurd hMark List.not_mem_nil

------------------------------------------------------------
-- Stretches Without Closing Marks
------------------------------------------------------------

/- Whether a character is passed by a search for `>`. -/
def IsPassed
    (c : Char) :
    Prop :=
  c ≠ '>' ∧ isParenthesis c = false

instance
    (c : Char) :
    Decidable (IsPassed c) :=
  inferInstanceAs (Decidable (_ ∧ _))

theorem isPassed_of_test
    {test : Char → Bool}
    (hMarks : ['>', '(', ')'].all (!test ·) = true)
    {c : Char}
    (hChar : test c = true) :
    IsPassed c := by
  have hOther : ∀ mark ∈ ['>', '(', ')'], c ≠ mark := by
    rintro mark hMark rfl
    have hTest := List.all_eq_true.mp hMarks c hMark
    rw [hChar] at hTest
    exact absurd hTest (by simp)
  have hOpening := hOther '(' (by simp)
  have hClosing := hOther ')' (by simp)
  exact
    ⟨hOther '>' (by simp),
      by simp [isParenthesis, hOpening, hClosing]⟩

theorem isPassed_singleton
    {c : Char}
    (hMark : IsPassed c) :
    ∀ d ∈ [c], IsPassed d :=
  fun _ hChar => List.mem_singleton.mp hChar ▸ hMark

theorem DottedName.isPassed
    (name : DottedName) :
    ∀ c ∈ name.text, IsPassed c :=
  fun c hChar =>
    isPassed_of_test (by decide) (name.dotted c hChar)

theorem gap_isPassed
    (gap : Sections.Gap) :
    ∀ c ∈ gap.text, IsPassed c :=
  fun c hChar =>
    isPassed_of_test (by decide) (gap.blank c hChar)

theorem TypeMarks.isPassed
    (marks : TypeMarks) :
    ∀ c ∈ marks.text, IsPassed c := by
  intro c hChar
  rcases mem_marks hChar with rfl | rfl | rfl <;> decide

------------------------------------------------------------
-- Arguments
------------------------------------------------------------

variable {α : Type}

/- Whether nothing is accepted behind a type within another. -/
def RefusesWithin
    (accept : Text → Option α) :
    Prop :=
  ∀ (marks : TypeMarks) (c : Char) (rest : Text),
    c = ',' ∨ c = '>' → accept (marks.text ++ c :: rest) = none

variable {accept : Text → Option α}

mutual

/- A type is passed up to the comma or mark behind it. -/
theorem TypeText.lastClosing?_text
    (hRefuses : RefusesWithin accept)
    (type : TypeText)
    {c : Char}
    (hBehind : c = ',' ∨ c = '>')
    (rest : Text) :
    lastClosing? isParenthesis accept
        (type.text ++ c :: rest) =
      lastClosing? isParenthesis accept (c :: rest) := by
  cases type with
  | plain name marks =>
      rw [TypeText.text, List.append_assoc,
        lastClosing?_passed name.isPassed,
        lastClosing?_passed marks.isPassed]
  | generic name arguments marks =>
      have hOpening : ∀ d ∈ ['<'], IsPassed d :=
        isPassed_singleton (by decide)
      have hClosed :
          accept (marks.text ++ c :: rest) = none :=
        hRefuses marks c rest hBehind
      calc
        lastClosing? isParenthesis accept
            (name.text ++
              '<' :: (arguments.text ++ '>' :: marks.text) ++
              c :: rest) =
          lastClosing? isParenthesis accept
            (name.text ++
              (['<'] ++
                (arguments.text ++
                  '>' :: (marks.text ++ c :: rest)))) := by
            simp
        _ =
          lastClosing? isParenthesis accept
            ('>' :: (marks.text ++ c :: rest)) := by
            rw [lastClosing?_passed name.isPassed,
              lastClosing?_passed hOpening,
              TypeArguments.lastClosing?_text hRefuses]
        _ = lastClosing? isParenthesis accept (c :: rest) := by
            rw [lastClosing?_refused rfl hClosed,
              lastClosing?_passed marks.isPassed]

/- Type arguments are passed up to their closing mark. -/
theorem TypeArguments.lastClosing?_text
    (hRefuses : RefusesWithin accept)
    (arguments : TypeArguments)
    (rest : Text) :
    lastClosing? isParenthesis accept
        (arguments.text ++ '>' :: rest) =
      lastClosing? isParenthesis accept ('>' :: rest) := by
  cases arguments with
  | last type =>
      exact type.lastClosing?_text hRefuses (Or.inr rfl) rest
  | more type gap later =>
      have hComma : ∀ d ∈ [','], IsPassed d :=
        isPassed_singleton (by decide)
      calc
        lastClosing? isParenthesis accept
            (type.text ++ ',' :: (gap.text ++ later.text) ++
              '>' :: rest) =
          lastClosing? isParenthesis accept
            (type.text ++
              ',' ::
                (gap.text ++
                  (later.text ++ '>' :: rest))) := by
            simp
        _ =
          lastClosing? isParenthesis accept
            ([','] ++
              (gap.text ++ (later.text ++ '>' :: rest))) :=
            type.lastClosing?_text hRefuses (Or.inl rfl) _
        _ =
          lastClosing? isParenthesis accept
            ('>' :: rest) := by
            rw [lastClosing?_passed hComma,
              lastClosing?_passed (gap_isPassed gap),
              TypeArguments.lastClosing?_text hRefuses]

end

end Source

end RouteAtlas
