import Mathlib
import RouteAtlas.Proofs.Text.BlankRuns
import RouteAtlas.Text.Search

/-
  Reading a text with its runs of blanks collapsed.

  What is read does not change, and what is left is the rest
  with its own runs collapsed: a word or a mark holds no
  blank, and blanks are passed as a run.

  Main statements:
    * `blanks?_collapseBlanks`
    * `isPrefixOf?_collapseBlanks`
    * `after?_collapseBlanks`
    * `word?_collapseBlanks`
-/

------------------------------------------------------------
-- Words and Marks
------------------------------------------------------------

namespace RouteAtlas

namespace Text

/- Solid characters are taken from a text as they are. -/
theorem takeWhile_collapseBlanks
    {test : Char → Bool}
    (hBlank : ∀ c, test c = true → isBlank c = false)
    (t : Text) :
    (collapseBlanks t).takeWhile test = t.takeWhile test := by
  induction t with
  | nil => rfl
  | cons c t ih =>
      cases hChar : isBlank c with
      | false =>
          rw [collapseBlanks_solid hChar]
          simp only [List.takeWhile_cons, ih]
      | true =>
          have hNot : ∀ d, isBlank d = true → test d = false := by
            intro d hGap
            by_contra hTest
            rw [hBlank d (by simpa using hTest)] at hGap
            exact absurd hGap (by simp)
          rw [collapseBlanks_blank hChar,
            List.takeWhile_cons_of_neg (by simp [hNot]),
            List.takeWhile_cons_of_neg (by simp [hNot, hChar])]

theorem dropWhile_collapseBlanks
    {test : Char → Bool}
    (hBlank : ∀ c, test c = true → isBlank c = false)
    (t : Text) :
    (collapseBlanks t).dropWhile test =
      collapseBlanks (t.dropWhile test) := by
  induction t with
  | nil => rfl
  | cons c t ih =>
      cases hTest : test c with
      | true =>
          rw [collapseBlanks_solid (hBlank c hTest)]
          simp only [List.dropWhile_cons, hTest, if_true, ih]
      | false =>
          have hKept :
              (c :: t).dropWhile test = c :: t := by
            simp [hTest]
          rw [hKept]
          cases hChar : isBlank c with
          | false =>
              rw [collapseBlanks_solid hChar]
              simp [hTest]
          | true =>
              have hSpace : test ' ' = false := by
                by_contra hTrue
                have hSolid := hBlank ' ' (by simpa using hTrue)
                exact absurd hSolid (by simp)
              rw [collapseBlanks_blank hChar]
              simp [hSpace]

theorem span_collapseBlanks
    {test : Char → Bool}
    (hBlank : ∀ c, test c = true → isBlank c = false)
    (t : Text) :
    (collapseBlanks t).span test =
      Prod.map id collapseBlanks (t.span test) := by
  rw [List.span_eq_takeWhile_dropWhile,
    List.span_eq_takeWhile_dropWhile,
    takeWhile_collapseBlanks hBlank,
    dropWhile_collapseBlanks hBlank]
  rfl

theorem blanks?_collapseBlanks
    (t : Text) :
    blanks? (collapseBlanks t) =
      (blanks? t).map collapseBlanks := by
  cases t with
  | nil => rfl
  | cons c t =>
      cases hChar : isBlank c with
      | false =>
          rw [collapseBlanks_solid hChar]
          simp [blanks?, hChar]
      | true =>
          have hRest :
              dropBlanks (collapseBlanks (dropBlanks t)) =
                collapseBlanks (dropBlanks t) :=
            dropBlanks_of_not_startsBlank (by simp)
          rw [collapseBlanks_blank hChar]
          simp [blanks?, hChar, hRest]

/- A fixed text without blanks is read as it is. -/
theorem isPrefixOf?_collapseBlanks
    {word : Text}
    (hWord : word.all (!isBlank ·) = true)
    (t : Text) :
    word.isPrefixOf? (collapseBlanks t) =
      (word.isPrefixOf? t).map collapseBlanks := by
  induction word generalizing t with
  | nil => simp [List.isPrefixOf?]
  | cons d word ih =>
      rw [List.all_cons, Bool.and_eq_true, Bool.not_eq_true']
        at hWord
      cases t with
      | nil => rfl
      | cons c t =>
          cases hChar : isBlank c with
          | false =>
              rw [collapseBlanks_solid hChar]
              by_cases hSame : d = c
              · simp [List.isPrefixOf?, hSame, ih hWord.2]
              · simp [List.isPrefixOf?, hSame]
          | true =>
              have hOther : ∀ e, isBlank e = true → d ≠ e := by
                rintro e hGap rfl
                rw [hWord.1] at hGap
                exact absurd hGap (by simp)
              rw [collapseBlanks_blank hChar]
              simp [List.isPrefixOf?, hOther ' ' (by simp),
                hOther c hChar]

/- What begins with another character still does. -/
theorem collapseBlanks_cons_of_ne
    {mark c : Char}
    (hMark : isBlank mark = false)
    (hOther : c ≠ mark)
    (t : Text) :
    ∃ d rest,
      collapseBlanks (c :: t) = d :: rest ∧ d ≠ mark := by
  cases hBlank : isBlank c with
  | false =>
      exact
        ⟨c, collapseBlanks t, collapseBlanks_solid hBlank t,
          hOther⟩
  | true =>
      refine ⟨' ', _, collapseBlanks_blank hBlank t, ?_⟩
      rintro rfl
      exact absurd hMark (by simp)

theorem after?_collapseBlanks
    {mark : Char}
    (hMark : isBlank mark = false)
    (t : Text) :
    after? mark (collapseBlanks t) =
      (after? mark t).map collapseBlanks := by
  induction t with
  | nil => rfl
  | cons c t ih =>
      cases hChar : isBlank c with
      | false =>
          rw [collapseBlanks_solid hChar, after?, after?, ih]
          split <;> rfl
      | true =>
          have hOther : ∀ e, isBlank e = true → (e == mark) = false := by
            intro e hGap
            rw [beq_eq_false_iff_ne]
            rintro rfl
            rw [hMark] at hGap
            exact absurd hGap (by simp)
          rw [after?, hOther c hChar, collapseBlanks]
          simp only [hChar, if_true, Bool.false_eq_true, if_false]
          split
          · exact ih
          · rw [after?, hOther ' ' (by simp)]
            exact ih

@[simp] theorem wordEndsAt_collapseBlanks
    (t : Text) :
    wordEndsAt (collapseBlanks t) = wordEndsAt t := by
  cases t with
  | nil => rfl
  | cons c t =>
      cases hChar : isBlank c with
      | false =>
          rw [collapseBlanks_solid hChar]
          rfl
      | true =>
          rw [collapseBlanks_blank hChar]
          simp [wordEndsAt, isWordChar_of_isBlank, hChar]

theorem word?_collapseBlanks
    (t : Text) :
    word? (collapseBlanks t) =
      (word? t).map (Prod.map id collapseBlanks) := by
  unfold word?
  rw [span_collapseBlanks fun c hWord =>
    isBlank_of_isWordChar hWord]
  rcases t.span isWordChar with ⟨word, rest⟩
  cases word <;> rfl

end Text

end RouteAtlas
