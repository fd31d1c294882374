import Mathlib
import RouteAtlas.Text.Basic

/-
  Replacing what a measure recognises.

  A text is read from left to right.  A stretch that the
  measure recognises as a whole is replaced, and a stretch
  in which it recognises nothing is kept.  So a text that
  consists of such stretches becomes what they become.

  Main definitions:
    * `Becomes`

  Main statements:
    * `replaceFrom_measured`
    * `replaceFrom_passed`
    * `replaceFrom_divided`
    * `Becomes.flatMap`
-/

------------------------------------------------------------
-- Stretches
------------------------------------------------------------

namespace RouteAtlas

namespace Text

variable {measure : Text → Option Nat}
variable {substitute : Text}

/- What belongs to a stretch replaced is skipped. -/
theorem replaceFrom_skip
    (skipped rest : Text) :
    replaceFrom measure substitute skipped.length
        (skipped ++ rest) =
      replaceFrom measure substitute 0 rest := by
  induction skipped with
  | nil => rfl
  | cons c skipped ih => exact ih

/- A stretch that is recognised is replaced. -/
theorem replaceFrom_measured
    {stretch rest : Text}
    (hStretch : stretch ≠ [])
    (hMeasure :
      measure (stretch ++ rest) = some stretch.length) :
    replaceFrom measure substitute 0 (stretch ++ rest) =
      substitute ++ replaceFrom measure substitute 0 rest := by
  cases stretch with
  | nil => exact absurd rfl hStretch
  | cons c stretch =>
      rw [List.cons_append] at hMeasure ⊢
      rw [replaceFrom, hMeasure]
      simp only [List.length_cons]
      rw [replaceFrom_skip]

/- A stretch in which nothing is recognised is kept. -/
theorem replaceFrom_passed
    {passed rest : Text}
    (hPassed :
      ∀ front c back,
        passed = front ++ c :: back →
        measure (c :: back ++ rest) = none) :
    replaceFrom measure substitute 0 (passed ++ rest) =
      passed ++ replaceFrom measure substitute 0 rest := by
  induction passed with
  | nil => rfl
  | cons c passed ih =>
      have hHere : measure (c :: (passed ++ rest)) = none :=
        hPassed [] c passed rfl
      have hLater :
          replaceFrom measure substitute 0 (passed ++ rest) =
            passed ++ replaceFrom measure substitute 0 rest :=
        ih fun front d back hText =>
          hPassed (c :: front) d back (by rw [hText]; rfl)
      rw [List.cons_append, replaceFrom, hHere]
      simp only
      rw [hLater, List.cons_append]

/-
  A mark that nothing recognised reaches divides a text: by
  induction on what precedes it, whose first characters may
  have been replaced already.
-/
theorem replaceFrom_divided
    {mark : Char}
    {back : Text}
    (hSame :
      ∀ t, measure (t ++ mark :: back) = measure t)
    (hFits :
      ∀ t n, measure t = some n → n ≤ t.length)
    {skip : Nat}
    {front : Text}
    (hSkip : skip ≤ front.length) :
    replaceFrom measure substitute skip
        (front ++ mark :: back) =
      replaceFrom measure substitute skip front ++
        mark :: replaceFrom measure substitute 0 back := by
  induction front generalizing skip with
  | nil =>
      rw [List.length_nil, Nat.le_zero] at hSkip
      have hHere := hSame []
      rw [List.nil_append] at hHere
      rw [hSkip, List.nil_append, replaceFrom, replaceFrom,
        hHere]
      split
      next n hMeasure =>
        exact absurd (hFits [] _ hMeasure) (by simp)
      next => rfl
  | cons c front ih =>
      rw [List.cons_append]
      cases skip with
      | succ skip =>
          rw [replaceFrom, replaceFrom]
          exact ih (Nat.le_of_succ_le_succ hSkip)
      | zero =>
          have hHere := hSame (c :: front)
          rw [List.cons_append] at hHere
          rw [replaceFrom, replaceFrom, hHere]
          split
          next n hMeasure =>
            have hLength := hFits _ _ hMeasure
            rw [ih (Nat.le_of_succ_le_succ hLength),
              List.append_assoc]
          next => rw [ih (Nat.zero_le _), List.cons_append]

------------------------------------------------------------
-- Parts
------------------------------------------------------------

/-
  Whether a part of a text becomes another text, whatever
  stands behind it.
-/
def Becomes
    (measure : Text → Option Nat)
    (substitute part result : Text) :
    Prop :=
  ∀ rest,
    replaceFrom measure substitute 0 (part ++ rest) =
      result ++ replaceFrom measure substitute 0 rest

theorem becomes_nil :
    Becomes measure substitute [] [] := by
  intro rest
  rfl

theorem Becomes.append
    {part part' result result' : Text}
    (hPart : Becomes measure substitute part result)
    (hPart' : Becomes measure substitute part' result') :
    Becomes measure substitute (part ++ part')
      (result ++ result') := by
  intro rest
  rw [List.append_assoc, hPart, hPart', List.append_assoc]

/- A text becomes what its parts become. -/
theorem Becomes.flatMap
    {α : Type}
    {part result : α → Text}
    {items : List α}
    (hItems :
      ∀ item ∈ items,
        Becomes measure substitute (part item)
          (result item)) :
    Becomes measure substitute (items.flatMap part)
      (items.flatMap result) := by
  induction items with
  | nil => exact becomes_nil
  | cons item items ih =>
      rw [List.forall_mem_cons] at hItems
      rw [List.flatMap_cons, List.flatMap_cons]
      exact hItems.1.append (ih hItems.2)

/- What a whole text becomes. -/
theorem Becomes.eq
    {part result : Text}
    (hPart : Becomes measure substitute part result) :
    replaceFrom measure substitute 0 part = result := by
  have hAlone := hPart []
  rw [List.append_nil] at hAlone
  rw [hAlone]
  exact List.append_nil result

end Text

end RouteAtlas
