import Mathlib
import RouteAtlas.Proofs.Text.Split
import RouteAtlas.Proofs.Unicode.Lowering

/-
  Where lower-casing starts anew.

  Whether a capital sigma ends a word is seen through marks
  and decided by the cased characters around them.  At a
  character that is neither, as at a brace, a text can be
  taken apart: both sides are lower-cased by themselves.

  Main definitions:
    * `Unicode.Divides`
    * `Unicode.IsBoundary`

  Main statements:
    * `lower_append_cons`
    * `lower_append_boundary`
    * `exists_of_lower_eq_append`
-/

------------------------------------------------------------
-- Boundaries
------------------------------------------------------------

namespace RouteAtlas

namespace Unicode

/-
  Whether nothing is seen through a character, and it stays
  as it is in every text.
-/
structure Divides
    (c : Char) :
    Prop where
  solid : isCaseIgnorable c = false
  uncased : isCased c = false
  lowered : IsLowered c

section Divide

variable {c : Char}
variable (hDivides : Divides c)

include hDivides

/- No cased character is seen behind a dividing one. -/
theorem casedAhead_append
    (front back : List Char) :
    casedAhead (front ++ c :: back) = casedAhead front := by
  induction front with
  | nil =>
      simp [casedAhead, hDivides.solid, hDivides.uncased]
  | cons d front ih =>
      rw [List.cons_append, casedAhead, casedAhead, ih]

theorem lowerAfter_append
    (casedBehind : Bool)
    (front back : List Char) :
    lowerAfter casedBehind (front ++ c :: back) =
      lowerAfter casedBehind front ++
        c :: lowerAfter false back := by
  induction front generalizing casedBehind with
  | nil =>
      rcases hDivides.lowered with ⟨hSame, hSigma, hDotted⟩
      simp only [List.nil_append, lowerAfter,
        hDivides.solid, hDivides.uncased, beq_iff_eq,
        hSigma, hDotted, hSame, if_false, Bool.false_eq_true]
  | cons d front ih =>
      simp only [List.cons_append, lowerAfter, ih,
        casedAhead_append hDivides]
      split
      · split <;> rfl
      · split <;> rfl

/- Both sides of a dividing one are lower-cased alone. -/
theorem lower_append_cons
    (front back : List Char) :
    lower (front ++ c :: back) =
      lower front ++ c :: lower back :=
  lowerAfter_append hDivides false front back

end Divide

------------------------------------------------------------
-- Boundaries of ASCII
------------------------------------------------------------

/-
  Whether nothing is seen through a character, and it stands
  in lower-cased texts just where it stood before.
-/
structure IsBoundary
    (c : Char) :
    Prop where
  solid : isCaseIgnorable c = false
  uncased : isCased c = false
  lowered : IsLowered c
  ascii : c.toNat < 0x80
  noLetter : c.isLower = false

theorem isBoundary_opening :
    IsBoundary '{' where
  solid := by decide +kernel
  uncased := by decide +kernel
  lowered := ⟨by decide, by decide, by decide⟩
  ascii := by decide
  noLetter := by decide

theorem isBoundary_closing :
    IsBoundary '}' where
  solid := by decide +kernel
  uncased := by decide +kernel
  lowered := ⟨by decide, by decide, by decide⟩
  ascii := by decide
  noLetter := by decide

theorem isBoundary_slash :
    IsBoundary '/' where
  solid := by decide +kernel
  uncased := by decide +kernel
  lowered := ⟨by decide, by decide, by decide⟩
  ascii := by decide
  noLetter := by decide

section Boundary

variable {c : Char}
variable (hBoundary : IsBoundary c)

include hBoundary

/- Both sides of a boundary are lower-cased alone. -/
theorem lower_append_boundary
    (front back : List Char) :
    lower (front ++ c :: back) =
      lower front ++ c :: lower back :=
  lower_append_cons
    ⟨hBoundary.solid, hBoundary.uncased, hBoundary.lowered⟩
    front back

/- It stands in the lower-cased text if it stands in it. -/
theorem mem_lower_iff
    {t : List Char} :
    c ∈ lower t ↔ c ∈ t := by
  refine
    ⟨mem_of_mem_lower hBoundary.ascii hBoundary.noLetter, ?_⟩
  intro hMember
  rcases List.append_of_mem hMember with ⟨front, back, rfl⟩
  rw [lower_append_boundary hBoundary]
  simp

/-
  By induction on the length of the text: the first boundary
  of the text is the one in question, or stands before it.
-/
theorem exists_of_lower_eq_append
    {t front back : List Char}
    (hLower : lower t = front ++ c :: back) :
    ∃ front' back',
      t = front' ++ c :: back' ∧
        lower front' = front ∧ lower back' = back := by
  induction hLength : t.length using Nat.strong_induction_on
    generalizing t front with
  | _ n ih =>
      have hMember : c ∈ t :=
        (mem_lower_iff hBoundary).mp (by simp [hLower])
      rcases List.eq_append_cons_of_mem hMember with
        ⟨first, rest, rfl, hFirst⟩
      have hFirst' : c ∉ lower first :=
        mt (mem_lower_iff hBoundary).mp hFirst
      rw [lower_append_boundary hBoundary] at hLower
      rcases Text.first_or_later_of_append_mark hFirst' hLower
        with ⟨rfl, rfl⟩ | ⟨between, rfl, hRest⟩
      · exact ⟨first, rest, rfl, rfl, rfl⟩
      · have hShorter : rest.length < n := by
          rw [← hLength, List.length_append, List.length_cons]
          omega
        rcases ih rest.length hShorter hRest rfl with
          ⟨front', back', rfl, rfl, rfl⟩
        refine ⟨first ++ c :: front', back', by simp, ?_, rfl⟩
        rw [lower_append_boundary hBoundary]

end Boundary

end Unicode

end RouteAtlas
