import Mathlib
import RouteAtlas.Proofs.Text.BlankRuns
import RouteAtlas.Proofs.Unicode.Boundaries

/-
  Trimming and lower-casing.

  Lower-casing keeps the blanks of a text, and makes no
  other character a blank.  Nothing is seen through a blank,
  so a text is lower-cased alike with and without those at
  its ends.

  Main statements:
    * `isBlank_lowerChar`
    * `strip_lower`
-/

------------------------------------------------------------
-- Blanks
------------------------------------------------------------

namespace RouteAtlas

namespace Unicode

open Text (IsGap EndsSolid blankPoints)

/- A text is divided at each of its blanks. -/
theorem divides_of_isBlank
    {c : Char}
    (hBlank : isBlank c = true) :
    Divides c := by
  have hTable :
      ∀ n ∈ blankPoints,
        isCaseIgnorable (Char.ofNat n) = false ∧
          isCased (Char.ofNat n) = false ∧
            lowerChar (Char.ofNat n) = Char.ofNat n ∧
              Char.ofNat n ≠ 'Σ' ∧ Char.ofNat n ≠ 'İ' := by
    decide +kernel
  have hPoint := hTable c.toNat (Text.mem_blankPoints hBlank)
  rw [Char.ofNat_toNat] at hPoint
  exact ⟨hPoint.1, hPoint.2.1, hPoint.2.2⟩

/- No row moves a character to a blank. -/
theorem avoids_blankPoints :
    lowerRows.all (fun row => blankPoints.all row.avoids) =
      true := by
  decide +kernel

theorem isBlank_target
    {row : CaseRow}
    {c : Char}
    (hRow : row ∈ lowerRows)
    (hHolds : row.holds c.toNat = true) :
    isBlank (Char.ofNat (c.toNat + row.shift).toNat) =
      false := by
  have hAvoids := List.all_eq_true.mp
    (List.all_eq_true.mp avoids_blankPoints row hRow)
  have hTarget := CaseRow.target_eq hRow hHolds
  have hBounds := target_bounds hRow hHolds
  rw [Bool.eq_false_iff]
  intro hBlank
  have hPoint := hAvoids _ (Text.mem_blankPoints hBlank)
  rw [toNat_ofNat hBounds.1, CaseRow.avoids, Bool.or_eq_true,
    decide_eq_true_eq, decide_eq_true_eq] at hPoint
  omega

/- A character that is no blank is lower-cased to none. -/
theorem isBlank_lowerChar
    {c : Char}
    (hSolid : isBlank c = false) :
    isBlank (lowerChar c) = false := by
  by_cases hAscii : c.toNat < 0x80
  · have hTable :
        ∀ n ∈ List.range 0x80,
          isBlank (Char.ofNat n) = false →
            isBlank (lowerChar (Char.ofNat n)) = false := by
      decide +kernel
    have hPoint := hTable c.toNat (List.mem_range.mpr hAscii)
    rw [Char.ofNat_toNat] at hPoint
    exact hPoint hSolid
  · rcases lowerChar_cases hAscii with
      hSame | ⟨row, hRow, hHolds, hMoved⟩
    · rwa [hSame]
    · rw [hMoved]
      exact isBlank_target hRow hHolds

theorem isBlank_of_mem_lowerImages
    {c d : Char}
    (hSolid : isBlank c = false)
    (hImage : d ∈ lowerImages c) :
    isBlank d = false := by
  unfold lowerImages at hImage
  split at hImage
  · rcases List.mem_pair.mp hImage with rfl | rfl <;> decide
  · split at hImage
    · rcases List.mem_pair.mp hImage with rfl | rfl <;> decide
    · rw [List.mem_singleton.mp hImage]
      exact isBlank_lowerChar hSolid

------------------------------------------------------------
-- Gaps
------------------------------------------------------------

section Gap

variable {gap : List Char}
variable (hGap : IsGap gap)

include hGap

/- Blanks in front of a text are kept as they are. -/
theorem lower_gap_append
    (t : List Char) :
    lower (gap ++ t) = gap ++ lower t := by
  induction gap with
  | nil => rfl
  | cons c gap ih =>
      rw [IsGap, List.forall_mem_cons] at hGap
      have hFirst :
          lower ([] ++ c :: (gap ++ t)) =
            [] ++ c :: lower (gap ++ t) :=
        lower_append_cons (divides_of_isBlank hGap.1) [] _
      rw [List.nil_append, List.nil_append] at hFirst
      rw [List.cons_append, List.cons_append, hFirst,
        ih hGap.2]

theorem lower_gap :
    lower gap = gap := by
  have hAll := lower_gap_append hGap []
  rw [List.append_nil] at hAll
  exact hAll.trans (List.append_nil gap)

/- Blanks behind a text are kept as they are. -/
theorem lower_append_gap
    (t : List Char) :
    lower (t ++ gap) = lower t ++ gap := by
  cases gap with
  | nil => rw [List.append_nil, List.append_nil]
  | cons c gap =>
      rw [IsGap, List.forall_mem_cons] at hGap
      rw [lower_append_cons (divides_of_isBlank hGap.1),
        lower_gap hGap.2]

end Gap

------------------------------------------------------------
-- Ends
------------------------------------------------------------

theorem startsBlank_lower
    {t : List Char}
    (hStart : Text.startsBlank t = false) :
    Text.startsBlank (lower t) = false := by
  cases t with
  | nil => rfl
  | cons c t =>
      rcases exists_lowerAfter_cons false c t with
        ⟨images, behind, hLower, hSome, hImages, -⟩
      rw [lower, hLower]
      cases images with
      | nil => exact absurd rfl hSome
      | cons d images =>
          exact
            isBlank_of_mem_lowerImages hStart
              (hImages d List.mem_cons_self)

theorem endsSolid_lowerAfter
    {casedBehind : Bool}
    {t : List Char}
    (hEnd : EndsSolid t) :
    EndsSolid (lowerAfter casedBehind t) := by
  induction t generalizing casedBehind with
  | nil => exact Text.endsSolid_nil
  | cons c t ih =>
      rcases exists_lowerAfter_cons casedBehind c t with
        ⟨images, behind, hLower, -, hImages, -⟩
      rw [hLower]
      cases t with
      | nil =>
          rw [lowerAfter, List.append_nil]
          intro d hLast
          exact
            isBlank_of_mem_lowerImages (hEnd c rfl)
              (hImages d (List.mem_of_getLast? hLast))
      | cons d t =>
          have hRest : EndsSolid (d :: t) := by
            intro last hLast
            apply hEnd
            rwa [List.getLast?_cons_cons]
          have hSome : lowerAfter behind (d :: t) ≠ [] := by
            rcases exists_lowerAfter_cons behind d t with
              ⟨first, _, hLower, hFirst, -⟩
            rw [hLower]
            exact List.append_ne_nil_of_left_ne_nil hFirst _
          exact (ih hRest).append_left hSome images

------------------------------------------------------------
-- Trimming
------------------------------------------------------------

theorem dropBlanks_lower
    (t : List Char) :
    Text.dropBlanks (lower t) =
      lower (Text.dropBlanks t) := by
  have hStart := Text.startsBlank_dropBlanks t
  rcases Text.dropBlanks_split t with ⟨gap, hSplit, hGap⟩
  calc
    Text.dropBlanks (lower t)
    _ = Text.dropBlanks (gap ++ lower (Text.dropBlanks t)) := by
        rw [← lower_gap_append hGap, ← hSplit]
    _ = lower (Text.dropBlanks t) := by
        rw [Text.dropBlanks_gap_append hGap,
          Text.dropBlanks_of_not_startsBlank
            (startsBlank_lower hStart)]

theorem stripEnd_lower
    (t : List Char) :
    Text.stripEnd (lower t) = lower (Text.stripEnd t) := by
  rcases Text.stripEnd_split t with
    ⟨kept, gap, rfl, hKept, hGap⟩
  have hLower : EndsSolid (lower kept) :=
    endsSolid_lowerAfter hKept
  rw [lower_append_gap hGap, Text.stripEnd_append_gap hGap,
    Text.stripEnd_append_gap hGap, hKept.stripEnd,
    hLower.stripEnd]

/- A text can be trimmed before it is lower-cased, or after. -/
theorem strip_lower
    (t : List Char) :
    Text.strip (lower t) = lower (Text.strip t) := by
  rw [Text.strip, dropBlanks_lower, stripEnd_lower]
  rfl

end Unicode

end RouteAtlas
