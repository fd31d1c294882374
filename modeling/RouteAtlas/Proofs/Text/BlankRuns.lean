import Mathlib
import RouteAtlas.Proofs.Source.Code
import RouteAtlas.Proofs.Text.Words

/-
  Runs of blanks.

  With each run of blanks as one space a text reads as
  before: which blanks stand in a run, and how many, does
  not show.  Blanks at the ends of a text do not show either
  once it is stripped.

  Main statements:
    * `collapseBlanks_append_right`
    * `collapseBlanks_gap`
    * `collapseBlanks_idem`
    * `strip_collapseBlanks`
    * `tidied_gap`
-/

------------------------------------------------------------
-- One Run
------------------------------------------------------------

namespace RouteAtlas

namespace Text

/- Whether a text holds blanks only. -/
def IsGap
    (t : Text) :
    Prop :=
  ∀ c ∈ t, isBlank c = true

theorem isGap_nil :
    IsGap [] := by
  intro c hChar
  exact absurd hChar List.not_mem_nil

theorem isGap_append
    {front back : Text} :
    IsGap (front ++ back) ↔ IsGap front ∧ IsGap back :=
  List.forall_mem_append

@[simp] theorem isBlank_space :
    isBlank ' ' = true := by
  decide

theorem collapseBlanks_solid
    {c : Char}
    (hSolid : isBlank c = false)
    (t : Text) :
    collapseBlanks (c :: t) = c :: collapseBlanks t := by
  simp [collapseBlanks, hSolid]

/- A run of blanks becomes a space. -/
theorem collapseBlanks_blank
    {c : Char}
    (hBlank : isBlank c = true)
    (t : Text) :
    collapseBlanks (c :: t) =
      ' ' :: collapseBlanks (dropBlanks t) := by
  induction t generalizing c with
  | nil => simp [collapseBlanks, hBlank, startsBlank,
      dropBlanks]
  | cons d t ih =>
      rw [collapseBlanks, if_pos hBlank]
      cases hNext : isBlank d with
      | true =>
          rw [startsBlank, hNext, if_pos rfl, ih hNext]
          simp [dropBlanks, hNext]
      | false =>
          rw [startsBlank, hNext, if_neg (by simp),
            dropBlanks_cons_of_not_blank hNext]

theorem length_collapseBlanks_le
    (t : Text) :
    (collapseBlanks t).length ≤ t.length := by
  induction t with
  | nil => exact Nat.le_refl 0
  | cons c t ih =>
      rw [collapseBlanks]
      split
      · split
        · exact Nat.le_succ_of_le ih
        · exact Nat.succ_le_succ ih
      · exact Nat.succ_le_succ ih

@[simp] theorem startsBlank_collapseBlanks
    (t : Text) :
    startsBlank (collapseBlanks t) = startsBlank t := by
  cases t with
  | nil => rfl
  | cons c t =>
      cases hBlank : isBlank c with
      | true =>
          simp [collapseBlanks_blank hBlank, startsBlank,
            hBlank]
      | false =>
          simp [collapseBlanks_solid hBlank, startsBlank,
            hBlank]

theorem dropBlanks_of_not_startsBlank
    {t : Text}
    (hSolid : startsBlank t = false) :
    dropBlanks t = t := by
  cases t with
  | nil => rfl
  | cons c t => exact dropBlanks_cons_of_not_blank hSolid t

@[simp] theorem startsBlank_dropBlanks
    (t : Text) :
    startsBlank (dropBlanks t) = false := by
  induction t with
  | nil => rfl
  | cons c t ih =>
      cases hBlank : isBlank c with
      | true => simpa [dropBlanks, hBlank] using ih
      | false =>
          rw [dropBlanks_cons_of_not_blank hBlank]
          exact hBlank

theorem dropBlanks_collapseBlanks
    (t : Text) :
    dropBlanks (collapseBlanks t) =
      collapseBlanks (dropBlanks t) := by
  have hRest :
      dropBlanks (collapseBlanks (dropBlanks t)) =
        collapseBlanks (dropBlanks t) :=
    dropBlanks_of_not_startsBlank (by simp)
  cases t with
  | nil => rfl
  | cons c t =>
      cases hBlank : isBlank c with
      | true =>
          have hLater :
              dropBlanks (c :: t) = dropBlanks t := by
            simp [dropBlanks, hBlank]
          rw [hLater] at hRest ⊢
          rw [collapseBlanks_blank hBlank]
          simpa [dropBlanks] using hRest
      | false =>
          rwa [dropBlanks_cons_of_not_blank hBlank] at hRest ⊢

------------------------------------------------------------
-- Runs in a Text
------------------------------------------------------------

/- What stands in front of a run does not change it. -/
theorem collapseBlanks_append_right
    {back back' : Text}
    (hBack : collapseBlanks back = collapseBlanks back')
    (front : Text) :
    collapseBlanks (front ++ back) =
      collapseBlanks (front ++ back') := by
  induction front with
  | nil => exact hBack
  | cons c front ih =>
      have hStart :
          startsBlank (front ++ back) =
            startsBlank (front ++ back') := by
        rw [← startsBlank_collapseBlanks, ih,
          startsBlank_collapseBlanks]
      rw [List.cons_append, List.cons_append, collapseBlanks,
        collapseBlanks, hStart, ih]

/- Blanks in front of a text are dropped. -/
theorem dropBlanks_gap_append
    {gap : Text}
    (hGap : IsGap gap)
    (t : Text) :
    dropBlanks (gap ++ t) = dropBlanks t :=
  List.dropWhile_append_of_pos hGap

theorem dropBlanks_eq_nil_iff
    {t : Text} :
    dropBlanks t = [] ↔ IsGap t :=
  List.dropWhile_eq_nil_iff

/- Blanks are dropped up to the first solid character. -/
theorem dropBlanks_append_of_not_gap
    {front : Text}
    (hFront : ¬IsGap front)
    (back : Text) :
    dropBlanks (front ++ back) = dropBlanks front ++ back := by
  rw [← dropBlanks_eq_nil_iff] at hFront
  unfold dropBlanks at hFront ⊢
  rw [List.dropWhile_append, if_neg]
  rwa [List.isEmpty_iff]

/- So they are if the text behind starts with none. -/
theorem dropBlanks_append_of_solid_right
    {back : Text}
    (hBack : startsBlank back = false)
    (front : Text) :
    dropBlanks (front ++ back) = dropBlanks front ++ back := by
  by_cases hFront : IsGap front
  · rw [dropBlanks_gap_append hFront,
      dropBlanks_eq_nil_iff.mpr hFront,
      dropBlanks_of_not_startsBlank hBack, List.nil_append]
  · exact dropBlanks_append_of_not_gap hFront back

/- Some blanks are passed up to a solid character. -/
theorem blanks?_gap
    {gap t : Text}
    (hGap : IsGap gap)
    (hSome : gap ≠ [])
    (hStart : startsBlank t = false) :
    blanks? (gap ++ t) = some t := by
  cases gap with
  | nil => exact absurd rfl hSome
  | cons c gap =>
      rcases List.forall_mem_cons.mp hGap with
        ⟨hBlank, hOthers⟩
      have hDrop : dropBlanks (gap ++ t) = t := by
        rw [dropBlanks_gap_append hOthers,
          dropBlanks_of_not_startsBlank hStart]
      simp [blanks?, hBlank, hDrop]

/- Some blanks are one space, whatever they are. -/
theorem collapseBlanks_gap
    {gap : Text}
    (hGap : IsGap gap)
    (hSome : gap ≠ [])
    (t : Text) :
    collapseBlanks (gap ++ t) =
      ' ' :: collapseBlanks (dropBlanks t) := by
  cases gap with
  | nil => exact absurd rfl hSome
  | cons c gap =>
      have hRest : dropBlanks (gap ++ t) = dropBlanks t :=
        dropBlanks_gap_append (List.forall_mem_cons.mp hGap).2 t
      rw [List.cons_append,
        collapseBlanks_blank (hGap c List.mem_cons_self),
        hRest]

/- A text that starts no run is collapsed on its own. -/
theorem collapseBlanks_append
    {back : Text}
    (hBack : startsBlank back = false)
    (front : Text) :
    collapseBlanks (front ++ back) =
      collapseBlanks front ++ collapseBlanks back := by
  induction front with
  | nil => rfl
  | cons c front ih =>
      rw [List.cons_append, collapseBlanks, collapseBlanks,
        ih]
      cases front with
      | nil =>
          have hNone : startsBlank [] = false := by rfl
          cases hBlank : isBlank c <;>
            simp [hBack, hNone, collapseBlanks]
      | cons d front =>
          cases hBlank : isBlank c <;>
            cases hNext : isBlank d <;>
              simp [startsBlank, hNext]

/- Whether a text does not end with a blank. -/
def EndsSolid
    (t : Text) :
    Prop :=
  ∀ c ∈ t.getLast?, isBlank c = false

theorem endsSolid_nil :
    EndsSolid [] := by
  simp [EndsSolid]

theorem endsSolid_concat
    {c : Char}
    (hSolid : isBlank c = false)
    (front : Text) :
    EndsSolid (front ++ [c]) := by
  simpa [EndsSolid] using hSolid

theorem EndsSolid.append
    {front back : Text}
    (hFront : EndsSolid front)
    (hBack : EndsSolid back) :
    EndsSolid (front ++ back) := by
  rcases List.eq_nil_or_concat back with
    rfl | ⟨back, last, rfl⟩
  · rwa [List.append_nil]
  · rw [List.concat_eq_append] at hBack ⊢
    rw [← List.append_assoc]
    exact endsSolid_concat (hBack last (by simp)) _

theorem EndsSolid.append_left
    {back : Text}
    (hBack : EndsSolid back)
    (hSome : back ≠ [])
    (front : Text) :
    EndsSolid (front ++ back) := by
  intro c hLast
  rw [List.getLast?_append_of_ne_nil _ hSome] at hLast
  exact hBack c hLast

theorem endsSolid_of_forall
    {t : Text}
    (hSolid : ∀ c ∈ t, isBlank c = false) :
    EndsSolid t :=
  fun c hLast => hSolid c (List.mem_of_getLast? hLast)

/- Neither does one behind a solid end continue a run. -/
theorem EndsSolid.collapseBlanks_append
    {front : Text}
    (hFront : EndsSolid front)
    (back : Text) :
    collapseBlanks (front ++ back) =
      collapseBlanks front ++ collapseBlanks back := by
  rcases List.eq_nil_or_concat front with
    rfl | ⟨front, last, rfl⟩
  · rfl
  · rw [List.concat_eq_append] at hFront ⊢
    have hLast : isBlank last = false :=
      hFront last (by simp)
    rw [List.append_assoc, List.singleton_append,
      Text.collapseBlanks_append (by exact hLast),
      Text.collapseBlanks_append (by exact hLast),
      collapseBlanks_solid hLast,
      collapseBlanks_solid hLast, List.append_assoc]
    rfl

theorem collapseBlanks_idem
    (t : Text) :
    collapseBlanks (collapseBlanks t) =
      collapseBlanks t := by
  induction t with
  | nil => rfl
  | cons c t ih =>
      cases hBlank : isBlank c with
      | false =>
          rw [collapseBlanks_solid hBlank,
            collapseBlanks_solid hBlank, ih]
      | true =>
          rw [collapseBlanks, if_pos hBlank]
          split
          · exact ih
          next hStart =>
            have hRest : startsBlank (collapseBlanks t) = false := by
              simpa using hStart
            rw [collapseBlanks_blank isBlank_space,
              dropBlanks_of_not_startsBlank hRest, ih]

------------------------------------------------------------
-- Blanks at the Ends
------------------------------------------------------------

theorem stripEnd_gap
    {gap : Text}
    (hGap : IsGap gap) :
    stripEnd gap = [] := by
  unfold stripEnd
  induction gap with
  | nil => rfl
  | cons c gap ih =>
      have hRest : dropEndWhile isBlank gap = [] :=
        ih fun d hChar => hGap d (List.mem_cons_of_mem c hChar)
      simp [dropEndWhile, hRest, hGap c List.mem_cons_self]

/- Blanks behind a text are stripped. -/
theorem stripEnd_append_gap
    {gap : Text}
    (hGap : IsGap gap)
    (t : Text) :
    stripEnd (t ++ gap) = stripEnd t := by
  unfold stripEnd
  induction t with
  | nil => exact stripEnd_gap hGap
  | cons c t ih =>
      rw [List.cons_append, dropEndWhile, dropEndWhile, ih]

theorem EndsSolid.stripEnd
    {t : Text}
    (hEnd : EndsSolid t) :
    stripEnd t = t := by
  rcases List.eq_nil_or_concat t with
    rfl | ⟨front, last, rfl⟩
  · rfl
  · rw [List.concat_eq_append] at hEnd ⊢
    exact
      Source.dropEndWhile_append (hEnd last (by simp)) front

/- A text is what is kept of it, and blanks behind. -/
theorem stripEnd_split
    (t : Text) :
    ∃ kept gap,
      t = kept ++ gap ∧ EndsSolid kept ∧ IsGap gap := by
  induction t with
  | nil => exact ⟨[], [], rfl, endsSolid_nil, isGap_nil⟩
  | cons c t ih =>
      rcases ih with ⟨kept, gap, rfl, hKept, hGap⟩
      cases kept with
      | cons d kept =>
          refine ⟨c :: d :: kept, gap, rfl, ?_, hGap⟩
          intro last hLast
          rw [List.getLast?_cons_cons] at hLast
          exact hKept last hLast
      | nil =>
          cases hBlank : isBlank c with
          | true =>
              refine ⟨[], c :: gap, rfl, endsSolid_nil, ?_⟩
              exact List.forall_mem_cons.mpr ⟨hBlank, hGap⟩
          | false =>
              exact
                ⟨[c], gap, rfl, endsSolid_concat hBlank [],
                  hGap⟩

theorem strip_of_solid
    {t : Text}
    (hStart : startsBlank t = false)
    (hEnd : EndsSolid t) :
    strip t = t := by
  unfold strip
  rw [dropBlanks_of_not_startsBlank hStart, hEnd.stripEnd]

/- A stripped text starts with no blank. -/
theorem startsBlank_strip
    (t : Text) :
    startsBlank (strip t) = false := by
  have hStart := startsBlank_dropBlanks t
  unfold strip
  rcases stripEnd_split (dropBlanks t) with
    ⟨kept, gap, hSplit, hKept, hGap⟩
  rw [hSplit] at hStart ⊢
  rw [stripEnd_append_gap hGap, hKept.stripEnd]
  cases kept with
  | nil => rfl
  | cons c kept => exact hStart

theorem isGap_collapseBlanks
    {gap : Text}
    (hGap : IsGap gap) :
    IsGap (collapseBlanks gap) := by
  cases gap with
  | nil => exact isGap_nil
  | cons c gap =>
      have hSpace := collapseBlanks_gap hGap (by simp) []
      rw [List.append_nil] at hSpace
      rw [hSpace]
      intro d hChar
      rw [List.mem_singleton.mp hChar]
      exact isBlank_space

theorem EndsSolid.collapseBlanks
    {t : Text}
    (hEnd : EndsSolid t) :
    EndsSolid (collapseBlanks t) := by
  rcases List.eq_nil_or_concat t with
    rfl | ⟨front, last, rfl⟩
  · exact endsSolid_nil
  · rw [List.concat_eq_append] at hEnd ⊢
    have hLast : isBlank last = false :=
      hEnd last (by simp)
    rw [Text.collapseBlanks_append (by exact hLast),
      collapseBlanks_solid hLast]
    exact endsSolid_concat hLast _

theorem strip_collapseBlanks
    (t : Text) :
    strip (collapseBlanks t) = collapseBlanks (strip t) := by
  unfold strip
  rw [dropBlanks_collapseBlanks]
  rcases stripEnd_split (dropBlanks t) with
    ⟨kept, gap, hSplit, hKept, hGap⟩
  rw [hSplit, hKept.collapseBlanks_append,
    stripEnd_append_gap (isGap_collapseBlanks hGap),
    stripEnd_append_gap hGap, hKept.stripEnd,
    hKept.collapseBlanks.stripEnd]

/- Blanks in front of a text are stripped. -/
theorem strip_gap_append
    {gap : Text}
    (hGap : IsGap gap)
    (t : Text) :
    strip (gap ++ t) = strip t := by
  unfold strip
  rw [dropBlanks_gap_append hGap]

theorem strip_append_gap
    {gap : Text}
    (hGap : IsGap gap)
    (t : Text) :
    strip (t ++ gap) = strip t := by
  unfold strip
  by_cases hBlank : IsGap t
  · rw [dropBlanks_eq_nil_iff.mpr hBlank,
      dropBlanks_eq_nil_iff.mpr
        (isGap_append.mpr ⟨hBlank, hGap⟩)]
  · rw [dropBlanks_append_of_not_gap hBlank,
      stripEnd_append_gap hGap]

------------------------------------------------------------
-- Tidy Texts
------------------------------------------------------------

/- A stripped text with each run of blanks as one space. -/
def tidied
    (t : Text) :
    Text :=
  collapseBlanks (strip t)

theorem tidied_eq
    (t : Text) :
    tidied t = strip (collapseBlanks t) :=
  (strip_collapseBlanks t).symm

/- Some blanks may stand for others. -/
theorem tidied_gap
    {gap gap' : Text}
    (hGap : IsGap gap)
    (hGap' : IsGap gap')
    (hSome : gap ≠ [])
    (hSome' : gap' ≠ [])
    (front back : Text) :
    tidied (front ++ (gap ++ back)) =
      tidied (front ++ (gap' ++ back)) := by
  have hBlanks :
      collapseBlanks (gap ++ back) =
        collapseBlanks (gap' ++ back) := by
    rw [collapseBlanks_gap hGap hSome,
      collapseBlanks_gap hGap' hSome']
  rw [tidied_eq, tidied_eq,
    collapseBlanks_append_right hBlanks]

/- Nothing is left of a text only if there is none. -/
theorem isEmpty_collapseBlanks
    (t : Text) :
    (collapseBlanks t).isEmpty = t.isEmpty := by
  cases t with
  | nil => rfl
  | cons c t =>
      cases hBlank : isBlank c with
      | true => simp [collapseBlanks_blank hBlank]
      | false => simp [collapseBlanks_solid hBlank]

end Text

end RouteAtlas
