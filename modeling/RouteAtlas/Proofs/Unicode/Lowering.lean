import Mathlib
import RouteAtlas.Unicode.LowerCase

/-
  Lower-cased texts.

  A character that lower-casing puts into a text is one that
  lower-casing keeps, wherever it stands.  So a text that is
  lower-cased already stays as it is, and so does each part
  of it.  Of ASCII it brings only letters into a text.

  Main statements:
    * `isLowered_of_mem_lower`
    * `lower_of_isLowered`
    * `lower_lower`
    * `mem_of_mem_lower`
    * `ascii_of_lower`
    * `lower_eq_iff_of_caseless`
-/

------------------------------------------------------------
-- Rows
------------------------------------------------------------

namespace RouteAtlas

namespace Unicode

/- A code point is kept, or some row moves it. -/
theorem moved_eq
    (n : Nat)
    (rows : List CaseRow) :
    moved n rows = n ∨
      ∃ row ∈ rows,
        row.holds n = true ∧
          moved n rows = (n + row.shift).toNat := by
  induction rows with
  | nil => exact Or.inl rfl
  | cons row rows ih =>
      rw [moved]
      split
      next => exact Or.inl rfl
      next =>
        split
        next hHolds =>
          exact Or.inr ⟨row, by simp, hHolds, rfl⟩
        next =>
          rcases ih with
            hKept | ⟨other, hOther, hHolds, hMoved⟩
          · exact Or.inl hKept
          · exact
              Or.inr
                ⟨other, by simp [hOther], hHolds, hMoved⟩

/- The code points that the ends of a row are moved to. -/
def CaseRow.low
    (row : CaseRow) :
    Nat :=
  (row.first + row.shift).toNat

def CaseRow.high
    (row : CaseRow) :
    Nat :=
  (row.last + row.shift).toNat

/- Whether a code point is none that the row moves to. -/
def CaseRow.avoids
    (row : CaseRow)
    (n : Nat) :
    Bool :=
  n < row.low || row.high < n

/-
  Whether no code point that a row moves to is moved by
  another row: both lie apart, or all of the one are even
  and all of the other odd.
-/
def CaseRow.isApart
    (row other : CaseRow) :
    Bool :=
  Nat.blt row.high other.first ||
    Nat.blt other.last row.low ||
    ((row.step == 2 || row.first == row.last) &&
      other.step == 2 && row.low % 2 != other.first % 2)

/-
  Whether a row moves to characters only, which are kept by
  all rows and are none of those treated by themselves.  The
  one that it may move to ASCII is a letter.
-/
def CaseRow.isChecked
    (row : CaseRow) :
    Bool :=
  row.low == row.first + row.shift &&
    (row.high < 0xD800 ||
      (0xDFFF < row.low && row.high < 0x110000)) &&
    (0x80 ≤ row.low ||
      (row.low == 'k'.toNat && row.first == row.last)) &&
    row.avoids 'Σ'.toNat && row.avoids 'İ'.toNat &&
    row.avoids ':'.toNat &&
    lowerRows.all row.isApart

theorem isChecked_lowerRows :
    lowerRows.all CaseRow.isChecked = true := by
  decide +kernel

------------------------------------------------------------
-- Targets
------------------------------------------------------------

section Targets

variable {row : CaseRow}
variable {n : Nat}
variable (hRow : row ∈ lowerRows)
variable (hHolds : row.holds n = true)

include hHolds

theorem CaseRow.bounds_of_holds :
    row.first ≤ n ∧ n ≤ row.last ∧
      (n - row.first) % row.step = 0 := by
  simp only [CaseRow.holds, Bool.and_eq_true,
    decide_eq_true_eq, beq_iff_eq] at hHolds
  exact ⟨hHolds.1.1, hHolds.1.2, hHolds.2⟩

include hRow

/- What a row moves to lies between its ends. -/
theorem CaseRow.target_eq :
    (n + row.shift).toNat = row.low + (n - row.first) ∧
      row.low + (n - row.first) ≤ row.high := by
  have hChecked :=
    List.all_eq_true.mp isChecked_lowerRows row hRow
  have hBounds := CaseRow.bounds_of_holds hHolds
  simp only [CaseRow.isChecked, Bool.and_eq_true,
    beq_iff_eq] at hChecked
  have hLow := hChecked.1.1.1.1.1.1
  constructor
  · omega
  · unfold CaseRow.high
    omega

/- It is a character, and in ASCII only the letter k. -/
theorem target_bounds :
    ((n + row.shift).toNat).isValidChar ∧
      (0x80 ≤ (n + row.shift).toNat ∨
        (n + row.shift).toNat = 'k'.toNat) := by
  have hChecked :=
    List.all_eq_true.mp isChecked_lowerRows row hRow
  have hBounds := CaseRow.bounds_of_holds hHolds
  have hTarget := CaseRow.target_eq hRow hHolds
  simp only [CaseRow.isChecked, Bool.and_eq_true,
    Bool.or_eq_true, decide_eq_true_eq, beq_iff_eq]
    at hChecked
  rcases hChecked with
    ⟨⟨⟨⟨⟨⟨-, hRange⟩, hAscii⟩, -⟩, -⟩, -⟩, -⟩
  constructor
  · unfold Nat.isValidChar
    omega
  · rcases hAscii with hAbove | ⟨hLetter, hSingle⟩
    · omega
    · omega

/- No row moves it on. -/
theorem moved_target :
    moved (n + row.shift).toNat lowerRows =
      (n + row.shift).toNat := by
  have hChecked :=
    List.all_eq_true.mp isChecked_lowerRows row hRow
  have hBounds := CaseRow.bounds_of_holds hHolds
  have hTarget := CaseRow.target_eq hRow hHolds
  rcases moved_eq (n + row.shift).toNat lowerRows with
    hKept | ⟨other, hOther, hMoves, -⟩
  · exact hKept
  · exfalso
    have hOtherBounds := CaseRow.bounds_of_holds hMoves
    simp only [CaseRow.isChecked, Bool.and_eq_true]
      at hChecked
    have hApart :=
      List.all_eq_true.mp hChecked.2 other hOther
    simp only [CaseRow.isApart, Bool.or_eq_true,
      Bool.and_eq_true, Nat.blt_eq, beq_iff_eq, bne_iff_ne]
      at hApart
    rw [hTarget.1] at hOtherBounds
    rcases hApart with
      (hBelow | hAbove) | ⟨⟨hStep, hOtherStep⟩, hParity⟩
    · omega
    · omega
    · rw [hOtherStep] at hOtherBounds
      rcases hStep with hStep | hSingle
      · rw [hStep] at hBounds
        omega
      · omega

end Targets

------------------------------------------------------------
-- Characters
------------------------------------------------------------

/- Whether lower-casing keeps a character in every text. -/
def IsLowered
    (c : Char) :
    Prop :=
  lowerChar c = c ∧ c ≠ 'Σ' ∧ c ≠ 'İ'

/-
  Whether a character may be put for another one: it stays
  as it is, and it is a colon only for a colon.
-/
def Replaces
    (d c : Char) :
    Prop :=
  IsLowered d ∧ (d = ':' → c = ':')

instance (d c : Char) : Decidable (Replaces d c) := by
  unfold Replaces IsLowered
  infer_instance

/- A code point of a character is that of the character. -/
theorem toNat_ofNat
    {n : Nat}
    (hValid : n.isValidChar) :
    (Char.ofNat n).toNat = n := by
  unfold Char.ofNat
  rw [dif_pos hValid]
  simp [Char.ofNatAux, Char.toNat, UInt32.toNat]

theorem replaces_ascii
    {c : Char}
    (hAscii : c.toNat < 0x80) :
    Replaces (lowerChar c) c := by
  have hTable :
      ∀ n ∈ List.range 0x80,
        Replaces (lowerChar (Char.ofNat n)) (Char.ofNat n) := by
    decide +kernel
  have hChar := hTable c.toNat (List.mem_range.mpr hAscii)
  rwa [Char.ofNat_toNat] at hChar

/- What a row moves to replaces the character. -/
theorem replaces_target
    {row : CaseRow}
    {c : Char}
    (hRow : row ∈ lowerRows)
    (hHolds : row.holds c.toNat = true) :
    Replaces (Char.ofNat (c.toNat + row.shift).toNat) c := by
  have hMoved := moved_target hRow hHolds
  have hTarget := CaseRow.target_eq hRow hHolds
  have hBounds := target_bounds hRow hHolds
  have hChecked :=
    List.all_eq_true.mp isChecked_lowerRows row hRow
  generalize (c.toNat + row.shift).toNat = n
    at hMoved hTarget hBounds
  simp only [CaseRow.isChecked, CaseRow.avoids,
    Bool.and_eq_true, Bool.or_eq_true, decide_eq_true_eq,
    beq_iff_eq] at hChecked
  rcases hChecked with
    ⟨⟨⟨⟨-, hSigma⟩, hDotted⟩, hColon⟩, -⟩
  have hBetween : row.low ≤ n ∧ n ≤ row.high := by omega
  have hPoint := toNat_ofNat hBounds.1
  have hKept : lowerChar (Char.ofNat n) = Char.ofNat n := by
    rcases hBounds.2 with hAbove | hLetter
    · unfold lowerChar
      rw [hPoint, if_neg (by omega), hMoved]
    · rw [hLetter]
      decide
  refine ⟨⟨hKept, ?_, ?_⟩, ?_⟩
  · intro hSame
    rw [hSame] at hPoint
    omega
  · intro hSame
    rw [hSame] at hPoint
    omega
  · intro hSame
    rw [hSame] at hPoint
    omega

/- Above ASCII a character is kept, or some row moves it. -/
theorem lowerChar_cases
    {c : Char}
    (hAbove : ¬c.toNat < 0x80) :
    lowerChar c = c ∨
      ∃ row ∈ lowerRows,
        row.holds c.toNat = true ∧
          lowerChar c =
            Char.ofNat (c.toNat + row.shift).toNat := by
  rw [lowerChar, if_neg hAbove]
  rcases moved_eq c.toNat lowerRows with
    hKept | ⟨row, hRow, hHolds, hMoved⟩
  · exact .inl (by rw [hKept, Char.ofNat_toNat])
  · exact .inr ⟨row, hRow, hHolds, by rw [hMoved]⟩

/- A character is replaced by one that stays as it is. -/
theorem replaces_lowerChar
    {c : Char}
    (hSigma : c ≠ 'Σ')
    (hDotted : c ≠ 'İ') :
    Replaces (lowerChar c) c := by
  by_cases hAscii : c.toNat < 0x80
  · exact replaces_ascii hAscii
  · rcases lowerChar_cases hAscii with
      hSame | ⟨row, hRow, hHolds, hMoved⟩
    · rw [hSame]
      exact ⟨⟨hSame, hSigma, hDotted⟩, id⟩
    · rw [hMoved]
      exact replaces_target hRow hHolds

------------------------------------------------------------
-- Texts
------------------------------------------------------------

/- The characters that may be put for one in a text. -/
def lowerImages
    (c : Char) :
    List Char :=
  if c = 'Σ' then ['ς', 'σ']
  else if c = 'İ' then ['i', '\u0307']
  else [lowerChar c]

/-
  What is put for the first character stands in front of the
  others.  All of its images do, but for the capital sigma,
  of whose two one is chosen.
-/
theorem exists_lowerAfter_cons
    (casedBehind : Bool)
    (c : Char)
    (t : List Char) :
    ∃ images behind,
      lowerAfter casedBehind (c :: t) =
          images ++ lowerAfter behind t ∧
        images ≠ [] ∧
        (∀ d ∈ images, d ∈ lowerImages c) ∧
        (c ≠ 'Σ' → images = lowerImages c) := by
  let behind :=
    if isCaseIgnorable c then casedBehind else isCased c
  by_cases hSigma : c = 'Σ'
  · subst hSigma
    cases hEnds : casedBehind && !casedAhead t with
    | true =>
        refine ⟨['ς'], behind, ?_, by simp, ?_, by simp⟩
        · simp [lowerAfter, hEnds, behind]
        · simp [lowerImages]
    | false =>
        refine ⟨['σ'], behind, ?_, by simp, ?_, by simp⟩
        · simp [lowerAfter, hEnds, behind]
        · simp [lowerImages]
  · refine
      ⟨lowerImages c, behind, ?_, ?_, fun _ => id,
        fun _ => rfl⟩
    · by_cases hDotted : c = 'İ'
      · subst hDotted
        simp [lowerAfter, lowerImages, behind]
      · simp [lowerAfter, lowerImages, hSigma, hDotted,
          behind]
    · rw [lowerImages, if_neg hSigma]
      split <;> simp

theorem lower_eq_nil_iff
    {t : List Char} :
    lower t = [] ↔ t = [] := by
  cases t with
  | nil => exact iff_of_true rfl rfl
  | cons c t =>
      rcases exists_lowerAfter_cons false c t with
        ⟨images, behind, hLower, hSome, -⟩
      rw [lower, hLower]
      exact
        iff_of_false
          (List.append_ne_nil_of_left_ne_nil hSome _)
          (List.cons_ne_nil c t)

/- Each character of the result is put for one of the text. -/
theorem exists_of_mem_lowerAfter
    {casedBehind : Bool}
    {t : List Char}
    {d : Char}
    (hMember : d ∈ lowerAfter casedBehind t) :
    ∃ c ∈ t, d ∈ lowerImages c := by
  induction t generalizing casedBehind with
  | nil => simp [lowerAfter] at hMember
  | cons c t ih =>
      rcases exists_lowerAfter_cons casedBehind c t with
        ⟨images, behind, hLower, -, hImages, -⟩
      rw [hLower, List.mem_append] at hMember
      rcases hMember with hHere | hLater
      · exact ⟨c, List.mem_cons_self, hImages d hHere⟩
      · rcases ih hLater with ⟨e, hChar, hImage⟩
        exact ⟨e, List.mem_cons_of_mem c hChar, hImage⟩

/- What is put for a character replaces it. -/
theorem replaces_of_mem_lowerImages
    {c d : Char}
    (hImage : d ∈ lowerImages c) :
    Replaces d c := by
  unfold lowerImages at hImage
  split at hImage
  next hSigma =>
    rw [hSigma]
    rcases List.mem_pair.mp hImage with rfl | rfl <;> decide
  next hSigma =>
    split at hImage
    next hDotted =>
      rw [hDotted]
      rcases List.mem_pair.mp hImage with rfl | rfl <;> decide
    next hDotted =>
      rw [List.mem_singleton.mp hImage]
      exact replaces_lowerChar hSigma hDotted

/- A lower-cased text holds only characters that stay. -/
theorem isLowered_of_mem_lower
    {t : List Char}
    {d : Char}
    (hMember : d ∈ lower t) :
    IsLowered d := by
  rcases exists_of_mem_lowerAfter hMember with ⟨c, -, hImage⟩
  exact (replaces_of_mem_lowerImages hImage).1

/- A character moved into ASCII is a letter there. -/
theorem lowerChar_eq_of_ascii
    {c : Char}
    (hAscii : (lowerChar c).toNat < 0x80)
    (hLetter : (lowerChar c).isLower = false) :
    lowerChar c = c := by
  by_cases hChar : c.toNat < 0x80
  · have hTable :
        ∀ n ∈ List.range 0x80,
          (lowerChar (Char.ofNat n)).isLower = false →
            lowerChar (Char.ofNat n) = Char.ofNat n := by
      decide +kernel
    have hKept := hTable c.toNat (List.mem_range.mpr hChar)
    rw [Char.ofNat_toNat] at hKept
    exact hKept hLetter
  · rcases lowerChar_cases hChar with
      hSame | ⟨row, hRow, hHolds, hMoved⟩
    · exact hSame
    · exfalso
      have hBounds := target_bounds hRow hHolds
      rw [hMoved] at hAscii hLetter
      rw [toNat_ofNat hBounds.1] at hAscii
      rcases hBounds.2 with hAbove | hOnly
      · omega
      · rw [hOnly] at hLetter
        exact absurd hLetter (by decide)

/- Lower-casing brings nothing of ASCII but its letters. -/
theorem mem_of_mem_lower
    {t : List Char}
    {d : Char}
    (hAscii : d.toNat < 0x80)
    (hLetter : d.isLower = false)
    (hMember : d ∈ lower t) :
    d ∈ t := by
  rcases exists_of_mem_lowerAfter hMember with
    ⟨c, hChar, hImage⟩
  unfold lowerImages at hImage
  split at hImage
  · rcases List.mem_pair.mp hImage with rfl | rfl
    · exact absurd hAscii (by decide)
    · exact absurd hAscii (by decide)
  · split at hImage
    · rcases List.mem_pair.mp hImage with rfl | rfl
      · exact absurd hLetter (by decide)
      · exact absurd hAscii (by decide)
    · rw [List.mem_singleton] at hImage
      subst hImage
      rwa [lowerChar_eq_of_ascii hAscii hLetter]

/- Lower-casing brings no colon into a text. -/
theorem not_mem_lower
    {t : List Char}
    (hColon : ':' ∉ t) :
    ':' ∉ lower t :=
  fun hMember =>
    hColon (mem_of_mem_lower (by decide) (by decide) hMember)

/- Characters that stay make up a text that stays. -/
theorem lower_of_isLowered
    {t : List Char}
    (hLowered : ∀ c ∈ t, IsLowered c) :
    lower t = t := by
  have hAfter :
      ∀ casedBehind, lowerAfter casedBehind t = t := by
    induction t with
    | nil => exact fun _ => rfl
    | cons c t ih =>
        intro casedBehind
        rw [List.forall_mem_cons] at hLowered
        rcases hLowered with
          ⟨⟨hSame, hSigma, hDotted⟩, hRest⟩
        simp only [lowerAfter, ih hRest, beq_iff_eq, hSigma,
          hDotted, if_false, hSame]
  exact hAfter false

/- Letters of ASCII are lower-cased one by one. -/
theorem lower_of_ascii
    {t : List Char}
    (hAscii : ∀ c ∈ t, c.toNat < 0x80) :
    lower t = t.map Char.toLower := by
  have hAfter :
      ∀ casedBehind,
        lowerAfter casedBehind t = t.map Char.toLower := by
    induction t with
    | nil => exact fun _ => rfl
    | cons c t ih =>
        intro casedBehind
        rw [List.forall_mem_cons] at hAscii
        have hSigma : c ≠ 'Σ' := by
          rintro rfl
          exact absurd hAscii.1 (by decide)
        have hDotted : c ≠ 'İ' := by
          rintro rfl
          exact absurd hAscii.1 (by decide)
        simp only [lowerAfter, ih hAscii.2, beq_iff_eq,
          hSigma, hDotted, if_false, lowerChar, hAscii.1,
          if_true, List.map_cons]
  exact hAfter false

/- The one letter of ASCII that others are moved to is `k`. -/
theorem ascii_of_lowerChar
    {c : Char}
    (hAscii : (lowerChar c).toNat < 0x80)
    (hOther : lowerChar c ≠ 'k') :
    c.toNat < 0x80 := by
  by_contra hAbove
  rcases lowerChar_cases hAbove with
    hSame | ⟨row, hRow, hHolds, hMoved⟩
  · rw [hSame] at hAscii
    exact hAbove hAscii
  · have hBounds := target_bounds hRow hHolds
    rw [hMoved] at hAscii hOther
    rw [toNat_ofNat hBounds.1] at hAscii
    rcases hBounds.2 with hTarget | hLetter
    · omega
    · rw [hLetter] at hOther
      exact hOther (by decide)

theorem ascii_of_lowerImages
    {c : Char}
    (hImages :
      ∀ d ∈ lowerImages c, d.toNat < 0x80 ∧ d ≠ 'k') :
    c.toNat < 0x80 := by
  unfold lowerImages at hImages
  split at hImages
  · exact absurd (hImages 'ς' (by simp)).1 (by decide)
  · split at hImages
    · exact
        absurd (hImages '\u0307' (by simp)).1 (by decide)
    · rcases hImages _ List.mem_cons_self with
        ⟨hAscii, hOther⟩
      exact ascii_of_lowerChar hAscii hOther

/- A text that is lower-cased to ASCII without it is ASCII. -/
theorem ascii_of_lower
    {t : List Char}
    (hLower : ∀ d ∈ lower t, d.toNat < 0x80 ∧ d ≠ 'k') :
    ∀ c ∈ t, c.toNat < 0x80 := by
  unfold lower at hLower
  generalize false = casedBehind at hLower
  induction t generalizing casedBehind with
  | nil => exact nofun
  | cons c t ih =>
      rcases exists_lowerAfter_cons casedBehind c t with
        ⟨images, behind, hSplit, hSome, hImages, hAll⟩
      rw [hSplit, List.forall_mem_append] at hLower
      rw [List.forall_mem_cons]
      refine ⟨?_, ih behind hLower.2⟩
      apply ascii_of_lowerImages
      by_cases hSigma : c = 'Σ'
      · subst hSigma
        rcases List.exists_mem_of_ne_nil images hSome with
          ⟨d, hMember⟩
        have hImage := hImages d hMember
        have hAscii := (hLower.1 d hMember).1
        rw [lowerImages, if_pos rfl, List.mem_pair] at hImage
        rcases hImage with rfl | rfl
        · exact absurd hAscii (by decide)
        · exact absurd hAscii (by decide)
      · rw [← hAll hSigma]
        exact hLower.1

/- A character without case is the image of itself only. -/
theorem toLower_eq_self
    {c : Char}
    (hCaseless : c.toLower.isAlpha = false) :
    c.toLower = c := by
  apply Char.toLower_eq_of_not_isUpper
  intro hUpper
  rw [Char.isAlpha_toLower_eq_isAlpha, Char.isAlpha, hUpper]
    at hCaseless
  cases hCaseless

/- So is ASCII without letters. -/
theorem lower_eq_iff_of_caseless
    {t u : List Char}
    (hCaseless :
      ∀ c ∈ u, c.toNat < 0x80 ∧ c.isAlpha = false) :
    lower t = u ↔ t = u := by
  have hKept :
      ∀ s : List Char,
        (∀ c ∈ s, c.toNat < 0x80) →
          (∀ c ∈ s, c.toLower.isAlpha = false) →
            lower s = s := by
    intro s hAscii hLetters
    rw [lower_of_ascii hAscii]
    exact
      (List.map_congr_left fun c hMember =>
        toLower_eq_self (hLetters c hMember)).trans
          (List.map_id s)
  constructor
  · rintro rfl
    have hAscii : ∀ c ∈ t, c.toNat < 0x80 := by
      apply ascii_of_lower
      intro d hMember
      refine ⟨(hCaseless d hMember).1, ?_⟩
      rintro rfl
      exact absurd (hCaseless 'k' hMember).2 (by decide)
    have hLetters : ∀ c ∈ t, c.toLower.isAlpha = false := by
      intro c hMember
      apply fun hImage => (hCaseless c.toLower hImage).2
      rw [lower_of_ascii hAscii]
      exact List.mem_map_of_mem hMember
    exact (hKept t hAscii hLetters).symm
  · rintro rfl
    refine hKept t (fun c hMember => (hCaseless c hMember).1) ?_
    intro c hMember
    rw [Char.isAlpha_toLower_eq_isAlpha]
    exact (hCaseless c hMember).2

theorem lower_lower
    (t : List Char) :
    lower (lower t) = lower t :=
  lower_of_isLowered fun _ hMember =>
    isLowered_of_mem_lower hMember

end Unicode

end RouteAtlas
