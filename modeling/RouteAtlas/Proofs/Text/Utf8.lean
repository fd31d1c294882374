import Mathlib
import RouteAtlas.Text.Utf8

/-
  Texts read back from their bytes.

  The bytes of a character are read in one step, whatever
  follows them, so a text is decoded from its bytes without
  loss.  Nothing is taken for a byte order mark in a text
  that begins with an ASCII character.

  Main statements:
    * `stepsFrom_encodeChar`
    * `decode?_encode`
    * `dropMark_encode`
-/

------------------------------------------------------------
-- Bytes
------------------------------------------------------------

namespace RouteAtlas

namespace Utf8

theorem toNat_ofNat_byte
    {n : Nat}
    (hByte : n < 0x100) :
    (UInt8.ofNat n).toNat = n :=
  UInt8.toNat_ofNat_of_lt' hByte

theorem toNat_tailByte
    (n : Nat) :
    (tailByte n).toNat = 0x80 + n % 0x40 := by
  unfold tailByte
  exact toNat_ofNat_byte (by omega)

theorem isTail_tailByte
    (n : Nat) :
    isTail (tailByte n) = true := by
  have hByte := toNat_tailByte n
  simp only [isTail, Bool.and_eq_true, decide_eq_true_eq,
    UInt8.le_iff_toNat_le, UInt8.toNat_ofNat]
  omega

/- A tail byte adds the bits that were cut off. -/
theorem addTail_tailByte
    (m n : Nat) :
    addTail m (tailByte n) = m * 0x40 + n % 0x40 := by
  unfold addTail
  rw [toNat_tailByte]
  omega

------------------------------------------------------------
-- Characters
------------------------------------------------------------

/- A character lies outside of the surrogates. -/
theorem range_toNat
    (c : Char) :
    c.toNat < 0xD800 ∨
      0xDFFF < c.toNat ∧ c.toNat < 0x110000 :=
  c.valid

/-
  What a byte has to be to stand second: a tail byte, and
  within the bounds that four first bytes set.
-/
theorem maySecond_of_bounds
    {first second : UInt8}
    (hTail : isTail second = true)
    (hLong : first.toNat = 0xE0 → 0xA0 ≤ second.toNat)
    (hSurrogate : first.toNat = 0xED → second.toNat ≤ 0x9F)
    (hLonger : first.toNat = 0xF0 → 0x90 ≤ second.toNat)
    (hHigh : first.toNat = 0xF4 → second.toNat ≤ 0x8F) :
    maySecond first second = true := by
  unfold maySecond
  rw [hTail, Bool.true_and]
  simp only [beq_iff_eq, ← UInt8.toNat_inj]
  split
  next hFirst =>
    simpa [UInt8.le_iff_toNat_le] using hLong hFirst
  next =>
    split
    next hFirst =>
      simpa [UInt8.le_iff_toNat_le] using hSurrogate hFirst
    next =>
      split
      next hFirst =>
        simpa [UInt8.le_iff_toNat_le] using hLonger hFirst
      next =>
        split
        next hFirst =>
          simpa [UInt8.le_iff_toNat_le] using hHigh hFirst
        next => rfl

section Step

variable {n : Nat}

theorem step_one
    (hRange : n < 0x80)
    (rest : Bytes) :
    step (UInt8.ofNat n) rest = (some (Char.ofNat n), 0) := by
  have hFirst : (UInt8.ofNat n).toNat = n :=
    toNat_ofNat_byte (by omega)
  have hLow : UInt8.ofNat n < 0x80 := by
    rw [UInt8.lt_iff_toNat_lt, hFirst]
    exact hRange
  unfold step
  rw [if_pos hLow, hFirst]

theorem step_two
    (hRange : 0x80 ≤ n ∧ n < 0x800)
    (rest : Bytes) :
    step (UInt8.ofNat (0xC0 + n / 0x40))
        (tailByte n :: rest) =
      (some (Char.ofNat n), 1) := by
  have hFirst :
      (UInt8.ofNat (0xC0 + n / 0x40)).toNat =
        0xC0 + n / 0x40 :=
    toNat_ofNat_byte (by omega)
  have hPoint : n / 0x40 * 0x40 + n % 0x40 = n := by omega
  generalize UInt8.ofNat (0xC0 + n / 0x40) = first
    at hFirst ⊢
  have hHigh : ¬first < 0x80 := by
    simp only [UInt8.lt_iff_toNat_lt, hFirst,
      UInt8.toNat_ofNat]
    omega
  have hTwo :
      (0xC2 ≤ first && first ≤ 0xDF : Bool) = true := by
    simp only [Bool.and_eq_true, decide_eq_true_eq,
      UInt8.le_iff_toNat_le, hFirst, UInt8.toNat_ofNat]
    omega
  unfold step
  rw [if_neg hHigh, if_pos hTwo, hFirst]
  simp only [isTail_tailByte, if_true, addTail_tailByte,
    Nat.add_sub_cancel_left, hPoint]

theorem maySecond_three
    {first : UInt8}
    (hFirst : first.toNat = 0xE0 + n / 0x1000)
    (hRange :
      0x800 ≤ n ∧ n < 0x10000 ∧
        (n < 0xD800 ∨ 0xDFFF < n)) :
    maySecond first (tailByte (n / 0x40)) = true := by
  have hSecond := toNat_tailByte (n / 0x40)
  apply maySecond_of_bounds
  · exact isTail_tailByte _
  · omega
  · omega
  · omega
  · omega

theorem step_three
    (hRange :
      0x800 ≤ n ∧ n < 0x10000 ∧
        (n < 0xD800 ∨ 0xDFFF < n))
    (rest : Bytes) :
    step (UInt8.ofNat (0xE0 + n / 0x1000))
        (tailByte (n / 0x40) :: tailByte n :: rest) =
      (some (Char.ofNat n), 2) := by
  have hFirst :
      (UInt8.ofNat (0xE0 + n / 0x1000)).toNat =
        0xE0 + n / 0x1000 :=
    toNat_ofNat_byte (by omega)
  have hPoint :
      (n / 0x1000 * 0x40 + n / 0x40 % 0x40) * 0x40 +
          n % 0x40 =
        n := by
    omega
  generalize UInt8.ofNat (0xE0 + n / 0x1000) = first
    at hFirst ⊢
  have hHigh : ¬first < 0x80 := by
    simp only [UInt8.lt_iff_toNat_lt, hFirst,
      UInt8.toNat_ofNat]
    omega
  have hTwo :
      ¬(0xC2 ≤ first && first ≤ 0xDF : Bool) = true := by
    simp only [Bool.and_eq_true, decide_eq_true_eq,
      UInt8.le_iff_toNat_le, hFirst, UInt8.toNat_ofNat]
    omega
  have hThree :
      (0xE0 ≤ first && first ≤ 0xEF : Bool) = true := by
    simp only [Bool.and_eq_true, decide_eq_true_eq,
      UInt8.le_iff_toNat_le, hFirst, UInt8.toNat_ofNat]
    omega
  unfold step
  rw [if_neg hHigh, if_neg hTwo, if_pos hThree]
  simp only [maySecond_three hFirst hRange,
    isTail_tailByte, if_true, addTail_tailByte, hFirst,
    Nat.add_sub_cancel_left, hPoint]

theorem maySecond_four
    {first : UInt8}
    (hFirst : first.toNat = 0xF0 + n / 0x40000)
    (hRange : 0x10000 ≤ n ∧ n < 0x110000) :
    maySecond first (tailByte (n / 0x1000)) = true := by
  have hSecond := toNat_tailByte (n / 0x1000)
  apply maySecond_of_bounds
  · exact isTail_tailByte _
  · omega
  · omega
  · omega
  · omega

theorem step_four
    (hRange : 0x10000 ≤ n ∧ n < 0x110000)
    (rest : Bytes) :
    step (UInt8.ofNat (0xF0 + n / 0x40000))
        (tailByte (n / 0x1000) :: tailByte (n / 0x40) ::
          tailByte n :: rest) =
      (some (Char.ofNat n), 3) := by
  have hFirst :
      (UInt8.ofNat (0xF0 + n / 0x40000)).toNat =
        0xF0 + n / 0x40000 :=
    toNat_ofNat_byte (by omega)
  have hPoint :
      ((n / 0x40000 * 0x40 + n / 0x1000 % 0x40) * 0x40 +
          n / 0x40 % 0x40) * 0x40 + n % 0x40 =
        n := by
    omega
  generalize UInt8.ofNat (0xF0 + n / 0x40000) = first
    at hFirst ⊢
  have hHigh : ¬first < 0x80 := by
    simp only [UInt8.lt_iff_toNat_lt, hFirst,
      UInt8.toNat_ofNat]
    omega
  have hTwo :
      ¬(0xC2 ≤ first && first ≤ 0xDF : Bool) = true := by
    simp only [Bool.and_eq_true, decide_eq_true_eq,
      UInt8.le_iff_toNat_le, hFirst, UInt8.toNat_ofNat]
    omega
  have hThree :
      ¬(0xE0 ≤ first && first ≤ 0xEF : Bool) = true := by
    simp only [Bool.and_eq_true, decide_eq_true_eq,
      UInt8.le_iff_toNat_le, hFirst, UInt8.toNat_ofNat]
    omega
  have hFour :
      (0xF0 ≤ first && first ≤ 0xF4 : Bool) = true := by
    simp only [Bool.and_eq_true, decide_eq_true_eq,
      UInt8.le_iff_toNat_le, hFirst, UInt8.toNat_ofNat]
    omega
  unfold step
  rw [if_neg hHigh, if_neg hTwo, if_neg hThree,
    if_pos hFour]
  simp only [maySecond_four hFirst hRange,
    isTail_tailByte, if_true, addTail_tailByte, hFirst,
    Nat.add_sub_cancel_left, hPoint]

end Step

/- The bytes of a character are read in one step. -/
theorem stepsFrom_encodeChar
    (c : Char)
    (rest : Bytes) :
    stepsFrom 0 (encodeChar c ++ rest) =
      some c :: stepsFrom 0 rest := by
  have hRange := range_toNat c
  simp only [encodeChar]
  split
  next hOne =>
    simp only [List.cons_append, List.nil_append, stepsFrom,
      step_one hOne, Char.ofNat_toNat]
  next hNotOne =>
    split
    next hTwo =>
      simp only [List.cons_append, List.nil_append,
        stepsFrom, step_two ⟨by omega, hTwo⟩,
        Char.ofNat_toNat]
    next hNotTwo =>
      split
      next hThree =>
        have hPoint :
            0x800 ≤ c.toNat ∧ c.toNat < 0x10000 ∧
              (c.toNat < 0xD800 ∨ 0xDFFF < c.toNat) := by
          omega
        simp only [List.cons_append, List.nil_append,
          stepsFrom, step_three hPoint, Char.ofNat_toNat]
      next hNotThree =>
        have hPoint :
            0x10000 ≤ c.toNat ∧ c.toNat < 0x110000 := by
          omega
        simp only [List.cons_append, List.nil_append,
          stepsFrom, step_four hPoint, Char.ofNat_toNat]

------------------------------------------------------------
-- Texts
------------------------------------------------------------

/- A text is decoded from its bytes. -/
theorem decode?_encode
    (t : Text) :
    decode? (encode t) = some t := by
  unfold decode? encode
  induction t with
  | nil => rfl
  | cons c t ih =>
      rw [List.flatMap_cons, stepsFrom_encodeChar,
        allPresent, ih]
      rfl

/- An ASCII character begins no byte order mark. -/
theorem dropMark_encode
    {c : Char}
    (hAscii : c.toNat < 0x80)
    (t : Text) :
    dropMark (encode (c :: t)) = encode (c :: t) := by
  have hFirst :
      (UInt8.ofNat c.toNat).toNat = c.toNat :=
    toNat_ofNat_byte (by omega)
  have hBytes :
      encode (c :: t) =
        UInt8.ofNat c.toNat :: encode t := by
    simp [encode, encodeChar, hAscii]
  rw [hBytes]
  unfold dropMark
  split
  next rest hMark =>
    rw [List.cons.injEq] at hMark
    rw [hMark.1] at hFirst
    simp only [UInt8.toNat_ofNat] at hFirst
    omega
  next => rfl

end Utf8

end RouteAtlas
