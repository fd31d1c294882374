import Mathlib
import RouteAtlas.Text.Search

/-
  Words, blanks and fixed texts at the beginning of a text.

  A blank is never part of a word.  Each reader is described
  by how it takes its text apart: what it has read, and what
  is left behind it.

  Main statements:
    * `isWordChar_of_isBlank`
    * `isPrefixOf?_eq_some_iff`
    * `oneOf?_append`
    * `dropBlanks_split`
    * `span_append`
    * `takeWhile_append_of_head`
    * `word?_append`
    * `eq_of_length_le`
-/

------------------------------------------------------------
-- Characters
------------------------------------------------------------

namespace RouteAtlas

namespace Text

/- The code points of the blanks. -/
def blankPoints : List Nat :=
  [0x09, 0x0A, 0x0B, 0x0C, 0x0D, 0x1C, 0x1D, 0x1E, 0x1F,
   0x20, 0x85, 0xA0, 0x1680, 0x2000, 0x2001, 0x2002, 0x2003,
   0x2004, 0x2005, 0x2006, 0x2007, 0x2008, 0x2009, 0x200A,
   0x2028, 0x2029, 0x202F, 0x205F, 0x3000]

theorem mem_blankPoints
    {c : Char}
    (hBlank : isBlank c = true) :
    c.toNat ∈ blankPoints := by
  simp only [isBlank, Bool.or_eq_true, Bool.and_eq_true,
    decide_eq_true_eq, beq_iff_eq] at hBlank
  simp only [blankPoints, List.mem_cons, List.not_mem_nil,
    or_false]
  omega

/- A blank is not part of a word. -/
theorem isWordChar_of_isBlank
    {c : Char}
    (hBlank : isBlank c = true) :
    isWordChar c = false := by
  have hPoints :
      ∀ n ∈ blankPoints, isWordChar (Char.ofNat n) = false := by
    decide +kernel
  have hPoint := hPoints c.toNat (mem_blankPoints hBlank)
  rwa [Char.ofNat_toNat] at hPoint

/- A character of a word is no blank. -/
theorem isBlank_of_isWordChar
    {c : Char}
    (hWord : isWordChar c = true) :
    isBlank c = false := by
  cases hBlank : isBlank c with
  | false => rfl
  | true =>
      rw [isWordChar_of_isBlank hBlank] at hWord
      exact absurd hWord (by simp)

theorem toNat_lt_of_isAlphanum
    {c : Char}
    (hChar : c.isAlphanum = true) :
    c.toNat < 0x80 := by
  simp only [Char.isAlphanum, Char.isAlpha, Char.isUpper,
    Char.isLower, Char.isDigit, Bool.or_eq_true,
    Bool.and_eq_true, decide_eq_true_eq, ge_iff_le,
    UInt32.le_iff_toNat_le] at hChar
  change c.val.toNat < 0x80
  rcases hChar with (hUpper | hLower) | hDigit
  · exact Nat.lt_of_le_of_lt hUpper.2 (by decide)
  · exact Nat.lt_of_le_of_lt hLower.2 (by decide)
  · exact Nat.lt_of_le_of_lt hDigit.2 (by decide)

/- The ASCII letters and digits are parts of words. -/
theorem isWordChar_of_isAlphanum
    {c : Char}
    (hChar : c.isAlphanum = true) :
    isWordChar c = true := by
  have hAscii := toNat_lt_of_isAlphanum hChar
  simp [isWordChar, Unicode.isWordChar, hAscii,
    Unicode.isAsciiWordChar, hChar]

------------------------------------------------------------
-- Fixed Texts
------------------------------------------------------------

/- What is left behind a fixed text. -/
theorem isPrefixOf?_eq_some_iff
    {start t rest : Text} :
    start.isPrefixOf? t = some rest ↔ t = start ++ rest := by
  induction start generalizing t with
  | nil => simp [List.isPrefixOf?, eq_comm]
  | cons c start ih =>
      cases t with
      | nil => simp [List.isPrefixOf?]
      | cons d t =>
          by_cases hSame : c = d
          · subst hSame
            simp [List.isPrefixOf?, ih]
          · simp [List.isPrefixOf?, hSame, Ne.symm hSame]

@[simp] theorem isPrefixOf?_append
    (start rest : Text) :
    start.isPrefixOf? (start ++ rest) = some rest :=
  isPrefixOf?_eq_some_iff.mpr rfl

/- One of the texts was read, and the rest is left. -/
theorem oneOf?_split
    {choices : List Text}
    {t choice rest : Text}
    (hRead : oneOf? choices t = some (choice, rest)) :
    choice ∈ choices ∧ t = choice ++ rest := by
  rcases List.exists_of_findSome?_eq_some hRead with
    ⟨word, hWord, hSome⟩
  rw [Option.map_eq_some_iff] at hSome
  rcases hSome with ⟨tail, hTail, hPair⟩
  simp only [Prod.mk.injEq] at hPair
  rcases hPair with ⟨rfl, rfl⟩
  exact ⟨hWord, isPrefixOf?_eq_some_iff.mp hTail⟩

/- Whether none of the texts begins another one. -/
def arePrefixFree
    (choices : List Text) :
    Bool :=
  choices.all fun choice =>
    choices.all fun other =>
      choice == other || !choice.isPrefixOf other

theorem eq_of_begins
    {choices : List Text}
    (hFree : arePrefixFree choices = true)
    {choice other : Text}
    (hChoice : choice ∈ choices)
    (hOther : other ∈ choices)
    (hBegins : choice <+: other) :
    choice = other := by
  have hRow := List.all_eq_true.mp hFree choice hChoice
  have hPair := List.all_eq_true.mp hRow other hOther
  rw [Bool.or_eq_true, beq_iff_eq, Bool.not_eq_true',
    ← Bool.not_eq_true, List.isPrefixOf_iff_prefix] at hPair
  exact hPair.resolve_right (not_not_intro hBegins)

/- Then each of them is read where it stands. -/
theorem oneOf?_append
    {choices : List Text}
    (hFree : arePrefixFree choices = true)
    {choice : Text}
    (hChoice : choice ∈ choices)
    (rest : Text) :
    oneOf? choices (choice ++ rest) = some (choice, rest) := by
  have hSome : (oneOf? choices (choice ++ rest)).isSome := by
    rw [oneOf?, List.findSome?_isSome_iff]
    exact ⟨choice, hChoice, by simp⟩
  rcases Option.isSome_iff_exists.mp hSome with
    ⟨⟨other, tail⟩, hRead⟩
  rcases oneOf?_split hRead with ⟨hOther, hText⟩
  have hSame : choice = other := by
    rcases List.prefix_or_prefix_of_prefix
        (List.prefix_append choice rest) ⟨tail, hText.symm⟩ with
      hBegins | hBegins
    · exact eq_of_begins hFree hChoice hOther hBegins
    · exact (eq_of_begins hFree hOther hChoice hBegins).symm
  subst hSame
  rw [hRead, List.append_cancel_left hText]

------------------------------------------------------------
-- Blanks
------------------------------------------------------------

/- Only blanks are dropped. -/
theorem dropBlanks_split
    (t : Text) :
    ∃ blanks,
      t = blanks ++ dropBlanks t ∧
        ∀ c ∈ blanks, isBlank c = true :=
  ⟨t.takeWhile isBlank, by simp [dropBlanks], fun _ hMem =>
    List.mem_takeWhile_imp hMem⟩

theorem length_dropBlanks_le
    (t : Text) :
    (dropBlanks t).length ≤ t.length :=
  (List.dropWhile_sublist isBlank).length_le

theorem dropBlanks_cons_of_not_blank
    {c : Char}
    (hBlank : isBlank c = false)
    (rest : Text) :
    dropBlanks (c :: rest) = c :: rest := by
  simp [dropBlanks, hBlank]

/- A text of solid characters keeps its beginning. -/
theorem dropBlanks_append_of_solid
    {solid : Text}
    (hSolid : solid ≠ [])
    (hChars : ∀ c ∈ solid, isBlank c = false)
    (rest : Text) :
    dropBlanks (solid ++ rest) = solid ++ rest := by
  cases solid with
  | nil => exact absurd rfl hSolid
  | cons c solid =>
      exact dropBlanks_cons_of_not_blank
        (hChars c (by simp)) (solid ++ rest)

theorem dropBlanks_spaces
    (n : Nat)
    (t : Text) :
    dropBlanks (List.replicate n ' ' ++ t) =
      dropBlanks t := by
  induction n with
  | zero => rfl
  | succ n ih =>
      rw [List.replicate_succ, List.cons_append]
      exact ih

/- At least one blank was read, and only blanks. -/
theorem blanks?_split
    {t rest : Text}
    (hRead : blanks? t = some rest) :
    ∃ blank blanks,
      t = blank :: (blanks ++ rest) ∧
        ∀ c ∈ blank :: blanks, isBlank c = true := by
  unfold blanks? at hRead
  cases t with
  | nil => simp at hRead
  | cons c t =>
      simp only at hRead
      split at hRead
      next hBlank =>
        rcases dropBlanks_split t with
          ⟨blanks, hText, hBlanks⟩
        simp only [Option.some.injEq] at hRead
        rw [hRead] at hText
        refine ⟨c, blanks, by rw [hText], ?_⟩
        intro d hChar
        rcases List.mem_cons.mp hChar with rfl | hChar
        · exact hBlank
        · exact hBlanks d hChar
      next => simp at hRead

theorem dropBlanks_of_blanks?
    {t rest : Text}
    (hRead : blanks? t = some rest) :
    dropBlanks t = rest := by
  unfold blanks? at hRead
  cases t with
  | nil => simp at hRead
  | cons c t =>
      simp only at hRead
      split at hRead
      next hBlank =>
        rw [← Option.some.inj hRead]
        simp [dropBlanks, hBlank]
      next => simp at hRead

------------------------------------------------------------
-- Words
------------------------------------------------------------

/- A text is taken apart where its first part ends. -/
theorem span_append
    {test : Char → Bool}
    {front rest : Text}
    (hFront : ∀ c ∈ front, test c = true)
    (hRest : ∀ c ∈ rest.head?, test c = false) :
    (front ++ rest).span test = (front, rest) := by
  rw [List.span_eq_takeWhile_dropWhile,
    List.takeWhile_append_of_pos hFront,
    List.dropWhile_append_of_pos hFront]
  cases rest with
  | nil => simp
  | cons c rest =>
      have hStop : test c = false := hRest c rfl
      simp [hStop]

/- A run does not go beyond a text that fails the test. -/
theorem takeWhile_append_of_head
    {test : Char → Bool}
    {front back : Text}
    (hBack : ∀ c ∈ back.head?, test c = false) :
    (front ++ back).takeWhile test = front.takeWhile test := by
  induction front with
  | nil =>
      cases back with
      | nil => rfl
      | cons c back =>
          have hStop : test c = false := hBack c rfl
          rw [List.nil_append, List.takeWhile_cons, hStop]
          rfl
  | cons c front ih =>
      rw [List.cons_append, List.takeWhile_cons,
        List.takeWhile_cons, ih]

theorem span_split
    {test : Char → Bool}
    {t front rest : Text}
    (hSpan : t.span test = (front, rest)) :
    t = front ++ rest ∧ ∀ c ∈ front, test c = true := by
  rw [List.span_eq_takeWhile_dropWhile, Prod.mk.injEq] at hSpan
  rcases hSpan with ⟨rfl, rfl⟩
  constructor
  · exact List.takeWhile_append_dropWhile.symm
  · intro c hChar
    exact List.mem_takeWhile_imp hChar

theorem wordEndsAt_iff
    {t : Text} :
    wordEndsAt t = true ↔
      ∀ c ∈ t.head?, isWordChar c = false := by
  cases t with
  | nil => simp [wordEndsAt]
  | cons c t => simp [wordEndsAt]

/- A word is read up to its end. -/
theorem word?_append
    {word rest : Text}
    (hWord : word ≠ [])
    (hChars : ∀ c ∈ word, isWordChar c = true)
    (hEnds : wordEndsAt rest = true) :
    word? (word ++ rest) = some (word, rest) := by
  unfold word?
  rw [span_append hChars (wordEndsAt_iff.mp hEnds)]
  cases word with
  | nil => exact absurd rfl hWord
  | cons c word => rfl

------------------------------------------------------------
-- Fuel
------------------------------------------------------------

/-
  If the length of a text is fuel enough for one more step to
  change nothing, any more fuel gives what the length does.
-/
theorem eq_of_length_le
    {α : Type}
    {read : Nat → Text → α}
    (hSucc :
      ∀ {fuel t},
        t.length ≤ fuel → read (fuel + 1) t = read fuel t)
    {fuel : Nat}
    {t : Text}
    (hFuel : t.length ≤ fuel) :
    read fuel t = read t.length t := by
  induction fuel, hFuel using Nat.le_induction with
  | base => rfl
  | succ fuel hFuel ih => rw [hSucc hFuel, ih]

end Text

end RouteAtlas
