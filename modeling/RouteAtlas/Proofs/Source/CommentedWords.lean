import Mathlib
import RouteAtlas.Proofs.Source.EndComment
import RouteAtlas.Proofs.Source.Header
import RouteAtlas.Proofs.Text.Split

/-
  Reading words before a comment.

  A comment begins with a slash, which is no blank, part of
  no word and none of the marks of a declaration.  So what
  is read before a comment is what is read at the end of a
  line, and the comment is left behind the rest.

  Main statements:
    * `isPrefixOf?_endComment`
    * `wordThenBlanks?_endComment`
    * `skipWords_endComment`
    * `word?_endComment`
    * `after?_endComment`
-/

------------------------------------------------------------
-- Characters
------------------------------------------------------------

namespace RouteAtlas

namespace Source

open Text

variable {comment : Text}

/- Characters are passed up to the comment at the most. -/
theorem takeWhile_endComment
    {test : Char → Bool}
    (hSlash : test '/' = false)
    (t : Text) :
    (t ++ endComment comment).takeWhile test =
      t.takeWhile test := by
  induction t with
  | nil => simp [endComment, hSlash]
  | cons c t ih =>
      rw [List.cons_append, List.takeWhile_cons, ih,
        List.takeWhile_cons]

theorem dropWhile_endComment
    {test : Char → Bool}
    (hSlash : test '/' = false)
    (t : Text) :
    (t ++ endComment comment).dropWhile test =
      t.dropWhile test ++ endComment comment := by
  induction t with
  | nil => simp [endComment, hSlash]
  | cons c t ih =>
      rw [List.cons_append, List.dropWhile_cons, ih,
        List.dropWhile_cons]
      split
      · rfl
      · rfl

theorem dropBlanks_endComment
    (t : Text) :
    dropBlanks (t ++ endComment comment) =
      dropBlanks t ++ endComment comment :=
  dropWhile_endComment (by decide) t

theorem blanks?_endComment
    (t : Text) :
    blanks? (t ++ endComment comment) =
      (blanks? t).map (· ++ endComment comment) := by
  cases t with
  | nil =>
      have hSlash : isBlank '/' = false := by decide
      simp [blanks?, endComment, hSlash]
  | cons c t =>
      unfold blanks?
      simp only [List.cons_append, dropBlanks_endComment]
      split
      · rfl
      · rfl

theorem wordEndsAt_endComment
    (t : Text) :
    wordEndsAt (t ++ endComment comment) = wordEndsAt t := by
  cases t with
  | nil => exact (by decide : wordEndsAt ['/'] = true)
  | cons c t => rfl

theorem word?_endComment
    (t : Text) :
    word? (t ++ endComment comment) =
      (word? t).map fun (word, rest) =>
        (word, rest ++ endComment comment) := by
  have hSlash : isWordChar '/' = false := by decide
  unfold word?
  rw [List.span_eq_takeWhile_dropWhile,
    List.span_eq_takeWhile_dropWhile,
    takeWhile_endComment hSlash,
    dropWhile_endComment hSlash]
  cases t.takeWhile isWordChar with
  | nil => rfl
  | cons c word => rfl

------------------------------------------------------------
-- Fixed Texts
------------------------------------------------------------

/- A text without slashes is read before the comment. -/
theorem isPrefixOf?_endComment
    {word : Text}
    (hSlash : '/' ∉ word)
    (t : Text) :
    word.isPrefixOf? (t ++ endComment comment) =
      (word.isPrefixOf? t).map
        (· ++ endComment comment) := by
  induction word generalizing t with
  | nil => simp [List.isPrefixOf?]
  | cons c word ih =>
      rw [List.mem_cons, not_or] at hSlash
      cases t with
      | nil =>
          simp [List.isPrefixOf?, endComment,
            Ne.symm hSlash.1]
      | cons d t =>
          rw [List.cons_append, List.isPrefixOf?,
            List.isPrefixOf?, ih hSlash.2]
          split
          · rfl
          · rfl

/- Choices that each read alike read alike together. -/
theorem findSome?_eq_map
    {α β : Type}
    {choices : List α}
    {read read' : α → Option β}
    {change : β → β}
    (hRead :
      ∀ choice ∈ choices,
        read' choice = (read choice).map change) :
    choices.findSome? read' =
      (choices.findSome? read).map change := by
  induction choices with
  | nil => rfl
  | cons choice choices ih =>
      rw [List.forall_mem_cons] at hRead
      rw [List.findSome?_cons, List.findSome?_cons, hRead.1,
        ih hRead.2]
      cases read choice with
      | none => rfl
      | some b => rfl

theorem oneOf?_endComment
    {words : List Text}
    (hSlash : ∀ word ∈ words, '/' ∉ word)
    (t : Text) :
    oneOf? words (t ++ endComment comment) =
      (oneOf? words t).map fun (word, rest) =>
        (word, rest ++ endComment comment) := by
  apply findSome?_eq_map
  intro word hWord
  rw [isPrefixOf?_endComment (hSlash word hWord)]
  cases word.isPrefixOf? t with
  | none => rfl
  | some rest => rfl

/- What follows a mark that the comment does not hold. -/
theorem after?_endComment
    {mark : Char}
    (hMark : mark ∉ endComment comment)
    (t : Text) :
    after? mark (t ++ endComment comment) =
      (after? mark t).map (· ++ endComment comment) := by
  induction t with
  | nil => exact after?_eq_none hMark
  | cons c t ih =>
      rw [List.cons_append, after?, after?, ih]
      split
      · rfl
      · rfl

------------------------------------------------------------
-- Words
------------------------------------------------------------

section Words

variable {words : List Text}
variable (hSlash : ∀ word ∈ words, '/' ∉ word)

include hSlash

theorem wordThenBlanks?_endComment
    (t : Text) :
    wordThenBlanks? words (t ++ endComment comment) =
      (wordThenBlanks? words t).map
        (· ++ endComment comment) := by
  unfold wordThenBlanks?
  rw [oneOf?_endComment hSlash]
  cases oneOf? words t with
  | none => rfl
  | some read => exact blanks?_endComment read.2

theorem skipWord_endComment
    (t : Text) :
    skipWord words (t ++ endComment comment) =
      skipWord words t ++ endComment comment := by
  unfold skipWord
  rw [wordThenBlanks?_endComment hSlash]
  cases wordThenBlanks? words t with
  | none => rfl
  | some rest => rfl

theorem skipWordsUpTo_endComment
    (fuel : Nat)
    (t : Text) :
    skipWordsUpTo words fuel (t ++ endComment comment) =
      skipWordsUpTo words fuel t ++ endComment comment := by
  induction fuel generalizing t with
  | zero => rfl
  | succ fuel ih =>
      rw [skipWordsUpTo, wordThenBlanks?_endComment hSlash,
        skipWordsUpTo]
      cases wordThenBlanks? words t with
      | none => rfl
      | some rest => exact ih rest

end Words

/- A word with blanks behind it takes characters. -/
theorem length_lt_of_wordThenBlanks?
    {words : List Text}
    {t rest : Text}
    (hRead : wordThenBlanks? words t = some rest) :
    rest.length < t.length := by
  rcases wordThenBlanks?_split hRead with
    ⟨word, -, blank, blanks, rfl, -⟩
  simp
  omega

/- A text without characters has no word to skip. -/
theorem skipWordsUpTo_succ
    (words : List Text)
    {fuel : Nat}
    {t : Text}
    (hFuel : t.length ≤ fuel) :
    skipWordsUpTo words (fuel + 1) t =
      skipWordsUpTo words fuel t := by
  induction fuel generalizing t with
  | zero =>
      simp only [skipWordsUpTo]
      cases hRead : wordThenBlanks? words t with
      | none => rfl
      | some rest =>
          have hShort := length_lt_of_wordThenBlanks? hRead
          omega
  | succ fuel ih =>
      rw [skipWordsUpTo, skipWordsUpTo]
      cases hRead : wordThenBlanks? words t with
      | none => rfl
      | some rest =>
          have hShort := length_lt_of_wordThenBlanks? hRead
          exact ih (by omega)

/- The length of a text is fuel enough for it. -/
theorem skipWordsUpTo_eq
    (words : List Text)
    {fuel : Nat}
    {t : Text}
    (hFuel : t.length ≤ fuel) :
    skipWordsUpTo words fuel t = skipWords words t :=
  eq_of_length_le (skipWordsUpTo_succ words) hFuel

theorem skipWords_endComment
    {words : List Text}
    (hSlash : ∀ word ∈ words, '/' ∉ word)
    (t : Text) :
    skipWords words (t ++ endComment comment) =
      skipWords words t ++ endComment comment := by
  have hFuel :
      t.length ≤ (t ++ endComment comment).length := by
    simp
  rw [← skipWordsUpTo_eq words hFuel]
  exact skipWordsUpTo_endComment hSlash _ t

end Source

end RouteAtlas
