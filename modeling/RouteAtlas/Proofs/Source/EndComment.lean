import Mathlib
import RouteAtlas.Proofs.Source.Code

/-
  The comment at the end of a line.

  A line is its code and, behind the first `//` outside of
  string literals, a comment.  What is left without the
  comment keeps its literals; emptied, it is the code of the
  line, so the comment is exactly what the code of the line
  leaves out.

  Main statements:
    * `withoutComment_split`
    * `codeOnly_eq_emptyLiterals`
    * `codeOnly_withoutComment`
-/

------------------------------------------------------------
-- Comments
------------------------------------------------------------

namespace RouteAtlas

namespace Source

/- A comment that reaches to the end of its line. -/
def endComment
    (comment : Text) :
    Text :=
  '/' :: '/' :: comment

/-
  What precedes the first `//` outside of string literals,
  the literals kept.  `inside` tells whether the first
  character lies in a literal.
-/
def withoutCommentFrom :
    Bool → Text → Text
  | _, [] => []
  | true, '"' :: rest => '"' :: withoutCommentFrom false rest
  | true, '\\' :: c :: rest =>
      '\\' :: c :: withoutCommentFrom true rest
  | true, c :: rest => c :: withoutCommentFrom true rest
  | false, '"' :: rest =>
      '"' :: withoutCommentFrom (literalCloses rest) rest
  | false, '/' :: '/' :: _ => []
  | false, c :: rest => c :: withoutCommentFrom false rest

/- The line without the comment at its end. -/
def withoutComment
    (line : Text) :
    Text :=
  withoutCommentFrom false line

------------------------------------------------------------
-- Code and Comment
------------------------------------------------------------

/-
  Either there is no comment, or it follows code that does
  not end with a slash: the slash would begin the comment.
-/
def EndsBefore
    (t code : Text) :
    Prop :=
  code = t ∨
    ∃ comment,
      t = code ++ endComment comment ∧
        code.getLast? ≠ some '/'

theorem EndsBefore.cons
    {c : Char}
    {t code : Text}
    (hEnds : EndsBefore t code)
    (hSlash : code = [] → c = '/' → t = []) :
    EndsBefore (c :: t) (c :: code) := by
  rcases hEnds with rfl | ⟨comment, rfl, hLast⟩
  · exact Or.inl rfl
  · refine Or.inr ⟨comment, rfl, ?_⟩
    cases code with
    | nil =>
        intro hSame
        rw [List.getLast?_singleton, Option.some.injEq]
          at hSame
        exact absurd (hSlash rfl hSame) (by simp [endComment])
    | cons d code =>
        rw [List.getLast?_cons_cons]
        exact hLast

/- In a literal every character is kept. -/
theorem eq_nil_of_withoutCommentFrom
    {t : Text}
    (hEmpty : withoutCommentFrom true t = []) :
    t = [] := by
  unfold withoutCommentFrom at hEmpty
  split at hEmpty
  next => rfl
  all_goals simp_all

theorem withoutCommentFrom_split
    (inside : Bool)
    (t : Text) :
    EndsBefore t (withoutCommentFrom inside t) := by
  fun_induction withoutCommentFrom inside t with
  | case1 => exact Or.inl rfl
  | case2 rest ih => exact ih.cons (by simp)
  | case3 c rest ih =>
      have hInside :=
        ih.cons (c := c) fun hEmpty _ =>
          eq_nil_of_withoutCommentFrom hEmpty
      exact hInside.cons (by simp)
  | case4 c rest hQuote hEscape ih =>
      exact ih.cons fun hEmpty _ =>
        eq_nil_of_withoutCommentFrom hEmpty
  | case5 rest ih => exact ih.cons (by simp)
  | case6 rest => exact Or.inr ⟨rest, rfl, by simp⟩
  | case7 c rest hQuote hSlash ih =>
      refine ih.cons ?_
      rintro hEmpty rfl
      rcases ih with hWhole | ⟨comment, hRest, -⟩
      · rw [← hWhole, hEmpty]
      · rw [hEmpty, List.nil_append] at hRest
        exact absurd hRest (hSlash ('/' :: comment) rfl)

theorem withoutCommentFrom_isPrefix
    (inside : Bool)
    (t : Text) :
    withoutCommentFrom inside t <+: t := by
  rcases withoutCommentFrom_split inside t with
    hWhole | ⟨comment, hText, -⟩
  · rw [hWhole]
  · exact ⟨endComment comment, hText.symm⟩

/- What is kept first comes first. -/
theorem of_withoutCommentFrom_cons
    {inside : Bool}
    {t tail : Text}
    {c : Char}
    (hKept : withoutCommentFrom inside t = c :: tail) :
    ∃ rest, t = c :: rest := by
  have hPrefix := withoutCommentFrom_isPrefix inside t
  rw [hKept] at hPrefix
  rcases hPrefix with ⟨back, rfl⟩
  exact ⟨tail ++ back, rfl⟩

/- A line is its code and the comment at its end. -/
theorem withoutComment_split
    (line : Text) :
    EndsBefore line (withoutComment line) :=
  withoutCommentFrom_split false line

------------------------------------------------------------
-- Literals and Comments
------------------------------------------------------------

theorem literalCloses_cons
    {c : Char}
    (hQuote : c ≠ '"')
    (hEscape : c ≠ '\\')
    (rest : Text) :
    literalCloses (c :: rest) = literalCloses rest := by
  rw [literalCloses]
  · exact hQuote
  · rintro d tail rfl
    exact absurd rfl hEscape
  · rintro rfl
    exact absurd rfl hEscape

/- A backslash escapes the next character or stands last. -/
theorem ne_backslash
    {c : Char}
    {rest : Text}
    (hPair :
      ∀ d tail, c = '\\' → rest = d :: tail → False)
    (hLast : c = '\\' → rest = [] → False) :
    c ≠ '\\' := by
  intro hEscape
  cases rest with
  | nil => exact hLast hEscape rfl
  | cons d tail => exact hPair d tail hEscape rfl

/- A quote that closes a literal closes it in longer text. -/
theorem literalCloses_of_prefix
    {front t : Text}
    (hPrefix : front <+: t)
    (hCloses : literalCloses front = true) :
    literalCloses t = true := by
  rcases hPrefix with ⟨back, rfl⟩
  fun_induction literalCloses front with
  | case1 => simp at hCloses
  | case2 rest => rfl
  | case3 c rest ih =>
      rw [Bool.and_eq_true] at hCloses
      simp [literalCloses, hCloses.1, ih hCloses.2]
  | case4 => simp at hCloses
  | case5 c rest hQuote hPair hLast ih =>
      rw [List.cons_append,
        literalCloses_cons hQuote (ne_backslash hPair hLast)]
      exact ih hCloses

/- A literal that is closed stands before the comment. -/
theorem literalCloses_withoutCommentFrom
    {t : Text}
    (hCloses : literalCloses t = true) :
    literalCloses (withoutCommentFrom true t) = true := by
  fun_induction literalCloses t with
  | case1 => simp at hCloses
  | case2 rest => rfl
  | case3 c rest ih =>
      rw [Bool.and_eq_true] at hCloses
      rw [withoutCommentFrom]
      simp [literalCloses, hCloses.1, ih hCloses.2]
  | case4 => simp at hCloses
  | case5 c rest hQuote hPair hLast ih =>
      rw [withoutCommentFrom,
        literalCloses_cons hQuote (ne_backslash hPair hLast)]
      · exact ih hCloses
      · exact hQuote
      · exact hPair

/-
  Dropping the comment decides about no literal: one that is
  closed keeps its quote, and no other is closed by it.
-/
theorem withoutCommentFrom_literalCloses
    (rest : Text) :
    literalCloses
        (withoutCommentFrom (literalCloses rest) rest) =
      literalCloses rest := by
  cases hCloses : literalCloses rest with
  | true => exact literalCloses_withoutCommentFrom hCloses
  | false =>
      rw [← Bool.not_eq_true]
      intro hKept
      have hWhole :=
        literalCloses_of_prefix
          (withoutCommentFrom_isPrefix false rest) hKept
      rw [hCloses] at hWhole
      exact absurd hWhole (by simp)

------------------------------------------------------------
-- What the Code Leaves Out
------------------------------------------------------------

/- Outside of literals slashes are kept where they stand. -/
theorem emptyLiteralsFrom_slash
    {t tail : Text}
    (hSlash : emptyLiteralsFrom false t = '/' :: tail) :
    ∃ rest, t = '/' :: rest := by
  unfold emptyLiteralsFrom at hSlash
  split at hSlash
  all_goals simp_all
  all_goals split at hSlash
  all_goals simp_all

theorem beforeComment_cons
    {c : Char}
    {t : Text}
    (hSlash : c = '/' → ∀ tail, t ≠ '/' :: tail) :
    beforeComment (c :: t) = c :: beforeComment t := by
  rw [beforeComment]
  intro tail hFirst hNext
  exact hSlash hFirst tail hNext

/-
  Along the reading of literals: emptied first and cut off
  then, a line is the same as cut off first.
-/
theorem beforeComment_emptyLiteralsFrom
    (inside : Bool)
    (t : Text) :
    beforeComment (emptyLiteralsFrom inside t) =
      emptyLiteralsFrom inside
        (withoutCommentFrom inside t) := by
  fun_induction emptyLiteralsFrom inside t with
  | case1 inside => cases inside <;> rfl
  | case2 rest ih =>
      rw [withoutCommentFrom, emptyLiteralsFrom]
      exact ih
  | case3 c rest ih =>
      rw [withoutCommentFrom, emptyLiteralsFrom]
      exact ih
  | case4 c rest hQuote hPair ih =>
      rw [withoutCommentFrom, emptyLiteralsFrom]
      · exact ih
      · exact hQuote
      · intro d tail hEscape hKept
        rcases of_withoutCommentFrom_cons hKept with
          ⟨back, hRest⟩
        exact hPair d back hEscape hRest
      · exact hQuote
      · exact hPair
  | case5 rest hCloses ih =>
      have hKept := withoutCommentFrom_literalCloses rest
      rw [hCloses] at hKept
      have hCut :
          withoutCommentFrom false ('@' :: '"' :: rest) =
            '@' :: '"' :: withoutCommentFrom true rest := by
        simp [withoutCommentFrom, hCloses]
      rw [hCut, emptyLiteralsFrom, if_pos hKept, ← ih]
      rfl
  | case6 rest hOpen ih =>
      have hKept := withoutCommentFrom_literalCloses rest
      rw [Bool.not_eq_true] at hOpen
      rw [hOpen] at hKept
      have hCut :
          withoutCommentFrom false ('@' :: '"' :: rest) =
            '@' :: '"' :: withoutCommentFrom false rest := by
        simp [withoutCommentFrom, hOpen]
      rw [hCut, emptyLiteralsFrom, hKept,
        if_neg (by simp), ← ih]
      simp [beforeComment]
  | case7 rest hCloses ih =>
      have hKept := withoutCommentFrom_literalCloses rest
      rw [hCloses] at hKept
      rw [withoutCommentFrom, hCloses, emptyLiteralsFrom,
        if_pos hKept, ← ih]
      rfl
  | case8 rest hOpen ih =>
      have hKept := withoutCommentFrom_literalCloses rest
      rw [Bool.not_eq_true] at hOpen
      rw [hOpen] at hKept
      rw [withoutCommentFrom, hOpen, emptyLiteralsFrom,
        hKept, if_neg (by simp), ← ih]
      simp [beforeComment]
  | case9 c rest hVerbatim hQuote ih =>
      by_cases hComment : c = '/' ∧ ∃ tail, rest = '/' :: tail
      · rcases hComment with ⟨rfl, tail, rfl⟩
        rfl
      · have hSlash :
            c = '/' →
              ∀ tail,
                emptyLiteralsFrom false rest ≠ '/' :: tail := by
          intro hFirst tail hNext
          exact hComment
            ⟨hFirst, emptyLiteralsFrom_slash hNext⟩
        rw [beforeComment_cons hSlash, ih, withoutCommentFrom,
          emptyLiteralsFrom]
        · intro tail hFirst hKept
          rcases of_withoutCommentFrom_cons hKept with
            ⟨back, hRest⟩
          exact hVerbatim back hFirst hRest
        · exact hQuote
        · exact hQuote
        · intro tail hFirst hNext
          exact hComment ⟨hFirst, tail, hNext⟩

/- The code of a line is what precedes its comment. -/
theorem codeOnly_eq_emptyLiterals
    (line : Text) :
    codeOnly line = emptyLiterals (withoutComment line) :=
  beforeComment_emptyLiteralsFrom false line

/- What precedes a comment holds no comment. -/
theorem beforeComment_beforeComment
    (t : Text) :
    beforeComment (beforeComment t) = beforeComment t := by
  fun_induction beforeComment t with
  | case1 => rfl
  | case2 rest => rfl
  | case3 c rest hSlash ih =>
      rw [beforeComment_cons, ih]
      intro hFirst tail hNext
      rcases beforeComment_prefix rest with ⟨back, hRest⟩
      rw [hNext] at hRest
      exact hSlash (tail ++ back) hFirst hRest.symm

/- A line and the line without its comment have one code. -/
theorem codeOnly_withoutComment
    (line : Text) :
    codeOnly (withoutComment line) = codeOnly line := by
  have hEmptied := codeOnly_eq_emptyLiterals line
  have hCode :
      codeOnly (withoutComment line) =
        beforeComment (emptyLiterals (withoutComment line)) :=
    rfl
  rw [hCode, ← hEmptied]
  exact beforeComment_beforeComment (emptyLiterals line)

end Source

end RouteAtlas
