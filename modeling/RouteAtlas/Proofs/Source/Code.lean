import Mathlib
import RouteAtlas.Source.Body
import RouteAtlas.Source.MethodHeader

/-
  The code of a line, and the braces in it.

  A line without quotes keeps its characters up to a comment;
  a literal without escapes is emptied whatever it holds.
  Braces of balanced lines cancel, so a body closes where
  the lines within it leave the depth as it was.

  Main statements:
    * `codeOnly_of_no_quote`
    * `codeOnly_literal`
    * `linesToClose_append`
-/

------------------------------------------------------------
-- String Literals
------------------------------------------------------------

namespace RouteAtlas

namespace Source

open Text

/- Text before a literal is kept. -/
theorem emptyLiteralsFrom_append
    {front : Text}
    (hQuote : '"' ∉ front)
    (hAt : '@' ∉ front)
    (rest : Text) :
    emptyLiteralsFrom false (front ++ rest) =
      front ++ emptyLiteralsFrom false rest := by
  induction front with
  | nil => rfl
  | cons c front ih =>
      rw [List.mem_cons, not_or] at hQuote hAt
      rw [List.cons_append, emptyLiteralsFrom,
        ih hQuote.2 hAt.2, List.cons_append]
      · rintro tail rfl
        exact absurd rfl hAt.1
      · rintro rfl
        exact absurd rfl hQuote.1

/- Without a quote there is no literal. -/
theorem emptyLiterals_of_no_quote
    {t : Text}
    (hQuote : '"' ∉ t) :
    emptyLiterals t = t := by
  unfold emptyLiterals
  induction t with
  | nil => rfl
  | cons c t ih =>
      rw [List.mem_cons, not_or] at hQuote
      rw [emptyLiteralsFrom, ih hQuote.2]
      · rintro tail rfl rfl
        exact absurd List.mem_cons_self hQuote.2
      · rintro rfl
        exact absurd rfl hQuote.1

/- A literal without escapes closes at the next quote. -/
theorem literalCloses_append
    {template : Text}
    (hQuote : '"' ∉ template)
    (hEscape : '\\' ∉ template)
    (rest : Text) :
    literalCloses (template ++ '"' :: rest) = true := by
  induction template with
  | nil => rfl
  | cons c template ih =>
      rw [List.mem_cons, not_or] at hQuote hEscape
      rw [List.cons_append, literalCloses]
      · exact ih hQuote.2 hEscape.2
      · rintro rfl
        exact absurd rfl hQuote.1
      · rintro d tail rfl
        exact absurd rfl hEscape.1
      · rintro rfl
        exact absurd rfl hEscape.1

/- What a literal holds is dropped. -/
theorem emptyLiteralsFrom_inside
    {template : Text}
    (hQuote : '"' ∉ template)
    (hEscape : '\\' ∉ template)
    (rest : Text) :
    emptyLiteralsFrom true (template ++ '"' :: rest) =
      emptyLiteralsFrom false rest := by
  induction template with
  | nil => rfl
  | cons c template ih =>
      rw [List.mem_cons, not_or] at hQuote hEscape
      rw [List.cons_append, emptyLiteralsFrom]
      · exact ih hQuote.2 hEscape.2
      · rintro rfl
        exact absurd rfl hQuote.1
      · rintro d tail rfl
        exact absurd rfl hEscape.1

/- A literal is emptied and the text around it kept. -/
theorem emptyLiterals_literal
    {front template back : Text}
    (hFront : '"' ∉ front ∧ '@' ∉ front)
    (hQuote : '"' ∉ template)
    (hEscape : '\\' ∉ template)
    (hBack : '"' ∉ back) :
    emptyLiterals
        (front ++ '"' :: (template ++ '"' :: back)) =
      front ++ '"' :: '"' :: back := by
  have hKept := emptyLiterals_of_no_quote hBack
  unfold emptyLiterals at hKept ⊢
  rw [emptyLiteralsFrom_append hFront.1 hFront.2,
    emptyLiteralsFrom,
    if_pos (literalCloses_append hQuote hEscape back),
    emptyLiteralsFrom_inside hQuote hEscape, hKept]

------------------------------------------------------------
-- Comments
------------------------------------------------------------

theorem beforeComment_prefix
    (t : Text) :
    beforeComment t <+: t := by
  induction t using beforeComment.induct with
  | case1 => exact List.nil_prefix
  | case2 rest => exact List.nil_prefix
  | case3 c rest hSlash ih =>
      rw [beforeComment]
      · exact List.cons_prefix_cons.mpr ⟨rfl, ih⟩
      · exact hSlash

/- Without a slash there is no comment. -/
theorem beforeComment_of_no_slash
    {t : Text}
    (hSlash : '/' ∉ t) :
    beforeComment t = t := by
  induction t with
  | nil => rfl
  | cons c t ih =>
      rw [List.mem_cons, not_or] at hSlash
      rw [beforeComment, ih hSlash.2]
      rintro tail rfl
      exact absurd rfl hSlash.1

------------------------------------------------------------
-- Code
------------------------------------------------------------

/- Code without quotes is the line up to a comment. -/
theorem codeOnly_of_no_quote
    {line : Text}
    (hQuote : '"' ∉ line) :
    codeOnly line <+: line := by
  unfold codeOnly
  rw [emptyLiterals_of_no_quote hQuote]
  exact beforeComment_prefix line

/- Plain code is the whole line. -/
theorem codeOnly_of_plain
    {line : Text}
    (hQuote : '"' ∉ line)
    (hSlash : '/' ∉ line) :
    codeOnly line = line := by
  unfold codeOnly
  rw [emptyLiterals_of_no_quote hQuote,
    beforeComment_of_no_slash hSlash]

/- Of code around a literal only the literal is dropped. -/
theorem codeOnly_literal
    {front template back : Text}
    (hFront : '"' ∉ front ∧ '@' ∉ front ∧ '/' ∉ front)
    (hQuote : '"' ∉ template)
    (hEscape : '\\' ∉ template)
    (hBack : '"' ∉ back ∧ '/' ∉ back) :
    codeOnly (front ++ '"' :: (template ++ '"' :: back)) =
      front ++ '"' :: '"' :: back := by
  unfold codeOnly
  rw [emptyLiterals_literal ⟨hFront.1, hFront.2.1⟩ hQuote
    hEscape hBack.1]
  apply beforeComment_of_no_slash
  simp [hFront.2.2, hBack.2]

------------------------------------------------------------
-- Ends of Code
------------------------------------------------------------

/- A character that fails the test ends what is kept. -/
theorem dropEndWhile_append
    {test : Char → Bool}
    {c : Char}
    (hKept : test c = false)
    (front : Text) :
    dropEndWhile test (front ++ [c]) = front ++ [c] := by
  induction front with
  | nil => simp [dropEndWhile, hKept]
  | cons d front ih =>
      rw [List.cons_append, dropEndWhile, ih]
      cases front <;> rfl

/- The last character that is no blank ends the code. -/
theorem endsMember_append
    {c : Char}
    (hSolid : isBlank c = false)
    (front : Text) :
    endsMember (front ++ [c]) =
      (c == '{' || c == '}' || c == ';') := by
  unfold endsMember stripEnd
  rw [dropEndWhile_append hSolid]
  simp

------------------------------------------------------------
-- Braces
------------------------------------------------------------

/- Code without braces changes nothing. -/
theorem Braces.after_append
    {front : Text}
    (hOpening : '{' ∉ front)
    (hClosing : '}' ∉ front)
    (state : Braces)
    (rest : Text) :
    state.after (front ++ rest) = state.after rest := by
  induction front with
  | nil => rfl
  | cons c front ih =>
      rw [List.mem_cons, not_or] at hOpening hClosing
      rw [List.cons_append, Braces.after]
      simp [Ne.symm hOpening.1, Ne.symm hClosing.1,
        ih hOpening.2 hClosing.2]

theorem Braces.after_of_no_brace
    {code : Text}
    (hOpening : '{' ∉ code)
    (hClosing : '}' ∉ code)
    (state : Braces) :
    state.after code = some state := by
  rw [← List.append_nil code,
    Braces.after_append hOpening hClosing]
  rfl

/- The state after some lines, unless one of them closes. -/
def Braces.through
    (state : Braces) :
    List Text → Option Braces
  | [] => some state
  | line :: rest =>
      (state.after (codeOnly line)).bind fun state =>
        state.through rest

theorem Braces.through_append
    {state middle : Braces}
    {front : List Text}
    (hFront : state.through front = some middle)
    (rest : List Text) :
    state.through (front ++ rest) = middle.through rest := by
  induction front generalizing state with
  | nil =>
      rw [Braces.through, Option.some.injEq] at hFront
      rw [hFront]
      rfl
  | cons line front ih =>
      rw [Braces.through] at hFront
      rw [List.cons_append, Braces.through]
      cases hLine : state.after (codeOnly line) with
      | none => simp [hLine] at hFront
      | some next =>
          rw [hLine, Option.bind_some] at hFront
          exact ih hFront

/- Lines that leave a state as it is leave it together. -/
theorem Braces.through_of_forall
    {state : Braces}
    {lines : List Text}
    (hLines :
      ∀ line ∈ lines,
        state.after (codeOnly line) = some state) :
    state.through lines = some state := by
  induction lines with
  | nil => rfl
  | cons line lines ih =>
      rw [List.forall_mem_cons] at hLines
      rw [Braces.through, hLines.1, Option.bind_some]
      exact ih hLines.2

/- Lines that close no body are passed. -/
theorem linesToClose_append
    {state middle : Braces}
    {front : List Text}
    (hFront : state.through front = some middle)
    (rest : List Text) :
    linesToClose state (front ++ rest) =
      front.length + linesToClose middle rest := by
  induction front generalizing state with
  | nil =>
      rw [Braces.through, Option.some.injEq] at hFront
      rw [hFront]
      simp
  | cons line front ih =>
      rw [Braces.through] at hFront
      cases hLine : state.after (codeOnly line) with
      | none => simp [hLine] at hFront
      | some next =>
          rw [hLine, Option.bind_some] at hFront
          rw [List.cons_append, linesToClose, hLine]
          simp only
          rw [ih hFront, List.length_cons]
          omega

end Source

end RouteAtlas
