import Mathlib
import RouteAtlas.Proofs.Source.Attribute
import RouteAtlas.Proofs.Source.CommentedHeader

/-
  Attributes before a comment.

  An attribute ends with a comma or a bracket, before the
  comment of its line.  Only a template that is quoted up to
  the comment, or arguments that are closed in it, could
  reach further; a comment without closing parentheses
  offers them no end.

  Main statements:
    * `readVerbAttribute_endComment`
    * `readRouteAttribute_endComment`
-/

------------------------------------------------------------
-- Arguments
------------------------------------------------------------

namespace RouteAtlas

namespace Source

open Text

variable {comment : Text}

theorem attributeEnds_endComment
    (t : Text) :
    attributeEnds (t ++ endComment comment) =
      attributeEnds t := by
  unfold attributeEnds
  rw [dropBlanks_endComment]
  cases dropBlanks t with
  | nil => rfl
  | cons c rest =>
      by_cases hComma : c = ','
      · simp [hComma]
      · by_cases hBracket : c = ']'
        · simp [hBracket]
        · simp [hComma, hBracket]

theorem endOfAttribute?_endComment
    (t : Text) :
    endOfAttribute? (t ++ endComment comment) =
      (endOfAttribute? t).map (· ++ endComment comment) := by
  unfold endOfAttribute?
  rw [attributeEnds_endComment]
  split
  · rfl
  · rfl

theorem closeArguments?_endComment
    (hParen : ')' ∉ comment)
    (t : Text) :
    closeArguments? (t ++ endComment comment) =
      (closeArguments? t).map (· ++ endComment comment) := by
  have hMark := not_mem_endComment (by decide) hParen
  unfold closeArguments?
  rw [after?_endComment hMark]
  cases after? ')' t with
  | none => rfl
  | some rest => exact endOfAttribute?_endComment rest

/- Without a parenthesis no arguments are closed. -/
theorem closeArguments?_eq_none
    {t : Text}
    (hParen : ')' ∉ t) :
    closeArguments? t = none := by
  unfold closeArguments?
  rw [after?_eq_none hParen]
  rfl

theorem openArguments?_endComment
    (t : Text) :
    openArguments? (t ++ endComment comment) =
      (openArguments? t).map (· ++ endComment comment) := by
  unfold openArguments?
  rw [dropBlanks_endComment]
  cases dropBlanks t with
  | nil => rfl
  | cons c rest =>
      by_cases hParen : c = '('
      · subst hParen
        rfl
      · simp [hParen]

/-
  A quoted template ends before the comment, or what follows
  it is part of the comment.
-/
theorem quotedTemplate?_endComment
    (t : Text) :
    quotedTemplate? (t ++ endComment comment) =
        (quotedTemplate? t).map
          (fun (template, rest) =>
            (template, rest ++ endComment comment)) ∨
      quotedTemplate? t = none ∧
        ∀ template rest,
          quotedTemplate? (t ++ endComment comment) =
              some (template, rest) →
            rest <:+ endComment comment := by
  cases t with
  | nil => exact Or.inl rfl
  | cons c t =>
      by_cases hQuote : c = '"'
      · subst hQuote
        by_cases hCloses : '"' ∈ t
        · left
          rcases List.eq_append_cons_of_mem hCloses with
            ⟨template, rest, rfl, hTemplate⟩
          simp only [quotedTemplate?, List.cons_append,
            List.append_assoc, after?_append hTemplate,
            before_append hTemplate, Option.map_some]
        · right
          simp only [quotedTemplate?, List.cons_append,
            after?_eq_none hCloses, Option.map_none,
            after?_append_of_not_mem hCloses, true_and]
          intro template rest hRead
          rcases Option.map_eq_some_iff.mp hRead with
            ⟨tail, hTail, hPair⟩
          rw [Prod.mk.injEq] at hPair
          rw [← hPair.2]
          exact suffix_of_after? hTail
      · left
        simp [quotedTemplate?, hQuote]

theorem templateArguments?_endComment
    (hParen : ')' ∉ comment)
    (t : Text) :
    templateArguments? (t ++ endComment comment) =
      (templateArguments? t).map fun (template, rest) =>
        (template, rest ++ endComment comment) := by
  unfold templateArguments?
  rw [dropBlanks_endComment]
  rcases quotedTemplate?_endComment (dropBlanks t) with
    hBefore | ⟨hNone, hWithin⟩
  · rw [hBefore]
    cases quotedTemplate? (dropBlanks t) with
    | none => rfl
    | some quoted =>
        simp only [Option.map_some, Option.bind_eq_bind,
          Option.bind_some,
          closeArguments?_endComment hParen]
        cases closeArguments? quoted.2 <;> rfl
  · rw [hNone]
    cases hQuoted :
        quotedTemplate? (dropBlanks t ++ endComment comment)
      with
    | none => rfl
    | some quoted =>
        have hRest := hWithin quoted.1 quoted.2 hQuoted
        have hOpen :
            closeArguments? quoted.2 = none := by
          apply closeArguments?_eq_none
          intro hMember
          exact not_mem_endComment (by decide) hParen
            (hRest.subset hMember)
        simp [hOpen]

theorem verbArguments?_endComment
    (hParen : ')' ∉ comment)
    (t : Text) :
    verbArguments? (t ++ endComment comment) =
      (verbArguments? t).map fun (template, rest) =>
        (template, rest ++ endComment comment) := by
  unfold verbArguments?
  rw [openArguments?_endComment]
  cases openArguments? t with
  | none =>
      simp only [Option.map_none,
        endOfAttribute?_endComment, Option.map_map]
      rfl
  | some arguments =>
      simp only [Option.map_some,
        templateArguments?_endComment hParen,
        closeArguments?_endComment hParen]
      cases templateArguments? arguments with
      | none =>
          simp only [Option.map_none, Option.map_map]
          rfl
      | some read => rfl

------------------------------------------------------------
-- Attributes
------------------------------------------------------------

theorem verbWord?_endComment
    (t : Text) :
    verbWord? (t ++ endComment comment) =
      (verbWord? t).map fun (verb, rest) =>
        (verb, rest ++ endComment comment) := by
  have hWords : ∀ pair ∈ verbWords, '/' ∉ pair.1 := by
    decide
  apply findSome?_eq_map
  rintro ⟨word, verb⟩ hPair
  simp only [isPrefixOf?_endComment (hWords _ hPair)]
  cases word.isPrefixOf? t with
  | none => rfl
  | some rest => rfl

/- A verb attribute is read before the comment. -/
theorem readVerbAttribute_endComment
    (hParen : ')' ∉ comment)
    (previous : Option Char)
    (t : Text) :
    readVerbAttribute previous (t ++ endComment comment) =
      readVerbAttribute previous t := by
  have hHttp : '/' ∉ "Http".toList := by decide
  unfold readVerbAttribute
  split
  next =>
    rw [isPrefixOf?_endComment hHttp]
    cases "Http".toList.isPrefixOf? t with
    | none => rfl
    | some worded =>
        simp only [Option.map_some, Option.bind_eq_bind,
          Option.bind_some, verbWord?_endComment]
        cases verbWord? worded with
        | none => rfl
        | some read =>
            simp only [Option.map_some, Option.bind_some,
              verbArguments?_endComment hParen]
            cases verbArguments? read.2 with
            | none => rfl
            | some arguments =>
                simp [Nat.add_sub_add_right]
  next => rfl

/- A route attribute is read before the comment. -/
theorem readRouteAttribute_endComment
    (hParen : ')' ∉ comment)
    (previous : Option Char)
    (t : Text) :
    readRouteAttribute previous (t ++ endComment comment) =
      readRouteAttribute previous t := by
  have hRoute : '/' ∉ "Route".toList := by decide
  unfold readRouteAttribute
  split
  next =>
    rw [isPrefixOf?_endComment hRoute]
    cases "Route".toList.isPrefixOf? t with
    | none => rfl
    | some opened =>
        simp only [Option.map_some, Option.bind_eq_bind,
          Option.bind_some, openArguments?_endComment]
        cases openArguments? opened with
        | none => rfl
        | some arguments =>
            simp only [Option.map_some, Option.bind_some,
              templateArguments?_endComment hParen]
            cases templateArguments? arguments with
            | none => rfl
            | some template =>
                simp [Nat.add_sub_add_right]
  next => rfl

end Source

end RouteAtlas
