import Mathlib
import RouteAtlas.Proofs.Source.CommentedWords

/-
  Headers before a comment.

  A header ends before the comment of its line, unless a
  group that the header opens is closed by the comment.  So
  a comment that closes no group changes no header; the
  parenthesis of a method then has the comment behind it.

  Main statements:
    * `readClassName_endComment`
    * `readMethod_endComment`
-/

------------------------------------------------------------
-- Silent Marks
------------------------------------------------------------

namespace RouteAtlas

namespace Source

open Text

/- Whether a comment holds no mark that closes a group. -/
structure ClosesNothing
    (comment : Text) :
    Prop where
  paren : ')' ∉ comment
  angle : '>' ∉ comment

theorem not_mem_endComment
    {mark : Char}
    {comment : Text}
    (hSlash : mark ≠ '/')
    (hMark : mark ∉ comment) :
    mark ∉ endComment comment := by
  simp [endComment, hSlash, hMark]

theorem dropBlanks_suffix
    (t : Text) :
    dropBlanks t <:+ t :=
  List.dropWhile_suffix isBlank

/- Text behind a closing mark is at the end of the text. -/
theorem suffix_of_after?
    {mark : Char}
    {t rest : Text}
    (hRead : after? mark t = some rest) :
    rest <:+ t := by
  induction t with
  | nil => simp [after?] at hRead
  | cons c t ih =>
      rw [after?] at hRead
      split at hRead
      next =>
        rw [Option.some.injEq] at hRead
        rw [hRead]
        exact List.suffix_cons c rest
      next => exact (ih hRead).trans (List.suffix_cons c t)

/- The end of a text ends without a slash if the text does. -/
theorem getLast?_ne_of_suffix
    {t rest : Text}
    (hLast : t.getLast? ≠ some '/')
    (hSuffix : rest <:+ t) :
    rest.getLast? ≠ some '/' := by
  rcases hSuffix with ⟨front, rfl⟩
  cases rest with
  | nil => simp
  | cons c rest =>
      rwa [List.getLast?_append_of_ne_nil _ (by simp)]
        at hLast

variable {comment : Text}

------------------------------------------------------------
-- Class Headers
------------------------------------------------------------

theorem skipGroup?_endComment
    {opening closing : Char}
    (hOpening : opening ≠ '/')
    (hClosing : closing ∉ endComment comment)
    (t : Text) :
    skipGroup? opening closing (t ++ endComment comment) =
      (skipGroup? opening closing t).map
        (· ++ endComment comment) := by
  cases t with
  | nil => simp [skipGroup?, endComment, Ne.symm hOpening]
  | cons c t =>
      unfold skipGroup?
      simp only [List.cons_append,
        after?_endComment hClosing]
      split
      · rfl
      · rfl

theorem suffix_of_skipGroup?
    {opening closing : Char}
    {t rest : Text}
    (hRead : skipGroup? opening closing t = some rest) :
    rest <:+ t := by
  unfold skipGroup? at hRead
  split at hRead
  next => simp_all
  next c tail =>
    split at hRead
    next =>
      exact (suffix_of_after? hRead).trans
        (List.suffix_cons c tail)
    next =>
      rw [Option.some.injEq] at hRead
      rw [hRead]

theorem skipBases?_endComment
    (t : Text) :
    skipBases? (t ++ endComment comment) =
      (skipBases? t).map (· ++ endComment comment) := by
  have hSlash : isBaseChar '/' = false := by decide
  cases t with
  | nil => rfl
  | cons c t =>
      by_cases hColon : c = ':'
      · subst hColon
        cases t with
        | nil =>
            simp [skipBases?, endComment, hSlash]
        | cons d t =>
            simp only [List.cons_append, skipBases?,
              dropWhile_endComment hSlash]
            split
            · rfl
            · rfl
      · simp [skipBases?, hColon]

theorem suffix_of_skipBases?
    {t rest : Text}
    (hRead : skipBases? t = some rest) :
    rest <:+ t := by
  unfold skipBases? at hRead
  split at hRead
  next c tail =>
    split at hRead
    next =>
      rw [Option.some.injEq] at hRead
      rw [← hRead]
      exact (List.dropWhile_suffix _).trans
        ((List.suffix_cons c tail).trans
          (List.suffix_cons ':' (c :: tail)))
    next => simp at hRead
  next => simp at hRead
  next =>
    rw [Option.some.injEq] at hRead
    rw [hRead]

/- A comment ends a header as the end of the line does. -/
theorem headerEnds_endComment
    {t : Text}
    (hLast : t.getLast? ≠ some '/') :
    headerEnds (t ++ endComment comment) = headerEnds t := by
  cases t with
  | nil => rfl
  | cons c t =>
      by_cases hSlash : c = '/'
      · subst hSlash
        cases t with
        | nil => exact absurd rfl hLast
        | cons d t =>
            by_cases hNext : d = '/'
            · simp [headerEnds, hNext]
            · simp [headerEnds, hNext]
      · by_cases hBrace : c = '{'
        · simp [headerEnds, hBrace]
        · simp [headerEnds, hSlash, hBrace]

theorem completesClass_endComment
    (hComment : ClosesNothing comment)
    {t : Text}
    (hLast : t.getLast? ≠ some '/') :
    completesClass (t ++ endComment comment) =
      completesClass t := by
  have hAngles :=
    skipGroup?_endComment (show '<' ≠ '/' by decide)
      (not_mem_endComment (by decide) hComment.angle)
  have hParens :=
    skipGroup?_endComment (show '(' ≠ '/' by decide)
      (not_mem_endComment (by decide) hComment.paren)
  unfold completesClass
  simp only [dropBlanks_endComment,
    hAngles]
  cases hFirst : skipGroup? '<' '>' (dropBlanks t) with
  | none => rfl
  | some first =>
      simp only [Option.map_some, Option.bind_eq_bind,
        Option.bind_some, dropBlanks_endComment,
        hParens]
      cases hSecond : skipGroup? '(' ')' (dropBlanks first) with
      | none => rfl
      | some second =>
          simp only [Option.map_some, Option.bind_some,
            dropBlanks_endComment, skipBases?_endComment]
          cases hThird : skipBases? (dropBlanks second) with
          | none => rfl
          | some third =>
              have hOpened : first <:+ t :=
                (suffix_of_skipGroup? hFirst).trans
                  (dropBlanks_suffix t)
              have hClosed : second <:+ first :=
                (suffix_of_skipGroup? hSecond).trans
                  (dropBlanks_suffix first)
              have hBases : third <:+ second :=
                (suffix_of_skipBases? hThird).trans
                  (dropBlanks_suffix second)
              have hSuffix : dropBlanks third <:+ t :=
                (dropBlanks_suffix third).trans
                  (hBases.trans (hClosed.trans hOpened))
              simp only [Option.map_some, Option.bind_some,
                dropBlanks_endComment,
                headerEnds_endComment
                  (getLast?_ne_of_suffix hLast hSuffix)]

theorem suffix_of_blanks?
    {t rest : Text}
    (hRead : blanks? t = some rest) :
    rest <:+ t := by
  rcases blanks?_split hRead with ⟨blank, blanks, rfl, -⟩
  exact ⟨blank :: blanks, rfl⟩

theorem skipWord_suffix
    (words : List Text)
    (t : Text) :
    skipWord words t <:+ t := by
  rcases skipWord_split words t with ⟨front, hText, -⟩
  exact ⟨front, hText.symm⟩

theorem skipWords_suffix
    (words : List Text)
    (t : Text) :
    skipWords words t <:+ t := by
  rcases skipWordsUpTo_split words t.length t with
    ⟨front, hText, -⟩
  exact ⟨front, hText.symm⟩

theorem suffix_of_word?
    {t word rest : Text}
    (hRead : word? t = some (word, rest)) :
    rest <:+ t := by
  unfold word? at hRead
  rw [List.span_eq_takeWhile_dropWhile] at hRead
  split at hRead
  next => simp at hRead
  next first tail hSpan =>
    rw [Prod.mk.injEq] at hSpan
    rw [Option.some.injEq, Prod.mk.injEq] at hRead
    rw [← hRead.2, ← hSpan.2]
    exact List.dropWhile_suffix isWordChar

/- The name of a class is read before the comment. -/
theorem readClassName_endComment
    (hComment : ClosesNothing comment)
    (previous : Option Char)
    {t : Text}
    (hLast : t.getLast? ≠ some '/') :
    readClassName previous (t ++ endComment comment) =
      readClassName previous t := by
  have hAccess :
      ∀ word ∈ accessWords, '/' ∉ word := by decide
  have hModifiers :
      ∀ word ∈ classModifiers, '/' ∉ word := by decide
  have hClass : '/' ∉ "class".toList := by decide
  unfold readClassName
  split
  next =>
    simp only [skipWord_endComment hAccess,
      skipWords_endComment hModifiers,
      isPrefixOf?_endComment hClass, Option.bind_eq_bind]
    have hWords :
        skipWords classModifiers (skipWord accessWords t) <:+
          t :=
      (skipWords_suffix _ _).trans (skipWord_suffix _ _)
    generalize skipWords classModifiers
      (skipWord accessWords t) = start at hWords ⊢
    cases hStart : "class".toList.isPrefixOf? start with
    | none => rfl
    | some spaced =>
        simp only [Option.map_some, Option.bind_some,
          blanks?_endComment]
        cases hBlanks : blanks? spaced with
        | none => rfl
        | some named =>
            simp only [Option.map_some, Option.bind_some,
              word?_endComment]
            cases hName : word? named with
            | none => rfl
            | some read =>
                rcases read with ⟨name, rest⟩
                have hSpaced : spaced <:+ start :=
                  ⟨_, (isPrefixOf?_eq_some_iff.mp
                    hStart).symm⟩
                have hRest : rest <:+ t :=
                  (suffix_of_word? hName).trans
                    ((suffix_of_blanks? hBlanks).trans
                      (hSpaced.trans hWords))
                simp only [Option.map_some,
                  Option.bind_some,
                  completesClass_endComment hComment
                    (getLast?_ne_of_suffix hLast hRest)]
  next => rfl

------------------------------------------------------------
-- Method Headers
------------------------------------------------------------

/- A signature with a comment behind its parenthesis. -/
def Signature.commented
    (comment : Text)
    (signature : Signature) :
    Signature :=
  { signature with
    paren := signature.paren ++ endComment comment }

theorem startsOtherDeclaration_endComment
    (t : Text) :
    startsOtherDeclaration (t ++ endComment comment) =
      startsOtherDeclaration t := by
  have hWords : ∀ word ∈ typeWords, '/' ∉ word := by decide
  unfold startsOtherDeclaration
  rw [Bool.eq_iff_iff, List.any_eq_true, List.any_eq_true]
  refine exists_congr fun word => and_congr_right fun hWord => ?_
  rw [isPrefixOf?_endComment (hWords word hWord)]
  cases word.isPrefixOf? t with
  | none => rfl
  | some rest => simp [wordEndsAt_endComment]

theorem skipArrayMarks_endComment
    (t : Text) :
    skipArrayMarks (t ++ endComment comment) =
      skipArrayMarks t ++ endComment comment := by
  fun_induction skipArrayMarks t with
  | case1 rest ih => exact ih
  | case2 t hMarks =>
      rw [skipArrayMarks]
      intro rest hText
      cases t with
      | nil => simp [endComment] at hText
      | cons c t =>
          cases t with
          | nil => simp [endComment] at hText
          | cons d t =>
              simp only [List.cons_append, List.cons.injEq]
                at hText
              exact hMarks t (by rw [hText.1, hText.2.1])

theorem skipNullableMark_endComment
    (t : Text) :
    skipNullableMark (t ++ endComment comment) =
      skipNullableMark t ++ endComment comment := by
  cases t with
  | nil => rfl
  | cons c t =>
      by_cases hMark : c = '?'
      · subst hMark
        rfl
      · simp [skipNullableMark, hMark]

theorem openParen?_endComment
    (t : Text) :
    openParen? (t ++ endComment comment) =
      (openParen? t).map (· ++ endComment comment) := by
  unfold openParen?
  rw [dropBlanks_endComment]
  cases dropBlanks t with
  | nil => rfl
  | cons c rest =>
      by_cases hParen : c = '('
      · subst hParen
        rfl
      · simp [hParen]

/- A comment without closing marks offers no other end. -/
theorem lastClosing?_endComment
    {α : Type}
    {stop : Char → Bool}
    {accept accept' : Text → Option α}
    {change : α → α}
    (hAngle : '>' ∉ endComment comment)
    (hAccept :
      ∀ rest,
        accept' (rest ++ endComment comment) =
          (accept rest).map change)
    (t : Text) :
    lastClosing? stop accept' (t ++ endComment comment) =
      (lastClosing? stop accept t).map change := by
  induction t with
  | nil => exact lastClosing?_eq_none hAngle
  | cons c t ih =>
      rw [List.cons_append, lastClosing?, lastClosing?, ih,
        hAccept]
      split
      next => rfl
      next =>
        cases lastClosing? stop accept t with
        | some a => rfl
        | none =>
            simp only [Option.map_none, Option.orElse_none]
            split
            · rfl
            · rfl

theorem readMethodName_endComment
    (hComment : ClosesNothing comment)
    (t : Text) :
    readMethodName (t ++ endComment comment) =
      (readMethodName t).map fun (name, paren) =>
        (name, paren ++ endComment comment) := by
  have hAngle :=
    not_mem_endComment (by decide) hComment.angle
  unfold readMethodName
  rw [word?_endComment]
  cases word? t with
  | none => rfl
  | some read =>
      simp only [Option.map_some, Option.bind_eq_bind,
        Option.bind_some, dropBlanks_endComment]
      cases dropBlanks read.2 with
      | nil => rfl
      | cons c rest =>
          by_cases hOpening : c = '<'
          · subst hOpening
            simp only [List.cons_append,
              lastClosing?_endComment hAngle
                openParen?_endComment]
            cases lastClosing? isParenthesis openParen? rest
              <;> rfl
          · have hRead :
                openParen?
                    (c :: (rest ++ endComment comment)) =
                  (openParen? (c :: rest)).map
                    (· ++ endComment comment) :=
              openParen?_endComment (c :: rest)
            simp only [List.cons_append]
            split
            next hSame =>
              exact absurd (List.cons.inj hSame).1 hOpening
            next =>
              split
              next hSame =>
                exact absurd (List.cons.inj hSame).1 hOpening
              next =>
                rw [hRead]
                cases openParen? (c :: rest) <;> rfl

theorem readTypeEnd_endComment
    (hComment : ClosesNothing comment)
    (whole t : Text) :
    readTypeEnd (whole ++ endComment comment)
        (t ++ endComment comment) =
      (readTypeEnd whole t).map
        (Signature.commented comment) := by
  unfold readTypeEnd
  simp only [skipArrayMarks_endComment,
    skipNullableMark_endComment, blanks?_endComment]
  cases blanks? (skipNullableMark (skipArrayMarks t)) with
  | none => rfl
  | some rest =>
      simp only [Option.map_some, Option.bind_eq_bind,
        Option.bind_some,
        readMethodName_endComment hComment]
      cases readMethodName rest with
      | none => rfl
      | some read =>
          have hType :
              (whole ++ endComment comment).take
                  ((whole ++ endComment comment).length -
                    (skipNullableMark (skipArrayMarks t) ++
                      endComment comment).length) =
                whole.take
                  (whole.length -
                    (skipNullableMark
                      (skipArrayMarks t)).length) := by
            rw [List.length_append, List.length_append,
              Nat.add_sub_add_right,
              List.take_append_of_le_length (by omega)]
          simp only [Option.map_some, Option.bind_some,
            hType]
          rfl

theorem readSignature_endComment
    (hComment : ClosesNothing comment)
    (t : Text) :
    readSignature (t ++ endComment comment) =
      (readSignature t).map
        (Signature.commented comment) := by
  have hAngle :=
    not_mem_endComment (by decide) hComment.angle
  have hSlash : isDottedChar '/' = false := by decide
  have hEnd := readTypeEnd_endComment hComment t
  unfold readSignature
  rw [startsOtherDeclaration_endComment,
    List.span_eq_takeWhile_dropWhile,
    List.span_eq_takeWhile_dropWhile,
    takeWhile_endComment hSlash,
    dropWhile_endComment hSlash]
  split
  next => rfl
  next =>
    cases t.takeWhile isDottedChar with
    | nil => rfl
    | cons c name =>
        simp only [dropBlanks_endComment]
        cases dropBlanks (t.dropWhile isDottedChar) with
        | nil => exact hEnd _
        | cons d rest =>
            by_cases hOpening : d = '<'
            · subst hOpening
              exact lastClosing?_endComment hAngle hEnd rest
            · simp only [List.cons_append]
              split
              next hSame =>
                exact absurd (List.cons.inj hSame).1 hOpening
              next =>
                split
                next hSame =>
                  exact absurd (List.cons.inj hSame).1
                    hOpening
                next => exact hEnd _

theorem readModifiersUpTo_endComment
    (hComment : ClosesNothing comment)
    (fuel : Nat)
    (t : Text) :
    readModifiersUpTo fuel (t ++ endComment comment) =
      (readModifiersUpTo fuel t).map
        (Signature.commented comment) := by
  have hWords :
      ∀ word ∈ methodModifiers, '/' ∉ word := by decide
  induction fuel generalizing t with
  | zero => exact readSignature_endComment hComment t
  | succ fuel ih =>
      rw [readModifiersUpTo, readModifiersUpTo,
        wordThenBlanks?_endComment hWords]
      cases wordThenBlanks? methodModifiers t with
      | none => exact readSignature_endComment hComment t
      | some rest =>
          simp only [Option.map_some, ih,
            readSignature_endComment hComment]
          cases readModifiersUpTo fuel rest with
          | none => rfl
          | some signature => rfl

/- A text without characters has no modifier. -/
theorem readModifiersUpTo_succ
    {fuel : Nat}
    {t : Text}
    (hFuel : t.length ≤ fuel) :
    readModifiersUpTo (fuel + 1) t =
      readModifiersUpTo fuel t := by
  induction fuel generalizing t with
  | zero =>
      simp only [readModifiersUpTo]
      cases hRead : wordThenBlanks? methodModifiers t with
      | none => rfl
      | some rest =>
          have hShort := length_lt_of_wordThenBlanks? hRead
          omega
  | succ fuel ih =>
      rw [readModifiersUpTo, readModifiersUpTo]
      cases hRead : wordThenBlanks? methodModifiers t with
      | none => rfl
      | some rest =>
          have hShort := length_lt_of_wordThenBlanks? hRead
          simp only [ih (t := rest) (by omega)]

/- The length of a text is fuel enough for its modifiers. -/
theorem readModifiersUpTo_eq
    {fuel : Nat}
    {t : Text}
    (hFuel : t.length ≤ fuel) :
    readModifiersUpTo fuel t =
      readModifiersUpTo t.length t :=
  eq_of_length_le readModifiersUpTo_succ hFuel

/- A method is read with the comment behind it. -/
theorem readMethod_endComment
    (hComment : ClosesNothing comment)
    (previous : Option Char)
    (t : Text) :
    readMethod previous (t ++ endComment comment) =
      (readMethod previous t).map
        fun (signature, distance) =>
          (signature.commented comment, distance) := by
  have hWords :
      ∀ word ∈ accessWords, '/' ∉ word := by decide
  unfold readMethod
  split
  next =>
    rw [wordThenBlanks?_endComment hWords]
    cases wordThenBlanks? accessWords t with
    | none => rfl
    | some rest =>
        have hFuel :
            rest.length ≤
              (rest ++ endComment comment).length := by
          simp
        simp only [Option.map_some, Option.bind_eq_bind,
          Option.bind_some,
          readModifiersUpTo_endComment hComment,
          readModifiersUpTo_eq hFuel]
        cases readModifiersUpTo rest.length rest with
        | none => rfl
        | some signature =>
            simp [Signature.commented,
              Nat.add_sub_add_right]
  next => rfl

end Source

end RouteAtlas
