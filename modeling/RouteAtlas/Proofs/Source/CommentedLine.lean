import Mathlib
import RouteAtlas.Proofs.Source.CommentedAttribute
import RouteAtlas.Source.AttributeScan
import RouteAtlas.Source.Body

/-
  Lines with a comment at their end.

  Headers and attributes are looked for in the whole line,
  its comment included.  A comment is silent when nothing is
  found there: no word that begins a header, no route mark
  and no mark that closes a group.  With or without a silent
  comment a line says the same.

  Main statements:
    * `DropsComment.classHeader?`
    * `DropsComment.methodHeader?`
    * `DropsComment.stopsScan`
    * `DropsComment.attributesOnLine`
-/

------------------------------------------------------------
-- Silent Comments
------------------------------------------------------------

namespace RouteAtlas

namespace Source

open Text

/-
  Whether nothing in a comment is read as code: no mark that
  closes a group, no word that begins a header, no mark of a
  route.
-/
structure IsSilent
    (comment : Text) :
    Prop extends ClosesNothing comment where
  noHeader :
    ¬HoldsSpaced ("class".toList :: accessWords) comment
  noMark : ¬HoldsWord Controller.routeMarks comment

/- A comment in which the words occur nowhere is silent. -/
theorem isSilent_of_not_infix
    {comment : Text}
    (hParen : ')' ∉ comment)
    (hAngle : '>' ∉ comment)
    (hWords :
      ∀ word ∈
          "class".toList :: accessWords ++
            Controller.routeMarks,
        ¬word <:+: comment) :
    IsSilent comment := by
  refine ⟨⟨hParen, hAngle⟩, ?_, ?_⟩
  · rintro ⟨before, word, hWord, blank, after, hText, -, -⟩
    exact
      hWords word (List.mem_append_left _ hWord)
        ⟨before, blank :: after, by rw [hText]; simp⟩
  · rintro ⟨before, word, hWord, after, hText, -, -⟩
    exact
      hWords word (List.mem_append_right _ hWord)
        ⟨before, after, by rw [hText]; simp⟩

/-
  Whether a line is another one without its silent comment,
  or the other line itself.
-/
inductive DropsComment :
    Text → Text → Prop where
  | kept
      (line : Text) :
      DropsComment line line
  | dropped
      (code comment : Text)
      (hCode :
        withoutComment (code ++ endComment comment) = code)
      (hSilent : IsSilent comment) :
      DropsComment (code ++ endComment comment) code

/- Code before a comment ends without a slash. -/
theorem getLast?_of_withoutComment
    {code comment : Text}
    (hCode :
      withoutComment (code ++ endComment comment) = code) :
    code.getLast? ≠ some '/' := by
  have hSplit :=
    withoutComment_split (code ++ endComment comment)
  rw [hCode] at hSplit
  rcases hSplit with hWhole | ⟨other, -, hLast⟩
  · have hLength := congrArg List.length hWhole
    simp [endComment] at hLength
  · exact hLast

------------------------------------------------------------
-- Words in Comments
------------------------------------------------------------

/- A word without slashes stands behind both slashes. -/
theorem endComment_split
    {comment before word after : Text}
    (hText : endComment comment = before ++ (word ++ after))
    (hWord : word ≠ [])
    (hSlash : '/' ∉ word) :
    ∃ passed,
      before = endComment passed ∧
        comment = passed ++ (word ++ after) := by
  cases word with
  | nil => exact absurd rfl hWord
  | cons c word =>
      rw [List.mem_cons, not_or] at hSlash
      rw [endComment] at hText
      cases before with
      | nil =>
          rw [List.nil_append, List.cons_append,
            List.cons.injEq] at hText
          exact absurd hText.1 hSlash.1
      | cons d before =>
          rw [List.cons_append, List.cons.injEq] at hText
          rcases hText with ⟨rfl, hText⟩
          cases before with
          | nil =>
              rw [List.nil_append, List.cons_append,
                List.cons.injEq] at hText
              exact absurd hText.1 hSlash.1
          | cons e before =>
              rw [List.cons_append, List.cons.injEq]
                at hText
              rcases hText with ⟨rfl, hText⟩
              exact ⟨before, rfl, hText⟩

theorem wordMayStart_endComment
    {previous : Option Char}
    {passed : Text}
    (hStart :
      wordMayStart (charBefore previous (endComment passed)) =
        true) :
    wordMayStart passed.getLast? = true := by
  unfold endComment at hStart
  rw [charBefore_cons, charBefore_cons, charBefore]
    at hStart
  cases hLast : passed.getLast? with
  | none => rfl
  | some c =>
      rw [hLast] at hStart
      exact hStart

section Silent

variable {comment : Text}
variable (hSilent : IsSilent comment)

include hSilent

/- No method header is read in a silent comment. -/
theorem findFrom_readMethod_endComment
    (previous : Option Char)
    (column : Nat) :
    findFrom readMethod previous column
        (endComment comment) =
      none := by
  cases hFound :
      findFrom readMethod previous column
        (endComment comment) with
  | none => rfl
  | some found =>
      rcases findFrom_located hFound with
        ⟨before, rest, hText, -, hRead⟩
      rcases readMethod_split hRead with
        ⟨hStart, word, hWord, blank, after, rfl, hBlank⟩
      have hSolid :
          ∀ word ∈ accessWords, word ≠ [] ∧ '/' ∉ word := by
        decide
      rcases endComment_split hText (hSolid word hWord).1
          (hSolid word hWord).2 with
        ⟨passed, rfl, hComment⟩
      exact absurd
        ⟨passed, word, List.mem_cons_of_mem _ hWord, blank,
          after, hComment, wordMayStart_endComment hStart,
          hBlank⟩
        hSilent.noHeader

/- No class header is read in a silent comment. -/
theorem findFrom_readClassName_endComment
    (previous : Option Char)
    (column : Nat) :
    findFrom readClassName previous column
        (endComment comment) =
      none := by
  cases hFound :
      findFrom readClassName previous column
        (endComment comment) with
  | none => rfl
  | some found =>
      rcases findFrom_located hFound with
        ⟨before, rest, hText, -, hRead⟩
      rcases readClassName_split hRead with
        ⟨front, blank, after, rfl, hStart, hBlank⟩
      rw [← List.append_assoc] at hText
      rcases endComment_split hText (by decide) (by decide)
        with ⟨passed, hPassed, hComment⟩
      rw [← charBefore_append, hPassed] at hStart
      exact absurd
        ⟨passed, "class".toList, List.mem_cons_self, blank,
          after, hComment, wordMayStart_endComment hStart,
          hBlank⟩
        hSilent.noHeader

/- No route mark is read in a silent comment. -/
theorem findAllFrom_endComment
    {α : Type}
    {read : Option Char → Text → Option (α × Nat)}
    (hMark :
      ∀ previous t result,
        read previous t = some result →
        wordMayStart previous = true ∧
          ∃ word ∈ Controller.routeMarks, ∃ after,
            t = word ++ after ∧ LeavesWord after)
    (previous : Option Char)
    (skip column : Nat) :
    findAllFrom read previous skip column
        (endComment comment) =
      [] := by
  apply findAllFrom_silent
  intro front rest hText
  cases hRead : read (charBefore previous front) rest with
  | none => rfl
  | some result =>
      rcases hMark _ _ _ hRead with
        ⟨hStart, word, hWord, after, rfl, hAfter⟩
      have hSolid :
          ∀ word ∈ Controller.routeMarks,
            word ≠ [] ∧ '/' ∉ word := by
        decide
      rcases endComment_split hText (hSolid word hWord).1
          (hSolid word hWord).2 with
        ⟨passed, rfl, hComment⟩
      exact absurd
        ⟨passed, word, hWord, after, hComment,
          wordMayStart_endComment hStart, hAfter⟩
        hSilent.noMark

end Silent

------------------------------------------------------------
-- Searches Up to the Comment
------------------------------------------------------------

section Searches

variable {code comment : Text}
variable (hSilent : IsSilent comment)

include hSilent

theorem find?_readClassName_endComment
    (hLast : code.getLast? ≠ some '/') :
    find? readClassName (code ++ endComment comment) =
      find? readClassName code := by
  unfold find?
  rw [findFrom_append id]
  · simp
  · intro passed rest hText
    rw [Option.map_id, id]
    exact readClassName_endComment hSilent.toClosesNothing _
      (getLast?_ne_of_suffix hLast ⟨passed, hText.symm⟩)
  · exact findFrom_readClassName_endComment hSilent _

theorem find?_readMethod_endComment :
    find? readMethod (code ++ endComment comment) =
      (find? readMethod code).map
        (Prod.map id (Prod.map (·.commented comment) id)) := by
  unfold find?
  rw [findFrom_append (Prod.map (·.commented comment) id)]
  · rfl
  · intro passed rest hText
    exact readMethod_endComment hSilent.toClosesNothing _ rest
  · exact findFrom_readMethod_endComment hSilent _

theorem attributesOnLine_endComment
    (index : Nat) :
    attributesOnLine (code ++ endComment comment) index =
      attributesOnLine code index := by
  have hVerbs :
      findAll readVerbAttribute (code ++ endComment comment) =
        findAll readVerbAttribute code := by
    apply findAllFrom_append
    · intro passed rest hText
      exact readVerbAttribute_endComment hSilent.paren _ rest
    · exact
        findAllFrom_endComment hSilent
          (fun _ _ _ => readVerbAttribute_split) _
  have hRoutes :
      findAll readRouteAttribute
          (code ++ endComment comment) =
        findAll readRouteAttribute code := by
    apply findAllFrom_append
    · intro passed rest hText
      exact readRouteAttribute_endComment hSilent.paren _ rest
    · exact
        findAllFrom_endComment hSilent
          (fun _ _ _ => readRouteAttribute_split) _
  unfold attributesOnLine
  rw [hVerbs, hRoutes]

end Searches

------------------------------------------------------------
-- Comment Lines
------------------------------------------------------------

/- A line is a comment line if only its comment is there. -/
theorem isCommentLine_endComment
    {code : Text}
    (hLast : code.getLast? ≠ some '/')
    (comment : Text) :
    isCommentLine (code ++ endComment comment) =
      (isCommentLine code || isBlankText code) := by
  unfold isCommentLine
  rw [dropBlanks_endComment]
  cases hBlanks : dropBlanks code with
  | nil =>
      have hBlank : isBlankText code = true :=
        List.all_eq_true.mpr
          (List.dropWhile_eq_nil_iff.mp hBlanks)
      rw [hBlank]
      rfl
  | cons c rest =>
      have hSolid : isBlankText code = false := by
        rw [← Bool.not_eq_true]
        intro hBlank
        have hNone : dropBlanks code = [] :=
          List.dropWhile_eq_nil_iff.mpr
            (List.all_eq_true.mp hBlank)
        rw [hBlanks] at hNone
        exact absurd hNone (by simp)
      rw [hSolid, Bool.or_false]
      by_cases hSlash : c = '/'
      · subst hSlash
        cases rest with
        | nil =>
            have hEnd :=
              getLast?_ne_of_suffix hLast
                (dropBlanks_suffix code)
            rw [hBlanks] at hEnd
            exact absurd rfl hEnd
        | cons d rest =>
            by_cases hNext : d = '/'
            · simp [hNext]
            · by_cases hStar : d = '*'
              · simp [hStar]
              · simp [hNext, hStar]
      · by_cases hStar : c = '*'
        · simp [hStar]
        · simp [hSlash, hStar]

------------------------------------------------------------
-- Blank Lines
------------------------------------------------------------

/- A word makes a text more than blank. -/
theorem isBlankText_of_word
    {words : List Text}
    {word : Text}
    (hWords : areWords words = true)
    (hWord : word ∈ words)
    (before after : Text) :
    isBlankText (before ++ (word ++ after)) = false := by
  have hLetters := List.all_eq_true.mp hWords word hWord
  rw [Bool.and_eq_true, Bool.not_eq_true'] at hLetters
  cases word with
  | nil => exact absurd hLetters.1 (by simp)
  | cons c word =>
      have hLetter :=
        List.all_eq_true.mp hLetters.2 c (by simp)
      have hSolid :=
        isBlank_of_isWordChar
          (isWordChar_of_isAlphanum hLetter)
      simp [isBlankText, hSolid]

/- Nothing is left of a text that passes the test. -/
theorem dropEndWhile_eq_nil
    {test : Char → Bool}
    {t : Text}
    (hTest : ∀ c ∈ t, test c = true) :
    dropEndWhile test t = [] := by
  induction t with
  | nil => rfl
  | cons c t ih =>
      rw [List.forall_mem_cons] at hTest
      rw [dropEndWhile, ih hTest.2]
      exact if_pos hTest.1

section Blank

variable {line : Text}
variable (hBlank : isBlankText line = true)

include hBlank

theorem not_holdsSpaced_of_blank
    {words : List Text}
    (hWords : areWords words = true) :
    ¬HoldsSpaced words line := by
  rintro ⟨before, word, hWord, blank, after, rfl, -, -⟩
  rw [isBlankText_of_word hWords hWord] at hBlank
  exact absurd hBlank (by simp)

theorem attributesOnLine_of_blank
    (index : Nat) :
    attributesOnLine line index = [] := by
  rw [List.eq_nil_iff_forall_not_mem]
  intro hit hHit
  have hMarks : areWords Controller.routeMarks = true := by
    decide
  rcases holdsWord_of_hit hHit with
    ⟨before, word, hWord, after, rfl, -, -⟩
  rw [isBlankText_of_word hMarks hWord] at hBlank
  exact absurd hBlank (by simp)

theorem codeOnly_of_blank :
    codeOnly line = line := by
  have hChars := List.all_eq_true.mp hBlank
  apply codeOnly_of_plain
  · intro hQuote
    exact absurd (hChars _ hQuote) (by decide)
  · intro hSlash
    exact absurd (hChars _ hSlash) (by decide)

/- A blank line stops no scan. -/
theorem stopsScan_of_blank :
    stopsScan line = false := by
  have hWords : areWords ["class".toList] = true := by
    decide
  have hClass : hasClassWord line = false := by
    unfold hasClassWord
    rw [codeOnly_of_blank hBlank, Option.isSome_eq_false_iff,
      Option.isNone_iff_eq_none]
    apply find?_eq_none
    rintro before rest rfl
    unfold readClassWord
    split
    next =>
      split
      next after hClass =>
        rw [isPrefixOf?_eq_some_iff.mp hClass,
          isBlankText_of_word hWords List.mem_cons_self]
          at hBlank
        exact absurd hBlank (by simp)
      next => rfl
    next => rfl
  have hEnd : endsMember line = false := by
    unfold endsMember stripEnd
    rw [dropEndWhile_eq_nil (List.all_eq_true.mp hBlank)]
    rfl
  unfold stopsScan isMemberBoundary
  rw [hClass, codeOnly_of_blank hBlank, hEnd,
    methodHeader?_eq_none
      (not_holdsSpaced_of_blank hBlank (by decide))]
  rfl

end Blank

------------------------------------------------------------
-- Lines
------------------------------------------------------------

namespace DropsComment

variable {line line' : Text}
variable (hDrops : DropsComment line line')

include hDrops

theorem codeOnly :
    Source.codeOnly line' = Source.codeOnly line := by
  cases hDrops with
  | kept => rfl
  | dropped code comment hCode hSilent =>
      rw [← codeOnly_withoutComment (line' ++ _), hCode]

theorem classHeader? :
    Source.classHeader? line' = Source.classHeader? line := by
  cases hDrops with
  | kept => rfl
  | dropped code comment hCode hSilent =>
      have hLast := getLast?_of_withoutComment hCode
      cases hBlank : isBlankText line' with
      | true =>
          rw [classHeader?_eq_none
            (not_holdsSpaced_of_blank hBlank (by decide))]
          unfold Source.classHeader?
          rw [isCommentLine_endComment hLast, hBlank,
            Bool.or_true, if_pos rfl]
      | false =>
          unfold Source.classHeader?
          rw [isCommentLine_endComment hLast, hBlank,
            Bool.or_false,
            find?_readClassName_endComment hSilent hLast]

theorem methodHeader? :
    Source.methodHeader? line' =
      Source.methodHeader? line := by
  cases hDrops with
  | kept => rfl
  | dropped code comment hCode hSilent =>
      have hLast := getLast?_of_withoutComment hCode
      cases hBlank : isBlankText line' with
      | true =>
          rw [methodHeader?_eq_none
            (not_holdsSpaced_of_blank hBlank (by decide))]
          unfold Source.methodHeader?
          rw [isCommentLine_endComment hLast, hBlank,
            Bool.or_true, if_pos rfl]
      | false =>
          unfold Source.methodHeader?
          rw [isCommentLine_endComment hLast, hBlank,
            Bool.or_false,
            find?_readMethod_endComment hSilent,
            Option.map_map]
          rfl

theorem stopsScan :
    Source.stopsScan line' = Source.stopsScan line := by
  unfold Source.stopsScan hasClassWord isMemberBoundary
  rw [hDrops.codeOnly, hDrops.methodHeader?]

theorem attributesOnLine
    (index : Nat) :
    Source.attributesOnLine line' index =
      Source.attributesOnLine line index := by
  cases hDrops with
  | kept => rfl
  | dropped code comment hCode hSilent =>
      rw [attributesOnLine_endComment hSilent]

/- What precedes a declaration precedes the comment. -/
theorem take
    {column : Nat}
    (hColumn : column ≤ line'.length) :
    line'.take column = line.take column := by
  cases hDrops with
  | kept => rfl
  | dropped code comment hCode hSilent =>
      rw [List.take_append_of_le_length hColumn]

end DropsComment

/- A header stands in its line. -/
theorem column_le_of_classHeader?
    {line : Text}
    {header : ClassHeader}
    (hHeader : Source.classHeader? line = some header) :
    header.column ≤ line.length := by
  unfold Source.classHeader? at hHeader
  split at hHeader
  next => simp at hHeader
  next =>
    rcases Option.map_eq_some_iff.mp hHeader with
      ⟨⟨column, name⟩, hFound, rfl⟩
    rcases find?_located hFound with
      ⟨before, rest, rfl, rfl, -⟩
    simp

theorem start_le_of_methodHeader?
    {line : Text}
    {header : MethodHeader}
    (hHeader : Source.methodHeader? line = some header) :
    header.start ≤ line.length := by
  unfold Source.methodHeader? at hHeader
  split at hHeader
  next => simp at hHeader
  next =>
    rcases Option.map_eq_some_iff.mp hHeader with
      ⟨⟨start, signature, distance⟩, hFound, rfl⟩
    rcases find?_located hFound with
      ⟨before, rest, rfl, rfl, -⟩
    simp

------------------------------------------------------------
-- Lines Above and Below
------------------------------------------------------------

/-
  A line is a comment line as before, or it is blank now and
  passed for that.
-/
theorem DropsComment.isCommentLine
    {line line' : Text}
    (hDrops : DropsComment line line') :
    Source.isCommentLine line' = Source.isCommentLine line ∨
      Source.isCommentLine line = true ∧
        isBlankText line' = true := by
  cases hDrops with
  | kept => exact Or.inl rfl
  | dropped code comment hCode hSilent =>
      rw [isCommentLine_endComment
        (getLast?_of_withoutComment hCode)]
      cases isBlankText line' with
      | true => simp
      | false => simp

/- The scan upwards finds the same attributes. -/
theorem attributesUpward_dropsComment
    {above above' : List Text}
    (hAbove : List.Forall₂ DropsComment above above')
    (index : Nat) :
    attributesUpward index above' =
      attributesUpward index above := by
  induction hAbove generalizing index with
  | nil => rfl
  | @cons line line' above above' hLine hAbove ih =>
      rw [attributesUpward, attributesUpward, ih,
        hLine.stopsScan, hLine.attributesOnLine]
      rcases hLine.isCommentLine with
        hSame | ⟨hComment, hBlank⟩
      · rw [hSame]
      · rw [hComment, if_pos rfl,
          ← hLine.stopsScan, stopsScan_of_blank hBlank,
          ← hLine.attributesOnLine,
          attributesOnLine_of_blank hBlank]
        simp

theorem attributesAbove_dropsComment
    {above above' : List Text}
    (hAbove : List.Forall₂ DropsComment above above')
    (index window : Nat)
    (beforeDeclaration : Text) :
    attributesAbove above' index window beforeDeclaration =
      attributesAbove above index window
        beforeDeclaration := by
  unfold attributesAbove
  rw [attributesUpward_dropsComment
    (List.forall₂_take window hAbove)]

/- Bodies end where they did. -/
theorem linesToClose_dropsComment
    {lines lines' : List Text}
    (hLines : List.Forall₂ DropsComment lines lines')
    (state : Braces) :
    linesToClose state lines' = linesToClose state lines := by
  induction hLines generalizing state with
  | nil => rfl
  | cons hLine hLines ih =>
      rw [linesToClose, linesToClose, hLine.codeOnly]
      split
      next => rfl
      next => rw [ih]

end Source

end RouteAtlas
