import Mathlib
import RouteAtlas.Proofs.Sections.Basic

/-
  What no attribute is read from.

  A reader of attributes reads only from the start of a word
  that is a route mark.  So it passes blanks and marks, names
  that an equals sign follows, values that offer no mark,
  and literals without what attributes begin with.

  Main statements:
    * `passes_word`
    * `passes_of_not_offersMark`
    * `passes_tail`
    * `passes_arguments`
-/

------------------------------------------------------------
-- Marks, Blanks and Words
------------------------------------------------------------

namespace RouteAtlas

namespace Source

open Text

theorem word_of_routeMark
    {word : Text}
    (hWord : word ∈ Controller.routeMarks) :
    word ≠ [] ∧ ∀ c ∈ word, isWordChar c = true := by
  have hMarks :
      ∀ word ∈ Controller.routeMarks,
        word ≠ [] ∧ word.all Char.isAlphanum = true := by
    decide
  refine ⟨(hMarks word hWord).1, ?_⟩
  intro c hChar
  exact isWordChar_of_isAlphanum
    (List.all_eq_true.mp (hMarks word hWord).2 c hChar)

/- A word ends before what is in no word. -/
theorem exists_rest_of_word
    {word t after rest : Text}
    {d : Char}
    (hWord : ∀ c ∈ word, isWordChar c = true)
    (hOther : isWordChar d = false)
    (hText : t ++ d :: rest = word ++ after) :
    ∃ more, t = word ++ more ∧ after = more ++ d :: rest := by
  rcases List.append_eq_append_iff.mp hText with
    ⟨more, hLonger, hRest⟩ | ⟨more, hShorter, hRest⟩
  · cases more with
    | nil =>
        refine ⟨[], by simpa using hLonger.symm, ?_⟩
        simpa using hRest.symm
    | cons e more =>
        rw [List.cons_append, List.cons.injEq] at hRest
        have hChar := hWord e (by simp [hLonger])
        rw [← hRest.1, hOther] at hChar
        exact absurd hChar (by simp)
  · exact ⟨more, hShorter, hRest⟩

section Readers

variable {α : Type}
variable {start : Text}
variable {read : Option Char → Text → Option α}
variable (hReads : ReadsAttributes start read)

include hReads

/- No attribute begins with a mark or a blank. -/
theorem read_of_not_word
    {c : Char}
    (hChar : isWordChar c = false)
    (previous : Option Char)
    (rest : Text) :
    read previous (c :: rest) = none := by
  cases hRead : read previous (c :: rest) with
  | none => rfl
  | some result =>
      rcases hReads hRead with
        ⟨-, -, word, hWord, after, hText, -⟩
      rcases word_of_routeMark hWord with ⟨hSome, hChars⟩
      cases word with
      | nil => exact absurd rfl hSome
      | cons d word =>
          rw [List.cons_append, List.cons.injEq] at hText
          have hWordChar := hChars d (by simp)
          rw [← hText.1, hChar] at hWordChar
          exact absurd hWordChar (by simp)

theorem passes_of_not_word
    {stretch : Text}
    (hChars : ∀ c ∈ stretch, isWordChar c = false)
    (previous : Option Char)
    (rest : Text) :
    Passes read previous stretch rest :=
  passes_of_forall
    (fun c hChar => read_of_not_word hReads (hChars c hChar))
    previous rest

/- A mark is passed before what is passed behind it. -/
theorem passes_cons
    {c : Char}
    {stretch rest : Text}
    (hChar : isWordChar c = false)
    (hBehind : Passes read (some c) stretch rest)
    (previous : Option Char) :
    Passes read previous (c :: stretch) rest := by
  rintro front d back hText
  cases front with
  | nil =>
      rw [List.nil_append, List.cons.injEq] at hText
      rw [← hText.1]
      exact read_of_not_word hReads hChar _ _
  | cons e front =>
      rw [List.cons_append, List.cons.injEq] at hText
      rw [charBefore_cons, ← hText.1]
      exact hBehind front d back hText.2

/- Nothing is read from inside a word. -/
theorem read_inside_word
    {c : Char}
    (hChar : isWordChar c = true)
    (t : Text) :
    read (some c) t = none := by
  cases hRead : read (some c) t with
  | none => rfl
  | some result =>
      have hStart := (hReads hRead).1
      simp [wordMayStart, hChar] at hStart

/- A word is passed if nothing is read from its start. -/
theorem passes_word
    {word rest : Text}
    {previous : Option Char}
    (hWord : ∀ c ∈ word, isWordChar c = true)
    (hStart : read previous (word ++ rest) = none) :
    Passes read previous word rest := by
  intro front c back hText
  rcases List.eq_nil_or_concat front with
    rfl | ⟨passed, d, rfl⟩
  · rw [charBefore_nil]
    rwa [hText] at hStart
  · have hLast :
        charBefore previous (passed ++ [d]) = some d := by
      simp [charBefore]
    rw [List.concat_eq_append, hLast]
    exact read_inside_word hReads
      (hWord d (by simp [hText])) _

end Readers

end Source

------------------------------------------------------------
-- Arguments
------------------------------------------------------------

namespace Sections

open Source Text

theorem Gap.dropBlanks_append
    (gap : Gap)
    (t : Text) :
    dropBlanks (gap.text ++ t) = dropBlanks t :=
  List.dropWhile_append_of_pos gap.blank

theorem Gap.not_word
    (gap : Gap) :
    ∀ c ∈ gap.text, isWordChar c = false :=
  fun c hChar => isWordChar_of_isBlank (gap.blank c hChar)

/- Blanks before what is in no word are in none either. -/
theorem Gap.leavesWord_append
    (gap : Gap)
    {t : Text}
    (hLeaves : LeavesWord t) :
    LeavesWord (gap.text ++ t) := by
  have hChars := gap.not_word
  cases hText : gap.text with
  | nil => exact hLeaves
  | cons c blanks =>
      exact
        ⟨c, blanks ++ t, rfl, hChars c (by simp [hText])⟩

theorem leavesWord_cons
    {c : Char}
    (hChar : isWordChar c = false)
    (rest : Text) :
    LeavesWord (c :: rest) :=
  ⟨c, rest, rfl, hChar⟩

section Readers

variable {α : Type}
variable {start : Text}
variable {read : Option Char → Text → Option α}
variable (hReads : ReadsAttributes start read)

include hReads

/- The name of an argument is no attribute. -/
theorem read_name
    (name : Layout.Name)
    (gap : Gap)
    (previous : Option Char)
    (rest : Text) :
    read previous (name.text ++ (gap.text ++ '=' :: rest)) =
      none := by
  have hLeaves : LeavesWord (gap.text ++ '=' :: rest) :=
    gap.leavesWord_append (leavesWord_cons (by decide) rest)
  have hSign :
      dropBlanks (gap.text ++ '=' :: rest) = '=' :: rest := by
    rw [gap.dropBlanks_append]
    exact dropBlanks_cons_of_not_blank (by decide) rest
  cases hRead : read previous
      (name.text ++ (gap.text ++ '=' :: rest)) with
  | none => rfl
  | some result =>
      exfalso
      rcases hReads hRead with
        ⟨-, -, word, hWord, after, hText, hFollows⟩
      rcases hLeaves with ⟨d, behind, hBehind, hOther⟩
      rw [hBehind] at hText hSign
      rcases exists_rest_of_word (word_of_routeMark hWord).2
          hOther hText with
        ⟨more, hName, hAfter⟩
      cases more with
      | nil =>
          rw [List.nil_append] at hAfter
          rw [hAfter] at hFollows
          rcases hFollows with hOpen | hEnds
          · simp [openArguments?, hSign] at hOpen
          · simp [attributeEnds, hSign] at hEnds
      | cons c more =>
          rcases leavesWord_of_followsName hFollows with
            ⟨e, tail, hTail, hNone⟩
          rw [hAfter, List.cons_append, List.cons.injEq]
            at hTail
          have hChar := name.isWord c (by simp [hName])
          rw [hTail.1, hNone] at hChar
          exact absurd hChar (by simp)

/- Nothing is read from a text that offers no mark. -/
theorem passes_of_not_offersMark
    {stretch rest : Text}
    (hMarks : ¬OffersMark stretch)
    (hLast : ∀ c ∈ stretch.getLast?, isBlank c = false)
    (hLeaves : LeavesWord rest)
    (previous : Option Char) :
    Passes read previous stretch rest := by
  intro front c back hText
  cases hRead : read (charBefore previous front)
      (c :: back ++ rest) with
  | none => rfl
  | some result =>
      exfalso
      rcases hReads hRead with
        ⟨hStart, -, word, hWord, after, hRest, hFollows⟩
      rcases hLeaves with ⟨d, behind, rfl, hOther⟩
      rcases exists_rest_of_word (word_of_routeMark hWord).2
          hOther hRest with
        ⟨more, hMore, rfl⟩
      have hBegins : wordMayStart front.getLast? = true := by
        cases front with
        | nil => rfl
        | cons e front =>
            rw [charBefore, Option.or_of_isSome (by simp)]
              at hStart
            exact hStart
      rw [hMore] at hText
      refine hMarks
        ⟨front, word, hWord, more, hText, hBegins, ?_⟩
      by_cases hEnd : more = []
      · exact Or.inl hEnd
      · rw [hText, ← List.append_assoc,
          List.getLast?_append_of_ne_nil _ hEnd] at hLast
        exact Or.inr
          (followsName_of_append hEnd hLast hFollows)

variable
  (hQuote : '"' ∉ start)
  (hLiterals : ∀ literal : Literal, ¬start <:+: literal.text)

include hQuote hLiterals

/- Nothing is read from a literal. -/
theorem passes_quoted
    (literal : Literal)
    (previous : Option Char)
    (rest : Text) :
    Passes read previous literal.quoted rest := by
  have hMark : isWordChar '"' = false := by decide
  have hInside :
      ∀ previous,
        Passes read previous literal.text ('"' :: rest) := by
    intro previous front c back hText
    cases hRead : read (charBefore previous front)
        (c :: back ++ '"' :: rest) with
    | none => rfl
    | some result =>
        have hPrefix :=
          prefix_of_append_mark hQuote (hReads hRead).2.1
        have hSuffix : c :: back <:+ literal.text :=
          ⟨front, hText.symm⟩
        exact absurd
          (hPrefix.isInfix.trans hSuffix.isInfix)
          (hLiterals literal)
  exact passes_cons hReads hMark
    (.append (hInside _)
      (passes_cons hReads hMark passes_nil _))
    previous

theorem passes_value
    {value : Value}
    (hUnmarked : value.IsUnmarked)
    {rest : Text}
    (hLeaves : LeavesWord rest)
    (previous : Option Char) :
    Passes read previous value.text rest := by
  cases value with
  | literal content =>
      exact passes_quoted hReads hQuote hLiterals content _ _
  | name word =>
      refine passes_of_not_offersMark hReads hUnmarked ?_
        hLeaves _
      intro c hLast
      exact isBlank_of_isWordChar
        (word.isWord c (List.mem_of_getLast? hLast))
  | call word gap inside balanced =>
      have hText :
          (Value.call word gap inside balanced).text =
            (word.text ++ (gap.text ++ '(' :: inside)) ++
              [')'] := by
        simp [Value.text]
      have hParen : isBlank ')' = false := by decide
      refine passes_of_not_offersMark hReads hUnmarked ?_
        hLeaves _
      rw [hText, List.getLast?_concat]
      rintro c ⟨⟩
      exact hParen

theorem passes_named
    {argument : NamedArgument}
    (hUnmarked : argument.value.IsUnmarked)
    {rest : Text}
    (hLeaves : LeavesWord rest)
    (previous : Option Char) :
    Passes read previous argument.text rest := by
  have hGap :
      ∀ (gap : Gap) previous rest,
        Passes read previous gap.text rest :=
    fun gap previous rest =>
      passes_of_not_word hReads gap.not_word previous rest
  have hSign : isWordChar '=' = false := by decide
  refine .append (hGap _ _ _) (.append ?_
    (.append (hGap _ _ _) (passes_cons hReads hSign
      (.append (hGap _ _ _) (.append ?_ (hGap _ _ _))) _)))
  · apply passes_word hReads argument.name.isWord
    rw [List.append_assoc]
    exact read_name hReads _ _ _ _
  · exact passes_value hReads hQuote hLiterals hUnmarked
      (argument.behind.leavesWord_append hLeaves) _

/- Commas may stand between and before named arguments. -/
theorem passes_listed
    {named : List NamedArgument}
    (hUnmarked :
      ∀ argument ∈ named, argument.value.IsUnmarked)
    (first : Bool)
    {rest : Text}
    (hLeaves : LeavesWord rest)
    (previous : Option Char) :
    Passes read previous (listed first named) rest := by
  have hComma : isWordChar ',' = false := by decide
  induction named generalizing first previous with
  | nil =>
      cases first <;> exact passes_nil
  | cons argument named ih =>
      rw [List.forall_mem_cons] at hUnmarked
      have hMore : LeavesWord (listed false named ++ rest) := by
        cases named with
        | nil => exact hLeaves
        | cons next named => exact leavesWord_cons hComma _
      have hBoth :
          ∀ previous,
            Passes read previous
              (argument.text ++ listed false named) rest :=
        fun previous =>
          .append
            (passes_named hReads hQuote hLiterals
              hUnmarked.1 hMore previous)
            (ih hUnmarked.2 false _)
      cases first with
      | true => exact hBoth previous
      | false => exact passes_cons hReads hComma (hBoth _) _

/- Nothing is read behind the template. -/
theorem passes_tail
    {arguments : Arguments}
    (hUnmarked :
      ∀ argument ∈ arguments.named,
        argument.value.IsUnmarked)
    (previous : Option Char)
    (rest : Text) :
    Passes read previous (arguments.tail ++ [')']) rest := by
  have hParen : isWordChar ')' = false := by decide
  have hListed :=
    passes_listed hReads hQuote hLiterals hUnmarked
      arguments.template?.isNone
      (leavesWord_cons hParen rest)
  unfold Arguments.tail
  rw [List.append_assoc]
  exact .append
    (passes_of_not_word hReads arguments.behind.not_word _ _)
    (.append (hListed _)
      (passes_cons hReads hParen passes_nil _))

/- Nothing is read from any arguments. -/
theorem passes_arguments
    {arguments : Arguments}
    (hUnmarked :
      ∀ argument ∈ arguments.named,
        argument.value.IsUnmarked)
    (previous : Option Char)
    (rest : Text) :
    Passes read previous arguments.text rest := by
  have hParen : isWordChar '(' = false := by decide
  have hTemplate :
      ∀ previous rest,
        Passes read previous
          ((arguments.template?.map (·.quoted)).getD [])
          rest := by
    intro previous rest
    cases arguments.template? with
    | none => exact passes_nil
    | some literal =>
        exact passes_quoted hReads hQuote hLiterals literal
          previous rest
  refine .append ?_
    (passes_cons hReads hParen
      (.append ?_
        (.append (hTemplate _ _)
          (passes_tail hReads hQuote hLiterals hUnmarked
            _ _)))
      _)
  · exact passes_of_not_word hReads
      arguments.before.not_word _ _
  · exact passes_of_not_word hReads
      arguments.inner.not_word _ _

end Readers

end Sections

end RouteAtlas
