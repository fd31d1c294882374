import Mathlib
import RouteAtlas.Proofs.Layout.AttributeLine
import RouteAtlas.Proofs.Source.Attribute

/-
  What is found on the line of an attribute.

  A verb attribute is read as one whole and its template is
  passed over with it.  A route attribute begins with an
  `R` that has two quotes behind it, so none can be read
  from inside a template; and no template holds what verb
  attributes begin with.

  Main statements:
    * `findAll_verb`
    * `findAll_route`
    * `attributesOnLine_line`
-/

------------------------------------------------------------
-- Readers
------------------------------------------------------------

namespace RouteAtlas

namespace Layout

open Source Text

/- A verb attribute is read with what is read behind it. -/
theorem readVerbAttribute_word
    {previous : Option Char}
    (hStart : wordMayStart previous = true)
    (word : VerbWord)
    (t : Text) :
    readVerbAttribute previous (word.text ++ t) =
      (verbArguments? t).map fun (template, rest) =>
        ((word.verb, template),
          (word.text ++ t).length - rest.length) := by
  have hWord :
      ("Http".toList.isPrefixOf? (word.text ++ t)).bind
          verbWord? =
        some (word.verb, t) := by
    cases word <;> rfl
  rw [Option.bind_eq_some_iff] at hWord
  rcases hWord with ⟨rest, hHttp, hVerb⟩
  unfold readVerbAttribute
  rw [if_pos hStart, hHttp]
  simp only [Option.bind_eq_bind, Option.bind_some, hVerb]
  cases verbArguments? t <;> rfl

/- A route attribute is read with what it opens. -/
theorem readRouteAttribute_of_open
    {previous : Option Char}
    (hStart : wordMayStart previous = true)
    {t arguments : Text}
    (hOpen : openArguments? t = some arguments) :
    readRouteAttribute previous ("Route".toList ++ t) =
      (templateArguments? arguments).map
        fun (template, rest) =>
          (template,
            ("Route".toList ++ t).length - rest.length) := by
  have hName :
      "Route".toList.isPrefixOf? ("Route".toList ++ t) =
        some t :=
    isPrefixOf?_append _ t
  unfold readRouteAttribute
  rw [if_pos hStart, hName]
  simp only [Option.bind_eq_bind, Option.bind_some, hOpen]
  cases templateArguments? arguments <;> rfl

namespace Attribute

theorem openArguments?_arguments
    (template : Literal) :
    openArguments? (arguments (some template) ++ [']']) =
      some
        ('"' :: (template.text ++ '"' :: [')', ']'])) := by
  unfold arguments openArguments?
  rw [List.cons_append,
    dropBlanks_cons_of_not_blank (by decide)]
  simp

/- The arguments of a verb attribute are read as written. -/
theorem verbArguments?_arguments
    (literal : Option Literal) :
    verbArguments? (arguments literal ++ [']']) =
      some (literal.map (·.text), [']']) := by
  cases literal with
  | none => rfl
  | some template =>
      unfold verbArguments?
      rw [openArguments?_arguments]
      simp only [templateArguments?_literal template.noQuote]
      rfl

/- A verb attribute is read up to its closing bracket. -/
theorem readVerbAttribute_text
    {previous : Option Char}
    (hStart : wordMayStart previous = true)
    (word : VerbWord)
    (literal : Option Literal) :
    readVerbAttribute previous
        ((word.text ++ arguments literal) ++ [']']) =
      some
        ((word.verb, literal.map (·.text)),
          (word.text ++ arguments literal).length) := by
  rw [List.append_assoc, readVerbAttribute_word hStart,
    verbArguments?_arguments]
  simp

/- A route attribute is read up to its closing bracket. -/
theorem readRouteAttribute_text
    {previous : Option Char}
    (hStart : wordMayStart previous = true)
    (template : Literal) :
    readRouteAttribute previous
        (("Route".toList ++ arguments (some template)) ++
          [']']) =
      some
        (template.text,
          ("Route".toList ++
            arguments (some template)).length) := by
  rw [List.append_assoc,
    readRouteAttribute_of_open hStart
      (openArguments?_arguments template),
    templateArguments?_literal template.noQuote]
  simp

end Attribute

------------------------------------------------------------
-- Searches
------------------------------------------------------------

/-
  A stretch between brackets that is read as a whole is all
  that is found, if nothing is read at a bracket.
-/
theorem findAllFrom_bracketed
    {α : Type}
    {read : Option Char → Text → Option (α × Nat)}
    {stretch : Text}
    {a : α}
    (hStretch : stretch ≠ [])
    (hOpening :
      ∀ previous rest, read previous ('[' :: rest) = none)
    (hClosing :
      ∀ previous rest, read previous (']' :: rest) = none)
    (hRead :
      read (some '[') (stretch ++ [']']) =
        some (a, stretch.length))
    (previous : Option Char)
    (column : Nat) :
    findAllFrom read previous 0 column
        ('[' :: (stretch ++ [']'])) =
      [(column + 1, a)] := by
  rw [findAllFrom, hOpening]
  simp only
  rw [findAllFrom_read hStretch hRead, findAllFrom,
    hClosing]
  simp only [findAllFrom]

/-
  No route attribute is read on the line of another one: all
  that stands before both quotes holds no `R`.
-/
theorem readRouteAttribute_eq_none
    {front word back : Text}
    {c : Char}
    {template : Literal}
    (hWord : 'R' ∉ word ∧ '"' ∉ word)
    (hText :
      Attribute.bracketed word (some template) =
        front ++ c :: back)
    (previous : Option Char) :
    readRouteAttribute previous (c :: back) = none := by
  cases hRead : readRouteAttribute previous (c :: back) with
  | none => rfl
  | some result =>
      exfalso
      have hChar : c = 'R' := by
        by_contra hChar
        rw [readRouteAttribute_of_ne hChar] at hRead
        exact absurd hRead (by simp)
      have hQuotes := quotes_of_readRouteAttribute hRead
      have hOpening :
          ('[' :: (word ++ ['('])) ++
              '"' :: (template.text ++ '"' :: [')', ']']) =
            front ++ c :: back := by
        rw [← hText]
        simp [Attribute.bracketed, Attribute.arguments]
      have hCount := congrArg (List.count '"') hOpening
      have hTemplate :=
        List.count_eq_zero_of_not_mem template.noQuote
      have hZero := List.count_eq_zero_of_not_mem hWord.2
      simp only [List.count_append, List.count_cons,
        List.count_nil, hTemplate, hZero] at hCount hQuotes
      have hFront : '"' ∉ front := by
        rw [← List.count_eq_zero]
        simp at hCount hQuotes
        omega
      have hMember : 'R' ∈ '[' :: (word ++ ['(']) :=
        mem_of_append_mark (hChar ▸ hOpening) hFront
          (by decide)
      simp [hWord.1] at hMember

------------------------------------------------------------
-- Lines
------------------------------------------------------------

namespace Attribute

/- Which attribute it is found to be. -/
def kind :
    Attribute → AttributeKind
  | .bareVerb word => .verb word.verb
  | .verb word _ => .verb word.verb
  | .route _ => .route

/- The attribute as it is found on a line. -/
def hit
    (index column : Nat)
    (content : Attribute) :
    AttributeHit :=
  ⟨content.kind, content.template?, index, column⟩

end Attribute

section Found

variable (indent : Nat)

theorem wordMayStart_opening :
    wordMayStart (some '[') = true := by
  decide

/- A verb attribute is the one that is found. -/
theorem findAll_verb
    (word : VerbWord)
    (literal : Option Literal) :
    findAll readVerbAttribute
        (indented indent
          (Attribute.bracketed word.text literal)) =
      [(indent + 1, word.verb, literal.map (·.text))] := by
  rcases findAll_indented
      (readVerbAttribute_of_ne (by decide)) indent
      (Attribute.bracketed word.text literal) with
    ⟨previous, hFind⟩
  have hWord :
      word.text ++ Attribute.arguments literal ≠ [] := by
    apply List.append_ne_nil_of_left_ne_nil
    cases word <;> decide
  have hRead :=
    Attribute.readVerbAttribute_text wordMayStart_opening
      word literal
  rw [hFind]
  unfold Attribute.bracketed
  rw [← List.append_assoc]
  exact findAllFrom_bracketed hWord
    (readVerbAttribute_of_ne (by decide))
    (readVerbAttribute_of_ne (by decide)) hRead previous
    indent

/- No verb attribute is found on the line of a route. -/
theorem findAll_verb_of_route
    (template : Literal) :
    findAll readVerbAttribute
        (indented indent
          (Attribute.bracketed "Route".toList
            (some template))) =
      [] := by
  rcases findAll_indented
      (readVerbAttribute_of_ne (by decide)) indent
      (Attribute.bracketed "Route".toList (some template))
    with ⟨previous, hFind⟩
  rw [hFind]
  apply findAllFrom_eq_nil
  intro front c back hText
  cases hRead : readVerbAttribute
      (charBefore previous front) (c :: back) with
  | none => rfl
  | some result =>
      exfalso
      have hSuffix : c :: back <:+ front ++ c :: back :=
        List.suffix_append _ _
      rw [← hText] at hSuffix
      have hPrefix :=
        (prefix_of_readVerbAttribute hRead).isInfix
      have hInfix :
          "Http".toList <:+:
            "[Route(".toList ++
              '"' :: (template.text ++
                '"' :: [')', ']']) := by
        simpa [Attribute.bracketed, Attribute.arguments]
          using hPrefix.trans hSuffix.isInfix
      rcases infix_of_append_mark (by decide) hInfix with
        hFront | hBack
      · exact absurd hFront (by decide)
      · rcases infix_of_append_mark (by decide) hBack with
          hTemplate | hEnd
        · exact template.noHttp hTemplate
        · exact absurd hEnd (by decide)

/- A route attribute is the one that is found. -/
theorem findAll_route
    (template : Literal) :
    findAll readRouteAttribute
        (indented indent
          (Attribute.bracketed "Route".toList
            (some template))) =
      [(indent + 1, template.text)] := by
  rcases findAll_indented
      (readRouteAttribute_of_ne (by decide)) indent
      (Attribute.bracketed "Route".toList (some template))
    with ⟨previous, hFind⟩
  have hRead :=
    Attribute.readRouteAttribute_text wordMayStart_opening
      template
  rw [hFind]
  unfold Attribute.bracketed
  rw [← List.append_assoc]
  exact findAllFrom_bracketed (by simp)
    (readRouteAttribute_of_ne (by decide))
    (readRouteAttribute_of_ne (by decide)) hRead previous
    indent

/- No route attribute is found on the line of a verb. -/
theorem findAll_route_of_verb
    (word : VerbWord)
    (literal : Option Literal) :
    findAll readRouteAttribute
        (indented indent
          (Attribute.bracketed word.text literal)) =
      [] := by
  rcases findAll_indented
      (readRouteAttribute_of_ne (by decide)) indent
      (Attribute.bracketed word.text literal) with
    ⟨previous, hFind⟩
  rw [hFind]
  apply findAllFrom_eq_nil
  intro front c back hText
  cases literal with
  | none =>
      have hMember :
          c ∈ Attribute.bracketed word.text none := by
        rw [hText]
        simp
      apply readRouteAttribute_of_ne
      rintro rfl
      simp [Attribute.bracketed, Attribute.arguments,
        word.not_mem_text.2] at hMember
  | some template =>
      have hQuote : '"' ∉ word.text := by
        intro hQuote
        exact absurd (word.text_isWord _ hQuote) (by decide)
      exact readRouteAttribute_eq_none
        ⟨word.not_mem_text.2, hQuote⟩ hText _

end Found

namespace AttributeLine

/- The line of an attribute holds that attribute only. -/
theorem attributesOnLine_line
    (row : AttributeLine)
    (index : Nat) :
    attributesOnLine row.line index =
      [row.content.hit index (row.indent + 1)] := by
  rcases row with ⟨indent, content⟩
  unfold attributesOnLine line Attribute.text
  cases content with
  | bareVerb word =>
      simp only [Attribute.word, Attribute.literal?]
      rw [findAll_verb, findAll_route_of_verb]
      rfl
  | verb word template =>
      simp only [Attribute.word, Attribute.literal?]
      rw [findAll_verb, findAll_route_of_verb]
      rfl
  | route template =>
      simp only [Attribute.word, Attribute.literal?]
      rw [findAll_verb_of_route, findAll_route]
      rfl

end AttributeLine

/- There are no attributes in the indentation of a line. -/
theorem attributesOnLine_indented_nil
    (indent index : Nat) :
    attributesOnLine (indented indent []) index = [] := by
  rcases findAll_indented
      (readVerbAttribute_of_ne (by decide)) indent [] with
    ⟨previous, hVerb⟩
  rcases findAll_indented
      (readRouteAttribute_of_ne (by decide)) indent [] with
    ⟨last, hRoute⟩
  unfold attributesOnLine
  rw [hVerb, hRoute]
  rfl

end Layout

end RouteAtlas
