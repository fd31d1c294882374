import Mathlib
import RouteAtlas.Proofs.Layout.Hits
import RouteAtlas.Proofs.Sections.Passes

/-
  What is read from one attribute.

  The arguments are closed by the first parenthesis that
  closes anything behind the template, which must have a
  comma or a bracket behind it.  What is left of the
  arguments is passed, so each reader reads an attribute
  once or not at all.

  Main statements:
    * `verbArguments?_text`
    * `isReadAs_verb`
    * `isReadAs_route`
    * `isClosed_of_verb`
    * `isClosed_of_route`
-/

------------------------------------------------------------
-- Closing Parentheses
------------------------------------------------------------

namespace RouteAtlas

namespace Source

open Text

/- No attribute ends at a parenthesis. -/
theorem attributeEnds_append_paren
    (t rest : Text) :
    attributeEnds (t ++ ')' :: rest) = attributeEnds t := by
  unfold attributeEnds dropBlanks
  rw [List.dropWhile_append]
  cases t.dropWhile isBlank with
  | nil => rfl
  | cons c others =>
      rw [if_neg (by simp), List.cons_append]
      by_cases hComma : c = ','
      · subst hComma
        rfl
      · by_cases hBracket : c = ']'
        · subst hBracket
          rfl
        · simp [hComma, hBracket]

theorem endOfAttribute?_of_ends
    {t : Text}
    (hEnds : attributeEnds t = true) :
    endOfAttribute? t = some t := by
  unfold endOfAttribute?
  rw [if_pos hEnds]

/- Where an attribute ends, no arguments are opened. -/
theorem verbArguments?_of_ends
    {t : Text}
    (hEnds : attributeEnds t = true) :
    verbArguments? t = some (none, t) := by
  have hOpen : openArguments? t = none := by
    unfold attributeEnds at hEnds
    unfold openArguments?
    split at hEnds
    next hBlanks => simp [hBlanks]
    next hBlanks => simp [hBlanks]
    next => simp at hEnds
  unfold verbArguments?
  rw [hOpen, endOfAttribute?_of_ends hEnds]
  rfl

end Source

namespace Sections

open Source Text

theorem Gap.closeArguments?_append
    (gap : Gap)
    (t : Text) :
    closeArguments? (gap.text ++ t) = closeArguments? t := by
  have hParen : ')' ∉ gap.text := by
    intro hMember
    exact absurd (gap.blank _ hMember) (by decide)
  unfold closeArguments?
  rw [after?_append_of_not_mem hParen]

namespace Arguments

variable {arguments : Arguments}
variable {rest : Text}

/- Closed arguments are closed within or at their end. -/
theorem closeArguments?_tail
    (hClosed : arguments.IsClosed)
    (hEnds : attributeEnds rest = true) :
    ∃ front back,
      arguments.tail ++ [')'] = front ++ back ∧
        closeArguments? (arguments.tail ++ ')' :: rest) =
          some (back ++ rest) := by
  unfold closeArguments?
  by_cases hParen : ')' ∈ arguments.tail
  · rcases List.eq_append_cons_of_mem hParen with
      ⟨front, back, hTail, hFront⟩
    have hWithin :
        attributeEnds (back ++ ')' :: rest) = true := by
      rw [attributeEnds_append_paren]
      exact hClosed back (by rw [hTail, after?_append hFront])
    refine
      ⟨front ++ [')'], back ++ [')'], by simp [hTail], ?_⟩
    rw [hTail, List.append_assoc, List.cons_append,
      after?_append hFront, Option.bind_some,
      endOfAttribute?_of_ends hWithin]
    simp
  · refine ⟨arguments.tail ++ [')'], [], by simp, ?_⟩
    rw [after?_append hParen, Option.bind_some,
      endOfAttribute?_of_ends hEnds]
    rfl

/- Only closed arguments are found to be closed. -/
theorem isClosed_of_closeArguments?
    (hClose :
      (closeArguments?
        (arguments.tail ++ ')' :: rest)).isSome) :
    arguments.IsClosed := by
  intro others hAfter
  rcases List.eq_append_cons_of_mem (mem_of_after? hAfter)
    with ⟨front, back, hTail, hFront⟩
  rw [hTail, after?_append hFront, Option.some.injEq]
    at hAfter
  unfold closeArguments? endOfAttribute? at hClose
  rw [hTail, List.append_assoc, List.cons_append,
    after?_append hFront, Option.bind_some,
    attributeEnds_append_paren, hAfter] at hClose
  by_contra hOpen
  rw [if_neg hOpen] at hClose
  exact absurd hClose (by simp)

------------------------------------------------------------
-- Arguments
------------------------------------------------------------

/- The arguments open before the template, if any. -/
theorem openArguments?_text
    (arguments : Arguments)
    (rest : Text) :
    openArguments? (arguments.text ++ rest) =
      some
        (arguments.inner.text ++
          ((arguments.template?.map (·.quoted)).getD [] ++
            (arguments.tail ++ ')' :: rest))) := by
  have hParen : isBlank '(' = false := by decide
  unfold openArguments? text
  rw [List.append_assoc, Gap.dropBlanks_append,
    List.cons_append, dropBlanks_cons_of_not_blank hParen]
  simp

/- A template is read before what closes the arguments. -/
theorem templateArguments?_quoted
    (gap : Gap)
    (literal : Literal)
    (t : Text) :
    templateArguments? (gap.text ++ (literal.quoted ++ t)) =
      (closeArguments? t).map fun others =>
        (literal.text, others) := by
  have hQuote : isBlank '"' = false := by decide
  unfold templateArguments? quotedTemplate? Literal.quoted
  rw [gap.dropBlanks_append, List.cons_append,
    dropBlanks_cons_of_not_blank hQuote,
    List.append_assoc, List.singleton_append]
  simp only [after?_append literal.noQuote,
    before_append literal.noQuote, Option.map_some,
    Option.bind_eq_bind, Option.bind_some]
  cases closeArguments? t <;> rfl

/- Without a template, a name or parenthesis comes first. -/
theorem templateArguments?_eq_none
    (hNone : arguments.template? = none)
    (rest : Text) :
    templateArguments?
        (arguments.inner.text ++
          (arguments.tail ++ ')' :: rest)) =
      none := by
  have hQuote :
      quotedTemplate?
          (dropBlanks
            (arguments.inner.text ++
              (arguments.tail ++ ')' :: rest))) =
        none := by
    rw [Gap.dropBlanks_append]
    unfold tail
    rw [hNone, List.append_assoc, Gap.dropBlanks_append]
    cases arguments.named with
    | nil => rfl
    | cons argument named =>
        have hSolid :
            ∀ c ∈ argument.name.text, isBlank c = false :=
          fun c hChar =>
            isBlank_of_isWordChar
              (argument.name.isWord c hChar)
        simp only [listed, Option.isNone_none,
          NamedArgument.text, List.append_assoc]
        rw [Gap.dropBlanks_append,
          dropBlanks_append_of_solid argument.name.nonempty
            hSolid]
        cases hName : argument.name.text with
        | nil => exact absurd hName argument.name.nonempty
        | cons c name =>
            have hChar :=
              argument.name.isWord c (by simp [hName])
            have hOther : c ≠ '"' := by
              rintro rfl
              exact absurd hChar (by decide)
            unfold quotedTemplate?
            split
            next inside hText =>
              rw [List.cons_append, List.cons.injEq] at hText
              exact absurd hText.1 hOther
            next => rfl
  unfold templateArguments?
  rw [hQuote]
  rfl

/- Closed arguments are read, with the template if any. -/
theorem verbArguments?_text
    (hClosed : arguments.IsClosed)
    (hEnds : attributeEnds rest = true) :
    ∃ front back,
      arguments.tail ++ [')'] = front ++ back ∧
        verbArguments? (arguments.text ++ rest) =
          some
            (arguments.template?.map (·.text),
              back ++ rest) := by
  rcases closeArguments?_tail hClosed hEnds with
    ⟨front, back, hTail, hClose⟩
  refine ⟨front, back, hTail, ?_⟩
  unfold verbArguments?
  rw [openArguments?_text]
  cases hTemplate : arguments.template? with
  | none =>
      simp only [Option.map_none, Option.getD_none,
        List.nil_append, templateArguments?_eq_none hTemplate,
        Gap.closeArguments?_append, hClose]
      rfl
  | some literal =>
      simp only [Option.map_some, Option.getD_some,
        templateArguments?_quoted, hClose]

/-
  If arguments are read with the template they have, they
  are closed.
-/
theorem isClosed_of_verbArguments?
    {others : Text}
    (hRead :
      verbArguments? (arguments.text ++ rest) =
        some (arguments.template?.map (·.text), others)) :
    arguments.IsClosed := by
  unfold verbArguments? at hRead
  rw [openArguments?_text] at hRead
  have hSome :
      (closeArguments?
        (arguments.tail ++ ')' :: rest)).isSome := by
    cases hTemplate : arguments.template? with
    | none =>
        simp only [hTemplate, Option.map_none,
          Option.getD_none, List.nil_append,
          templateArguments?_eq_none hTemplate,
          Gap.closeArguments?_append,
          Option.map_eq_some_iff] at hRead
        rcases hRead with ⟨behind, hClose, -⟩
        rw [hClose]
        rfl
    | some literal =>
        simp only [hTemplate, Option.map_some,
          Option.getD_some, templateArguments?_quoted] at hRead
        cases hClose : closeArguments?
            (arguments.tail ++ ')' :: rest) with
        | none => simp [hClose] at hRead
        | some behind => rfl
  exact isClosed_of_closeArguments? hSome

end Arguments

------------------------------------------------------------
-- Attributes
------------------------------------------------------------

theorem Arguments.exists_opening
    (arguments : Arguments) :
    ∃ opening,
      arguments.text =
        opening ++ (arguments.tail ++ [')']) :=
  ⟨arguments.before.text ++
      '(' ::
        (arguments.inner.text ++
          (arguments.template?.map (·.quoted)).getD []),
    by simp [Arguments.text]⟩

section Readers

variable {α : Type}
variable {start word rest : Text}
variable {arguments : Arguments}
variable {previous : Option Char}
variable
  (hUnmarked :
    ∀ argument ∈ arguments.named,
      argument.value.IsUnmarked)
variable
  (hLiterals : ∀ literal : Literal, ¬start <:+: literal.text)
variable (hQuote : '"' ∉ start)

include hUnmarked hLiterals hQuote

/-
  A name and its arguments are read once, if they are read
  up to a place behind their template.
-/
theorem readsOnce_closed
    {read : Option Char → Text → Option (α × Nat)}
    (hReads : ReadsAttributes start read)
    {front back : Text}
    (hTail : arguments.tail ++ [')'] = front ++ back)
    (hWord : word ≠ [])
    {value : α}
    (hRead :
      read previous (word ++ (arguments.text ++ rest)) =
        some
          (value,
            (word ++ (arguments.text ++ rest)).length -
              (back ++ rest).length)) :
    ReadsOnce read (some value) previous
      (word ++ arguments.text) rest := by
  rcases arguments.exists_opening with ⟨opening, hText⟩
  rw [hTail] at hText
  refine
    ⟨word ++ (opening ++ front), back, by simp [hText],
      by simp [hWord], ?_, ?_⟩
  · rw [List.append_assoc, hRead, hText]
    simp only [List.length_append]
    congr 2
    omega
  · have hPasses :=
      passes_tail hReads hQuote hLiterals hUnmarked
        (charBefore previous (word ++ opening)) rest
    rw [hTail] at hPasses
    rw [← List.append_assoc, charBefore_append]
    exact hPasses.behind

/- A name that is not read is passed with its arguments. -/
theorem passes_closed
    {read : Option Char → Text → Option α}
    (hReads : ReadsAttributes start read)
    (hWord : word ∈ Controller.routeMarks)
    (hNone :
      read previous (word ++ (arguments.text ++ rest)) =
        none) :
    Passes read previous (word ++ arguments.text) rest :=
  .append (passes_word hReads (word_of_routeMark hWord).2 hNone)
    (passes_arguments hReads hQuote hLiterals hUnmarked _ _)

end Readers

/-
  Whether an attribute is read once, with the given value,
  wherever a word may start and the attribute ends.
-/
def Attribute.IsReadAs
    {α : Type}
    (content : Attribute)
    (read : Option Char → Text → Option (α × Nat))
    (value? : Option α) :
    Prop :=
  ∀ previous rest,
    wordMayStart previous = true →
      attributeEnds rest = true →
        ReadsOnce read value? previous content.text rest

section Attributes

variable {content : Attribute}
variable (hClosed : content.IsClosed)
variable (hUnmarked : content.IsUnmarked)

include hClosed hUnmarked

/- A verb attribute is read once as one, and no other is. -/
theorem isReadAs_verb :
    content.IsReadAs readVerbAttribute content.verb? := by
  have hLiterals :
      ∀ literal : Literal, ¬"Http".toList <:+: literal.text :=
    fun literal => literal.noHttp
  intro previous rest hStart hEnds
  cases content with
  | bareVerb word =>
      have hRead :=
        Layout.readVerbAttribute_word hStart word rest
      rw [verbArguments?_of_ends hEnds] at hRead
      refine
        ⟨word.text, [], (List.append_nil _).symm,
          by cases word <;> decide, ?_, passes_nil⟩
      simpa [Attribute.text] using hRead
  | verb word arguments =>
      rcases Arguments.verbArguments?_text hClosed hEnds with
        ⟨front, back, hTail, hArguments⟩
      apply readsOnce_closed hUnmarked hLiterals (by decide)
        readsAttributes_verb hTail (by cases word <;> decide)
      rw [Layout.readVerbAttribute_word hStart, hArguments]
      rfl
  | route arguments =>
      exact passes_closed hUnmarked hLiterals (by decide)
        readsAttributes_verb (by decide)
        (readVerbAttribute_of_ne (by decide) _ _)

/- A route attribute is read once, if it has a template. -/
theorem isReadAs_route :
    content.IsReadAs readRouteAttribute content.route? := by
  have hLiterals :
      ∀ literal : Literal, ¬"Route".toList <:+: literal.text :=
    fun literal => literal.noRoute
  have hVerbWord :
      ∀ (word : Layout.VerbWord) previous rest,
        readRouteAttribute previous (word.text ++ rest) =
          none := by
    intro word previous rest
    cases word <;>
      exact readRouteAttribute_of_ne (by decide) _ _
  intro previous rest hStart hEnds
  cases content with
  | bareVerb word =>
      exact passes_word readsAttributes_route word.text_isWord
        (hVerbWord word _ rest)
  | verb word arguments =>
      exact passes_closed hUnmarked hLiterals (by decide)
        readsAttributes_route (by cases word <;> decide)
        (hVerbWord word _ _)
  | route arguments =>
      have hRead :=
        Layout.readRouteAttribute_of_open hStart
          (arguments.openArguments?_text rest)
      change
        ReadsOnce _ (arguments.template?.map (·.text)) _ _ _
      cases hTemplate : arguments.template? with
      | none =>
          rw [hTemplate, Option.map_none, Option.getD_none,
            List.nil_append,
            Arguments.templateArguments?_eq_none hTemplate]
            at hRead
          exact passes_closed hUnmarked hLiterals (by decide)
            readsAttributes_route (by decide) hRead
      | some literal =>
          rcases Arguments.closeArguments?_tail
              (hClosed (by rw [hTemplate]; rfl)) hEnds with
            ⟨front, back, hTail, hClose⟩
          rw [hTemplate, Option.map_some, Option.getD_some,
            Arguments.templateArguments?_quoted, hClose]
            at hRead
          exact readsOnce_closed hUnmarked hLiterals
            (by decide) readsAttributes_route hTail
            (by decide) hRead

end Attributes

/-
  A verb attribute that is read with its own verb and
  template has closed arguments.
-/
theorem isClosed_of_verb
    {content : Attribute}
    {value : HttpVerb × Option Text}
    {previous : Option Char}
    {rest : Text}
    {length : Nat}
    (hValue : content.verb? = some value)
    (hRead :
      readVerbAttribute previous (content.text ++ rest) =
        some (value, length)) :
    content.IsClosed := by
  cases content with
  | bareVerb word => trivial
  | route arguments =>
      exact absurd hValue (by simp [Attribute.verb?])
  | verb word arguments =>
      have hWord :=
        Layout.readVerbAttribute_word
          (readsAttributes_verb hRead).1 word
          (arguments.text ++ rest)
      rw [← List.append_assoc] at hWord
      rw [Attribute.text, hWord, Option.map_eq_some_iff]
        at hRead
      rcases hRead with
        ⟨⟨template, others⟩, hArguments, hPair⟩
      rw [Attribute.verb?, Option.some.injEq] at hValue
      simp only [Prod.mk.injEq, ← hValue] at hPair
      rw [hPair.1.2] at hArguments
      exact Arguments.isClosed_of_verbArguments? hArguments

/- A route attribute that is read has closed arguments. -/
theorem isClosed_of_route
    {content : Attribute}
    {template : Text}
    {previous : Option Char}
    {rest : Text}
    {length : Nat}
    (hTemplate : content.route? = some template)
    (hRead :
      readRouteAttribute previous (content.text ++ rest) =
        some (template, length)) :
    content.IsClosed := by
  cases content with
  | bareVerb word => trivial
  | verb word arguments =>
      exact absurd hTemplate (by simp [Attribute.route?])
  | route arguments =>
      rw [Attribute.route?, Option.map_eq_some_iff]
        at hTemplate
      rcases hTemplate with ⟨literal, hLiteral, -⟩
      have hOpen :=
        Layout.readRouteAttribute_of_open
          (readsAttributes_route hRead).1
          (arguments.openArguments?_text rest)
      rw [hLiteral, Option.map_some, Option.getD_some,
        Arguments.templateArguments?_quoted,
        ← List.append_assoc] at hOpen
      rw [Attribute.text, hOpen, Option.map_map,
        Option.map_eq_some_iff] at hRead
      rcases hRead with ⟨others, hClose, -⟩
      intro _
      apply Arguments.isClosed_of_closeArguments?
      rw [hClose]
      rfl

end Sections

end RouteAtlas
