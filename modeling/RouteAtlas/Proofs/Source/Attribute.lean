import Mathlib
import RouteAtlas.Controller.File
import RouteAtlas.Proofs.Text.Search
import RouteAtlas.Proofs.Text.Split
import RouteAtlas.Proofs.Text.Words

/-
  What stands where an attribute is found.

  Every attribute found begins with one of the route marks,
  which stands there as a whole word.  The attributes of a
  declaration are found on its own line or on one of the
  lines above it.

  Main statements:
    * `holdsWord_of_hit`
    * `hit_located`
-/

------------------------------------------------------------
-- Whole Words
------------------------------------------------------------

namespace RouteAtlas

namespace Source

open Text

/- Whether a character that is in no word comes next. -/
def LeavesWord
    (t : Text) :
    Prop :=
  ∃ c rest, t = c :: rest ∧ isWordChar c = false

theorem wordEndsAt_of_leavesWord
    {t : Text}
    (hLeaves : LeavesWord t) :
    wordEndsAt t = true := by
  rcases hLeaves with ⟨c, rest, rfl, hChar⟩
  simp [wordEndsAt, hChar]

/-
  Whether a text holds one of the words, from the start of a
  word to a character that is in no word.
-/
def HoldsWord
    (words : List Text)
    (t : Text) :
    Prop :=
  ∃ before, ∃ word ∈ words, ∃ after,
    t = before ++ (word ++ after) ∧
      wordMayStart before.getLast? = true ∧
      LeavesWord after

/- A word that a beginning holds is held by the whole. -/
theorem HoldsWord.append
    {words : List Text}
    {t : Text}
    (hHolds : HoldsWord words t)
    (rest : Text) :
    HoldsWord words (t ++ rest) := by
  rcases hHolds with
    ⟨before, word, hWord, after, rfl, hStart, hAfter⟩
  rcases hAfter with ⟨c, tail, rfl, hChar⟩
  exact
    ⟨before, word, hWord, c :: tail ++ rest, by simp,
      hStart, c, tail ++ rest, rfl, hChar⟩

/- Text that ends outside a word may precede a word. -/
theorem HoldsWord.prepend
    {words : List Text}
    {t front : Text}
    (hHolds : HoldsWord words t)
    (hFront :
      ∀ c ∈ front.getLast?, isWordChar c = false) :
    HoldsWord words (front ++ t) := by
  rcases hHolds with
    ⟨before, word, hWord, after, rfl, hStart, hAfter⟩
  refine
    ⟨front ++ before, word, hWord, after, by simp, ?_,
      hAfter⟩
  cases before with
  | nil =>
      rw [List.append_nil]
      cases hLast : front.getLast? with
      | none => rfl
      | some c => simp [wordMayStart, hFront c hLast]
  | cons c before =>
      rw [List.getLast?_append_of_ne_nil _ (by simp)]
      exact hStart

------------------------------------------------------------
-- Marks of Attributes
------------------------------------------------------------

/- Blanks, and a character in no word, leave a word. -/
theorem leavesWord_of_dropBlanks
    {t rest : Text}
    {c : Char}
    (hChar : isWordChar c = false)
    (hBlanks : dropBlanks t = c :: rest) :
    LeavesWord t := by
  rcases dropBlanks_split t with ⟨blanks, hText, hAll⟩
  rw [hBlanks] at hText
  cases blanks with
  | nil => exact ⟨c, rest, hText, hChar⟩
  | cons blank blanks =>
      exact
        ⟨blank, blanks ++ c :: rest, hText,
          isWordChar_of_isBlank (hAll blank (by simp))⟩

theorem leavesWord_of_openArguments?
    {t arguments : Text}
    (hOpen : openArguments? t = some arguments) :
    LeavesWord t := by
  unfold openArguments? at hOpen
  split at hOpen
  next rest hBlanks =>
    exact leavesWord_of_dropBlanks (by decide) hBlanks
  next => simp at hOpen

theorem leavesWord_of_attributeEnds
    {t : Text}
    (hEnds : attributeEnds t = true) :
    LeavesWord t := by
  unfold attributeEnds at hEnds
  split at hEnds
  next rest hBlanks =>
    exact leavesWord_of_dropBlanks (by decide) hBlanks
  next rest hBlanks =>
    exact leavesWord_of_dropBlanks (by decide) hBlanks
  next => simp at hEnds

/- Whether arguments open here, or the attribute ends. -/
def FollowsName
    (t : Text) :
    Prop :=
  (openArguments? t).isSome ∨ attributeEnds t = true

theorem leavesWord_of_followsName
    {t : Text}
    (hFollows : FollowsName t) :
    LeavesWord t := by
  rcases hFollows with hOpen | hEnds
  · rcases Option.isSome_iff_exists.mp hOpen with
      ⟨arguments, hOpen⟩
    exact leavesWord_of_openArguments? hOpen
  · exact leavesWord_of_attributeEnds hEnds

/- What follows a name is its first mark, blanks aside. -/
theorem followsName_iff
    {t : Text} :
    FollowsName t ↔
      ∃ c ∈ ['(', ',', ']'],
        (dropBlanks t).head? = some c := by
  unfold FollowsName openArguments? attributeEnds
  cases dropBlanks t with
  | nil => simp
  | cons c rest =>
      by_cases hOpen : c = '('
      · simp [hOpen]
      · by_cases hComma : c = ','
        · simp [hComma]
        · by_cases hBracket : c = ']'
          · simp [hBracket]
          · simp [hOpen, hComma, hBracket]

/- Behind what is no blank, nothing follows a name. -/
theorem followsName_of_append
    {t rest : Text}
    (hSome : t ≠ [])
    (hLast : ∀ c ∈ t.getLast?, isBlank c = false)
    (hFollows : FollowsName (t ++ rest)) :
    FollowsName t := by
  rw [followsName_iff] at hFollows ⊢
  rcases hFollows with ⟨c, hChar, hFirst⟩
  refine ⟨c, hChar, ?_⟩
  have hBlanks : dropBlanks t ≠ [] := by
    intro hBlanks
    have hSolid := hLast (t.getLast hSome)
      (List.getLast?_eq_some_getLast hSome)
    rw [List.dropWhile_eq_nil_iff.mp hBlanks _
      (List.getLast_mem hSome)] at hSolid
    exact absurd hSolid (by simp)
  unfold dropBlanks at hFirst hBlanks ⊢
  rw [List.dropWhile_append] at hFirst
  cases hDropped : t.dropWhile isBlank with
  | nil => exact absurd hDropped hBlanks
  | cons d others =>
      rw [hDropped] at hFirst
      simpa using hFirst

theorem followsName_of_verbArguments?
    {t : Text}
    {result : Option Text × Text}
    (hRead : verbArguments? t = some result) :
    FollowsName t := by
  unfold verbArguments? at hRead
  split at hRead
  next arguments hOpen =>
    exact Or.inl (by rw [hOpen]; rfl)
  next hOpen =>
    rw [Option.map_eq_some_iff] at hRead
    rcases hRead with ⟨rest, hEnd, -⟩
    unfold endOfAttribute? at hEnd
    split at hEnd
    next hEnds => exact Or.inr hEnds
    next => simp at hEnd

theorem verbWord?_split
    {t rest : Text}
    {verb : HttpVerb}
    (hRead : verbWord? t = some (verb, rest)) :
    ∃ word,
      "Http".toList ++ word ∈ Controller.routeMarks ∧
        t = word ++ rest := by
  rcases List.exists_of_findSome?_eq_some hRead with
    ⟨⟨word, other⟩, hWord, hSome⟩
  rw [Option.map_eq_some_iff] at hSome
  rcases hSome with ⟨tail, hTail, hPair⟩
  simp only [Prod.mk.injEq] at hPair
  rcases hPair with ⟨-, rfl⟩
  refine ⟨word, ?_, isPrefixOf?_eq_some_iff.mp hTail⟩
  have hWords :
      ∀ pair ∈ verbWords,
        "Http".toList ++ pair.1 ∈ Controller.routeMarks := by
    decide
  exact hWords (word, other) hWord

/-
  Whether a reader reads only from the start of a word, what
  begins with a given text and is one of the route marks,
  before arguments or the end of an attribute.
-/
def ReadsAttributes
    {α : Type}
    (start : Text)
    (read : Option Char → Text → Option α) :
    Prop :=
  ∀ {previous t result},
    read previous t = some result →
      wordMayStart previous = true ∧
        start <+: t ∧
          ∃ word ∈ Controller.routeMarks, ∃ after,
            t = word ++ after ∧ FollowsName after

theorem readsAttributes_verb :
    ReadsAttributes "Http".toList readVerbAttribute := by
  intro previous t result hRead
  unfold readVerbAttribute at hRead
  split at hRead
  next hStart =>
    simp only [Option.bind_eq_bind, Option.bind_eq_some_iff]
      at hRead
    rcases hRead with
      ⟨rest, hHttp, ⟨verb, tail⟩, hVerb, arguments,
        hArguments, -⟩
    rcases verbWord?_split hVerb with ⟨word, hWord, hRest⟩
    rw [isPrefixOf?_eq_some_iff] at hHttp
    refine
      ⟨hStart, ⟨rest, hHttp.symm⟩, "Http".toList ++ word,
        hWord, tail, ?_,
        followsName_of_verbArguments? hArguments⟩
    rw [hHttp, hRest, List.append_assoc]
  next => simp at hRead

theorem readsAttributes_route :
    ReadsAttributes "Route".toList readRouteAttribute := by
  intro previous t result hRead
  unfold readRouteAttribute at hRead
  split at hRead
  next hStart =>
    simp only [Option.bind_eq_bind, Option.bind_eq_some_iff]
      at hRead
    rcases hRead with ⟨rest, hRoute, arguments, hOpen, -⟩
    rw [isPrefixOf?_eq_some_iff] at hRoute
    exact
      ⟨hStart, ⟨rest, hRoute.symm⟩, "Route".toList,
        by decide, rest, hRoute,
        Or.inl (by rw [hOpen]; rfl)⟩
  next => simp at hRead

/- A verb attribute begins with a route mark. -/
theorem readVerbAttribute_split
    {previous : Option Char}
    {t : Text}
    {result : (HttpVerb × Option Text) × Nat}
    (hRead : readVerbAttribute previous t = some result) :
    wordMayStart previous = true ∧
      ∃ word ∈ Controller.routeMarks, ∃ after,
        t = word ++ after ∧ LeavesWord after := by
  rcases readsAttributes_verb hRead with
    ⟨hStart, -, word, hWord, after, hText, hFollows⟩
  exact
    ⟨hStart, word, hWord, after, hText,
      leavesWord_of_followsName hFollows⟩

/- A route attribute begins with a route mark. -/
theorem readRouteAttribute_split
    {previous : Option Char}
    {t : Text}
    {result : Text × Nat}
    (hRead : readRouteAttribute previous t = some result) :
    wordMayStart previous = true ∧
      ∃ word ∈ Controller.routeMarks, ∃ after,
        t = word ++ after ∧ LeavesWord after := by
  rcases readsAttributes_route hRead with
    ⟨hStart, -, word, hWord, after, hText, hFollows⟩
  exact
    ⟨hStart, word, hWord, after, hText,
      leavesWord_of_followsName hFollows⟩

/- A hit of a verb attribute was found as one. -/
theorem mem_findAll_of_verb
    {line : Text}
    {index column : Nat}
    {verb : HttpVerb}
    {template : Option Text}
    (hHit :
      ⟨.verb verb, template, index, column⟩ ∈
        attributesOnLine line index) :
    (column, verb, template) ∈
      findAll readVerbAttribute line := by
  simpa [attributesOnLine] using hHit

/- A hit of a route attribute was found as one. -/
theorem mem_findAll_of_route
    {line template : Text}
    {index column : Nat}
    (hHit :
      ⟨.route, some template, index, column⟩ ∈
        attributesOnLine line index) :
    (column, template) ∈ findAll readRouteAttribute line := by
  simpa [attributesOnLine] using hHit

/- A line with an attribute holds a route mark. -/
theorem holdsWord_of_hit
    {line : Text}
    {index : Nat}
    {hit : AttributeHit}
    (hHit : hit ∈ attributesOnLine line index) :
    HoldsWord Controller.routeMarks line := by
  unfold attributesOnLine at hHit
  rw [List.mem_append] at hHit
  rcases hHit with hHit | hHit
  · rcases List.mem_map.mp hHit with
      ⟨⟨column, value⟩, hFound, -⟩
    rcases mem_findAll hFound with
      ⟨before, rest, length, hLine, -, hRead⟩
    rcases readVerbAttribute_split hRead with
      ⟨hStart, word, hWord, after, hRest, hAfter⟩
    exact
      ⟨before, word, hWord, after, by rw [hLine, hRest],
        hStart, hAfter⟩
  · rcases List.mem_map.mp hHit with
      ⟨⟨column, value⟩, hFound, -⟩
    rcases mem_findAll hFound with
      ⟨before, rest, length, hLine, -, hRead⟩
    rcases readRouteAttribute_split hRead with
      ⟨hStart, word, hWord, after, hRest, hAfter⟩
    exact
      ⟨before, word, hWord, after, by rw [hLine, hRest],
        hStart, hAfter⟩

------------------------------------------------------------
-- Where No Attribute Is Read
------------------------------------------------------------

/- A verb attribute begins with `Http`. -/
theorem prefix_of_readVerbAttribute
    {previous : Option Char}
    {t : Text}
    {result : (HttpVerb × Option Text) × Nat}
    (hRead : readVerbAttribute previous t = some result) :
    "Http".toList <+: t :=
  (readsAttributes_verb hRead).2.1

theorem readVerbAttribute_of_ne
    {c : Char}
    (hChar : c ≠ 'H')
    (previous : Option Char)
    (rest : Text) :
    readVerbAttribute previous (c :: rest) = none := by
  cases hRead : readVerbAttribute previous (c :: rest) with
  | none => rfl
  | some result =>
      rcases prefix_of_readVerbAttribute hRead with
        ⟨tail, hText⟩
      exact absurd (List.cons.inj hText).1.symm hChar

/- A route attribute begins with `Route` and a parenthesis. -/
theorem openArguments?_of_readRouteAttribute
    {previous : Option Char}
    {t : Text}
    {result : Text × Nat}
    (hRead : readRouteAttribute previous t = some result) :
    ∃ rest arguments,
      t = "Route".toList ++ rest ∧
        openArguments? rest = some arguments ∧
        (quotedTemplate? (dropBlanks arguments)).isSome := by
  unfold readRouteAttribute at hRead
  split at hRead
  next =>
    simp only [Option.bind_eq_bind, Option.bind_eq_some_iff]
      at hRead
    rcases hRead with
      ⟨rest, hRoute, arguments, hOpen, ⟨template, tail⟩,
        hTemplate, -⟩
    unfold templateArguments? at hTemplate
    simp only [Option.bind_eq_bind, Option.bind_eq_some_iff]
      at hTemplate
    rcases hTemplate with ⟨quoted, hQuoted, -⟩
    exact
      ⟨rest, arguments, isPrefixOf?_eq_some_iff.mp hRoute,
        hOpen, by rw [hQuoted]; rfl⟩
  next => simp at hRead

theorem readRouteAttribute_of_ne
    {c : Char}
    (hChar : c ≠ 'R')
    (previous : Option Char)
    (rest : Text) :
    readRouteAttribute previous (c :: rest) = none := by
  cases hRead : readRouteAttribute previous (c :: rest) with
  | none => rfl
  | some result =>
      rcases openArguments?_of_readRouteAttribute hRead with
        ⟨tail, arguments, hText, -⟩
      exact absurd (List.cons.inj hText).1 hChar

/- A quoted template stands between two quotes. -/
theorem quotes_of_quotedTemplate?
    {t : Text}
    (hQuoted : (quotedTemplate? t).isSome) :
    2 ≤ t.count '"' := by
  unfold quotedTemplate? at hQuoted
  split at hQuoted
  next inside =>
    rw [Option.isSome_map, Option.isSome_iff_exists]
      at hQuoted
    rcases hQuoted with ⟨rest, hAfter⟩
    have hSecond : 1 ≤ inside.count '"' :=
      List.one_le_count_iff.mpr (mem_of_after? hAfter)
    rw [List.count_cons_self]
    omega
  next => simp at hQuoted

/- Two quotes stand behind the start of a route attribute. -/
theorem quotes_of_readRouteAttribute
    {previous : Option Char}
    {t : Text}
    {result : Text × Nat}
    (hRead : readRouteAttribute previous t = some result) :
    2 ≤ t.count '"' := by
  rcases openArguments?_of_readRouteAttribute hRead with
    ⟨rest, arguments, rfl, hOpen, hQuoted⟩
  have hOpened : '(' :: arguments <:+ rest := by
    unfold openArguments? at hOpen
    split at hOpen
    next opened hOpened =>
      rw [Option.some.injEq] at hOpen
      rw [← hOpen, ← hOpened]
      exact List.dropWhile_suffix _
    next => simp at hOpen
  have hBlanks : dropBlanks arguments <:+ arguments :=
    List.dropWhile_suffix _
  have hSuffix :
      dropBlanks arguments <:+ "Route".toList ++ rest :=
    ((hBlanks.trans (List.suffix_cons _ _)).trans
      hOpened).trans (List.suffix_append _ _)
  exact Nat.le_trans (quotes_of_quotedTemplate? hQuoted)
    (hSuffix.sublist.count_le '"')

/- A template ends at the next quote. -/
theorem templateArguments?_literal
    {template : Text}
    (hQuote : '"' ∉ template) :
    templateArguments?
        ('"' :: (template ++ '"' :: [')', ']'])) =
      some (template, [']']) := by
  have hBlanks :
      dropBlanks ('"' :: (template ++ '"' :: [')', ']'])) =
        '"' :: (template ++ '"' :: [')', ']']) :=
    dropBlanks_cons_of_not_blank (by decide) _
  unfold templateArguments? quotedTemplate?
  rw [hBlanks]
  simp only [after?_append hQuote, before_append hQuote,
    Option.map_some, Option.bind_eq_bind, Option.bind_some]
  rfl

------------------------------------------------------------
-- Where Attributes Are Found
------------------------------------------------------------

theorem upward_hit_located
    {index : Nat}
    {above : List Text}
    {hit : AttributeHit}
    (hHit : hit ∈ attributesUpward index above) :
    ∃ line ∈ above, ∃ i, hit ∈ attributesOnLine line i := by
  induction above generalizing index with
  | nil => simp [attributesUpward] at hHit
  | cons line above ih =>
      have hLater :
          hit ∈ attributesUpward (index - 1) above →
            ∃ other ∈ line :: above, ∃ i,
              hit ∈ attributesOnLine other i := by
        intro hHigher
        rcases ih hHigher with ⟨other, hOther, i, hFound⟩
        exact
          ⟨other, List.mem_cons_of_mem line hOther, i,
            hFound⟩
      rw [attributesUpward] at hHit
      split at hHit
      next => exact hLater hHit
      next =>
        split at hHit
        next => simp at hHit
        next =>
          rcases List.mem_append.mp hHit with hHere | hHigher
          · exact ⟨line, by simp, index - 1, hHere⟩
          · exact hLater hHigher

/-
  An attribute of a declaration stands before it on its own
  line or on a line above.
-/
theorem hit_located
    {above : List Text}
    {index window : Nat}
    {beforeDeclaration : Text}
    {hit : AttributeHit}
    (hHit :
      hit ∈
        attributesAbove above index window
          beforeDeclaration) :
    hit ∈ attributesOnLine beforeDeclaration index ∨
      ∃ line ∈ above, ∃ i,
        hit ∈ attributesOnLine line i := by
  unfold attributesAbove at hHit
  rcases List.mem_append.mp hHit with hHere | hHigher
  · exact Or.inl hHere
  · rcases upward_hit_located hHigher with
      ⟨line, hLine, i, hFound⟩
    exact Or.inr ⟨line, List.mem_of_mem_take hLine, i, hFound⟩

end Source

end RouteAtlas
