import Mathlib
import RouteAtlas.Proofs.Controller.Marks
import RouteAtlas.Proofs.Sections.Attributes

/-
  What is found on a line of attribute sections.

  Between its attributes such a line has marks and blanks
  only, and each attribute ends at a comma or a bracket.  So
  a search reads one attribute after the other, and finds
  what the sections say if all arguments are closed where
  they seem to be.

  Main statements:
    * `mem_placedFrom`
    * `findAllFrom_pieces`
    * `attributesOnLine_eq_hits_iff`
-/

------------------------------------------------------------
-- Positions of Attributes
------------------------------------------------------------

namespace RouteAtlas

namespace Sections

open Source Text

@[simp] theorem textOf_cons
    (piece : Piece)
    (pieces : List Piece) :
    textOf (piece :: pieces) = piece.text ++ textOf pieces := by
  rfl

/- An attribute stands in the text at its column. -/
theorem mem_placedFrom
    {pieces : List Piece}
    {column found : Nat}
    {content : Attribute}
    (hPlaced : (found, content) ∈ placedFrom column pieces) :
    ∃ front back,
      textOf pieces = front ++ (content.text ++ back) ∧
        found = column + front.length := by
  induction pieces generalizing column with
  | nil => cases hPlaced
  | cons piece pieces ih =>
      have hLater :
          (found, content) ∈
              placedFrom (column + piece.text.length)
                pieces →
            ∃ front back,
              textOf (piece :: pieces) =
                  front ++ (content.text ++ back) ∧
                found = column + front.length := by
        intro hPlaced
        rcases ih hPlaced with ⟨front, back, hText, hFound⟩
        refine ⟨piece.text ++ front, back, ?_, ?_⟩
        · rw [textOf_cons, hText, List.append_assoc]
        · rw [hFound, List.length_append, Nat.add_assoc]
      cases piece with
      | plain marks => exact hLater hPlaced
      | routing other =>
          rcases List.mem_cons.mp hPlaced with hHere | hPlaced
          · rw [Prod.mk.injEq] at hHere
            rcases hHere with ⟨rfl, rfl⟩
            exact ⟨[], textOf pieces, rfl, rfl⟩
          · exact hLater hPlaced

------------------------------------------------------------
-- Marks Between Attributes
------------------------------------------------------------

/-
  Whether no word stands between attributes, and each of
  them ends at a comma or a bracket.
-/
def AreApart :
    List Piece → Prop
  | [] => True
  | .plain marks :: rest =>
      (∀ c ∈ marks, isWordChar c = false) ∧ AreApart rest
  | .routing _ :: rest =>
      attributeEnds (textOf rest) = true ∧ AreApart rest

theorem attributeEnds_gap
    (gap : Gap)
    (t : Text) :
    attributeEnds (gap.text ++ t) = attributeEnds t := by
  unfold attributeEnds
  rw [gap.dropBlanks_append]

/- The items of a section are apart from what follows. -/
theorem areApart_itemPieces
    {pieces : List Piece}
    (hApart : AreApart pieces)
    (items : List Item)
    (first : Bool) :
    AreApart
      (itemPieces first items ++ .plain [']'] :: pieces) := by
  induction items generalizing first with
  | nil =>
      have hBracket : isWordChar ']' = false := by decide
      exact
        ⟨List.forall_mem_singleton.mpr hBracket, hApart⟩
  | cons item items ih =>
      have hComma : isWordChar ',' = false := by decide
      have hEnds :
          attributeEnds
              (item.behind.text ++
                textOf
                  (itemPieces false items ++
                    .plain [']'] :: pieces)) =
            true := by
        rw [attributeEnds_gap]
        cases items <;> rfl
      refine
        ⟨?_, item.before.not_word, hEnds,
          item.behind.not_word, ih false⟩
      cases first with
      | true => exact List.forall_mem_nil _
      | false => exact List.forall_mem_singleton.mpr hComma

theorem areApart_sectionPieces
    (sections : List (List Item × Gap)) :
    AreApart (sectionPieces sections) := by
  induction sections with
  | nil => trivial
  | cons group sections ih =>
      have hBracket : isWordChar '[' = false := by decide
      have hRest :
          AreApart
            (.plain group.2.text :: sectionPieces sections) :=
        ⟨group.2.not_word, ih⟩
      exact
        ⟨List.forall_mem_singleton.mpr hBracket,
          areApart_itemPieces hRest group.1 true⟩

theorem Line.areApart
    (line : Line) :
    AreApart line.pieces :=
  ⟨line.indent.not_word,
    areApart_sectionPieces line.sections⟩

------------------------------------------------------------
-- Searches
------------------------------------------------------------

/- No attribute ends where one begins. -/
theorem attributeEnds_text
    (content : Attribute)
    (rest : Text) :
    attributeEnds (content.text ++ rest) = false := by
  cases content with
  | bareVerb word => cases word <;> rfl
  | verb word arguments => cases word <;> rfl
  | route arguments => rfl

/- Behind a mark a word may start. -/
theorem wordMayStart_of_marks
    {marks : Text}
    (hMarks : ∀ c ∈ marks, isWordChar c = false)
    (hSome : marks ≠ [])
    (previous : Option Char) :
    wordMayStart (charBefore previous marks) = true := by
  rcases List.eq_nil_or_concat marks with
    rfl | ⟨passed, c, rfl⟩
  · exact absurd rfl hSome
  · have hLast :
        charBefore previous (passed ++ [c]) = some c := by
      simp [charBefore]
    rw [List.concat_eq_append, hLast]
    simp [wordMayStart, hMarks c (by simp)]

/-
  A search that reads each attribute once finds them all.

  The induction is on the pieces.  Where a word may not
  start, the attribute just read ends, so that no other one
  comes next.
-/
theorem findAllFrom_pieces
    {α : Type}
    {start : Text}
    {read : Option Char → Text → Option (α × Nat)}
    {value? : Attribute → Option α}
    (hReads : ReadsAttributes start read)
    {pieces : List Piece}
    {previous : Option Char}
    {column : Nat}
    (hOnce :
      ∀ placed ∈ placedFrom column pieces,
        placed.2.IsReadAs read (value? placed.2))
    (hApart : AreApart pieces)
    (hStart :
      wordMayStart previous = true ∨
        attributeEnds (textOf pieces) = true) :
    findAllFrom read previous 0 column (textOf pieces) =
      (placedFrom column pieces).filterMap
        fun (column, content) =>
          (value? content).map fun value =>
            (column, value) := by
  induction pieces generalizing previous column with
  | nil => rfl
  | cons piece pieces ih =>
      rw [textOf_cons]
      cases piece with
      | plain marks =>
          rcases hApart with ⟨hMarks, hApart⟩
          have hNext :
              wordMayStart (charBefore previous marks) =
                  true ∨
                attributeEnds (textOf pieces) = true := by
            cases marks with
            | nil => exact hStart
            | cons c marks =>
                exact Or.inl
                  (wordMayStart_of_marks hMarks (by simp) _)
          have hPasses :=
            passes_of_not_word hReads hMarks previous
              (textOf pieces)
          refine
            (findAllFrom_pass marks (textOf pieces)
              hPasses).trans ?_
          exact ih hOnce hApart hNext
      | routing content =>
          rcases hApart with ⟨hEnds, hApart⟩
          rw [textOf_cons, Piece.text, attributeEnds_text]
            at hStart
          rw [placedFrom, List.forall_mem_cons] at hOnce
          have hHere :=
            hOnce.1 previous (textOf pieces)
              (hStart.resolve_right (by simp)) hEnds
          refine (findAllFrom_of_readsOnce hHere).trans ?_
          rw [ih hOnce.2 hApart (Or.inr hEnds), placedFrom,
            List.filterMap_cons]
          cases hValue : value? content <;> simp [hValue]

------------------------------------------------------------
-- Lines
------------------------------------------------------------

namespace Line

variable {line : Line}

/- What is found where an attribute stands is read from it. -/
theorem exists_read_of_mem_findAll
    {α : Type}
    {read : Option Char → Text → Option (α × Nat)}
    {column : Nat}
    {content : Attribute}
    {value : α}
    (hPlaced : (column, content) ∈ line.placed)
    (hFound : (column, value) ∈ findAll read line.text) :
    ∃ previous rest length,
      read previous (content.text ++ rest) =
        some (value, length) := by
  rcases mem_placedFrom hPlaced with
    ⟨front, back, hText, hColumn⟩
  rcases mem_findAll hFound with
    ⟨before, rest, length, hLine, hLength, hRead⟩
  rw [Nat.zero_add, hLength] at hColumn
  have hParts :
      before = front ∧ rest = content.text ++ back :=
    List.append_inj (hLine.symm.trans hText) hColumn
  rw [hParts.2] at hRead
  exact ⟨before.getLast?, back, length, hRead⟩

/- Closed arguments let all attributes be found. -/
theorem attributesOnLine_of_isClosed
    (hUnmarked : line.IsUnmarked)
    (hClosed : line.IsClosed)
    (index : Nat) :
    attributesOnLine line.text index = line.hits index := by
  have hVerb :
      findAll readVerbAttribute line.text =
        line.placed.filterMap fun (column, content) =>
          content.verb?.map fun value => (column, value) :=
    findAllFrom_pieces readsAttributes_verb
      (fun placed hPlaced =>
        isReadAs_verb (hClosed placed hPlaced)
          (hUnmarked placed hPlaced))
      line.areApart (Or.inl rfl)
  have hRoute :
      findAll readRouteAttribute line.text =
        line.placed.filterMap fun (column, content) =>
          content.route?.map fun value => (column, value) :=
    findAllFrom_pieces readsAttributes_route
      (fun placed hPlaced =>
        isReadAs_route (hClosed placed hPlaced)
          (hUnmarked placed hPlaced))
      line.areApart (Or.inl rfl)
  unfold attributesOnLine hits
  rw [hVerb, hRoute, List.map_filterMap, List.map_filterMap]
  simp only [Option.map_map]
  rfl

/- If all attributes are found, all arguments are closed. -/
theorem isClosed_of_attributesOnLine
    {index : Nat}
    (hHits :
      attributesOnLine line.text index = line.hits index) :
    line.IsClosed := by
  rintro ⟨column, content⟩ hPlaced
  have hVerb :
      ∀ value, content.verb? = some value →
        content.IsClosed := by
    intro value hValue
    have hHit :
        ⟨.verb value.1, value.2, index, column⟩ ∈
          attributesOnLine line.text index := by
      rw [hHits]
      apply List.mem_append_left
      rw [List.mem_filterMap]
      exact ⟨(column, content), hPlaced, by simp [hValue]⟩
    rcases exists_read_of_mem_findAll hPlaced
        (mem_findAll_of_verb hHit) with
      ⟨previous, rest, length, hRead⟩
    exact isClosed_of_verb hValue hRead
  have hRoute :
      ∀ template, content.route? = some template →
        content.IsClosed := by
    intro template hTemplate
    have hHit :
        ⟨.route, some template, index, column⟩ ∈
          attributesOnLine line.text index := by
      rw [hHits]
      apply List.mem_append_right
      rw [List.mem_filterMap]
      exact ⟨(column, content), hPlaced, by simp [hTemplate]⟩
    rcases exists_read_of_mem_findAll hPlaced
        (mem_findAll_of_route hHit) with
      ⟨previous, rest, length, hRead⟩
    exact isClosed_of_route hTemplate hRead
  cases content with
  | bareVerb word => trivial
  | verb word arguments => exact hVerb _ rfl
  | route arguments =>
      intro hSome
      rcases Option.isSome_iff_exists.mp hSome with
        ⟨literal, hLiteral⟩
      exact
        hRoute literal.text
          (by rw [Attribute.route?, hLiteral]; rfl) hSome

end Line

/-
  If no value of an argument offers a mark, the attributes
  found on a line are those of its sections exactly when
  all arguments are closed where they seem to be.
-/
theorem attributesOnLine_eq_hits_iff
    {line : Line}
    (hUnmarked : line.IsUnmarked)
    (index : Nat) :
    attributesOnLine line.text index = line.hits index ↔
      line.IsClosed :=
  ⟨Line.isClosed_of_attributesOnLine,
    fun hClosed =>
      Line.attributesOnLine_of_isClosed hUnmarked hClosed
        index⟩

------------------------------------------------------------
-- Calls Among Arguments
------------------------------------------------------------

/- A text in which no route mark stands offers none. -/
theorem not_offersMark_of_hasRouteMark
    {t : Text}
    (hMarks : Controller.hasRouteMark t = false) :
    ¬OffersMark t := by
  rintro ⟨front, word, hWord, back, rfl, hStart, hBack⟩
  have hEnds : wordEndsAt back = true := by
    rcases hBack with rfl | hFollows
    · rfl
    · exact wordEndsAt_of_leavesWord
        (leavesWord_of_followsName hFollows)
  rw [Controller.hasRouteMark_of_word hWord hStart hEnds]
    at hMarks
  exact absurd hMarks (by simp)

theorem isBalanced_of_not_mem
    {t : Text}
    (hOpen : '(' ∉ t)
    (hClose : ')' ∉ t) :
    IsBalanced t := by
  refine ⟨?_, fun front hFront => ?_⟩
  · rw [List.count_eq_zero_of_not_mem hOpen,
      List.count_eq_zero_of_not_mem hClose]
  · rw [List.count_eq_zero_of_not_mem
      fun hMember => hClose (hFront.subset hMember)]
    exact Nat.zero_le _

def noGap : Gap :=
  ⟨[], List.forall_mem_nil _⟩

def blankGap : Gap :=
  ⟨[' '], List.forall_mem_singleton.mpr (by decide)⟩

/- A template with no parenthesis. -/
def keyLiteral : Literal where
  text := "\x7bkey\x7d".toList
  noQuote := by decide
  noEscape := by decide
  noHttp := by decide
  noRoute := by decide

/- A template that closes a parenthesis. -/
def anyLiteral : Literal where
  text := "(any), of".toList
  noQuote := by decide
  noEscape := by decide
  noHttp := by decide
  noRoute := by decide

/- An argument with a value, and its usual blanks. -/
def namedArgument
    (name : Layout.Name)
    (value : Value) :
    NamedArgument :=
  ⟨blankGap, name, blankGap, blankGap, value, noGap⟩

/- The argument `Name = nameof(Get)`. -/
def callArgument : NamedArgument :=
  namedArgument (.ofLetters "Name".toList (by decide) rfl)
    (.call (.ofLetters "nameof".toList (by decide) rfl) noGap
      "Get".toList
      (isBalanced_of_not_mem (by decide) (by decide)))

/- The argument `Order = First`. -/
def orderArgument : NamedArgument :=
  namedArgument (.ofLetters "Order".toList (by decide) rfl)
    (.name (.ofLetters "First".toList (by decide) rfl))

theorem callArgument_isUnmarked :
    callArgument.value.IsUnmarked :=
  not_offersMark_of_hasRouteMark (by decide +kernel)

theorem orderArgument_isUnmarked :
    orderArgument.value.IsUnmarked :=
  not_offersMark_of_hasRouteMark (by decide +kernel)

/- Two sections, with a call that has a comma behind it. -/
def twoSections : Line where
  indent := blankGap
  sections :=
    [([⟨noGap,
          .verb .get
            ⟨noGap, noGap, some keyLiteral, noGap,
              [callArgument, orderArgument]⟩,
          noGap⟩,
        ⟨blankGap, .bareVerb .post, noGap⟩],
      blankGap),
      ([⟨noGap,
          .route
            ⟨noGap, noGap, some anyLiteral, noGap,
              [orderArgument]⟩,
          noGap⟩],
        noGap)]

/- All of its attributes are found. -/
theorem attributesOnLine_twoSections :
    twoSections.text =
        (" [HttpGet(\"\x7bkey\x7d\", Name = nameof(Get), " ++
          "Order = First), HttpPost] " ++
          "[Route(\"(any), of\", Order = First)]").toList ∧
      twoSections.IsUnmarked ∧
      twoSections.IsClosed ∧
      attributesOnLine twoSections.text 7 =
        [⟨.verb .get, some "\x7bkey\x7d".toList, 7, 2⟩,
          ⟨.verb .post, none, 7, 55⟩,
          ⟨.route, some "(any), of".toList, 7, 66⟩] := by
  have hUnmarked : twoSections.IsUnmarked := by
    intro placed hPlaced argument hArgument
    fin_cases hPlaced <;> fin_cases hArgument
    · exact callArgument_isUnmarked
    · exact orderArgument_isUnmarked
    · exact orderArgument_isUnmarked
  have hClosed : twoSections.IsClosed := by
    intro placed hPlaced
    fin_cases hPlaced
    · rintro others ⟨⟩
      rfl
    · trivial
    · rintro - others ⟨⟩
  exact
    ⟨rfl, hUnmarked, hClosed,
      (attributesOnLine_eq_hits_iff hUnmarked 7).mpr hClosed⟩

/- A section whose attribute has a call as its last value. -/
def lastCall : Line where
  indent := noGap
  sections :=
    [([⟨noGap,
          .verb .get
            ⟨noGap, noGap, some keyLiteral, noGap,
              [callArgument]⟩,
          noGap⟩],
        noGap)]

/- The parenthesis that closes the call hides it. -/
theorem attributesOnLine_lastCall :
    lastCall.text =
        ("[HttpGet(\"\x7bkey\x7d\", " ++
          "Name = nameof(Get))]").toList ∧
      lastCall.IsUnmarked ∧
      attributesOnLine lastCall.text 7 = [] ∧
      lastCall.hits 7 =
        [⟨.verb .get, some "\x7bkey\x7d".toList, 7, 1⟩] := by
  refine ⟨rfl, ?_, rfl, rfl⟩
  intro placed hPlaced argument hArgument
  fin_cases hPlaced
  fin_cases hArgument
  exact callArgument_isUnmarked

/- A value that offers a mark is found as an attribute. -/
example :
    (attributesOnLine
        "[Route(\"t\", Name = HttpGet, Order = First)]".toList
        7).map (·.column) =
      [19, 1] := by
  rfl

end Sections

end RouteAtlas
