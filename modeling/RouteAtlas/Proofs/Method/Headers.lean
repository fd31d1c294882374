import Mathlib
import RouteAtlas.Proofs.Method.Signatures
import RouteAtlas.Proofs.Source.CommentedHeader

/-
  Method headers are read as they are written.

  As many modifiers as possible are taken first.  A return
  type that is spelled like a modifier is taken for one too,
  but no return type is left then, so it is given back.  The
  text in front of the access word is passed, since none of
  its words is one.

  Main statements:
    * `WrittenMethod.readModifiersUpTo_typed`
    * `WrittenMethod.readModifiersUpTo_modified`
    * `WrittenMethod.readMethod_header`
    * `methodHeader?_written`
    * `methodHeader?_indented`
-/

------------------------------------------------------------
-- Words With Blanks
------------------------------------------------------------

namespace RouteAtlas

namespace Source

open Text

section Words

variable {words : List Text}

/- Whether words can be told apart where they stand. -/
structure AreKeywords
    (words : List Text) :
    Prop where
  prefixFree : arePrefixFree words = true
  letters : words.all (·.all isWordChar) = true
  named : [] ∉ words

theorem areKeywords_accessWords :
    AreKeywords accessWords :=
  ⟨by decide, by decide, by decide⟩

theorem areKeywords_methodModifiers :
    AreKeywords methodModifiers :=
  ⟨by decide, by decide, by decide⟩

/- A word is read with the blanks behind it. -/
theorem SpacedWord.wordThenBlanks?_text
    (hWords : AreKeywords words)
    (spacedWord : SpacedWord words)
    {t : Text}
    (hStart : startsBlank t = false) :
    wordThenBlanks? words (spacedWord.text ++ t) = some t := by
  unfold wordThenBlanks? SpacedWord.text
  rw [List.append_assoc,
    oneOf?_append hWords.prefixFree spacedWord.isWord]
  exact
    blanks?_gap spacedWord.gap.blank spacedWord.spaced hStart

theorem SpacedWord.head?_text
    (hWords : AreKeywords words)
    (spacedWord : SpacedWord words)
    (t : Text) :
    ∃ c rest,
      spacedWord.text ++ t = c :: rest ∧
        isWordChar c = true := by
  have hWord := spacedWord.isWord
  unfold SpacedWord.text
  cases hText : spacedWord.word with
  | nil =>
      rw [hText] at hWord
      exact absurd hWord hWords.named
  | cons c word =>
      have hChar :=
        isWordChar_of_mem hWords.letters hWord c
          (by simp [hText])
      exact
        ⟨c, word ++ (spacedWord.gap.text ++ t), by simp, hChar⟩

end Words

------------------------------------------------------------
-- Modifiers
------------------------------------------------------------

/- What only seems to be a modifier is given back. -/
theorem readModifiersUpTo_givenBack
    {front back : Text}
    (hFront : ∀ c ∈ front, isDottedChar c = true)
    (hBack : ∀ c ∈ back.head?, isDottedChar c = false)
    (hBehind :
      ∀ rest fuel,
        blanks? back = some rest →
          readModifiersUpTo fuel rest = none)
    (fuel : Nat) :
    readModifiersUpTo fuel (front ++ back) =
      readSignature (front ++ back) := by
  cases fuel with
  | zero => rfl
  | succ fuel =>
      rw [readModifiersUpTo]
      cases hRead :
          wordThenBlanks? methodModifiers (front ++ back) with
      | none => rfl
      | some rest =>
          have hModifier :=
            front_of_wordThenBlanks?
              areKeywords_methodModifiers.letters isDottedChar
              front back
              (fun c hWord => by simp [isDottedChar, hWord])
              (fun c => isBlank_of_isDottedChar)
              hFront hBack hRead
          simp only [hBehind rest fuel hModifier.2,
            Option.orElse_none]

/- Neither a modifier nor a return type begins with a mark. -/
theorem readModifiersUpTo_mark
    {c : Char}
    (hChar : isDottedChar c = false)
    (hSolid : isBlank c = false)
    (t : Text)
    (fuel : Nat) :
    readModifiersUpTo fuel (c :: t) = none := by
  have hBack :
      ∀ d ∈ (c :: t).head?, isDottedChar d = false := by
    simpa using hChar
  have hBehind :
      ∀ rest fuel,
        blanks? (c :: t) = some rest →
          readModifiersUpTo fuel rest = none := by
    intro rest fuel hBlanks
    simp [blanks?, hSolid] at hBlanks
  have hRead :=
    readModifiersUpTo_givenBack (List.forall_mem_nil _) hBack
      hBehind fuel
  rw [List.nil_append] at hRead
  rw [hRead]
  exact readSignature_nameless hChar

namespace WrittenMethod

/- A name that seems to be a modifier has no type behind it. -/
theorem readModifiersUpTo_named
    (method : WrittenMethod)
    (fuel : Nat) :
    readModifiersUpTo fuel
        (method.name ++ method.behindName) =
      none := by
  have hName : ∀ c ∈ method.name, isDottedChar c = true := by
    intro c hChar
    simp [isDottedChar, method.isWord c hChar]
  have hBehind :
      ∀ rest fuel,
        blanks? method.behindName = some rest →
          readModifiersUpTo fuel rest = none := by
    intro rest fuel hBlanks
    rcases method.behindName_split with
      hText | ⟨parameters, hText⟩
    · rw [hText] at hBlanks
      rw [← dropBlanks_of_blanks? hBlanks, dropBlanks_ending]
      exact
        readModifiersUpTo_mark (by decide) (by decide) _ fuel
    · have hSolid : isBlank '<' = false := by decide
      simp [hText, blanks?, hSolid] at hBlanks
  rw [readModifiersUpTo_givenBack hName
    method.head?_behindName hBehind]
  exact method.readSignature_named

/- A return type that seems to be a modifier has no other. -/
theorem readModifiersUpTo_typed
    (method : WrittenMethod)
    (fuel : Nat) :
    readModifiersUpTo fuel method.typed =
      some method.signature := by
  have hBehind :
      ∀ rest fuel,
        blanks?
            (method.returnType.behindName ++
              method.behindType) =
          some rest →
        readModifiersUpTo fuel rest = none := by
    intro rest fuel hBlanks
    have hMarks := method.returnType.head?_behindName
    cases hText : method.returnType.behindName with
    | nil =>
        rw [hText, List.nil_append, blanks?_behindType,
          Option.some.injEq] at hBlanks
        rw [← hBlanks]
        exact method.readModifiersUpTo_named fuel
    | cons c t =>
        have hSolid := (hMarks c (by simp [hText])).2
        simp [hText, blanks?, hSolid] at hBlanks
  rw [typed_eq,
    readModifiersUpTo_givenBack method.returnType.name.dotted
      method.head?_behindTypeName hBehind,
    ← typed_eq]
  exact method.readSignature_typed

theorem startsBlank_typed
    (method : WrittenMethod) :
    startsBlank method.typed = false := by
  have hDotted := method.returnType.name.dotted
  rw [typed_eq]
  cases hName : method.returnType.name.text with
  | nil => exact absurd hName method.returnType.name.named
  | cons c name =>
      exact
        isBlank_of_isDottedChar (hDotted c (by simp [hName]))

/- Modifiers and a return type begin with a word. -/
theorem startsBlank_modified
    (method : WrittenMethod)
    (modifiers : List (SpacedWord methodModifiers)) :
    startsBlank
        (modifiers.flatMap (·.text) ++ method.typed) =
      false := by
  cases modifiers with
  | nil => exact method.startsBlank_typed
  | cons modifier modifiers =>
      rcases modifier.head?_text areKeywords_methodModifiers
          (modifiers.flatMap (·.text) ++ method.typed) with
        ⟨c, rest, hText, hChar⟩
      rw [List.flatMap_cons, List.append_assoc, hText]
      exact isBlank_of_isWordChar hChar

/- All modifiers are read: by induction on them. -/
theorem readModifiersUpTo_modified
    (method : WrittenMethod)
    (modifiers : List (SpacedWord methodModifiers))
    (fuel : Nat) :
    readModifiersUpTo (modifiers.length + fuel)
        (modifiers.flatMap (·.text) ++ method.typed) =
      some method.signature := by
  induction modifiers with
  | nil => exact method.readModifiersUpTo_typed _
  | cons modifier modifiers ih =>
      rw [List.length_cons, Nat.add_right_comm,
        List.flatMap_cons, List.append_assoc,
        readModifiersUpTo,
        modifier.wordThenBlanks?_text
          areKeywords_methodModifiers
          (method.startsBlank_modified modifiers)]
      simp only [ih, Option.orElse_some]

end WrittenMethod

------------------------------------------------------------
-- What Stands in Front
------------------------------------------------------------

/- A word leaves its mark in a text that ends outside one. -/
theorem exists_of_endsOutside
    {front back word after : Text}
    {blank : Char}
    (hSome : front ≠ [])
    (hOutside : wordMayStart front.getLast? = true)
    (hWord : ∀ c ∈ word, isWordChar c = true)
    (hBlank : isBlank blank = true)
    (hText : front ++ back = word ++ blank :: after) :
    ∃ rest, front = word ++ rest ∧ LeavesWord rest := by
  have hLast : ¬∀ c ∈ front, isWordChar c = true := by
    intro hLetters
    rw [List.getLast?_eq_some_getLast hSome] at hOutside
    have hChar := hLetters _ (List.getLast_mem hSome)
    simp [wordMayStart, hChar] at hOutside
  rcases List.append_eq_append_iff.mp hText with
    ⟨middle, hLonger, -⟩ | ⟨middle, hShorter, hRest⟩
  · refine absurd (fun c hChar => hWord c ?_) hLast
    rw [hLonger]
    exact List.mem_append_left middle hChar
  · cases middle with
    | nil =>
        rw [List.append_nil] at hShorter
        exact absurd (hShorter ▸ hWord) hLast
    | cons c middle =>
        have hChar : c = blank := (List.cons.inj hRest).1.symm
        exact
          ⟨c :: middle, hShorter, c, middle, rfl,
            hChar ▸ isWordChar_of_isBlank hBlank⟩

/- What a comment line begins with. -/
def commentMarks : List Text :=
  ["//".toList, "/*".toList, "*".toList]

theorem isCommentLine_iff
    {line : Text} :
    isCommentLine line = true ↔
      ∃ mark ∈ commentMarks, mark <+: dropBlanks line := by
  unfold isCommentLine
  constructor
  · intro hComment
    split at hComment
    next rest hLine =>
      exact
        ⟨"//".toList, by simp [commentMarks], rest,
          hLine.symm⟩
    next rest hLine =>
      exact
        ⟨"/*".toList, by simp [commentMarks], rest,
          hLine.symm⟩
    next rest hLine =>
      exact
        ⟨"*".toList, by simp [commentMarks], rest,
          hLine.symm⟩
    next => exact absurd hComment (by simp)
  · rintro ⟨mark, hMark, rest, hLine⟩
    rw [← hLine]
    fin_cases hMark <;> rfl

/- A word behind a text makes no comment line of it. -/
theorem isCommentLine_append_word
    {front back : Text}
    (hBack : ∀ c ∈ back.head?, isWordChar c = true) :
    isCommentLine (front ++ back) = isCommentLine front := by
  cases back with
  | nil => rw [List.append_nil]
  | cons c back =>
      have hWord : isWordChar c = true := hBack c rfl
      have hSolid : startsBlank (c :: back) = false :=
        isBlank_of_isWordChar hWord
      have hMark : ∀ mark ∈ commentMarks, c ∉ mark := by
        intro mark hMember hChar
        have hOther : mark.all (!isWordChar ·) = true := by
          fin_cases hMember <;> decide
        have hPlain := List.all_eq_true.mp hOther c hChar
        rw [hWord] at hPlain
        exact absurd hPlain (by simp)
      rw [Bool.eq_iff_iff, isCommentLine_iff,
        isCommentLine_iff,
        dropBlanks_append_of_solid_right hSolid]
      refine exists_congr fun mark => ?_
      refine and_congr_right fun hMember => ⟨?_, ?_⟩
      · exact prefix_of_append_mark (hMark mark hMember)
      · exact fun hBegins =>
          hBegins.trans (List.prefix_append _ _)

namespace WrittenMethod

------------------------------------------------------------
-- Headers
------------------------------------------------------------

/- A header is read where a word may start. -/
theorem readMethod_header
    (method : WrittenMethod)
    {previous : Option Char}
    (hStart : wordMayStart previous = true) :
    readMethod previous (method.header ++ '(' :: method.rest) =
      some (method.signature, method.header.length) := by
  have hAccess :=
    method.access.wordThenBlanks?_text areKeywords_accessWords
      (method.startsBlank_modified method.modifiers)
  have hModified :
      ∀ t,
        t = method.modifiers.flatMap (·.text) ++ method.typed →
          readModifiersUpTo t.length t =
            some method.signature := by
    rintro t rfl
    rw [← readModifiersUpTo_eq (Nat.le_add_left _ _)]
    exact method.readModifiersUpTo_modified _ _
  rw [← header_paren] at hAccess
  unfold readMethod
  rw [if_pos hStart, hAccess]
  simp only [Option.bind_eq_bind, Option.bind_some,
    hModified _ rfl]
  simp [signature, paren]

/-
  No header is read in front of the access word: another one
  would be a word of the text in front.
-/
theorem passes_front
    (method : WrittenMethod) :
    Passes readMethod none method.front
      (method.header ++ '(' :: method.rest) := by
  intro passed c later hText
  cases hRead :
      readMethod (charBefore none passed)
        (c :: later ++
          (method.header ++ '(' :: method.rest)) with
  | none => rfl
  | some result =>
      rcases readMethod_split hRead with
        ⟨hStart, word, hWord, blank, after, hSplit, hBlank⟩
      have hOutside := method.endsOutside
      rw [hText, List.getLast?_append_of_ne_nil _ (by simp)]
        at hOutside
      rcases exists_of_endsOutside (by simp) hOutside
          (isWordChar_of_mem areKeywords_accessWords.letters
            hWord)
          hBlank hSplit with
        ⟨back, hBack, hLeaves⟩
      rw [charBefore, Option.or_none] at hStart
      exact absurd
        ⟨passed, word, hWord, back, by rw [hText, hBack],
          hStart, hLeaves⟩
        method.noAccess

/- The header begins with a word. -/
theorem head?_header
    (method : WrittenMethod) :
    ∀ c ∈ (method.header ++ '(' :: method.rest).head?,
      isWordChar c = true := by
  intro c hHead
  rcases method.access.head?_text areKeywords_accessWords
      (method.modifiers.flatMap (·.text) ++ method.typed) with
    ⟨d, rest, hText, hChar⟩
  rw [header_paren, hText] at hHead
  rwa [← Option.some.inj hHead]

theorem isCommentLine_text
    (method : WrittenMethod) :
    isCommentLine method.text = false := by
  rw [text, isCommentLine_append_word method.head?_header]
  exact method.noComment

/- The first header of a line is the one that is written. -/
theorem find?_text
    (method : WrittenMethod) :
    find? readMethod method.text =
      some
        (method.front.length, method.signature,
          method.header.length) := by
  have hStart :
      wordMayStart (charBefore none method.front) = true := by
    rw [charBefore, Option.or_none]
    exact method.endsOutside
  unfold find? text
  rw [findFrom_pass method.passes_front, Nat.zero_add]
  exact findFrom_read (method.readMethod_header hStart)

end WrittenMethod

/-
  Every header is found where its access word stands, with
  the name and the return type that are written, and with
  the parenthesis behind them.
-/
theorem methodHeader?_written
    (method : WrittenMethod) :
    methodHeader? method.text =
      some
        ⟨method.name, method.returnType.text,
          method.front.length,
          (method.front ++ method.header).length⟩ := by
  unfold methodHeader?
  rw [method.isCommentLine_text, method.find?_text,
    List.length_append]
  rfl

/- A return type with arguments, behind an attribute. -/
def pagesMethod :
    WrittenMethod where
  front := "    [HttpGet(\"pages\")] ".toList
  endsOutside := by decide
  noAccess := by
    rintro ⟨before, word, hWord, after, hText, -, -⟩
    have hNone :
        ∀ word ∈ accessWords,
          ¬word <:+: "    [HttpGet(\"pages\")] ".toList := by
      decide
    exact hNone word hWord ⟨before, after, by simp [hText]⟩
  noComment := by decide
  access :=
    ⟨"public".toList, by decide, .spaces 1, spaces_ne_nil 0⟩
  modifiers :=
    [⟨"static".toList, by decide, .spaces 2, spaces_ne_nil 1⟩,
     ⟨"new".toList, by decide, .spaces 1, spaces_ne_nil 0⟩]
  returnType :=
    .generic (.ofChars "Dictionary".toList (by decide))
      (.more
        (.plain (.ofChars "string".toList (by decide))
          ⟨0, false⟩)
        (.spaces 1)
        (.last
          (.generic (.ofChars "List".toList (by decide))
            (.last
              (.plain (.ofChars "int".toList (by decide))
                ⟨1, true⟩))
            ⟨0, false⟩)))
      ⟨0, true⟩
  isType := by decide
  gap := .spaces 1
  spaced := spaces_ne_nil 0
  name := "Pages".toList
  named := by decide
  isWord := List.all_eq_true.mp (by decide)
  typeParameters? :=
    some
      (.last
        (.plain (.ofChars "TItem".toList (by decide))
          ⟨0, false⟩))
  parenGap := .spaces 1
  rest := "int id) => List<int>.Empty (id);".toList

/- No closing mark but its own ends the return type. -/
theorem methodHeader?_pages :
    pagesMethod.text =
        ("    [HttpGet(\"pages\")] public static  new " ++
          "Dictionary<string, List<int[]?>>? " ++
          "Pages<TItem> (int id) => " ++
          "List<int>.Empty (id);").toList ∧
      methodHeader? pagesMethod.text =
        some
          ⟨"Pages".toList,
            "Dictionary<string, List<int[]?>>?".toList,
            23, 89⟩ :=
  ⟨by decide +kernel, methodHeader?_written pagesMethod⟩

------------------------------------------------------------
-- Indented Actions
------------------------------------------------------------

/- Blanks hold no word. -/
theorem not_holdsWord_gap
    {words : List Text}
    (hWords : AreKeywords words)
    (gap : Sections.Gap) :
    ¬HoldsWord words gap.text := by
  rintro ⟨before, word, hWord, after, hText, -, -⟩
  cases word with
  | nil => exact hWords.named hWord
  | cons c word =>
      have hChar :=
        isWordChar_of_mem hWords.letters hWord c (by simp)
      have hBlank := gap.blank c (by simp [hText])
      rw [isWordChar_of_isBlank hBlank] at hChar
      exact absurd hChar (by simp)

/- An action without parameters, behind some spaces. -/
def actionMethod
    (indent : Nat)
    (name : Text)
    (hNonempty : name ≠ [])
    (hChars : ∀ c ∈ name, isWordChar c = true) :
    WrittenMethod where
  front := (Sections.Gap.spaces indent).text
  endsOutside := by
    have hStart :
        wordMayStart
            (charBefore none (List.replicate indent ' ')) =
          true :=
      (endsBlank_spaces indent).wordMayStart rfl
    rwa [charBefore, Option.or_none] at hStart
  noAccess := not_holdsWord_gap areKeywords_accessWords _
  noComment := by
    have hBlank : IsGap (Sections.Gap.spaces indent).text :=
      (Sections.Gap.spaces indent).blank
    rw [isCommentLine, dropBlanks_eq_nil_iff.mpr hBlank]
  access :=
    ⟨"public".toList, by decide, .spaces 1, spaces_ne_nil 0⟩
  modifiers := []
  returnType :=
    .plain (.ofChars "IActionResult".toList (by decide))
      ⟨0, false⟩
  isType := by decide
  gap := .spaces 1
  spaced := spaces_ne_nil 0
  name := name
  named := hNonempty
  isWord := hChars
  typeParameters? := none
  parenGap := .spaces 0
  rest := [')']

section Actions

variable {name : Text}
variable (hNonempty : name ≠ [])
variable (hChars : ∀ c ∈ name, isWordChar c = true)

theorem header_actionMethod
    (indent : Nat) :
    (actionMethod indent name hNonempty hChars).header =
      "public IActionResult ".toList ++ name := by
  change "public IActionResult ".toList ++ (name ++ []) = _
  rw [List.append_nil]

theorem text_actionMethod
    (indent : Nat) :
    (actionMethod indent name hNonempty hChars).text =
      indented indent
        ("public IActionResult ".toList ++
          (name ++ "()".toList)) := by
  rw [WrittenMethod.text, header_actionMethod,
    List.append_assoc]
  rfl

include hNonempty hChars

/- Such an action is read behind its indentation. -/
theorem methodHeader?_indented
    (indent : Nat) :
    methodHeader?
        (indented indent
          ("public IActionResult ".toList ++
            (name ++ "()".toList))) =
      some
        ⟨name, "IActionResult".toList, indent,
          indent + (21 + name.length)⟩ := by
  have hFront :
      (actionMethod indent name hNonempty
        hChars).front.length = indent :=
    List.length_replicate
  have hHeader :
      (actionMethod indent name hNonempty
        hChars).header.length = 21 + name.length := by
    rw [header_actionMethod, List.length_append]
    rfl
  unfold methodHeader?
  rw [← text_actionMethod hNonempty hChars,
    WrittenMethod.isCommentLine_text, WrittenMethod.find?_text,
    hFront, hHeader]
  rfl

end Actions

end Source

end RouteAtlas
