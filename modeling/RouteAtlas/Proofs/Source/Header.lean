import Mathlib
import RouteAtlas.Proofs.Text.Search
import RouteAtlas.Proofs.Text.Words
import RouteAtlas.Source.MethodHeader

/-
  Where headers stand, and where none can.

  A header of a class or a method takes a word of its own
  and a blank after it, so a line without such a word has no
  header.  A plain header is read with the name it declares,
  however far it is indented.

  Main statements:
    * `methodHeader?_eq_none`
    * `classHeader?_eq_none`
    * `classHeader?_indented`
-/

------------------------------------------------------------
-- Words Before Blanks
------------------------------------------------------------

namespace RouteAtlas

namespace Source

open Text

/-
  Whether a text holds one of the words, from the start of a
  word on, with a blank after it.
-/
def HoldsSpaced
    (words : List Text)
    (t : Text) :
    Prop :=
  ∃ before, ∃ word ∈ words, ∃ blank after,
    t = before ++ (word ++ blank :: after) ∧
      wordMayStart before.getLast? = true ∧
      isBlank blank = true

/- A word and the blanks after it were read. -/
theorem wordThenBlanks?_split
    {words : List Text}
    {t rest : Text}
    (hRead : wordThenBlanks? words t = some rest) :
    ∃ word ∈ words, ∃ blank blanks,
      t = word ++ blank :: (blanks ++ rest) ∧
        ∀ c ∈ blank :: blanks, isBlank c = true := by
  unfold wordThenBlanks? at hRead
  rw [Option.bind_eq_some_iff] at hRead
  rcases hRead with ⟨⟨word, tail⟩, hWord, hBlanks⟩
  rcases oneOf?_split hWord with ⟨hMember, hText⟩
  rcases blanks?_split hBlanks with
    ⟨blank, blanks, rfl, hAll⟩
  exact ⟨word, hMember, blank, blanks, hText, hAll⟩

theorem isWordChar_of_mem
    {words : List Text}
    (hWords : words.all (·.all isWordChar) = true)
    {word : Text}
    (hWord : word ∈ words) :
    ∀ c ∈ word, isWordChar c = true :=
  List.all_eq_true.mp (List.all_eq_true.mp hWords word hWord)

/- What is read with blanks behind it stands in front. -/
theorem front_of_wordThenBlanks?
    {words : List Text}
    (hWords : words.all (·.all isWordChar) = true)
    (test : Char → Bool)
    (front back : Text)
    {rest : Text}
    (hTest : ∀ c, isWordChar c = true → test c = true)
    (hBlank : ∀ c, test c = true → isBlank c = false)
    (hFront : ∀ c ∈ front, test c = true)
    (hBack : ∀ c ∈ back.head?, test c = false)
    (hRead :
      wordThenBlanks? words (front ++ back) = some rest) :
    front ∈ words ∧ blanks? back = some rest := by
  unfold wordThenBlanks? at hRead
  rw [Option.bind_eq_some_iff] at hRead
  rcases hRead with ⟨⟨word, tail⟩, hWord, hBlanks⟩
  rcases oneOf?_split hWord with ⟨hMember, hText⟩
  have hTail : ∀ c ∈ tail.head?, test c = false := by
    intro c hHead
    rcases blanks?_split hBlanks with
      ⟨blank, blanks, rfl, hAll⟩
    obtain rfl : blank = c := by simpa using hHead
    have hHere := hAll blank List.mem_cons_self
    cases hChar : test blank with
    | false => rfl
    | true =>
        rw [hBlank blank hChar] at hHere
        exact absurd hHere (by simp)
  have hSpan :
      (front ++ back).span test = (front, back) :=
    span_append hFront hBack
  rw [hText, span_append
    (fun c hChar =>
      hTest c (isWordChar_of_mem hWords hMember c hChar))
    hTail, Prod.mk.injEq] at hSpan
  rcases hSpan with ⟨rfl, rfl⟩
  exact ⟨hMember, hBlanks⟩

/- Whether a text ends with a blank, unless it is empty. -/
def EndsBlank
    (t : Text) :
    Prop :=
  ∀ c ∈ t.getLast?, isBlank c = true

theorem EndsBlank.append
    {front back : Text}
    (hFront : EndsBlank front)
    (hBack : EndsBlank back) :
    EndsBlank (front ++ back) := by
  intro c hLast
  cases back with
  | nil =>
      rw [List.append_nil] at hLast
      exact hFront c hLast
  | cons d back =>
      rw [List.getLast?_append_of_ne_nil _ (by simp)]
        at hLast
      exact hBack c hLast

/- A word may start behind a blank. -/
theorem EndsBlank.wordMayStart
    {front : Text}
    (hFront : EndsBlank front)
    {previous : Option Char}
    (hStart : wordMayStart previous = true) :
    Text.wordMayStart (charBefore previous front) = true := by
  unfold charBefore
  cases hLast : front.getLast? with
  | none => exact hStart
  | some c =>
      have hWord := isWordChar_of_isBlank (hFront c hLast)
      simp [Text.wordMayStart, hWord]

/- Words that are skipped end with blanks. -/
theorem wordThenBlanks?_endsBlank
    {words : List Text}
    {t rest : Text}
    (hRead : wordThenBlanks? words t = some rest) :
    ∃ front, t = front ++ rest ∧ EndsBlank front := by
  rcases wordThenBlanks?_split hRead with
    ⟨word, -, blank, blanks, rfl, hAll⟩
  refine ⟨word ++ blank :: blanks, by simp, ?_⟩
  intro c hLast
  rw [List.getLast?_append_of_ne_nil _ (by simp)] at hLast
  exact hAll c (List.mem_of_getLast? hLast)

theorem skipWord_split
    (words : List Text)
    (t : Text) :
    ∃ front,
      t = front ++ skipWord words t ∧ EndsBlank front := by
  unfold skipWord
  cases hRead : wordThenBlanks? words t with
  | none => exact ⟨[], rfl, by simp [EndsBlank]⟩
  | some rest => exact wordThenBlanks?_endsBlank hRead

theorem skipWordsUpTo_split
    (words : List Text)
    (fuel : Nat)
    (t : Text) :
    ∃ front,
      t = front ++ skipWordsUpTo words fuel t ∧
        EndsBlank front := by
  induction fuel generalizing t with
  | zero => exact ⟨[], rfl, by simp [EndsBlank]⟩
  | succ fuel ih =>
      rw [skipWordsUpTo]
      cases hRead : wordThenBlanks? words t with
      | none => exact ⟨[], rfl, by simp [EndsBlank]⟩
      | some rest =>
          rcases wordThenBlanks?_endsBlank hRead with
            ⟨first, rfl, hFirst⟩
          rcases ih rest with ⟨front, hRest, hFront⟩
          refine
            ⟨first ++ front, ?_, hFirst.append hFront⟩
          rw [List.append_assoc, ← hRest]

------------------------------------------------------------
-- Dotted Names
------------------------------------------------------------

theorem isBlank_of_isDottedChar
    {c : Char}
    (hDotted : isDottedChar c = true) :
    isBlank c = false := by
  rw [isDottedChar, Bool.or_eq_true, beq_iff_eq] at hDotted
  rcases hDotted with hWord | rfl
  · exact isBlank_of_isWordChar hWord
  · decide

theorem isDottedChar_of_isBlank
    {c : Char}
    (hBlank : isBlank c = true) :
    isDottedChar c = false := by
  cases hDotted : isDottedChar c with
  | false => rfl
  | true =>
      rw [isBlank_of_isDottedChar hDotted] at hBlank
      exact absurd hBlank (by simp)

------------------------------------------------------------
-- Lines Without Headers
------------------------------------------------------------

/- A method header begins with an access word. -/
theorem readMethod_split
    {previous : Option Char}
    {t : Text}
    {result : Signature × Nat}
    (hRead : readMethod previous t = some result) :
    wordMayStart previous = true ∧
      ∃ word ∈ accessWords, ∃ blank after,
        t = word ++ blank :: after ∧
          isBlank blank = true := by
  unfold readMethod at hRead
  split at hRead
  next hStart =>
    rw [Option.bind_eq_bind, Option.bind_eq_some_iff]
      at hRead
    rcases hRead with ⟨rest, hAccess, -⟩
    rcases wordThenBlanks?_split hAccess with
      ⟨word, hWord, blank, blanks, hText, hAll⟩
    exact
      ⟨hStart, word, hWord, blank, blanks ++ rest, hText,
        hAll blank (by simp)⟩
  next => simp at hRead

/- Without an access word there is no method header. -/
theorem methodHeader?_eq_none
    {line : Text}
    (hLine : ¬HoldsSpaced accessWords line) :
    methodHeader? line = none := by
  unfold methodHeader?
  split
  next => rfl
  next =>
    rw [Option.map_eq_none_iff]
    apply find?_eq_none
    intro before rest hText
    cases hRead : readMethod before.getLast? rest with
    | none => rfl
    | some result =>
        rcases readMethod_split hRead with
          ⟨hStart, word, hWord, blank, after, rfl, hBlank⟩
        exact absurd
          ⟨before, word, hWord, blank, after, hText, hStart,
            hBlank⟩
          hLine

/- A class header holds the word for a class. -/
theorem readClassName_split
    {previous : Option Char}
    {t name : Text}
    (hRead : readClassName previous t = some name) :
    ∃ front blank after,
      t = front ++ ("class".toList ++ blank :: after) ∧
        wordMayStart (charBefore previous front) = true ∧
        isBlank blank = true := by
  unfold readClassName at hRead
  split at hRead
  next hStart =>
    simp only [Option.bind_eq_bind, Option.bind_eq_some_iff]
      at hRead
    rcases hRead with ⟨rest, hClass, tail, hBlanks, -⟩
    rcases skipWord_split accessWords t with
      ⟨access, hAccess, hAccessEnd⟩
    rcases skipWordsUpTo_split classModifiers
        (skipWord accessWords t).length
        (skipWord accessWords t) with
      ⟨modifiers, hModifiers, hModifiersEnd⟩
    rw [isPrefixOf?_eq_some_iff] at hClass
    unfold skipWords at hClass
    rw [hClass] at hModifiers
    rcases blanks?_split hBlanks with
      ⟨blank, blanks, rfl, hAll⟩
    refine
      ⟨access ++ modifiers, blank, blanks ++ tail, ?_, ?_,
        hAll blank (by simp)⟩
    · rw [List.append_assoc, ← hModifiers, ← hAccess]
    · exact (hAccessEnd.append hModifiersEnd).wordMayStart
        hStart
  next => simp at hRead

/- Without the word for a class there is no class header. -/
theorem classHeader?_eq_none
    {line : Text}
    (hLine : ¬HoldsSpaced ["class".toList] line) :
    classHeader? line = none := by
  unfold classHeader?
  split
  next => rfl
  next =>
    rw [Option.map_eq_none_iff]
    apply find?_eq_none
    intro before rest hText
    cases hRead : readClassName before.getLast? rest with
    | none => rfl
    | some name =>
        rcases readClassName_split hRead with
          ⟨front, blank, after, rfl, hStart, hBlank⟩
        refine absurd
          ⟨before ++ front, "class".toList, by simp, blank,
            after, by simp [hText], ?_, hBlank⟩
          hLine
        rw [List.getLast?_append]
        exact hStart

------------------------------------------------------------
-- Indented Lines
------------------------------------------------------------

/- A text behind some spaces. -/
def indented
    (indent : Nat)
    (t : Text) :
    Text :=
  List.replicate indent ' ' ++ t

theorem indented_succ
    (indent : Nat)
    (t : Text) :
    indented (indent + 1) t = ' ' :: indented indent t := by
  rfl

theorem take_indented
    (indent : Nat)
    (t : Text) :
    (indented indent t).take indent = indented indent [] := by
  unfold indented
  rw [List.take_left' (List.length_replicate),
    List.append_nil]

theorem isCommentLine_indented
    (indent : Nat)
    (t : Text) :
    isCommentLine (indented indent t) =
      isCommentLine t := by
  unfold isCommentLine indented
  rw [dropBlanks_spaces]

/- A reader that never reads at a space passes spaces. -/
theorem passes_spaces
    {α : Type}
    {read : Option Char → Text → Option α}
    (hSpace :
      ∀ previous rest, read previous (' ' :: rest) = none)
    (indent : Nat)
    (previous : Option Char)
    (t : Text) :
    Passes read previous (List.replicate indent ' ') t := by
  apply passes_of_forall
  intro c hChar
  rw [List.eq_of_mem_replicate hChar]
  exact hSpace

theorem endsBlank_spaces
    (indent : Nat) :
    EndsBlank (List.replicate indent ' ') := by
  intro c hLast
  rw [List.eq_of_mem_replicate (List.mem_of_getLast? hLast)]
  decide

/- So it reads behind them, where a word may start. -/
theorem find?_indented
    {α : Type}
    {read : Option Char → Text → Option α}
    {t : Text}
    {a : α}
    (hSpace :
      ∀ previous rest, read previous (' ' :: rest) = none)
    (hRead :
      ∀ previous,
        wordMayStart previous = true →
          read previous t = some a)
    (indent : Nat) :
    find? read (indented indent t) = some (indent, a) := by
  have hStart :
      wordMayStart
          (charBefore none (List.replicate indent ' ')) =
        true :=
    (endsBlank_spaces indent).wordMayStart rfl
  unfold find? indented
  rw [findFrom_pass (passes_spaces hSpace indent none t),
    findFrom_read (hRead _ hStart), List.length_replicate,
    Nat.zero_add]

/- An indented search starts behind the spaces. -/
theorem findAll_indented
    {α : Type}
    {read : Option Char → Text → Option (α × Nat)}
    (hSpace :
      ∀ previous rest, read previous (' ' :: rest) = none)
    (indent : Nat)
    (t : Text) :
    ∃ previous,
      findAll read (indented indent t) =
        findAllFrom read previous 0 indent t := by
  refine
    ⟨charBefore none (List.replicate indent ' '), ?_⟩
  unfold findAll indented
  rw [findAllFrom_pass _ _
      (passes_spaces hSpace indent none t),
    List.length_replicate, Nat.zero_add]

------------------------------------------------------------
-- Characters Before Blanks
------------------------------------------------------------

/- Whether a blank follows the given character somewhere. -/
def spacedAfter
    (mark : Char) :
    Text → Bool
  | [] => false
  | c :: rest =>
      (c == mark && startsBlank rest) ||
        spacedAfter mark rest

theorem spacedAfter_append
    {mark blank : Char}
    (hBlank : isBlank blank = true)
    (front after : Text) :
    spacedAfter mark (front ++ mark :: blank :: after) =
      true := by
  induction front with
  | nil => simp [spacedAfter, startsBlank, hBlank]
  | cons c front ih =>
      rw [List.cons_append, spacedAfter, ih, Bool.or_true]

/- Spaces in front make no difference. -/
theorem spacedAfter_indented
    {mark : Char}
    (hMark : mark ≠ ' ')
    (indent : Nat)
    (t : Text) :
    spacedAfter mark (indented indent t) =
      spacedAfter mark t := by
  induction indent with
  | zero => rfl
  | succ indent ih =>
      rw [indented_succ, spacedAfter, ih]
      simp [Ne.symm hMark]

/- Solid text has no blank after any character. -/
theorem spacedAfter_of_solid
    {t : Text}
    (hSolid : ∀ c ∈ t, isBlank c = false)
    (mark : Char) :
    spacedAfter mark t = false := by
  induction t with
  | nil => rfl
  | cons c t ih =>
      rw [List.forall_mem_cons] at hSolid
      have hStart : startsBlank t = false := by
        cases t with
        | nil => rfl
        | cons d t => exact hSolid.2 d List.mem_cons_self
      rw [spacedAfter, hStart, ih hSolid.2, Bool.and_false]
      rfl

/- A word before a blank has its last character there. -/
theorem not_holdsSpaced
    {words : List Text}
    {t : Text}
    (hWords :
      ∀ word ∈ words, ∃ front last,
        word = front ++ [last] ∧
          spacedAfter last t = false) :
    ¬HoldsSpaced words t := by
  rintro ⟨before, word, hWord, blank, after, rfl, -, hBlank⟩
  rcases hWords word hWord with
    ⟨front, last, rfl, hSpaced⟩
  have hHolds :
      spacedAfter last
          ((before ++ front) ++ last :: blank :: after) =
        true :=
    spacedAfter_append hBlank _ _
  simp only [List.append_assoc, List.cons_append,
    List.nil_append] at hHolds hSpaced
  rw [hHolds] at hSpaced
  exact absurd hSpaced (by simp)

/- Whether texts are words of letters and digits. -/
def areWords
    (words : List Text) :
    Bool :=
  words.all fun word =>
    !word.isEmpty && word.all Char.isAlphanum

/- Solid text behind spaces has no word before a blank. -/
theorem not_holdsSpaced_indented
    {words : List Text}
    {t : Text}
    (hWords : areWords words = true)
    (hSolid : ∀ c ∈ t, isBlank c = false)
    (indent : Nat) :
    ¬HoldsSpaced words (indented indent t) := by
  apply not_holdsSpaced
  intro word hWord
  have hLetters := List.all_eq_true.mp hWords word hWord
  rw [Bool.and_eq_true, Bool.not_eq_true'] at hLetters
  rcases List.eq_nil_or_concat word with
    rfl | ⟨front, last, rfl⟩
  · exact absurd hLetters.1 (by simp)
  · rw [List.concat_eq_append] at hLetters ⊢
    have hLast :=
      List.all_eq_true.mp hLetters.2 last (by simp)
    have hSpace : last ≠ ' ' := by
      rintro rfl
      exact absurd hLast (by decide)
    refine ⟨front, last, rfl, ?_⟩
    rw [spacedAfter_indented hSpace]
    exact spacedAfter_of_solid hSolid last

------------------------------------------------------------
-- Lines With Headers
------------------------------------------------------------

/- A name that fills the rest of a class header. -/
theorem readClassName_public
    {previous : Option Char}
    {name : Text}
    (hStart : wordMayStart previous = true)
    (hNonempty : name ≠ [])
    (hChars : ∀ c ∈ name, isWordChar c = true) :
    readClassName previous
        ("public class ".toList ++ name) =
      some name := by
  have hName : dropBlanks name = name := by
    have hSolid := dropBlanks_append_of_solid hNonempty
      (fun c hChar => isBlank_of_isWordChar (hChars c hChar))
      []
    simpa using hSolid
  have hWord : word? name = some (name, []) := by
    have hRead := word?_append hNonempty hChars
      (show wordEndsAt [] = true from rfl)
    simpa using hRead
  have hAccess :
      skipWord accessWords
          ("public class ".toList ++ name) =
        "class ".toList ++ name := by
    rfl
  have hModifiers :
      skipWords classModifiers ("class ".toList ++ name) =
        "class ".toList ++ name := by
    rfl
  have hBlanks :
      blanks? (' ' :: name) = some name := by
    have hSpace : isBlank ' ' = true := by decide
    simp [blanks?, hSpace, hName]
  unfold readClassName
  rw [if_pos hStart]
  simp only [hAccess, hModifiers]
  have hClass :
      "class".toList.isPrefixOf? ("class ".toList ++ name) =
        some (' ' :: name) := by
    rfl
  simp only [hClass, Option.bind_eq_bind, Option.bind_some,
    hBlanks, hWord]
  rfl

theorem readClassName_space
    (previous : Option Char)
    (rest : Text) :
    readClassName previous (' ' :: rest) = none := by
  unfold readClassName
  split
  · rfl
  · rfl

/- A class header is read behind its indentation. -/
theorem classHeader?_indented
    {name : Text}
    (hNonempty : name ≠ [])
    (hChars : ∀ c ∈ name, isWordChar c = true)
    (indent : Nat) :
    classHeader?
        (indented indent ("public class ".toList ++ name)) =
      some ⟨name, indent⟩ := by
  have hComment :
      isCommentLine ("public class ".toList ++ name) =
        false := by
    rfl
  unfold classHeader?
  rw [isCommentLine_indented, hComment,
    find?_indented readClassName_space
      fun previous hStart =>
        readClassName_public hStart hNonempty hChars]
  rfl

/- The header of an action is no class header. -/
theorem classHeader?_action
    {name : Text}
    (hChars : ∀ c ∈ name, isWordChar c = true)
    (indent : Nat) :
    classHeader?
        (indented indent
          ("public IActionResult ".toList ++
            (name ++ "()".toList))) =
      none := by
  have hSolid :
      ∀ c ∈ name ++ "()".toList, isBlank c = false := by
    intro c hChar
    rcases List.mem_append.mp hChar with hName | hParens
    · exact isBlank_of_isWordChar (hChars c hName)
    · simp at hParens
      rcases hParens with rfl | rfl
      · decide
      · decide
  have hFront :
      spacedAfter 's'
          ("public IActionResult ".toList ++
            (name ++ "()".toList)) =
        spacedAfter 's' (name ++ "()".toList) := by
    rfl
  apply classHeader?_eq_none
  apply not_holdsSpaced
  intro word hWord
  rw [List.mem_singleton] at hWord
  refine ⟨"clas".toList, 's', by rw [hWord]; rfl, ?_⟩
  rw [spacedAfter_indented (by decide), hFront]
  exact spacedAfter_of_solid hSolid 's'

end Source

end RouteAtlas
