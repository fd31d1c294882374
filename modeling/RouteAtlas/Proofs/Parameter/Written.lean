import Mathlib
import RouteAtlas.Proofs.Parameter.Reading
import RouteAtlas.Proofs.Sections.Basic
import RouteAtlas.Proofs.Signature.Grammar
import RouteAtlas.Proofs.Source.CommentedHeader

/-
  Parameters as they are written.

  A parameter is written as sections of attributes between
  square brackets, modifiers, a type, a name and perhaps a
  default, with blanks between them.  From its type on it is
  read as it is written.

  Main definitions:
    * `FormalParameter.Written`

  Main statements:
    * `Written.readTypeEnd_typeTail`
    * `Written.readDeclaration_declaration`
-/

------------------------------------------------------------
-- Written Parameters
------------------------------------------------------------

namespace RouteAtlas

namespace FormalParameter

open Text Source

/- The brackets of attribute sections. -/
def squareBrackets : Signature.Brackets :=
  ⟨'[', ']'⟩

/- A section of attributes, and the blanks behind it. -/
structure WrittenSection where
  content : Signature.Nested [squareBrackets]
  gap : Sections.Gap

/- The section as it is written. -/
def WrittenSection.text
    (part : WrittenSection) :
    Text :=
  '[' :: (part.content.text ++ ']' :: part.gap.text)

/- A modifier, and the blanks behind it. -/
structure WrittenModifier where
  word : Text
  isModifier : word ∈ modifiers
  gap : Sections.Gap
  spaced : gap.text ≠ []

/- The modifier as it is written. -/
def WrittenModifier.text
    (modifier : WrittenModifier) :
    Text :=
  modifier.word ++ modifier.gap.text

/-
  A type: a dotted name, perhaps arguments, whatever stands
  between their brackets, then ranks and a nullable mark.
-/
structure WrittenType where
  name : Text
  named : name ≠ []
  dotted : ∀ c ∈ name, isDottedChar c = true
  arguments? : Option (Sections.Gap × Text)
  ranks : List Sections.Gap
  nullable : Bool

namespace WrittenType

/- The arguments between their brackets. -/
def argumentText
    (type : WrittenType) :
    Text :=
  match type.arguments? with
  | none => []
  | some (gap, inside) => gap.text ++ '<' :: (inside ++ ['>'])

/- Any number of ranks, with the blanks in them. -/
def rankText :
    List Sections.Gap → Text
  | [] => []
  | gap :: rest =>
      '[' :: (gap.text ++ ']' :: rankText rest)

/- What stands behind the arguments. -/
def marks
    (type : WrittenType) :
    Text :=
  rankText type.ranks ++ (if type.nullable then ['?'] else [])

/- The type as it is written. -/
def text
    (type : WrittenType) :
    Text :=
  type.name ++ (type.argumentText ++ type.marks)

end WrittenType

/- A default, and the blanks in front of it. -/
structure WrittenDefault where
  gap : Sections.Gap
  value : Text
  noAngle : '>' ∉ value
  solid : EndsSolid value

/- The default as it is written. -/
def WrittenDefault.text
    (default : WrittenDefault) :
    Text :=
  default.gap.text ++ '=' :: default.value

/- A parameter by its parts. -/
structure Written where
  sections : List WrittenSection
  modifiers : List WrittenModifier
  type : WrittenType
  gap : Sections.Gap
  spaced : gap.text ≠ []
  verbatim : Bool
  name : Text
  named : name ≠ []
  isWord : ∀ c ∈ name, isWordChar c = true
  notModifier : name ∉ FormalParameter.modifiers
  default? : Option WrittenDefault

namespace Written

/- The attributes as they are written. -/
def attributes
    (written : Written) :
    Text :=
  written.sections.flatMap (·.text)

/- The default as it is written, if there is one. -/
def defaultText
    (written : Written) :
    Text :=
  match written.default? with
  | none => []
  | some default => default.text

/- The name as it is written, and what follows it. -/
def nameText
    (written : Written) :
    Text :=
  (if written.verbatim then ['@'] else []) ++
    (written.name ++ written.defaultText)

/- The parameter from its type on. -/
def declaration
    (written : Written) :
    Text :=
  written.type.text ++ (written.gap.text ++ written.nameText)

/- The parameter behind its attributes. -/
def rest
    (written : Written) :
    Text :=
  written.modifiers.flatMap (·.text) ++ written.declaration

/- The parameter as it is written. -/
def text
    (written : Written) :
    Text :=
  written.attributes ++ written.rest

/- What should be read of it. -/
def parameter
    (written : Written) :
    FormalParameter where
  attributes := written.attributes
  declaredType := collapseBlanks written.type.text
  name := written.name
  hasDefault := written.default?.isSome

end Written

------------------------------------------------------------
-- Ends of Types
------------------------------------------------------------

/- Ranks are passed up to what is none. -/
theorem skipRanks_rankText
    {t : Text}
    (hEnd : t.head? ≠ some '[')
    (ranks : List Sections.Gap) :
    skipRanks (WrittenType.rankText ranks ++ t).length
        (WrittenType.rankText ranks ++ t) = t := by
  induction ranks with
  | nil =>
      cases t with
      | nil => rfl
      | cons c t =>
          have hOther : c ≠ '[' := by simpa using hEnd
          simp [WrittenType.rankText, skipRanks, hOther]
  | cons gap ranks ih =>
      have hInside :
          dropBlanks (gap.text ++
              ']' :: (WrittenType.rankText ranks ++ t)) =
            ']' :: (WrittenType.rankText ranks ++ t) := by
        rw [dropBlanks_gap_append gap.blank]
        exact dropBlanks_cons_of_not_blank (by decide) _
      have hShort :
          (WrittenType.rankText ranks ++ t).length ≤
            (gap.text ++ ']' ::
              (WrittenType.rankText ranks ++ t)).length := by
        simp
        omega
      simp only [WrittenType.rankText, List.cons_append,
        List.append_assoc, List.length_cons, skipRanks,
        hInside]
      rw [skipRanks_eq hShort, ih]

namespace Written

/- A name is read up to its default. -/
theorem word?_name
    (written : Written) :
    word? (written.name ++ written.defaultText) =
      some (written.name, written.defaultText) := by
  apply word?_append written.named written.isWord
  unfold defaultText
  cases written.default? with
  | none => rfl
  | some default =>
      have hBlank := default.gap.blank
      cases hGap : default.gap.text with
      | nil =>
          have hSign : isWordChar '=' = false := by decide
          simp [WrittenDefault.text, hGap, wordEndsAt, hSign]
      | cons c gap =>
          rw [hGap] at hBlank
          have hWord :=
            isWordChar_of_isBlank (hBlank c List.mem_cons_self)
          simp [WrittenDefault.text, hGap, wordEndsAt, hWord]

theorem default?_defaultText
    (written : Written) :
    FormalParameter.default?
        (dropBlanks written.defaultText) =
      some written.default?.isSome := by
  unfold defaultText
  cases written.default? with
  | none => rfl
  | some default =>
      have hSign :
          dropBlanks default.text = '=' :: default.value := by
        unfold WrittenDefault.text
        rw [dropBlanks_gap_append default.gap.blank]
        exact dropBlanks_cons_of_not_blank (by decide) _
      simp only [hSign]
      rfl

/- The `@` of a name is passed, and only there. -/
theorem skipAt_nameText
    (written : Written) :
    skipAt written.nameText =
      written.name ++ written.defaultText := by
  unfold nameText
  cases written.verbatim with
  | true => rfl
  | false =>
      have hWord := written.isWord
      cases hName : written.name with
      | nil => exact absurd hName written.named
      | cons c name =>
          rw [hName] at hWord
          have hOther : c ≠ '@' := by
            rintro rfl
            exact absurd (hWord '@' List.mem_cons_self)
              (by decide)
          simp [skipAt, hOther]

/- A name begins with a solid character and no bracket. -/
theorem exists_nameText
    (written : Written) :
    ∃ c t,
      written.nameText = c :: t ∧
        (c = '@' ∨ isWordChar c = true) := by
  unfold nameText
  cases written.verbatim with
  | true => exact ⟨'@', _, rfl, Or.inl rfl⟩
  | false =>
      cases hName : written.name with
      | nil => exact absurd hName written.named
      | cons c name =>
          have hWord := written.isWord c (by simp [hName])
          exact ⟨c, _, rfl, Or.inr hWord⟩

theorem startsBlank_nameText
    (written : Written) :
    startsBlank written.nameText = false := by
  rcases written.exists_nameText with ⟨c, t, hText, hChar⟩
  rw [hText, startsBlank]
  rcases hChar with rfl | hWord
  · decide
  · exact isBlank_of_isWordChar hWord

/- What follows the arguments of a type. -/
def typeTail
    (written : Written) :
    Text :=
  written.type.marks ++ (written.gap.text ++ written.nameText)

/- It starts with a bracket, a nullable mark or a blank. -/
theorem head?_typeTail
    (written : Written) :
    ∀ c ∈ written.typeTail.head?,
      c = '[' ∨ c = '?' ∨ isBlank c = true := by
  have hBlank := written.gap.blank
  unfold typeTail WrittenType.marks
  cases written.type.ranks with
  | cons gap ranks => simp [WrittenType.rankText]
  | nil =>
      cases written.type.nullable with
      | true => simp [WrittenType.rankText]
      | false =>
          cases hGap : written.gap.text with
          | nil => exact absurd hGap written.spaced
          | cons c gap =>
              have hFirst := hBlank c (by simp [hGap])
              simp [WrittenType.rankText, hFirst]

/- The end of a type is read as it is written. -/
theorem readTypeEnd_typeTail
    (written : Written)
    (front : Text) :
    readTypeEnd (front ++ written.typeTail)
        written.typeTail =
      some ⟨front ++ written.type.marks, written.name,
        written.default?.isSome⟩ := by
  have hMarks :
      skipNullableMark
          (skipRanks written.typeTail.length
            written.typeTail) =
        written.gap.text ++ written.nameText := by
    have hBlank := written.gap.blank
    unfold typeTail WrittenType.marks
    cases hGap : written.gap.text with
    | nil => exact absurd hGap written.spaced
    | cons c gap =>
        rw [hGap] at hBlank
        have hOther : c ≠ '[' ∧ c ≠ '?' := by
          constructor <;> rintro rfl <;>
            exact absurd (hBlank _ List.mem_cons_self)
              (by decide)
        rw [List.append_assoc, skipRanks_rankText]
        · cases written.type.nullable <;>
            simp [skipNullableMark, hOther.2]
        · cases written.type.nullable <;> simp [hOther.1]
  have hTaken :
      (front ++ written.typeTail).take
          ((front ++ written.typeTail).length -
            (written.gap.text ++ written.nameText).length) =
        front ++ written.type.marks := by
    unfold typeTail
    rw [← List.append_assoc, List.length_append,
      Nat.add_sub_cancel, List.take_left]
  unfold readTypeEnd
  simp only [hMarks, hTaken, Option.bind_eq_bind,
    blanks?_gap written.gap.blank written.spaced
      written.startsBlank_nameText,
    Option.bind_some, skipAt_nameText, word?_name,
    default?_defaultText]
  rfl

------------------------------------------------------------
-- Declarations
------------------------------------------------------------

/- No closing angle bracket follows the arguments. -/
theorem angle_not_mem_typeTail
    (written : Written) :
    '>' ∉ written.typeTail := by
  have hGap : ∀ gap : Sections.Gap, '>' ∉ gap.text := by
    intro gap hAngle
    exact absurd (gap.blank '>' hAngle) (by decide)
  have hRanks :
      ∀ ranks, '>' ∉ WrittenType.rankText ranks := by
    intro ranks
    induction ranks with
    | nil => exact List.not_mem_nil
    | cons gap ranks ih =>
        simp [WrittenType.rankText, hGap gap, ih]
  have hName : '>' ∉ written.name := by
    intro hAngle
    exact absurd (written.isWord '>' hAngle) (by decide)
  have hDefault : '>' ∉ written.defaultText := by
    unfold defaultText
    cases written.default? with
    | none => exact List.not_mem_nil
    | some default =>
        simp [WrittenDefault.text, hGap default.gap,
          default.noAngle]
  unfold typeTail WrittenType.marks nameText
  simp only [List.mem_append, not_or]
  refine
    ⟨⟨hRanks _, ?_⟩, hGap _, ⟨?_, hName, hDefault⟩⟩ <;>
    split <;> simp

/- What follows the name of a type does not continue it. -/
theorem head?_behind_name
    (written : Written) :
    ∀ c ∈
        (written.type.argumentText ++ written.typeTail).head?,
      isDottedChar c = false := by
  unfold WrittenType.argumentText
  cases written.type.arguments? with
  | none =>
      intro c hHead
      rcases written.head?_typeTail c hHead with
        rfl | rfl | hBlank
      · decide
      · decide
      · exact isDottedChar_of_isBlank hBlank
  | some arguments =>
      rcases arguments with ⟨gap, inside⟩
      cases hGap : gap.text with
      | nil =>
          have hAngle : isDottedChar '<' = false := by decide
          simpa [hGap] using hAngle
      | cons c rest =>
          have hBlank := gap.blank c (by simp [hGap])
          simpa [hGap] using isDottedChar_of_isBlank hBlank

/- Without arguments no angle bracket opens behind a name. -/
theorem head?_dropBlanks_typeTail
    (written : Written) :
    (dropBlanks written.typeTail).head? ≠ some '<' := by
  unfold typeTail WrittenType.marks
  cases written.type.ranks with
  | cons gap ranks =>
      have hSolid : isBlank '[' = false := by decide
      simp [WrittenType.rankText, dropBlanks, hSolid]
  | nil =>
      cases written.type.nullable with
      | true =>
          have hSolid : isBlank '?' = false := by decide
          simp [WrittenType.rankText, dropBlanks, hSolid]
      | false =>
          rcases written.exists_nameText with
            ⟨c, t, hText, hChar⟩
          have hDrop :
              dropBlanks
                  (written.gap.text ++ written.nameText) =
                c :: t := by
            rw [dropBlanks_gap_append written.gap.blank,
              dropBlanks_of_not_startsBlank
                written.startsBlank_nameText, hText]
          have hOther : c ≠ '<' := by
            rintro rfl
            rcases hChar with hAt | hWord
            · exact absurd hAt (by decide)
            · exact absurd hWord (by decide)
          simp [WrittenType.rankText, hDrop, hOther]

/- The last closing mark is the one nothing follows. -/
theorem lastClosing?_append
    {accept : Text → Option Declaration}
    {back : Text}
    (hAngle : '>' ∉ back)
    {declaration : Declaration}
    (hAccept : accept back = some declaration)
    (front : Text) :
    lastClosing? (fun _ => false) accept
        (front ++ '>' :: back) =
      some declaration := by
  induction front with
  | nil =>
      simp [lastClosing?, lastClosing?_eq_none hAngle,
        hAccept]
  | cons c front ih => simp [lastClosing?, ih]

/- What is read of a parameter from its type on. -/
def declared
    (written : Written) :
    Declaration :=
  ⟨written.type.text, written.name, written.default?.isSome⟩

theorem declaration_eq
    (written : Written) :
    written.declaration =
      written.type.name ++
        (written.type.argumentText ++ written.typeTail) := by
  simp [declaration, WrittenType.text, typeTail]

theorem span_declaration
    (written : Written) :
    written.declaration.span isDottedChar =
      (written.type.name,
        written.type.argumentText ++ written.typeTail) := by
  rw [declaration_eq]
  exact span_append written.type.dotted
    written.head?_behind_name

/- A declaration is read as it is written. -/
theorem readDeclaration_declaration
    (written : Written) :
    readDeclaration written.declaration =
      some written.declared := by
  have hEnd :
      readTypeEnd written.declaration written.typeTail =
        some written.declared := by
    rw [declaration_eq, ← List.append_assoc,
      readTypeEnd_typeTail, declared, WrittenType.text,
      List.append_assoc]
  cases hArguments : written.type.arguments? with
  | none =>
      have hSpan := written.span_declaration
      rw [WrittenType.argumentText, hArguments] at hSpan
      exact
        (readDeclaration_plain hSpan written.type.named
          written.head?_dropBlanks_typeTail).trans hEnd
  | some arguments =>
      rcases arguments with ⟨gap, inside⟩
      have hDrop :
          dropBlanks
              (written.type.argumentText ++
                written.typeTail) =
            '<' :: (inside ++ '>' :: written.typeTail) := by
        rw [WrittenType.argumentText, hArguments]
        simp only [List.append_assoc,
          dropBlanks_gap_append gap.blank]
        simpa using
          dropBlanks_cons_of_not_blank (by decide)
            (inside ++ '>' :: written.typeTail)
      rw [readDeclaration_arguments written.span_declaration
        written.type.named hDrop]
      exact lastClosing?_append
        written.angle_not_mem_typeTail hEnd inside

end Written

end FormalParameter

end RouteAtlas
