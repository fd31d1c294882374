import RouteAtlas.Proofs.Sections.Basic

/-
  Method declarations as they are written.

  A type is a dotted name, perhaps with type arguments, then
  pairs of brackets and perhaps a nullable mark.  The
  arguments of a type are types again, with blanks only
  behind the commas between them.

  A declaration is an access word, modifiers, a return type
  and a name, with blanks between them, perhaps some type
  parameters, and a parenthesis.  Any text may follow.  The
  text in front of it has no access word, does not end
  within a word and opens no comment line.

  Main definitions:
    * `Source.TypeText`
    * `Source.WrittenMethod`
-/

------------------------------------------------------------
-- Types
------------------------------------------------------------

namespace RouteAtlas

namespace Source

open Text

/- Words with dots between them. -/
structure DottedName where
  text : Text
  named : text ≠ []
  dotted : ∀ c ∈ text, isDottedChar c = true

/- A dotted name of the characters given. -/
def DottedName.ofChars
    (chars : Text)
    (hDotted :
      chars ≠ [] ∧ chars.all isDottedChar = true) :
    DottedName where
  text := chars
  named := hDotted.1
  dotted := List.all_eq_true.mp hDotted.2

/- The word that a name begins with. -/
def DottedName.firstWord
    (name : DottedName) :
    Text :=
  name.text.takeWhile isWordChar

/- Pairs of brackets, and perhaps a nullable mark. -/
structure TypeMarks where
  ranks : Nat
  nullable : Bool

namespace TypeMarks

/- Any number of pairs of brackets. -/
def rankText :
    Nat → Text
  | 0 => []
  | ranks + 1 => '[' :: ']' :: rankText ranks

/- The marks as they are written. -/
def text
    (marks : TypeMarks) :
    Text :=
  rankText marks.ranks ++ (if marks.nullable then ['?'] else [])

end TypeMarks

mutual

/- A type, with or without type arguments. -/
inductive TypeText where
  | plain (name : DottedName) (marks : TypeMarks)
  | generic (name : DottedName) (arguments : TypeArguments)
      (marks : TypeMarks)

/- A type argument, and perhaps others behind commas. -/
inductive TypeArguments where
  | last (type : TypeText)
  | more (type : TypeText) (gap : Sections.Gap)
      (rest : TypeArguments)

end

mutual

/- The type as it is written. -/
def TypeText.text :
    TypeText → Text
  | .plain name marks => name.text ++ marks.text
  | .generic name arguments marks =>
      name.text ++ '<' :: (arguments.text ++ '>' :: marks.text)

/- The arguments as they are written. -/
def TypeArguments.text :
    TypeArguments → Text
  | .last type => type.text
  | .more type gap rest =>
      type.text ++ ',' :: (gap.text ++ rest.text)

end

namespace TypeText

/- The name of a type. -/
def name :
    TypeText → DottedName
  | .plain name _ => name
  | .generic name _ _ => name

/- What a type has behind its name. -/
def behindName :
    TypeText → Text
  | .plain _ marks => marks.text
  | .generic _ arguments marks =>
      '<' :: (arguments.text ++ '>' :: marks.text)

theorem text_eq
    (type : TypeText) :
    type.text = type.name.text ++ type.behindName := by
  cases type with
  | plain name marks => rfl
  | generic name arguments marks => rfl

end TypeText

------------------------------------------------------------
-- Methods
------------------------------------------------------------

/- One of some words, and the blanks behind it. -/
structure SpacedWord (words : List Text) where
  word : Text
  isWord : word ∈ words
  gap : Sections.Gap
  spaced : gap.text ≠ []

/- The word as it is written. -/
def SpacedWord.text
    {words : List Text}
    (spacedWord : SpacedWord words) :
    Text :=
  spacedWord.word ++ spacedWord.gap.text

theorem spaces_ne_nil
    (n : Nat) :
    (Sections.Gap.spaces (n + 1)).text ≠ [] :=
  List.cons_ne_nil _ _

/- A line with a method declaration, by its parts. -/
structure WrittenMethod where
  front : Text
  endsOutside : wordMayStart front.getLast? = true
  noAccess : ¬HoldsWord accessWords front
  noComment : isCommentLine front = false
  access : SpacedWord accessWords
  modifiers : List (SpacedWord methodModifiers)
  returnType : TypeText
  isType : returnType.name.firstWord ∉ typeWords
  gap : Sections.Gap
  spaced : gap.text ≠ []
  name : Text
  named : name ≠ []
  isWord : ∀ c ∈ name, isWordChar c = true
  typeParameters? : Option TypeArguments
  parenGap : Sections.Gap
  rest : Text

namespace WrittenMethod

/- The type parameters, if there are any. -/
def typeParameterText
    (method : WrittenMethod) :
    Text :=
  match method.typeParameters? with
  | none => []
  | some parameters => '<' :: (parameters.text ++ ['>'])

/- The declaration up to its parenthesis. -/
def header
    (method : WrittenMethod) :
    Text :=
  method.access.text ++
    (method.modifiers.flatMap (·.text) ++
      (method.returnType.text ++
        (method.gap.text ++
          (method.name ++
            (method.typeParameterText ++
              method.parenGap.text)))))

/- The line as it is written. -/
def text
    (method : WrittenMethod) :
    Text :=
  method.front ++ (method.header ++ '(' :: method.rest)

/- The line from the parenthesis on. -/
def paren
    (method : WrittenMethod) :
    Text :=
  '(' :: method.rest

/- The line from behind the type parameters on. -/
def ending
    (method : WrittenMethod) :
    Text :=
  method.parenGap.text ++ method.paren

/- The line from behind the name on. -/
def behindName
    (method : WrittenMethod) :
    Text :=
  method.typeParameterText ++ method.ending

/- The line from behind the return type on. -/
def behindType
    (method : WrittenMethod) :
    Text :=
  method.gap.text ++ (method.name ++ method.behindName)

/- The line from the return type on. -/
def typed
    (method : WrittenMethod) :
    Text :=
  method.returnType.text ++ method.behindType

/- What should be read from the return type on. -/
def signature
    (method : WrittenMethod) :
    Signature :=
  ⟨method.returnType.text, method.name, method.paren⟩

theorem header_paren
    (method : WrittenMethod) :
    method.header ++ '(' :: method.rest =
      method.access.text ++
        (method.modifiers.flatMap (·.text) ++
          method.typed) := by
  simp [header, typed, behindType, behindName, ending, paren]

end WrittenMethod

end Source

end RouteAtlas
