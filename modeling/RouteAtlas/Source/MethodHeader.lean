import RouteAtlas.Source.ClassHeader

/-
  Method declarations.

  A method header is an access word, modifiers, a return
  type, a name, optional type parameters and the opening
  parenthesis of the parameter list.  A word like `new` can
  be a modifier or a type name: as many modifiers as
  possible are taken first, then fewer.  Type arguments end
  at the last `>` that leaves a method behind it.
-/

------------------------------------------------------------
-- Words
------------------------------------------------------------

namespace RouteAtlas

namespace Source

open Text

/- The modifiers of a method. -/
def methodModifiers : List Text :=
  ["static".toList, "virtual".toList,
   "override".toList, "abstract".toList,
   "sealed".toList, "new".toList, "async".toList,
   "extern".toList, "unsafe".toList]

/- The words that declare something else than a method. -/
def typeWords : List Text :=
  ["class".toList, "struct".toList, "record".toList,
   "interface".toList, "enum".toList,
   "delegate".toList, "event".toList]

/- Whether a declaration of another kind starts here. -/
def startsOtherDeclaration
    (t : Text) :
    Bool :=
  typeWords.any fun word =>
    (word.isPrefixOf? t).any wordEndsAt

------------------------------------------------------------
-- Types
------------------------------------------------------------

/- The characters of a dotted name. -/
def isDottedChar
    (c : Char) :
    Bool :=
  isWordChar c || c == '.'

/- The marks that type arguments of a method never pass. -/
def isParenthesis
    (c : Char) :
    Bool :=
  c == '(' || c == ')'

/- Passes any number of `[]`. -/
def skipArrayMarks :
    Text → Text
  | '[' :: ']' :: rest => skipArrayMarks rest
  | t => t

/- Passes the `?` of a nullable type. -/
def skipNullableMark :
    Text → Text
  | '?' :: rest => rest
  | t => t

------------------------------------------------------------
-- Names
------------------------------------------------------------

/- Answers the rest when a parenthesis opens after blanks. -/
def openParen?
    (t : Text) :
    Option Text :=
  match dropBlanks t with
  | '(' :: rest => some ('(' :: rest)
  | _ => none

/-
  Reads a method name, its type parameters and blanks, and
  answers the name and the text from the parenthesis on.
-/
def readMethodName
    (t : Text) :
    Option (Text × Text) := do
  let (name, t) ← word? t
  let paren ←
    match dropBlanks t with
    | '<' :: rest => lastClosing? isParenthesis openParen? rest
    | t => openParen? t
  return (name, paren)

------------------------------------------------------------
-- Signatures
------------------------------------------------------------

/- What a method header says from the return type on. -/
structure Signature where
  returnType : Text
  name : Text
  paren : Text
deriving DecidableEq, Repr

/-
  Reads the end of the return type and the method name;
  `whole` is the text from the return type on.
-/
def readTypeEnd
    (whole t : Text) :
    Option Signature := do
  let t := skipNullableMark (skipArrayMarks t)
  let returnType := whole.take (whole.length - t.length)
  let t ← blanks? t
  let (name, paren) ← readMethodName t
  return ⟨returnType, name, paren⟩

/- Reads a return type and a method name. -/
def readSignature
    (t : Text) :
    Option Signature :=
  if startsOtherDeclaration t then
    none
  else
    match t.span isDottedChar with
    | ([], _) => none
    | (_, rest) =>
        match dropBlanks rest with
        | '<' :: arguments =>
            lastClosing? isParenthesis (readTypeEnd t)
              arguments
        | _ => readTypeEnd t rest

/-
  Reads modifiers and a signature, as many modifiers as
  possible.  Every modifier takes a character, so `fuel` may
  be the length.
-/
def readModifiersUpTo :
    Nat → Text → Option Signature
  | 0, t => readSignature t
  | fuel + 1, t =>
      match wordThenBlanks? methodModifiers t with
      | some rest =>
          (readModifiersUpTo fuel rest).orElse fun _ =>
            readSignature t
      | none => readSignature t

------------------------------------------------------------
-- Headers
------------------------------------------------------------

/-
  A method header: its name and return type, the column of
  its access word and that of its parenthesis.
-/
structure MethodHeader where
  name : Text
  returnType : Text
  start : Nat
  openParen : Nat
deriving DecidableEq, Repr

/-
  Reads a method header here and answers the signature and
  the distance to the parenthesis.
-/
def readMethod
    (previous : Option Char)
    (t : Text) :
    Option (Signature × Nat) :=
  if wordMayStart previous then do
    let rest ← wordThenBlanks? accessWords t
    let signature ← readModifiersUpTo rest.length rest
    return (signature, t.length - signature.paren.length)
  else
    none

/- The first method header of a line that is no comment. -/
def methodHeader?
    (line : Text) :
    Option MethodHeader :=
  if isCommentLine line then
    none
  else
    (find? readMethod line).map
      fun (start, signature, distance) =>
        ⟨signature.name, signature.returnType,
          start, start + distance⟩

------------------------------------------------------------
-- Member Boundaries
------------------------------------------------------------

/- Whether code ends with a brace or a semicolon. -/
def endsMember
    (code : Text) :
    Bool :=
  match (stripEnd code).getLast? with
  | some c => c == '{' || c == '}' || c == ';'
  | none => false

/-
  Whether the line ends the member before it: a method
  header, or code that closes a statement or a body.
-/
def isMemberBoundary
    (line : Text) :
    Bool :=
  (methodHeader? line).isSome || endsMember (codeOnly line)

end Source

end RouteAtlas
