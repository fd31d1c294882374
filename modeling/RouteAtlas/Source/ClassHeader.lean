import RouteAtlas.Source.Line

/-
  Class declarations.

  A class header is an optional access word, any number of
  modifiers, the word `class` and a name; behind the name
  may stand type parameters, constructor parameters and a
  list of bases, and then the line has to end, open the body
  or begin a comment.
-/

------------------------------------------------------------
-- Words
------------------------------------------------------------

namespace RouteAtlas

namespace Source

open Text

/- The access words of a declaration. -/
def accessWords : List Text :=
  ["public".toList, "private".toList,
   "protected".toList, "internal".toList]

/- The modifiers of a class. -/
def classModifiers : List Text :=
  ["static".toList, "abstract".toList,
   "sealed".toList, "partial".toList]

/- Reads one of the words and the blanks that follow it. -/
def wordThenBlanks?
    (words : List Text)
    (t : Text) :
    Option Text :=
  (oneOf? words t).bind fun (_, rest) => blanks? rest

/- Passes at most one of the words, with its blanks. -/
def skipWord
    (words : List Text)
    (t : Text) :
    Text :=
  (wordThenBlanks? words t).getD t

/-
  Passes any number of the words, with their blanks.  Every
  word takes a character, so `fuel` may be the length.
-/
def skipWordsUpTo
    (words : List Text) :
    Nat → Text → Text
  | 0, t => t
  | fuel + 1, t =>
      match wordThenBlanks? words t with
      | some rest => skipWordsUpTo words fuel rest
      | none => t

/- Passes any number of the words, with their blanks. -/
def skipWords
    (words : List Text)
    (t : Text) :
    Text :=
  skipWordsUpTo words t.length t

------------------------------------------------------------
-- What May Follow the Name
------------------------------------------------------------

/-
  Passes a group that starts here, up to the first closing
  mark; `none` when it is opened and never closed.
-/
def skipGroup?
    (opening closing : Char)
    (t : Text) :
    Option Text :=
  match t with
  | [] => some []
  | c :: rest =>
      if c == opening then after? closing rest else some t

/- The characters of a list of bases. -/
def isBaseChar
    (c : Char) :
    Bool :=
  isWordChar c || isBlank c ||
    c == '<' || c == '>' || c == ',' || c == '.'

/- Passes a list of bases that starts here. -/
def skipBases?
    (t : Text) :
    Option Text :=
  match t with
  | ':' :: c :: rest =>
      if isBaseChar c then
        some (rest.dropWhile isBaseChar)
      else
        none
  | [':'] => none
  | _ => some t

/- Whether the header ends here. -/
def headerEnds :
    Text → Bool
  | [] => true
  | '{' :: _ => true
  | '/' :: '/' :: _ => true
  | _ => false

/- Whether what follows a class name completes a header. -/
def completesClass
    (t : Text) :
    Bool :=
  let ends := do
    let t ← skipGroup? '<' '>' (dropBlanks t)
    let t ← skipGroup? '(' ')' (dropBlanks t)
    let t ← skipBases? (dropBlanks t)
    return headerEnds (dropBlanks t)
  ends.getD false

------------------------------------------------------------
-- Headers
------------------------------------------------------------

/- The name that a class header declares, and its column. -/
structure ClassHeader where
  name : Text
  column : Nat
deriving DecidableEq, Repr

/- Reads a class header here and answers the name. -/
def readClassName
    (previous : Option Char)
    (t : Text) :
    Option Text :=
  if wordMayStart previous then do
    let t := skipWord accessWords t
    let t := skipWords classModifiers t
    let t ← "class".toList.isPrefixOf? t
    let t ← blanks? t
    let (name, t) ← word? t
    if completesClass t then some name else none
  else
    none

/- The first class header of a line that is no comment. -/
def classHeader?
    (line : Text) :
    Option ClassHeader :=
  if isCommentLine line then
    none
  else
    (find? readClassName line).map fun (column, name) =>
      ⟨name, column⟩

/- Reads the whole word `class`. -/
def readClassWord
    (previous : Option Char)
    (t : Text) :
    Option Unit :=
  if wordMayStart previous then
    match "class".toList.isPrefixOf? t with
    | some rest => if wordEndsAt rest then some () else none
    | none => none
  else
    none

/- Whether the code of a line holds the word `class`. -/
def hasClassWord
    (line : Text) :
    Bool :=
  (find? readClassWord (codeOnly line)).isSome

end Source

end RouteAtlas
