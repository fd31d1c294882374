import RouteAtlas.Text.Search

/-
  One line of source code.

  A line is a comment line when its first characters open
  or continue a comment.  The code of any other line is what
  is left once string literals are emptied and a trailing
  `//` comment is cut off.
-/

------------------------------------------------------------
-- Comment Lines
------------------------------------------------------------

namespace RouteAtlas

namespace Source

open Text

/-
  Whether the line starts, after blanks, with `//`, `/*` or
  the `*` that continues a block comment.
-/
def isCommentLine
    (line : Text) :
    Bool :=
  match dropBlanks line with
  | '/' :: '/' :: _ => true
  | '/' :: '*' :: _ => true
  | '*' :: _ => true
  | _ => false

------------------------------------------------------------
-- String Literals
------------------------------------------------------------

/-
  Whether a string literal that has just been opened is
  closed by an unescaped quote.  A backslash escapes the
  character after it, which may not be a line feed.
-/
def literalCloses :
    Text → Bool
  | [] => false
  | '"' :: _ => true
  | '\\' :: c :: rest => c != '\n' && literalCloses rest
  | '\\' :: [] => false
  | _ :: rest => literalCloses rest

/-
  The text with every string literal emptied, the `@` of a
  verbatim literal included.  A quote that opens no literal
  is kept.  `inside` tells whether the first character lies
  in a literal, whose closing quote then exists.
-/
def emptyLiteralsFrom :
    Bool → Text → Text
  | _, [] => []
  | true, '"' :: rest => emptyLiteralsFrom false rest
  | true, '\\' :: _ :: rest => emptyLiteralsFrom true rest
  | true, _ :: rest => emptyLiteralsFrom true rest
  | false, '@' :: '"' :: rest =>
      if literalCloses rest then
        '"' :: '"' :: emptyLiteralsFrom true rest
      else
        '@' :: '"' :: emptyLiteralsFrom false rest
  | false, '"' :: rest =>
      if literalCloses rest then
        '"' :: '"' :: emptyLiteralsFrom true rest
      else
        '"' :: emptyLiteralsFrom false rest
  | false, c :: rest => c :: emptyLiteralsFrom false rest

/- The text with every string literal emptied. -/
def emptyLiterals
    (line : Text) :
    Text :=
  emptyLiteralsFrom false line

------------------------------------------------------------
-- Code
------------------------------------------------------------

/- What precedes the first `//`. -/
def beforeComment :
    Text → Text
  | [] => []
  | '/' :: '/' :: _ => []
  | c :: rest => c :: beforeComment rest

/- The line without literal contents and end comment. -/
def codeOnly
    (line : Text) :
    Text :=
  beforeComment (emptyLiterals line)

end Source

end RouteAtlas
