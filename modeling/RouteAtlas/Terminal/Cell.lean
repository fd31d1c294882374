import RouteAtlas.Terminal.Line

/-
  Cells of tables.

  The columns that a cell asks for are measured before its
  tabs are filled, and a line separator of any kind ends a
  measured line; so a cell can turn out too wide for its
  column.  It then goes on in another line where a word
  ends, if it may, and what is still too wide is cut.
-/

------------------------------------------------------------
-- Measures
------------------------------------------------------------

namespace RouteAtlas

namespace Terminal

/- Whether a measured line ends at this character. -/
def endsMeasure
    (c : Char) :
    Bool :=
  c == '\n' || c == '\x1c' || c == '\x1d' || c == '\x1e' ||
    c == '\u0085' || c == '\u2028' || c == '\u2029'

/- The columns of the widest line of a text, its tabs none. -/
def measure
    (t : Text) :
    Nat :=
  let unified := t.map fun c => if endsMeasure c then '\n' else c
  ((Text.splitOn '\n' unified).map width).foldl max 0

------------------------------------------------------------
-- Words
------------------------------------------------------------

/- Whether a word, its last character first, is complete. -/
def endsWord :
    Text → Bool
  | [] => false
  | c :: before =>
      Text.isBlank c && !Text.isBlankText before

/-
  The words of a text, each with the blanks behind it and
  the first one with those before it; `word` is the word
  that has begun, its last character first.
-/
def wordsFrom
    (word : Text) :
    Text → List Text
  | [] => [word.reverse]
  | c :: rest =>
      if endsWord word && !Text.isBlank c then
        word.reverse :: wordsFrom [c] rest
      else
        wordsFrom (c :: word) rest

/- The words of a text with their blanks; there is one. -/
def words
    (t : Text) :
    List Text :=
  wordsFrom [] t

/-
  Fills lines with words.  `used` columns of the first line
  are taken by its beginning; a word goes to the next line
  if without its blanks it does not fit.
-/
def fillLines
    (columns used : Nat)
    (line : Text) :
    List Text → List Text
  | [] => [line]
  | word :: rest =>
      if line.isEmpty ||
          used + width (Text.stripEnd word) ≤ columns then
        fillLines columns (used + width word) (line ++ word)
          rest
      else
        line :: fillLines columns (width word) word rest

/- The text without at most `n` of the blanks at its end. -/
def dropEndBlanks
    (n : Nat)
    (t : Text) :
    Text :=
  let blanks := t.length - (Text.stripEnd t).length
  t.take (t.length - min n blanks)

/-
  The lines that a line is divided into.  Blanks at the end
  of a line that has too many characters are dropped.
-/
def wrap
    (columns : Nat)
    (line : Text) :
    List Text :=
  (fillLines columns 0 [] (words line)).map fun line =>
    dropEndBlanks (line.length - columns) line

------------------------------------------------------------
-- Fitting
------------------------------------------------------------

/- What stands for the rest of a line that was cut. -/
def ellipsis : Char := '…'

/- A line brought to a number of columns. -/
def fitted
    (columns : Nat)
    (line : Text) :
    Text :=
  if columns < width line then
    padded columns
      (takeColumns (columns - 1) (glyphs line) ++ [ellipsis])
  else
    padded columns (padded columns line)

/- The lines of a cell, each as wide as its column. -/
def cellLines
    (wraps : Bool)
    (columns : Nat)
    (t : Text) :
    List Text :=
  let lines := linesOf t
  let lines :=
    if wraps then lines.flatMap (wrap columns) else lines
  lines.map (fitted columns)

end Terminal

end RouteAtlas
