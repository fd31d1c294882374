import RouteAtlas.Text.Basic
import RouteAtlas.Unicode.Printable

/-
  Quoted texts.

  A text stands in single quotes, or in double quotes when
  it holds single ones and no double ones.  The quote, the
  backslash and characters that are not printable are
  written with a backslash.
-/

------------------------------------------------------------
-- Escapes
------------------------------------------------------------

namespace RouteAtlas

namespace Text

/- A number in at least `width` hexadecimal digits. -/
def hex
    (width n : Nat) :
    Text :=
  let digits := Nat.toDigits 16 n
  List.replicate (width - digits.length) '0' ++ digits

/- A character as it is written between quotes. -/
def quotedChar
    (quote c : Char) :
    Text :=
  if c == quote || c == '\\' then ['\\', c]
  else if c == '\n' then ['\\', 'n']
  else if c == '\r' then ['\\', 'r']
  else if c == '\t' then ['\\', 't']
  else if Unicode.isPrintable c then [c]
  else if c.toNat < 0x100 then
    '\\' :: 'x' :: hex 2 c.toNat
  else if c.toNat < 0x10000 then
    '\\' :: 'u' :: hex 4 c.toNat
  else
    '\\' :: 'U' :: hex 8 c.toNat

/- The quotes that a text is put in. -/
def quoteOf
    (t : Text) :
    Char :=
  if t.any (· == '\'') && !t.any (· == '"') then '"' else '\''

/- The text in quotes. -/
def quoted
    (t : Text) :
    Text :=
  let quote := quoteOf t
  quote :: t.flatMap (quotedChar quote) ++ [quote]

end Text

end RouteAtlas
