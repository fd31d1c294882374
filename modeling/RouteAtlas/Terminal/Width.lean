import RouteAtlas.Text.Basic
import RouteAtlas.Unicode.Columns

/-
  The columns that texts take on a terminal.

  A joiner takes no column and hides the character behind
  it.  An emoji selector widens the character before it, if
  that can be shown as a picture.  A text is cut between
  glyphs: a character that takes columns, together with all
  that takes none and follows it.
-/

------------------------------------------------------------
-- Width
------------------------------------------------------------

namespace RouteAtlas

namespace Terminal

/- The character that shows the one before it as a picture. -/
def emojiSelector : Char := '\ufe0f'

/-
  The columns of a text; `selectable` tells whether the last
  character that took a column can still be widened.
-/
def widthAfter
    (selectable : Bool) :
    Text → Nat
  | [] => 0
  | ['\u200d'] => 0
  | '\u200d' :: _ :: rest => widthAfter selectable rest
  | c :: rest =>
      if c == emojiSelector then
        selectable.toNat + widthAfter false rest
      else
        match Unicode.columns c with
        | 0 => widthAfter selectable rest
        | n => n + widthAfter (Unicode.isSelectable c) rest

/- The columns of a text. -/
def width
    (t : Text) :
    Nat :=
  widthAfter false t

/- The text with spaces up to a number of columns. -/
def padded
    (columns : Nat)
    (t : Text) :
    Text :=
  t ++ List.replicate (columns - width t) ' '

------------------------------------------------------------
-- Glyphs
------------------------------------------------------------

/- Characters that are never divided, and their columns. -/
structure Glyph where
  text : Text
  columns : Nat
deriving DecidableEq, Repr

/- Puts a text behind the last glyph, which it may widen. -/
def attach
    (t : Text)
    (columns : Nat) :
    List Glyph → List Glyph
  | [] => [⟨t, columns⟩]
  | last :: done =>
      ⟨last.text ++ t, last.columns + columns⟩ :: done

/-
  The glyphs of a text behind those that were found already,
  the last of which comes first.
-/
def glyphsAfter
    (done : List Glyph)
    (selectable : Bool) :
    Text → List Glyph
  | [] => done.reverse
  | '\u200d' :: c :: rest =>
      match done with
      | [] => glyphsAfter [⟨['\u200d'], 0⟩] selectable (c :: rest)
      | _ =>
          glyphsAfter (attach ['\u200d', c] 0 done) selectable
            rest
  | c :: rest =>
      if c == emojiSelector then
        glyphsAfter (attach [c] selectable.toNat done) false
          rest
      else
        match Unicode.columns c with
        | 0 => glyphsAfter (attach [c] 0 done) selectable rest
        | n =>
            glyphsAfter (⟨[c], n⟩ :: done)
              (Unicode.isSelectable c) rest

/- The glyphs of a text. -/
def glyphs
    (t : Text) :
    List Glyph :=
  glyphsAfter [] false t

/-
  The text of as many glyphs as fit into some columns.  A
  glyph that fits only in part is shown as a space.
-/
def takeColumns :
    Nat → List Glyph → Text
  | 0, _ => []
  | _, [] => []
  | columns, glyph :: rest =>
      if glyph.columns ≤ columns then
        glyph.text ++ takeColumns (columns - glyph.columns) rest
      else
        [' ']

end Terminal

end RouteAtlas
