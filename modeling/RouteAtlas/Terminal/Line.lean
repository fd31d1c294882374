import RouteAtlas.Terminal.Markup
import RouteAtlas.Terminal.Width

/-
  Lines on a terminal.  Controls that would move the cursor
  are left out, and tabs are filled with spaces up to the
  next tab stop, at least one.
-/

------------------------------------------------------------
-- Controls
------------------------------------------------------------

namespace RouteAtlas

namespace Terminal

/- Bell, backspace, vertical tab, form feed and return. -/
def isMovement
    (c : Char) :
    Bool :=
  c == '\x07' || c == '\x08' || c == '\x0b' ||
    c == '\x0c' || c == '\x0d'

/- What a marked-up text shows, without such controls. -/
def shown
    (t : Text) :
    Except Breakdown Text :=
  (Markup.shown t).map fun t => t.filter (!isMovement ·)

------------------------------------------------------------
-- Tabs
------------------------------------------------------------

/- The distance between tab stops. -/
def tabStop : Nat := 8

/- Texts from a column on, each but the last with a tab. -/
def fillTabsFrom
    (column : Nat) :
    List Text → Text
  | [] => []
  | [last] => last
  | part :: next :: rest =>
      let part := part ++ [' ']
      let column := column + width part
      let gap := (tabStop - column % tabStop) % tabStop
      part ++ List.replicate gap ' ' ++
        fillTabsFrom (column + gap) (next :: rest)

/- A line with its tabs filled. -/
def fillTabs
    (line : Text) :
    Text :=
  fillTabsFrom 0 (Text.splitOn '\t' line)

------------------------------------------------------------
-- Lines
------------------------------------------------------------

/- The lines of a text that is shown, with tabs filled. -/
def linesOf
    (t : Text) :
    List Text :=
  (Text.splitOn '\n' t).map fillTabs

/- The lines that a marked-up text is shown in. -/
def lines
    (t : Text) :
    Except Breakdown (List Text) :=
  (shown t).map linesOf

/- The lines of marked-up texts, one after the other. -/
def allLines
    (texts : List Text) :
    Except Breakdown (List Text) :=
  (texts.mapM lines).map List.flatten

end Terminal

end RouteAtlas
