import RouteAtlas.Source.Line

/-
  Where a body ends.

  Braces are counted in the code of the lines, literals and
  comments left out.  The body ends on the line where the
  depth returns to zero once a brace has been opened.  The
  depth counts every brace, so it may be negative before the
  first opening brace.
-/

------------------------------------------------------------
-- Braces
------------------------------------------------------------

namespace RouteAtlas

namespace Source

/- The depth of braces, and whether one was opened. -/
structure Braces where
  depth : Int
  opened : Bool
deriving DecidableEq, Repr

/- No brace read yet. -/
def Braces.start : Braces :=
  ⟨0, false⟩

/- The state after some code, or `none` when it closes. -/
def Braces.after
    (state : Braces) :
    Text → Option Braces
  | [] => some state
  | c :: rest =>
      if c == '{' then
        Braces.after ⟨state.depth + 1, true⟩ rest
      else if c == '}' then
        if state.opened && state.depth == 1 then
          none
        else
          Braces.after ⟨state.depth - 1, state.opened⟩ rest
      else
        Braces.after state rest

------------------------------------------------------------
-- Lines
------------------------------------------------------------

/-
  How many lines precede the one on which the body closes,
  or the number of all lines when it never does.
-/
def linesToClose
    (state : Braces) :
    List Text → Nat
  | [] => 0
  | line :: rest =>
      match state.after (codeOnly line) with
      | none => 0
      | some state => linesToClose state rest + 1

/-
  The index of the line that closes the first body opened at
  or below `start`; the number of lines for one left open.
-/
def bodyEnd
    (lines : List Text)
    (start : Nat) :
    Nat :=
  min (start + linesToClose .start (lines.drop start))
    lines.length

end Source

end RouteAtlas
