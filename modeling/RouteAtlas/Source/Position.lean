import RouteAtlas.Text.Basic

/-
  Positions in a file: a line together with the lines above
  it, nearest first, and the lines below it.
-/

------------------------------------------------------------
-- Positions
------------------------------------------------------------

namespace RouteAtlas

namespace Source

/- A line of a file and what surrounds it. -/
structure Position where
  index : Nat
  above : List Text
  line : Text
  below : List Text
deriving DecidableEq, Repr

/-
  The positions of some lines that start at line `index`
  below the lines `above`.
-/
def positionsFrom :
    Nat → List Text → List Text → List Position
  | _, _, [] => []
  | index, above, line :: below =>
      ⟨index, above, line, below⟩ ::
        positionsFrom (index + 1) (line :: above) below

/- The positions of a file, from the first line on. -/
def positions
    (lines : List Text) :
    List Position :=
  positionsFrom 0 [] lines

/- The positions below this one and above line `stop`. -/
def Position.until
    (position : Position)
    (stop : Nat) :
    List Position :=
  positionsFrom (position.index + 1)
    (position.line :: position.above)
    (position.below.take (stop - (position.index + 1)))

/- The position of a line, when there is such a line. -/
def position?
    (lines : List Text)
    (index : Nat) :
    Option Position :=
  (lines[index]?).map fun line =>
    ⟨index, (lines.take index).reverse, line,
      lines.drop (index + 1)⟩

end Source

end RouteAtlas
