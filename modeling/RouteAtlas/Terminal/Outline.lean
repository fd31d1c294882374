import RouteAtlas.Terminal.Line

/-
  Outlines: labels with the labels below them.  A child
  hangs from a branch, and everything else that belongs to
  it stands to the right of that branch.
-/

------------------------------------------------------------
-- Outlines
------------------------------------------------------------

namespace RouteAtlas

/- A marked-up label and what is below it. -/
inductive Outline where
  | node (label : Text) (children : List Outline)
deriving Repr

namespace Outline

/- Lines with a mark before the first and before the rest. -/
def hang
    (first rest : Text) :
    List Text → List Text
  | [] => []
  | line :: lines =>
      (first ++ line) :: lines.map (rest ++ ·)

/- The lines of a child that others follow. -/
def branch
    (lines : List Text) :
    List Text :=
  hang "├── ".toList "│   ".toList lines

/- The lines of the last child. -/
def lastBranch
    (lines : List Text) :
    List Text :=
  hang "└── ".toList "    ".toList lines

mutual

/- The lines of an outline. -/
def lines :
    Outline → Except Breakdown (List Text)
  | .node label children => do
      let own ← Terminal.lines label
      return own ++ (← childLines children)

/- The lines of the children of a label. -/
def childLines :
    List Outline → Except Breakdown (List Text)
  | [] => .ok []
  | [child] => do
      return lastBranch (← lines child)
  | child :: next :: rest => do
      let first := branch (← lines child)
      return first ++ (← childLines (next :: rest))

end

end Outline

end RouteAtlas
