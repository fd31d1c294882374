import RouteAtlas.Terminal.Cell

/-
  Tables in frames.  A column is as wide as its widest cell
  measures, and a row as high as its highest cell; a heavy
  frame surrounds the headings and a light one the rows.
-/

------------------------------------------------------------
-- Tables
------------------------------------------------------------

namespace RouteAtlas

namespace Table

/- A heading, and whether the cells below it may wrap. -/
structure Column where
  heading : Text
  wraps : Bool
deriving DecidableEq, Repr

/- A column whose cells may go on in another line. -/
def Column.wrapping
    (heading : Text) :
    Column :=
  ⟨heading, true⟩

/- A column whose cells keep to their lines. -/
def Column.firm
    (heading : Text) :
    Column :=
  ⟨heading, false⟩

end Table

/- Columns, and rows of as many marked-up cells. -/
structure Table where
  columns : List Table.Column
  rows : List (List Text)
deriving DecidableEq, Repr

namespace Table

/- What a table shows: headings and cells without marks. -/
structure Shown where
  headings : List Text
  wraps : List Bool
  rows : List (List Text)

/- A table with its marks carried out. -/
def shown
    (table : Table) :
    Except Breakdown Shown := do
  let headings ←
    table.columns.mapM fun column =>
      Terminal.shown column.heading
  let rows ← table.rows.mapM fun row =>
    row.mapM Terminal.shown
  return ⟨headings, table.columns.map (·.wraps), rows⟩

/- The widths of the columns. -/
def Shown.widths
    (table : Shown) :
    List Nat :=
  table.rows.foldl
    (fun widths row =>
      widths.zipWith max (row.map Terminal.measure))
    (table.headings.map Terminal.measure)

------------------------------------------------------------
-- Frames
------------------------------------------------------------

/- The characters of a line of the frame. -/
structure Rule where
  left : Char
  fill : Char
  cross : Char
  right : Char

/- The line above the headings. -/
def topRule : Rule :=
  ⟨'┏', '━', '┳', '┓'⟩

/- The line between the headings and the rows. -/
def middleRule : Rule :=
  ⟨'┡', '━', '╇', '┩'⟩

/- The line below the rows. -/
def bottomRule : Rule :=
  ⟨'└', '─', '┴', '┘'⟩

/- A line of the frame, a column's blanks included. -/
def Rule.line
    (rule : Rule)
    (widths : List Nat) :
    Text :=
  rule.left ::
    Text.joinWith [rule.cross]
      (widths.map fun n =>
        List.replicate (n + 2) rule.fill) ++
    [rule.right]

------------------------------------------------------------
-- Rows
------------------------------------------------------------

/- A cell as lines that are as wide as its column. -/
structure Cell where
  columns : Nat
  lines : List Text

/- The cells of a row. -/
def cells
    (wraps : List Bool)
    (widths : List Nat)
    (row : List Text) :
    List Cell :=
  (wraps.zip widths).zipWith
    (fun (wraps, columns) t =>
      ⟨columns, Terminal.cellLines wraps columns t⟩)
    row

/- A line of a cell, blank behind its last one. -/
def Cell.line
    (i : Nat)
    (cell : Cell) :
    Text :=
  cell.lines[i]?.getD (List.replicate cell.columns ' ')

/- One line of a row, `bar` around each cell. -/
def rowLine
    (bar : Char)
    (parts : List Text) :
    Text :=
  bar ::
    Text.joinWith [bar]
      (parts.map fun part => ' ' :: part ++ [' ']) ++
    [bar]

/- The lines of a row. -/
def rowLines
    (bar : Char)
    (row : List Cell) :
    List Text :=
  let height := (row.map (·.lines.length)).foldl max 1
  (List.range height).map fun i =>
    rowLine bar (row.map (·.line i))

------------------------------------------------------------
-- Tables as Lines
------------------------------------------------------------

/- The lines of what a table shows. -/
def Shown.lines
    (table : Shown) :
    List Text :=
  let widths := table.widths
  let row := fun bar texts =>
    rowLines bar (cells table.wraps widths texts)
  topRule.line widths ::
    row '┃' table.headings ++
    middleRule.line widths ::
    table.rows.flatMap (row '│') ++
    [bottomRule.line widths]

/- The lines of a table. -/
def lines
    (table : Table) :
    Except Breakdown (List Text) :=
  table.shown.map Shown.lines

end Table

end RouteAtlas
