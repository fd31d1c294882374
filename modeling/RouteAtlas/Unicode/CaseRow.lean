/-
  Case mappings as rows: every `step`-th code point from
  `first` to `last` moves by `shift`.
-/

------------------------------------------------------------
-- Rows
------------------------------------------------------------

namespace RouteAtlas

namespace Unicode

structure CaseRow where
  first : Nat
  last : Nat
  step : Nat
  shift : Int

/- Whether the row maps a code point. -/
def CaseRow.holds
    (row : CaseRow)
    (n : Nat) :
    Bool :=
  row.first ≤ n && n ≤ row.last &&
    (n - row.first) % row.step == 0

/-
  The code point that the first row holding `n` moves it to;
  rows are sorted by their first code point.
-/
def moved
    (n : Nat) :
    List CaseRow → Nat
  | [] => n
  | row :: rest =>
      if n < row.first then
        n
      else if row.holds n then
        (n + row.shift).toNat
      else
        moved n rest

end Unicode

end RouteAtlas
