import RouteAtlas.Text.Basic

/-
  Lines of a text.  A line ends at a line feed, a carriage
  return, or a carriage return followed by a line feed; no
  other character ends a line.
-/

------------------------------------------------------------
-- Line Ends
------------------------------------------------------------

namespace RouteAtlas

namespace Text

/- Every line end as a single line feed. -/
def unifyNewlines :
    Text → Text
  | [] => []
  | '\r' :: '\n' :: rest => '\n' :: unifyNewlines rest
  | '\r' :: rest => '\n' :: unifyNewlines rest
  | c :: rest => c :: unifyNewlines rest

/- The lines of a text; there is always at least one. -/
def lines
    (t : Text) :
    List Text :=
  splitOn '\n' (unifyNewlines t)

end Text

end RouteAtlas
