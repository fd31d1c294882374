/-
  Sets of code points given by closed ranges.

  Every character class of the library that goes beyond ASCII
  is a sorted list of ranges, looked up by `Unicode.covered`.
-/

------------------------------------------------------------
-- Lookup
------------------------------------------------------------

namespace RouteAtlas

namespace Unicode

/-
  Whether a code point lies in one of the ranges.  The
  ranges are sorted, so the search ends at the first range
  that starts above the code point.
-/
def covered
    (n : Nat) :
    List (Nat × Nat) → Bool
  | [] => false
  | (first, last) :: rest =>
      if n < first then
        false
      else if n ≤ last then
        true
      else
        covered n rest

end Unicode

end RouteAtlas
