import RouteAtlas.Failure
import RouteAtlas.Json.Reader

/-
  JSON documents in files.  A malformed document is like
  none at all; one that is nested too deep breaks down.
-/

------------------------------------------------------------
-- Documents
------------------------------------------------------------

namespace RouteAtlas

namespace Json

/- The document that a text is, if it is one. -/
def document
    (t : Text) :
    Except Breakdown (Option Json) :=
  match read t with
  | .ok value => .ok (some value)
  | .error .malformed => .ok none
  | .error .tooDeep => .error .nestedTooDeep

end Json

end RouteAtlas
