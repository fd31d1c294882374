import RouteAtlas.Json.Binary64
import RouteAtlas.Pairs

/-
  JSON values.  Members of an object keep the order in which
  their keys came first; numbers with a fraction or an
  exponent are binary64 numbers, all others are integers.
-/

------------------------------------------------------------
-- Values
------------------------------------------------------------

namespace RouteAtlas

/- A JSON value. -/
inductive Json where
  | null
  | bool (value : Bool)
  | integer (value : Int)
  | real (value : Binary64)
  | string (value : Text)
  | array (items : List Json)
  | object (members : List (Text × Json))
deriving Repr

namespace Json

/- The member of an object by its key. -/
def member?
    (key : Text) :
    Json → Option Json
  | .object members => Pairs.get? key members
  | _ => none

/- A text, or `null` for none. -/
def ofText? :
    Option Text → Json
  | none => .null
  | some t => .string t

end Json

end RouteAtlas
