/-
  Keyed values in the order in which the keys came first.

  A list of pairs is read by `Pairs.get?`.  Writing a key
  that is present keeps its place; a new key goes to the
  end.  At most one pair of a key is ever written.
-/

------------------------------------------------------------
-- Operations
------------------------------------------------------------

namespace RouteAtlas

namespace Pairs

variable {κ ν : Type}
variable [BEq κ]

/- The value of a key. -/
def get?
    (key : κ) :
    List (κ × ν) → Option ν
  | [] => none
  | (k, v) :: rest =>
      if k == key then some v else get? key rest

/- Whether there is a value for the key. -/
def has
    (key : κ)
    (pairs : List (κ × ν)) :
    Bool :=
  (get? key pairs).isSome

/- Gives a key a value, in the place it has already. -/
def put
    (key : κ)
    (value : ν) :
    List (κ × ν) → List (κ × ν)
  | [] => [(key, value)]
  | (k, v) :: rest =>
      if k == key then
        (k, value) :: rest
      else
        (k, v) :: put key value rest

/- Takes a key away. -/
def erase
    (key : κ)
    (pairs : List (κ × ν)) :
    List (κ × ν) :=
  pairs.filter fun pair => !(pair.1 == key)

/- Writes all pairs, in turn, into a collection. -/
def putAll
    (pairs : List (κ × ν))
    (collection : List (κ × ν)) :
    List (κ × ν) :=
  pairs.foldl
    (fun collection (key, value) => put key value collection)
    collection

end Pairs

end RouteAtlas
