import RouteAtlas.Pairs

/-
  Remembered results, one for each key.  A result stays
  until it is forgotten, also if it says that nothing was
  found; a failed computation leaves nothing behind.
-/

------------------------------------------------------------
-- Memory
------------------------------------------------------------

namespace RouteAtlas

/- The results remembered, in the order of computation. -/
abbrev Memo (κ ν : Type) := List (κ × ν)

namespace Memo

variable {κ ν ε : Type}
variable [BEq κ]

/- What a look-up answers, and whether it computed. -/
structure Recalled (ε κ ν : Type) where
  result : Except ε ν
  memo : Memo κ ν
  computed : Bool

/- The result of a key, computed if it is not remembered. -/
def lookUp
    (compute : κ → Except ε ν)
    (key : κ)
    (memo : Memo κ ν) :
    Recalled ε κ ν :=
  match Pairs.get? key memo with
  | some value => ⟨.ok value, memo, false⟩
  | none =>
      match compute key with
      | .ok value =>
          ⟨.ok value, Pairs.put key value memo, true⟩
      | .error e => ⟨.error e, memo, true⟩

/- Forgets a key, and tells whether it was remembered. -/
def forget
    (key : κ)
    (memo : Memo κ ν) :
    Bool × Memo κ ν :=
  (Pairs.has key memo, Pairs.erase key memo)

end Memo

end RouteAtlas
