import RouteAtlas.Json.Value

/-
  Validated values.

  A check answers a value or the places of all errors, not
  only of the first.  Checks of the parts of a value are
  combined as an applicative functor, so the errors come in
  the order of the parts.
-/

------------------------------------------------------------
-- Results
------------------------------------------------------------

namespace RouteAtlas

/- A value, or the locations of what is wrong. -/
inductive Checked (α : Type) where
  | valid (value : α)
  | invalid (locations : List Text)
deriving DecidableEq, Repr

namespace Checked

variable {α β : Type}

/- The value, when all is right. -/
def toOption :
    Checked α → Option α
  | .valid value => some value
  | .invalid _ => none

/- Applies a checked function; the errors of both count. -/
def apply
    (f : Checked (α → β))
    (a : Checked α) :
    Checked β :=
  match f, a with
  | .valid f, .valid a => .valid (f a)
  | .valid _, .invalid errors => .invalid errors
  | .invalid errors, .valid _ => .invalid errors
  | .invalid errors, .invalid more =>
      .invalid (errors ++ more)

instance : Applicative Checked where
  pure := .valid
  seq f a := apply f (a ())

/- The same with `place` in front of each location. -/
def inside
    (place : Text) :
    Checked α → Checked α
  | .valid value => .valid value
  | .invalid locations =>
      .invalid <| locations.map fun location =>
        if location.isEmpty then place
        else place ++ '.' :: location

/- A value, or an error at the place itself. -/
def ofOption :
    Option α → Checked α
  | some value => .valid value
  | none => .invalid [[]]

/- Checks every item, each at the place of its index. -/
def items
    (check : Json → Checked α) :
    Nat → List Json → Checked (List α)
  | _, [] => .valid []
  | index, item :: rest =>
      List.cons
        <$> (check item).inside (Text.ofNat index)
        <*> items check (index + 1) rest

end Checked

end RouteAtlas
