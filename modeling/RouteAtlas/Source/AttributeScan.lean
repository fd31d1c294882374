import RouteAtlas.Source.Attribute
import RouteAtlas.Route.Template

/-
  Attributes that belong to a declaration.

  They are read upwards from the declaration, nearest line
  first, in a window of a given height.  Comment lines are
  passed over; a line with the word `class` or one that ends
  the member before it stops the scan, so attributes never
  leak from one declaration into another.

  Of the attributes found, the last verb attribute decides
  the verb and the first non-empty template is the route
  fragment.
-/

------------------------------------------------------------
-- Scan
------------------------------------------------------------

namespace RouteAtlas

namespace Source

open Text

/- Whether a line stops the scan. -/
def stopsScan
    (line : Text) :
    Bool :=
  hasClassWord line || isMemberBoundary line

/-
  The attributes of the lines above the line `index`, given
  nearest first, down to the first line that stops the scan.
-/
def attributesUpward :
    Nat → List Text → List AttributeHit
  | _, [] => []
  | index, line :: rest =>
      if isCommentLine line then
        attributesUpward (index - 1) rest
      else if stopsScan line then
        []
      else
        attributesOnLine line (index - 1) ++
          attributesUpward (index - 1) rest

/-
  The attributes of the declaration on line `index`: those
  before it on its own line, then those of at most `window`
  lines above, which are given nearest first.
-/
def attributesAbove
    (above : List Text)
    (index window : Nat)
    (beforeDeclaration : Text) :
    List AttributeHit :=
  attributesOnLine beforeDeclaration index ++
    attributesUpward index (above.take window)

/- The attributes of the declaration on a line of a file. -/
def scanAttributes
    (lines : List Text)
    (index window : Nat)
    (beforeDeclaration : Text) :
    List AttributeHit :=
  attributesAbove (lines.take index).reverse index window
    beforeDeclaration

------------------------------------------------------------
-- Resolution
------------------------------------------------------------

/- The template of the nearest route attribute. -/
def nearestRoute
    (hits : List AttributeHit) :
    Option Text :=
  (hits.find? (·.isRoute)).bind (·.template)

/- The verb of the last verb attribute. -/
def lastVerb
    (hits : List AttributeHit) :
    Option HttpVerb :=
  hits.reverse.findSome? (·.verb?)

/- The first template that is not empty. -/
def firstFragment
    (hits : List AttributeHit) :
    Option Text :=
  hits.findSome? fun hit =>
    match hit.template with
    | some (c :: rest) => some (strip (c :: rest))
    | _ => none

/- What the attributes of an action say. -/
structure ActionAttributes where
  verb : Option HttpVerb
  fragment : Option Text
  hasRoute : Bool
deriving DecidableEq, Repr

/- What the attributes found say together. -/
def ActionAttributes.ofHits
    (hits : List AttributeHit) :
    ActionAttributes :=
  ⟨lastVerb hits, firstFragment hits,
    hits.any (·.isRoute)⟩

/-
  The verb of a method that is an action.  Without a verb
  attribute it is an action only if it has a route attribute
  or the controller route has room for its name.
-/
def ActionAttributes.resolveVerb
    (attributes : ActionAttributes)
    (controllerRoute : Option Text) :
    Option HttpVerb :=
  match attributes.verb with
  | some verb => some verb
  | none =>
      if attributes.hasRoute ||
          controllerRoute.any Template.namesAction then
        some .any
      else
        none

end Source

end RouteAtlas
