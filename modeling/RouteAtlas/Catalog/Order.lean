import RouteAtlas.Route.Record
import RouteAtlas.Settings.Basic

/-
  Searching and sorting routes.

  A search text matches a route when, letter case aside, one
  of its path, controller, action, alias and verb holds it.
  Routes with an alias come before all others; within each
  part the sort key decides, and equal keys keep the order
  in which they came.
-/

------------------------------------------------------------
-- Search
------------------------------------------------------------

namespace RouteAtlas

namespace Route

/- The texts of a route that a search looks at. -/
def searchedTexts
    (route : Route) :
    List Text :=
  [route.path, route.controller, route.action,
    route.aliasName.getD [], route.verb.text]

/- Whether a search text matches the route. -/
def isMatchedBy
    (needle : Text)
    (route : Route) :
    Bool :=
  route.searchedTexts.any fun t =>
    Text.contains (Text.lower needle) (Text.lower t)

------------------------------------------------------------
-- Order
------------------------------------------------------------

/- The text that a route is sorted by. -/
def sortText
    (key : SortKey)
    (route : Route) :
    Text :=
  match key with
  | .route => Text.lower route.path
  | .controller => Text.lower route.controller
  | .httpVerb => route.verb.text

/- Whether a route may come before another one. -/
def precedes
    (key : SortKey)
    (a b : Route) :
    Bool :=
  match a.aliasName.isSome, b.aliasName.isSome with
  | true, false => true
  | false, true => false
  | _, _ => Text.le (a.sortText key) (b.sortText key)

/- The routes in order. -/
def sorted
    (key : SortKey)
    (routes : List Route) :
    List Route :=
  routes.mergeSort (precedes key)

end Route

end RouteAtlas
