import RouteAtlas.Catalog.Order
import RouteAtlas.Catalog.Tree

/-
  The catalogue: the current routes, with the search text
  and the order in which they are shown.
-/

------------------------------------------------------------
-- Catalogues
------------------------------------------------------------

namespace RouteAtlas

/- Routes and how they are shown. -/
structure Catalog where
  sortBy : SortKey
  controllerSuffix : Text
  routes : List Route
  searchText : Text
deriving DecidableEq, Repr

namespace Catalog

/- A catalogue without routes. -/
def empty
    (sortBy : SortKey)
    (controllerSuffix : Text) :
    Catalog :=
  ⟨sortBy, controllerSuffix, [], []⟩

/- The catalogue with other routes. -/
def withRoutes
    (routes : List Route)
    (catalog : Catalog) :
    Catalog :=
  { catalog with routes }

/- The catalogue with a search text, kept in lower case. -/
def search
    (text : Text)
    (catalog : Catalog) :
    Catalog :=
  { catalog with searchText := Text.lower text }

/- Whether only some of the routes are shown. -/
def isSearching
    (catalog : Catalog) :
    Bool :=
  !Text.isBlankText catalog.searchText

/- The routes shown, in order. -/
def filtered
    (catalog : Catalog) :
    List Route :=
  Route.sorted catalog.sortBy <|
    if catalog.isSearching then
      catalog.routes.filter
        (·.isMatchedBy (Text.strip catalog.searchText))
    else
      catalog.routes

/- The tree of the routes shown. -/
def groups
    (replace : Text → Text)
    (catalog : Catalog) :
    List ProjectGroup :=
  tree replace catalog.controllerSuffix catalog.filtered

/- Whether alias or path of a route equal a lower-case text. -/
def isNamedBy
    (query : Text)
    (route : Route) :
    Bool :=
  Text.lower (route.aliasName.getD []) == query ||
    Text.lower route.path == query

/-
  The routes whose alias or path is the query, letter case
  and blanks around it aside; if there are none, the routes
  that the query matches as a search text.
-/
def find
    (query : Text)
    (catalog : Catalog) :
    List Route :=
  let query := Text.lower (Text.strip query)
  match catalog.routes.filter (isNamedBy query) with
  | [] => catalog.routes.filter (·.isMatchedBy query)
  | named => named

end Catalog

end RouteAtlas
