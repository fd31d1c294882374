import RouteAtlas.Route.Verb
import RouteAtlas.Route.Template

/-
  Routes: one record for each action of a controller.
-/

------------------------------------------------------------
-- Records
------------------------------------------------------------

namespace RouteAtlas

/-
  An action that answers requests: its route and verb, where
  it is declared, and the name users have given to it.
-/
structure Route where
  path : Text
  verb : HttpVerb
  controller : Text
  action : Text
  sourceFile : Text
  line : Int
  project : Option Text
  fragment : Option Text
  aliasName : Option Text
deriving DecidableEq, Repr

namespace Route

/- The route with another alias; an empty one is none. -/
def withAlias
    (route : Route)
    (aliasName : Option Text) :
    Route :=
  { route with
    aliasName := aliasName.filter fun name => !name.isEmpty }

/- The file and line of the declaration. -/
def location
    (route : Route) :
    Text :=
  route.sourceFile ++ ':' :: Text.ofInt route.line

end Route

end RouteAtlas
