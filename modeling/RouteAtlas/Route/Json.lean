import RouteAtlas.Route.Record
import RouteAtlas.Validation.Conversion

/-
  Routes as JSON objects.
-/

------------------------------------------------------------
-- Reading
------------------------------------------------------------

namespace RouteAtlas

open Conversion

namespace Route

/- The route that an object describes. -/
def ofMembers
    (members : List (Text × Json)) :
    Checked Route :=
  Route.mk
    <$> (Template.rooted
      <$> required "route_path".toList text members)
    <*> required "http_verb".toList
      (choice HttpVerb.ofText?) members
    <*> required "controller_name".toList text members
    <*> required "action_name".toList text members
    <*> optional "source_file".toList text [] members
    <*> optional "declaration_line".toList integer 1 members
    <*> optional "project_descriptor_path".toList
      textOrNull none members
    <*> optional "action_route_fragment".toList
      textOrNull none members
    <*> optional "alias".toList textOrNull none members

/- The route that a JSON value describes. -/
def ofJson
    (value : Json) :
    Checked Route :=
  object ofMembers value

------------------------------------------------------------
-- Writing
------------------------------------------------------------

/- The members of a route's object. -/
def toMembers
    (route : Route) :
    List (Text × Json) :=
  [("route_path".toList, .string route.path),
   ("http_verb".toList, .string route.verb.text),
   ("controller_name".toList, .string route.controller),
   ("action_name".toList, .string route.action),
   ("source_file".toList, .string route.sourceFile),
   ("declaration_line".toList, .integer route.line),
   ("project_descriptor_path".toList,
     .ofText? route.project),
   ("action_route_fragment".toList,
     .ofText? route.fragment),
   ("alias".toList, .ofText? route.aliasName)]

/- The object that describes a route. -/
def toJson
    (route : Route) :
    Json :=
  .object route.toMembers

end Route

end RouteAtlas
