import RouteAtlas.Endpoint.Basic
import RouteAtlas.Route.Json

/-
  Endpoints and their parameters as JSON objects.
-/

------------------------------------------------------------
-- Parameters
------------------------------------------------------------

namespace RouteAtlas

open Conversion

namespace Parameter

/- The parameter that an object describes. -/
def ofMembers
    (members : List (Text × Json)) :
    Checked Parameter :=
  Parameter.mk
    <$> Conversion.required "name".toList text members
    <*> Conversion.required "declared_type".toList text members
    <*> Conversion.required "source".toList
      (choice ParameterSource.ofText?) members
    <*> optional "required".toList truth true members

/- The object that describes a parameter. -/
def toJson
    (parameter : Parameter) :
    Json :=
  .object
    [("name".toList, .string parameter.name),
     ("declared_type".toList, .string parameter.declaredType),
     ("source".toList, .string parameter.source.text),
     ("required".toList, .bool parameter.required)]

end Parameter

------------------------------------------------------------
-- Endpoints
------------------------------------------------------------

namespace Endpoint

/- The endpoint that an object describes. -/
def ofMembers
    (members : List (Text × Json)) :
    Checked Endpoint :=
  Endpoint.mk
    <$> Route.ofMembers members
    <*> optional "full_url".toList textOrNull none members
    <*> optional "parameters".toList
      (list (object Parameter.ofMembers)) [] members

/- The endpoint that a JSON value describes. -/
def ofJson
    (value : Json) :
    Checked Endpoint :=
  object ofMembers value

/- The object that describes an endpoint. -/
def toJson
    (endpoint : Endpoint) :
    Json :=
  .object
    (endpoint.route.toMembers ++
      [("full_url".toList, .ofText? endpoint.fullUrl),
       ("parameters".toList,
         .array (endpoint.parameters.map (·.toJson)))])

end Endpoint

end RouteAtlas
