import RouteAtlas.Catalog.Basic
import RouteAtlas.Endpoint.Json
import RouteAtlas.Json.Writer
import RouteAtlas.Store.Aliases
import RouteAtlas.Terminal.Outline
import RouteAtlas.Terminal.Table

/-
  What the program prints: routes as an outline, a table or
  JSON, endpoints, and aliases.  Texts that come from users
  and sources are escaped, so that they show as they are.
-/

------------------------------------------------------------
-- Pieces
------------------------------------------------------------

namespace RouteAtlas

namespace Report

open Markup (bold dim escape styled)

/- The style of a verb. -/
def verbStyle :
    HttpVerb → Text
  | .get => "blue".toList
  | .post => "green".toList
  | .put => "dark_orange".toList
  | .delete => "red".toList
  | .any => "magenta".toList

/- A verb in its style. -/
def verb
    (v : HttpVerb) :
    Text :=
  styled (verbStyle v) v.text

/- The controller and the action of a route. -/
def action
    (route : Route) :
    Text :=
  route.controller ++ '.' :: route.action

/- A value as indented JSON. -/
def document
    (value : Json) :
    List Text :=
  [value.indented]

------------------------------------------------------------
-- Routes
------------------------------------------------------------

/- The location of a route as seen from its workspace. -/
def relativeLocation
    (workspace : Path)
    (route : Route) :
    Text :=
  let file := Path.ofText route.sourceFile
  let shown := (file.relativeTo? workspace).getD file
  shown.text ++ ':' :: Text.ofInt route.line

/- Routes as a table. -/
def routeTable
    (workspace : Path)
    (routes : List Route) :
    Table :=
  { columns :=
      [.firm "VERB".toList, .wrapping "ROUTE".toList,
        .wrapping "ALIAS".toList, .wrapping "ACTION".toList,
        .firm "FILE:LINE".toList]
    rows := routes.map fun route =>
      [verb route.verb,
        escape route.path,
        escape (route.aliasName.getD []),
        action route,
        relativeLocation workspace route] }

/- A route with its label and what is known besides. -/
def itemLabel
    (item : Catalog.RouteItem) :
    Text :=
  verb item.route.verb ++ ' ' :: escape item.label ++
    if item.description.isEmpty then []
    else ' ' :: dim (escape item.description)

/- A controller with the number of its routes. -/
def controllerOutline
    (group : Catalog.ControllerGroup) :
    Outline :=
  .node
    (escape group.label ++
      ' ' :: dim (Text.ofNat group.items.length))
    (group.items.map fun item => .node (itemLabel item) [])

/- A project with the number of its routes. -/
def projectOutline
    (group : Catalog.ProjectGroup) :
    Outline :=
  .node
    (bold (escape group.label) ++
      ' ' :: dim
        (Text.ofNat group.routeCount ++ " routes".toList))
    (group.controllers.map controllerOutline)

/- The heading above the routes of a catalogue. -/
def title
    (catalog : Catalog) :
    Text :=
  if catalog.isSearching then
    "Routes matching \"".toList ++
      escape catalog.searchText ++ ['"']
  else
    "Routes".toList

/- The routes that a catalogue shows, as an outline. -/
def routeOutline
    (replace : Text → Text)
    (catalog : Catalog) :
    Outline :=
  .node
    (bold (title catalog) ++
      " (".toList ++
      Text.ofNat catalog.filtered.length ++ [')'])
    ((catalog.groups replace).map projectOutline)

------------------------------------------------------------
-- Endpoints
------------------------------------------------------------

/- The parameters of an endpoint as a table. -/
def parameterTable
    (parameters : List Parameter) :
    Table :=
  { columns :=
      [.wrapping "NAME".toList, .wrapping "TYPE".toList,
        .firm "SOURCE".toList, .firm "REQUIRED".toList]
    rows := parameters.map fun parameter =>
      [parameter.name,
        escape parameter.declaredType,
        parameter.source.text,
        if parameter.required then "yes".toList
        else "no".toList] }

/- The request, the action and the project of an endpoint. -/
def endpointHead
    (endpoint : Endpoint) :
    List Text :=
  let route := endpoint.route
  let project :=
    match route.project with
    | none | some [] => []
    | some project => ["  project: ".toList ++ project]
  (verb route.verb ++
      ' ' :: bold (escape endpoint.requestUrl)) ::
    (' ' :: ' ' :: action route ++
      "  (".toList ++ route.location ++ [')']) ::
    project

/- An endpoint with its parameters, if it has any. -/
def endpointLines
    (endpoint : Endpoint) :
    Except Breakdown (List Text) := do
  let head ← Terminal.allLines (endpointHead endpoint)
  if endpoint.parameters.isEmpty then
    return head
  else
    return head ++
      (← (parameterTable endpoint.parameters).lines)

------------------------------------------------------------
-- Stores
------------------------------------------------------------

/- Aliases as a table. -/
def aliasTable
    (aliases : Aliases) :
    Table :=
  { columns :=
      [.firm "VERB".toList, .wrapping "ROUTE".toList,
        .wrapping "ALIAS".toList]
    rows := aliases.entries.map fun item =>
      [Text.upper item.verb, escape item.route,
        escape item.aliasName] }

/- The message that a route has been given an alias. -/
def aliasSet
    (verb route aliasName : Text) :
    Text :=
  styled "bold green".toList "Alias set".toList ++
    ' ' :: Text.upper verb ++
    ' ' :: escape route ++
    " -> ".toList ++ escape aliasName

/- A variable and its value. -/
def variableLine
    (key value : Text) :
    Text :=
  '{' :: escape key ++ '}' :: " = ".toList ++ escape value

/- The message of a failure. -/
def failure
    (failure : Failure) :
    Text :=
  styled "bold red".toList "error".toList ++
    ": ".toList ++ failure.message

end Report

end RouteAtlas
