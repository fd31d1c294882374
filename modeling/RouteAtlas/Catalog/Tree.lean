import RouteAtlas.Path.Basic
import RouteAtlas.Route.Record

/-
  The route tree: projects, their controllers, and the
  routes of each.

  Every route lies in the group of its project and, inside,
  in that of its controller.  Groups are sorted by their
  labels, and by their keys when labels are equal; routes
  keep the order in which they came.
-/

------------------------------------------------------------
-- Grouping
------------------------------------------------------------

namespace RouteAtlas

namespace Catalog

/-
  The items by their keys: each key once, in the order of
  first occurrence, with its items in their order.
-/
def groupBy
    {α : Type}
    (key : α → Text)
    (items : List α) :
    List (Text × List α) :=
  (items.map key).eraseDups.map fun k =>
    (k, items.filter fun item => key item == k)

/- Order of pairs of texts, the first one deciding. -/
def lePair
    (a b : Text × Text) :
    Bool :=
  if a.1 == b.1 then Text.le a.2 b.2 else Text.le a.1 b.1

------------------------------------------------------------
-- Items
------------------------------------------------------------

/- A route as it is shown. -/
structure RouteItem where
  route : Route
  label : Text
  description : Text
  tooltip : Text
deriving DecidableEq, Repr

/-
  The short form of a route: the fragment of the action,
  with a leading slash, or the shown path.
-/
def shortRoute
    (shown : Text)
    (fragment : Option Text) :
    Text :=
  match fragment with
  | none | some [] => shown
  | some fragment =>
      match Text.lower fragment with
      | '/' :: rest => '/' :: rest
      | rest => '/' :: rest

/-
  A route with its label, which is the alias or the short
  form.  The path is shown lower-cased, with `replace`
  applied to it.
-/
def RouteItem.ofRoute
    (replace : Text → Text)
    (route : Route) :
    RouteItem :=
  let shown := replace (Text.lower route.path)
  let short := shortRoute shown route.fragment
  let (label, description) :=
    match route.aliasName with
    | none | some [] => (short, [])
    | some aliasName => (aliasName, short)
  { route
    label
    description
    tooltip :=
      '[' :: route.verb.text ++ "] ".toList ++ shown }

------------------------------------------------------------
-- Controllers
------------------------------------------------------------

/- The routes of one controller. -/
structure ControllerGroup where
  projectKey : Text
  controllerName : Text
  label : Text
  items : List RouteItem
deriving DecidableEq, Repr

/- The controller's name without its suffix, if any is left. -/
def controllerLabel
    (name suffix : Text) :
    Text :=
  if suffix.isEmpty || name == suffix then
    name
  else
    (Text.dropEnding? suffix name).getD name

/- What controller groups are sorted by. -/
def ControllerGroup.sortKey
    (group : ControllerGroup) :
    Text × Text :=
  (Text.lower group.label, group.controllerName)

/- The controllers of a project, sorted. -/
def controllerGroups
    (replace : Text → Text)
    (suffix projectKey : Text)
    (routes : List Route) :
    List ControllerGroup :=
  ((groupBy (·.controller) routes).map
    fun (name, routes) =>
      { projectKey
        controllerName := name
        label := controllerLabel name suffix
        items := routes.map (.ofRoute replace) }).mergeSort
    fun a b => lePair a.sortKey b.sortKey

------------------------------------------------------------
-- Projects
------------------------------------------------------------

/- The controllers of one project. -/
structure ProjectGroup where
  projectKey : Text
  label : Text
  controllers : List ControllerGroup
deriving DecidableEq, Repr

/- The key of the routes that belong to no project. -/
def unknownProject : Text :=
  "Unknown".toList

/- The key of the project that a route belongs to. -/
def projectKey
    (route : Route) :
    Text :=
  match route.project with
  | none | some [] => unknownProject
  | some project => project

/- The name of a project's descriptor file, or a stand-in. -/
def projectLabel
    (key : Text) :
    Text :=
  if key == unknownProject then
    "Unknown project".toList
  else
    (Path.ofText key).stem

/- What project groups are sorted by. -/
def ProjectGroup.sortKey
    (group : ProjectGroup) :
    Text × Text :=
  (Text.lower group.label, group.projectKey)

/- The number of routes of a project. -/
def ProjectGroup.routeCount
    (group : ProjectGroup) :
    Nat :=
  group.controllers.foldl
    (fun n controller => n + controller.items.length) 0

/- The tree of some routes. -/
def tree
    (replace : Text → Text)
    (suffix : Text)
    (routes : List Route) :
    List ProjectGroup :=
  ((groupBy projectKey routes).map
    fun (key, routes) =>
      { projectKey := key
        label := projectLabel key
        controllers :=
          controllerGroups replace suffix key routes
        : ProjectGroup }).mergeSort
    fun a b => lePair a.sortKey b.sortKey

end Catalog

end RouteAtlas
