import RouteAtlas.Text.Lines
import RouteAtlas.Controller.Basic
import RouteAtlas.Route.Record

/-
  Routes of a source file.

  Every method in the span of a controller is an action if
  its attributes, or the controller's route, say so.  Routes
  come in the order of the controllers, and inside each in
  the order of the lines.
-/

------------------------------------------------------------
-- Actions
------------------------------------------------------------

namespace RouteAtlas

open Source

namespace Controller

/- An action: its method, verb, fragment and full route. -/
structure Action where
  method : MethodHeader
  verb : HttpVerb
  fragment : Option Text
  path : Text
deriving DecidableEq, Repr

/-
  The action that a controller declares at a position, with
  attributes read from at most `window` lines above.
-/
def actionAt?
    (settings : Settings)
    (window : Nat)
    (controller : Controller)
    (position : Position) :
    Option Action := do
  let method ← methodHeader? position.line
  let attributes :=
    ActionAttributes.ofHits
      (attributesAbove position.above position.index window
        (position.line.take method.start))
  let verb ← attributes.resolveVerb controller.baseRoute
  return {
    method
    verb
    fragment := attributes.fragment
    path :=
      Template.compose controller.baseRoute
        attributes.fragment controller.name method.name
        settings.controllerSuffix }

/- Where a source file lies and which project it is in. -/
structure Origin where
  file : Text
  project : Option Text
deriving DecidableEq, Repr

/- The record of an action on line `index`. -/
def Action.route
    (action : Action)
    (controller : Controller)
    (origin : Origin)
    (index : Nat) :
    Route :=
  { path := action.path
    verb := action.verb
    controller := controller.name
    action := action.method.name
    sourceFile := origin.file
    line := index + 1
    project := origin.project
    fragment := action.fragment
    aliasName := none }

/- The routes of a controller, read from its span. -/
def routes
    (settings : Settings)
    (origin : Origin)
    (controller : Controller)
    (span : List Position) :
    List Route :=
  span.filterMap fun position =>
    (controller.actionAt? settings settings.actionWindow
      position).map
      (·.route controller origin position.index)

end Controller

------------------------------------------------------------
-- Files
------------------------------------------------------------

namespace Route

/- The routes of the controller declared at a position. -/
def declaredFrom
    (settings : Settings)
    (origin : Controller.Origin)
    (position : Position) :
    List Route :=
  match Controller.declaredAt? settings position with
  | none => []
  | some controller =>
      controller.routes settings origin
        (position.until controller.bodyEnd)

/- The routes declared in the lines of a file. -/
def ofLines
    (settings : Settings)
    (origin : Controller.Origin)
    (lines : List Text) :
    List Route :=
  (positions lines).flatMap (declaredFrom settings origin)

/- The routes declared in a source text. -/
def ofSource
    (settings : Settings)
    (origin : Controller.Origin)
    (source : Text) :
    List Route :=
  ofLines settings origin (Text.lines source)

end Route

end RouteAtlas
