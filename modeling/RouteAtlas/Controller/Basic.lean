import RouteAtlas.Source.AttributeScan
import RouteAtlas.Source.Body
import RouteAtlas.Source.Position
import RouteAtlas.Settings.Basic

/-
  Controllers of a file: the classes whose name ends as the
  settings say, each with the route above it and the span of
  its body.
-/

------------------------------------------------------------
-- Controllers
------------------------------------------------------------

namespace RouteAtlas

open Source

/- A controller class, its route and where its body ends. -/
structure Controller where
  name : Text
  lineIndex : Nat
  baseRoute : Option Text
  bodyEnd : Nat
deriving DecidableEq, Repr

namespace Controller

/- Whether a line lies between header and end of the body. -/
def contains
    (controller : Controller)
    (index : Nat) :
    Bool :=
  controller.lineIndex < index && index < controller.bodyEnd

/- The controller declared at a position. -/
def declaredAt?
    (settings : Settings)
    (position : Position) :
    Option Controller := do
  let header ← classHeader? position.line
  if Text.endsWith settings.controllerSuffix header.name then
    let hits :=
      attributesAbove position.above position.index
        settings.controllerWindow
        (position.line.take header.column)
    some
      { name := header.name
        lineIndex := position.index
        baseRoute := nearestRoute hits
        bodyEnd :=
          position.index +
            linesToClose .start
              (position.line :: position.below) }
  else
    none

/- The controllers of a file, in the order declared. -/
def all
    (settings : Settings)
    (lines : List Text) :
    List Controller :=
  (positions lines).filterMap (declaredAt? settings)

/-
  The innermost controller around a line: of all whose span
  contains it, the one declared last.
-/
def owner?
    (controllers : List Controller)
    (index : Nat) :
    Option Controller :=
  controllers.foldl
    (fun owner controller =>
      if controller.contains index &&
          owner.all (·.lineIndex < controller.lineIndex) then
        some controller
      else
        owner)
    none

end Controller

end RouteAtlas
