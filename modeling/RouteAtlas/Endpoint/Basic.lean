import RouteAtlas.Controller.Extract
import RouteAtlas.Endpoint.Parameter
import RouteAtlas.Endpoint.Signature

/-
  Endpoints: the action declared on one line of a file, with
  its parameters and the URL to request it.
-/

------------------------------------------------------------
-- Endpoints
------------------------------------------------------------

namespace RouteAtlas

open Source

/- An action with its parameters and its full URL. -/
structure Endpoint where
  route : Route
  fullUrl : Option Text
  parameters : List Parameter
deriving DecidableEq, Repr

namespace Endpoint

/- The full URL, or the route when there is none. -/
def requestUrl
    (endpoint : Endpoint) :
    Text :=
  match endpoint.fullUrl with
  | some (c :: rest) => c :: rest
  | _ => endpoint.route.path

/- The parameters that are bound to a source. -/
def parametersFrom
    (endpoint : Endpoint)
    (source : ParameterSource) :
    List Parameter :=
  endpoint.parameters.filter (·.source == source)

------------------------------------------------------------
-- Parameters
------------------------------------------------------------

/-
  The parameters of an action.  What cannot be read as a
  parameter is left out, and so are cancellation tokens.
-/
def parametersAt
    (settings : Settings)
    (action : Controller.Action)
    (position : Position) :
    List Parameter :=
  let signature :=
    Signature.captureFrom position.line position.below
      action.method.openParen settings.signatureWindow
  let pathParameters := Template.pathParameters action.path
  (Signature.split
    (Signature.parameterList signature)).filterMap
    fun part => do
      let formal ← FormalParameter.ofText? part
      if isCancellationToken formal.declaredType then
        none
      else
        return {
          name := formal.name
          declaredType := formal.declaredType
          source := formal.bind action.verb pathParameters
          required :=
            formal.isRequired settings.inferOptional }

------------------------------------------------------------
-- Detection
------------------------------------------------------------

/- An action found on a line, and its controller. -/
structure Detected where
  controller : Controller
  action : Controller.Action
  parameters : List Parameter
deriving DecidableEq, Repr

/-
  The action declared on a line, counted from one: a method
  of the innermost controller around the line.
-/
def detect?
    (settings : Settings)
    (lines : List Text)
    (line : Int) :
    Option Detected := do
  if line < 1 then
    none
  else
    let position ← position? lines (line - 1).toNat
    let _ ← methodHeader? position.line
    let controller ←
      Controller.owner? (Controller.all settings lines)
        position.index
    let action ←
      controller.actionAt? settings settings.detectorWindow
        position
    return {
      controller
      action
      parameters := parametersAt settings action position }

/- The endpoint of an action whose URL is known. -/
def ofDetected
    (detected : Detected)
    (line : Int)
    (origin : Controller.Origin)
    (fullUrl : Option Text) :
    Endpoint :=
  { route :=
      { detected.action.route detected.controller origin 0
          with line }
    fullUrl
    parameters := detected.parameters }

/-
  The endpoint declared on a line of a text that lies in no
  file, and so belongs to no project.
-/
def ofText?
    (settings : Settings)
    (source : Text)
    (line : Int) :
    Option Endpoint :=
  (detect? settings (Text.lines source) line).map
    fun detected => ofDetected detected line ⟨[], none⟩ none

end Endpoint

end RouteAtlas
