import Mathlib
import RouteAtlas.Endpoint.Basic
import RouteAtlas.Proofs.Controller.Pass

/-
  Detection on a line against extraction from a file.

  Both look for actions of a controller: detection asks the
  innermost controller around one line, extraction passes
  over all lines of every controller.  When they read
  attributes in windows of the same height, a line has an
  endpoint exactly if the pass over its owner has a route on
  it, and the two tell the same of the action.

  Main statements:
    * `ofText?_eq_some_iff`
    * `endpoint_iff_route_of_owner`
-/

------------------------------------------------------------
-- Detection
------------------------------------------------------------

namespace RouteAtlas

open Source

namespace Endpoint

variable {settings : Settings}
variable {lines : List Text}

/- The controller around a line, counted from one. -/
def ownerOfLine?
    (settings : Settings)
    (lines : List Text)
    (line : Int) :
    Option Controller :=
  if line < 1 then
    none
  else
    Controller.owner? (Controller.all settings lines)
      (line - 1).toNat

/-
  Detection answers the action that the owner of the line
  declares on it.
-/
theorem detect?_eq_some_iff
    {line : Int}
    {detected : Detected} :
    detect? settings lines line = some detected ↔
      ∃ position ∈ positions lines,
        line = position.index + 1 ∧
          ownerOfLine? settings lines line =
            some detected.controller ∧
          detected.controller.actionAt? settings
              settings.detectorWindow position =
            some detected.action ∧
          detected.parameters =
            parametersAt settings detected.action
              position := by
  unfold detect? ownerOfLine?
  by_cases hLine : line < 1
  · simp [hLine]
  · simp only [if_neg hLine, Option.bind_eq_bind,
      Option.bind_eq_some_iff, Option.pure_def,
      Option.some.injEq]
    constructor
    · rintro
        ⟨position, hPosition, method, hMethod, controller,
          hOwner, action, hAction, rfl⟩
      have hIndex := index_of_position? hPosition
      rw [← hIndex] at hPosition
      refine
        ⟨position, mem_positions_iff.mpr hPosition,
          by omega, ?_, hAction, rfl⟩
      rw [hIndex] at hOwner
      exact hOwner
    · rintro
        ⟨position, hMember, hNumber, hOwner, hAction,
          hParameters⟩
      have hIndex : (line - 1).toNat = position.index := by
        omega
      rw [hIndex] at hOwner ⊢
      have hMethod :
          ∃ method,
            methodHeader? position.line = some method := by
        cases hRead : methodHeader? position.line with
        | some method => exact ⟨method, rfl⟩
        | none =>
            rw [Controller.actionAt?_of_no_method hRead]
              at hAction
            exact absurd hAction (by simp)
      rcases hMethod with ⟨method, hMethod⟩
      refine
        ⟨position, mem_positions_iff.mp hMember, method,
          hMethod, detected.controller, hOwner,
          detected.action, hAction, ?_⟩
      rw [← hParameters]

theorem ofText?_eq_some_iff
    {source : Text}
    {line : Int}
    {endpoint : Endpoint} :
    ofText? settings source line = some endpoint ↔
      ∃ detected,
        detect? settings (Text.lines source) line =
            some detected ∧
          endpoint =
            ofDetected detected line ⟨[], none⟩ none := by
  unfold ofText?
  rw [Option.map_eq_some_iff]
  simp only [eq_comm]

------------------------------------------------------------
-- Agreement
------------------------------------------------------------

/- Whether two records tell the same of an action. -/
def SameAction
    (first second : Route) :
    Prop :=
  first.path = second.path ∧
    first.verb = second.verb ∧
    first.controller = second.controller ∧
    first.action = second.action ∧
    first.line = second.line ∧
    first.fragment = second.fragment

/-
  With windows of one height, the pass over the owner of a
  line finds on the line what detection finds there.
-/
theorem detect?_iff_mem_pass
    {line : Int}
    {controller : Controller}
    (hWindows :
      settings.actionWindow = settings.detectorWindow)
    (origin : Controller.Origin)
    (hOwner :
      ownerOfLine? settings lines line = some controller)
    (route : Route) :
    route ∈
          Route.ofController settings origin lines
            controller ∧
        route.line = line ↔
      ∃ detected,
        detect? settings lines line = some detected ∧
          route =
            { detected.action.route controller origin 0
                with line } := by
  have hLine : ¬ line < 1 := by
    intro hLow
    unfold ownerOfLine? at hOwner
    rw [if_pos hLow] at hOwner
    exact absurd hOwner (by simp)
  have hFound :
      Controller.owner? (Controller.all settings lines)
          (line - 1).toNat =
        some controller := by
    unfold ownerOfLine? at hOwner
    rwa [if_neg hLine] at hOwner
  rcases Controller.owner?_contains hFound with
    ⟨hController, hContains⟩
  rw [Route.mem_ofController_iff hController]
  constructor
  · rintro
      ⟨⟨position, hMember, action, -, hAction, rfl⟩, hNumber⟩
    have hNumber : line = position.index + 1 := hNumber.symm
    rw [hWindows] at hAction
    refine
      ⟨⟨controller, action,
          parametersAt settings action position⟩, ?_, ?_⟩
    · exact detect?_eq_some_iff.mpr
        ⟨position, hMember, hNumber, hOwner, hAction, rfl⟩
    · rw [hNumber]
      rfl
  · rintro ⟨detected, hDetected, rfl⟩
    rcases detect?_eq_some_iff.mp hDetected with
      ⟨position, hMember, hNumber, hSame, hAction, -⟩
    rw [hOwner, Option.some.injEq] at hSame
    have hIndex : (line - 1).toNat = position.index := by
      omega
    rw [hIndex] at hContains
    refine
      ⟨⟨position, hMember, detected.action, hContains, ?_,
          ?_⟩, rfl⟩
    · rw [hWindows, hSame]
      exact hAction
    · rw [hNumber]
      rfl

/-
  Extraction passes over every controller.  A line has an
  endpoint exactly if it has an owner and the pass over the
  owner has a route on it; then the endpoint and the route
  tell the same of the action.
-/
theorem endpoint_iff_route_of_owner
    (settings : Settings)
    (hWindows :
      settings.actionWindow = settings.detectorWindow)
    (source : Text)
    (line : Int)
    (origin : Controller.Origin) :
    Route.ofSource settings origin source =
        (Controller.all settings
          (Text.lines source)).flatMap
            (Route.ofController settings origin
              (Text.lines source)) ∧
      ((ofText? settings source line).isSome ↔
        ∃ controller,
          ownerOfLine? settings (Text.lines source) line =
              some controller ∧
            ∃ route ∈
                Route.ofController settings origin
                  (Text.lines source) controller,
              route.line = line) ∧
      ∀ endpoint controller route,
        ofText? settings source line = some endpoint →
        ownerOfLine? settings (Text.lines source) line =
          some controller →
        route ∈
          Route.ofController settings origin
            (Text.lines source) controller →
        route.line = line →
        SameAction endpoint.route route := by
  refine
    ⟨Route.ofLines_eq_flatMap_ofController, ?_, ?_⟩
  · constructor
    · intro hEndpoint
      rcases Option.isSome_iff_exists.mp hEndpoint with
        ⟨endpoint, hEndpoint⟩
      rcases ofText?_eq_some_iff.mp hEndpoint with
        ⟨detected, hDetected, -⟩
      rcases detect?_eq_some_iff.mp hDetected with
        ⟨-, -, -, hOwner, -, -⟩
      have hRoute :=
        (detect?_iff_mem_pass hWindows origin hOwner _).mpr
          ⟨detected, hDetected, rfl⟩
      exact
        ⟨detected.controller, hOwner, _, hRoute.1, hRoute.2⟩
    · rintro ⟨controller, hOwner, route, hRoute, hNumber⟩
      rcases
          (detect?_iff_mem_pass hWindows origin hOwner
            route).mp ⟨hRoute, hNumber⟩ with
        ⟨detected, hDetected, -⟩
      rw [ofText?_eq_some_iff.mpr
        ⟨detected, hDetected, rfl⟩]
      rfl
  · intro endpoint controller route hEndpoint hOwner hRoute
      hNumber
    rcases ofText?_eq_some_iff.mp hEndpoint with
      ⟨detected, hDetected, rfl⟩
    rcases
        (detect?_iff_mem_pass hWindows origin hOwner
          route).mp ⟨hRoute, hNumber⟩ with
      ⟨other, hOther, rfl⟩
    have hSame : detected = other :=
      Option.some.inj (hDetected.symm.trans hOther)
    subst hSame
    rcases detect?_eq_some_iff.mp hDetected with
      ⟨-, -, -, hDeclared, -, -⟩
    have hController : controller = detected.controller :=
      Option.some.inj (hOwner.symm.trans hDeclared)
    rw [hController]
    exact ⟨rfl, rfl, rfl, rfl, rfl, rfl⟩

/- Both windows ten lines high. -/
def evenWindows : Settings :=
  { actionWindow := 10 }

/- A controller in another; line five belongs to both. -/
def nestedSource : Text :=
  Text.joinWith ['\n']
    ["[Route(\"api\")]".toList,
     "public class AController \x7b".toList,
     "  [Route(\"b/[action]\")]".toList,
     "  class BController \x7b".toList,
     "    public int Get(int id) => 1;".toList,
     "  \x7d".toList,
     "\x7d".toList]

theorem same_action_in_nestedSource :
    evenWindows.actionWindow = evenWindows.detectorWindow ∧
      ∃ endpoint controller route,
        ofText? evenWindows nestedSource 5 =
            some endpoint ∧
          ownerOfLine? evenWindows
              (Text.lines nestedSource) 5 =
            some controller ∧
          route ∈
            Route.ofController evenWindows ⟨[], none⟩
              (Text.lines nestedSource) controller ∧
          route.line = 5 ∧
          SameAction endpoint.route route := by
  refine ⟨rfl, ?_⟩
  have hAgreement :=
    endpoint_iff_route_of_owner evenWindows rfl
      nestedSource 5 ⟨[], none⟩
  have hDetected :
      (ofText? evenWindows nestedSource 5).isSome := by
    decide +kernel
  rcases Option.isSome_iff_exists.mp hDetected with
    ⟨endpoint, hEndpoint⟩
  rcases hAgreement.2.1.mp hDetected with
    ⟨controller, hOwner, route, hRoute, hNumber⟩
  exact
    ⟨endpoint, controller, route, hEndpoint, hOwner, hRoute,
      hNumber,
      hAgreement.2.2 endpoint controller route hEndpoint
        hOwner hRoute hNumber⟩

end Endpoint

end RouteAtlas
