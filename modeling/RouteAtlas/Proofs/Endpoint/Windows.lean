import Mathlib
import RouteAtlas.Proofs.Endpoint.Agreement
import RouteAtlas.Proofs.Endpoint.RequestUrl

/-
  Windows of different heights.

  A scan for attributes goes upwards and stops at a line
  that does not depend on the window, so a higher window
  finds the same attributes first and then perhaps more.
  More attributes make no action cease to be one, and they
  leave the route fragment that was found already.

  Main statements:
    * `attributesUpward_isPrefix`
    * `exists_actionAt?_of_le`
    * `scanAttributes_isPrefix_and_detected`
-/

------------------------------------------------------------
-- Scans
------------------------------------------------------------

namespace RouteAtlas

open Source

namespace Source

/-
  By induction on the lines that both scans see: each of
  them is passed over, stops both or adds to both.
-/
theorem attributesUpward_isPrefix
    (index : Nat)
    {near far : List Text}
    (hLines : near <+: far) :
    attributesUpward index near <+:
      attributesUpward index far := by
  induction near generalizing index far with
  | nil =>
      rw [attributesUpward]
      exact List.nil_prefix
  | cons line near ih =>
      rcases hLines with ⟨farther, rfl⟩
      rw [List.cons_append, attributesUpward,
        attributesUpward]
      have hRest := ih (index - 1) ⟨farther, rfl⟩
      by_cases hComment : isCommentLine line = true
      · rw [if_pos hComment, if_pos hComment]
        exact hRest
      · rw [if_neg hComment, if_neg hComment]
        by_cases hStops : stopsScan line = true
        · rw [if_pos hStops, if_pos hStops]
        · rw [if_neg hStops, if_neg hStops]
          exact (List.prefix_append_right_inj _).mpr hRest

theorem attributesAbove_isPrefix
    (above : List Text)
    (index : Nat)
    {low high : Nat}
    (hWindows : low ≤ high)
    (beforeDeclaration : Text) :
    attributesAbove above index low beforeDeclaration <+:
      attributesAbove above index high
        beforeDeclaration := by
  unfold attributesAbove
  have hLines : above.take low <+: above.take high :=
    List.take_prefix_take_left hWindows
  exact
    (List.prefix_append_right_inj _).mpr
      (attributesUpward_isPrefix index hLines)

------------------------------------------------------------
-- Resolution
------------------------------------------------------------

/-
  Whether attributes say at least what others say: there is
  a verb if there was one, and the fragment stays.
-/
structure ActionAttributes.Extends
    (more less : ActionAttributes) :
    Prop where
  verb : less.verb.isSome → more.verb.isSome
  fragment :
    ∀ text, less.fragment = some text →
      more.fragment = some text
  hasRoute : less.hasRoute = true → more.hasRoute = true

/- More attributes behind the first ones say no less. -/
theorem ofHits_extends
    {first hits : List AttributeHit}
    (hHits : first <+: hits) :
    (ActionAttributes.ofHits hits).Extends
      (ActionAttributes.ofHits first) where
  verb := by
    intro hVerb
    rcases hHits with ⟨later, rfl⟩
    unfold ActionAttributes.ofHits lastVerb at hVerb ⊢
    rw [List.reverse_append, List.findSome?_append]
    rw [Option.isSome_or, hVerb, Bool.or_true]
  fragment := by
    intro text hText
    exact hHits.findSome?_eq_some hText
  hasRoute := by
    intro hRoute
    rcases List.any_eq_true.mp hRoute with
      ⟨hit, hMember, hIsRoute⟩
    exact List.any_eq_true.mpr
      ⟨hit, hHits.subset hMember, hIsRoute⟩

/- Attributes that say no less make as much an action. -/
theorem ActionAttributes.Extends.exists_resolveVerb
    {more less : ActionAttributes}
    (hExtends : more.Extends less)
    {baseRoute : Option Text}
    {verb : HttpVerb}
    (hVerb : less.resolveVerb baseRoute = some verb) :
    ∃ verb', more.resolveVerb baseRoute = some verb' := by
  unfold resolveVerb at hVerb ⊢
  cases hMore : more.verb with
  | some verb' => exact ⟨verb', rfl⟩
  | none =>
      have hLess : less.verb = none := by
        cases hLess : less.verb with
        | none => rfl
        | some verb' =>
            have hSome := hExtends.verb (by rw [hLess]; rfl)
            rw [hMore] at hSome
            cases hSome
      rw [hLess] at hVerb
      refine ⟨.any, if_pos ?_⟩
      by_cases hRoute : less.hasRoute = true
      · rw [hExtends.hasRoute hRoute, Bool.true_or]
      · cases hNames : baseRoute.any Template.namesAction with
        | true => rw [Bool.or_true]
        | false => simp [hRoute, hNames] at hVerb

end Source

------------------------------------------------------------
-- Actions
------------------------------------------------------------

namespace Controller

variable {settings : Settings}
variable {controller : Controller}
variable {position : Position}

/- What a higher window makes of an action. -/
structure Action.Confirms
    (seen action : Action) :
    Prop where
  method : seen.method = action.method
  fragment :
    ∀ text, action.fragment = some text →
      seen.fragment = some text ∧ seen.path = action.path

/- An action is one in every higher window. -/
theorem exists_actionAt?_of_le
    {low high : Nat}
    (hWindows : low ≤ high)
    {action : Action}
    (hAction :
      controller.actionAt? settings low position =
        some action) :
    ∃ seen,
      controller.actionAt? settings high position =
          some seen ∧
        seen.Confirms action := by
  unfold actionAt? at hAction ⊢
  simp only [Option.bind_eq_bind, Option.bind_eq_some_iff,
    Option.pure_def, Option.some.injEq] at hAction ⊢
  rcases hAction with ⟨method, hMethod, verb, hVerb, rfl⟩
  have hExtends :=
    ofHits_extends
      (attributesAbove_isPrefix position.above
        position.index hWindows
        (position.line.take method.start))
  rcases hExtends.exists_resolveVerb hVerb with
    ⟨verb', hVerb'⟩
  refine
    ⟨_, ⟨method, hMethod, verb', hVerb', rfl⟩, rfl, ?_⟩
  intro text hText
  have hSame := hExtends.fragment text hText
  exact
    ⟨hSame,
      congrArg
        (fun fragment =>
          Template.compose controller.baseRoute fragment
            controller.name method.name
            settings.controllerSuffix)
        (hSame.trans hText.symm)⟩

end Controller

------------------------------------------------------------
-- Endpoints
------------------------------------------------------------

namespace Endpoint

variable {settings : Settings}

/-
  Whether an endpoint shows the action of a route: the same
  method of the same controller and, if the route has a
  fragment, the same fragment and path.
-/
structure Shows
    (endpoint : Endpoint)
    (route : Route) :
    Prop where
  controller : endpoint.route.controller = route.controller
  action : endpoint.route.action = route.action
  line : endpoint.route.line = route.line
  fragment :
    ∀ text, route.fragment = some text →
      endpoint.route.fragment = some text ∧
        endpoint.route.path = route.path

/-
  A route that is found in the pass over the owner of its
  line is detected on the line.
-/
theorem detected_of_mem_pass
    (hWindows :
      settings.actionWindow ≤ settings.detectorWindow)
    {lines : List Text}
    {origin : Controller.Origin}
    {controller : Controller}
    {route : Route}
    (hOwner :
      ownerOfLine? settings lines route.line =
        some controller)
    (hRoute :
      route ∈
        Route.ofController settings origin lines
          controller) :
    ∃ detected,
      detect? settings lines route.line = some detected ∧
        ∀ origin' fullUrl,
          (ofDetected detected route.line origin'
            fullUrl).Shows route := by
  have hController :
      controller ∈ Controller.all settings lines := by
    unfold ownerOfLine? at hOwner
    split at hOwner
    · cases hOwner
    · exact (Controller.owner?_contains hOwner).1
  rcases
      (Route.mem_ofController_iff hController).mp hRoute with
    ⟨position, hPosition, action, -, hAction, hSame⟩
  rcases Controller.exists_actionAt?_of_le hWindows hAction
    with ⟨seen, hSeen, hConfirms⟩
  have hLine : route.line = position.index + 1 := by
    rw [hSame]
    rfl
  refine
    ⟨⟨controller, seen, parametersAt settings seen position⟩,
      detect?_eq_some_iff.mpr
        ⟨position, hPosition, hLine, hOwner, hSeen, rfl⟩, ?_⟩
  intro origin' fullUrl
  rw [hSame]
  exact
    { controller := rfl
      action :=
        congrArg MethodHeader.name hConfirms.method
      line := rfl
      fragment := hConfirms.fragment }

/-
  A higher window finds the same attributes first.  So if
  detection looks at least as high as extraction, it finds
  on the line of a route, in the controller that owns the
  line, the action of the route.
-/
theorem scanAttributes_isPrefix_and_detected
    (settings : Settings)
    (hWindows :
      settings.actionWindow ≤ settings.detectorWindow) :
    (∀ lines index low high before,
      low ≤ high →
        scanAttributes lines index low before <+:
          scanAttributes lines index high before) ∧
      ∀ source origin controller route,
        ownerOfLine? settings (Text.lines source)
            route.line = some controller →
        route ∈
          Route.ofController settings origin
            (Text.lines source) controller →
        (∃ endpoint,
          ofText? settings source route.line =
              some endpoint ∧
            endpoint.Shows route) ∧
          ∀ world file resolver found,
            (resolve world settings file source route.line
              resolver).1 = .ok found →
              ∃ endpoint,
                found = some endpoint ∧
                  endpoint.Shows route := by
  refine ⟨?_, ?_⟩
  · intro lines index low high before hHeights
    exact attributesAbove_isPrefix _ index hHeights before
  · intro source origin controller route hOwner hRoute
    rcases detected_of_mem_pass hWindows hOwner hRoute with
      ⟨detected, hDetected, hShows⟩
    refine ⟨?_, ?_⟩
    · exact
        ⟨_, ofText?_eq_some_iff.mpr ⟨_, hDetected, rfl⟩,
          hShows _ _⟩
    · intro world file resolver found hFound
      rcases eq_ofDetected_of_resolve hDetected hFound with
        ⟨origin', fullUrl, rfl⟩
      exact ⟨_, rfl, hShows origin' fullUrl⟩

/-
  An action whose verb is seven lines above it, and so only
  in the higher of the default windows.
-/
def distantSource : Text :=
  Text.joinWith ['\n']
    ["[Route(\"api\")]".toList,
     "public class OrdersController \x7b".toList,
     "  [HttpPost(\"far\")]".toList,
     "  // one".toList,
     "  // two".toList,
     "  // three".toList,
     "  // four".toList,
     "  // five".toList,
     "  [Route(\"near\")]".toList,
     "  public int Add() => 1;".toList,
     "\x7d".toList]

/- The controller, as extraction and detection find it. -/
def distantController : Controller :=
  ⟨"OrdersController".toList, 1, some "api".toList, 10⟩

/- The route of the action, which answers any verb. -/
def distantRoute : Route :=
  ⟨"/api/near".toList, .any, "OrdersController".toList,
    "Add".toList, [], 10, none, some "near".toList, none⟩

theorem distantSource_detected :
    Settings.default.actionWindow ≤
        Settings.default.detectorWindow ∧
      ownerOfLine? .default (Text.lines distantSource)
          distantRoute.line =
        some distantController ∧
      distantRoute ∈
        Route.ofController .default ⟨[], none⟩
          (Text.lines distantSource) distantController ∧
      ∃ endpoint,
        ofText? .default distantSource distantRoute.line =
            some endpoint ∧
          endpoint.Shows distantRoute := by
  have hWindows :
      Settings.default.actionWindow ≤
        Settings.default.detectorWindow := by
    decide
  have hOwner :
      ownerOfLine? .default (Text.lines distantSource)
          distantRoute.line =
        some distantController := by
    decide +kernel
  have hRoute :
      distantRoute ∈
        Route.ofController .default ⟨[], none⟩
          (Text.lines distantSource)
          distantController := by
    decide +kernel
  have hDetected :=
    (scanAttributes_isPrefix_and_detected .default hWindows).2
      distantSource ⟨[], none⟩ distantController distantRoute
      hOwner hRoute
  exact ⟨hWindows, hOwner, hRoute, hDetected.1⟩

end Endpoint

end RouteAtlas
