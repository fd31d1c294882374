import Mathlib
import RouteAtlas.Controller.Extract
import RouteAtlas.Proofs.Source.Position

/-
  Controllers of a file, and the pass over each.

  The routes of a file are collected controller by
  controller.  The pass over one controller meets exactly
  the lines between its header and the end of its body, so
  its routes are the actions on the lines it contains.

  Main statements:
    * `ofLines_eq_flatMap_ofController`
    * `mem_ofController_iff`
    * `owner?_contains`
-/

------------------------------------------------------------
-- Controllers
------------------------------------------------------------

namespace RouteAtlas

open Source

namespace Controller

variable {settings : Settings}
variable {lines : List Text}

theorem lineIndex_of_declaredAt?
    {position : Position}
    {controller : Controller}
    (hDeclared :
      declaredAt? settings position = some controller) :
    controller.lineIndex = position.index := by
  unfold declaredAt? at hDeclared
  simp only [Option.bind_eq_bind, Option.bind_eq_some_iff]
    at hDeclared
  rcases hDeclared with ⟨header, -, hController⟩
  split at hController
  · simp only [Option.some.injEq] at hController
    rw [← hController]
  · simp at hController

/- A controller is declared on its line. -/
theorem mem_all_iff
    {controller : Controller} :
    controller ∈ all settings lines ↔
      ∃ position ∈ positions lines,
        declaredAt? settings position = some controller := by
  unfold all
  exact List.mem_filterMap

/-
  The owner of a line is one of the controllers, and the
  line lies between its header and the end of its body.
-/
theorem owner?_contains
    {controllers : List Controller}
    {controller : Controller}
    {index : Nat}
    (hOwner :
      owner? controllers index = some controller) :
    controller ∈ controllers ∧
      controller.contains index = true := by
  have hFold :
      ∀ (owner : Option Controller),
        (∀ c ∈ owner,
          c ∈ controllers ∧ c.contains index = true) →
        ∀ rest : List Controller,
          rest ⊆ controllers →
          ∀ c ∈ rest.foldl
              (fun owner controller =>
                if controller.contains index &&
                    owner.all
                      (·.lineIndex < controller.lineIndex)
                then
                  some controller
                else
                  owner)
              owner,
            c ∈ controllers ∧ c.contains index = true := by
    intro owner hKnown rest hRest
    induction rest generalizing owner with
    | nil => exact hKnown
    | cons next rest ih =>
        rw [List.cons_subset] at hRest
        rw [List.foldl_cons]
        apply ih _ _ hRest.2
        split
        next hNext =>
          rw [Bool.and_eq_true] at hNext
          intro c hSome
          rw [Option.mem_some_iff] at hSome
          exact hSome ▸ ⟨hRest.1, hNext.1⟩
        next => exact hKnown
  exact hFold none (by simp) controllers
    (List.Subset.refl controllers) controller hOwner

theorem contains_iff
    (controller : Controller)
    (index : Nat) :
    controller.contains index = true ↔
      controller.lineIndex < index ∧
        index < controller.bodyEnd := by
  simp [contains]

/- A line without a method header declares no action. -/
theorem actionAt?_of_no_method
    {window : Nat}
    {controller : Controller}
    {position : Position}
    (hMethod : methodHeader? position.line = none) :
    controller.actionAt? settings window position = none := by
  unfold actionAt?
  rw [hMethod]
  rfl

/- An action does not depend on the lines below it. -/
theorem actionAt?_of_agreesAbove
    {window : Nat}
    {controller : Controller}
    {position other : Position}
    (hAgrees : position.AgreesAbove other) :
    controller.actionAt? settings window position =
      controller.actionAt? settings window other := by
  rcases hAgrees with ⟨hIndex, hAbove, hLine⟩
  unfold actionAt?
  rw [hIndex, hAbove, hLine]

end Controller

------------------------------------------------------------
-- Passes
------------------------------------------------------------

namespace Route

variable {settings : Settings}
variable {origin : Controller.Origin}
variable {lines : List Text}

/- The routes collected in the pass over one controller. -/
def ofController
    (settings : Settings)
    (origin : Controller.Origin)
    (lines : List Text)
    (controller : Controller) :
    List Route :=
  match position? lines controller.lineIndex with
  | none => []
  | some position =>
      controller.routes settings origin
        (position.until controller.bodyEnd)

/- The routes of a file are those of all its passes. -/
theorem ofLines_eq_flatMap_ofController :
    ofLines settings origin lines =
      (Controller.all settings lines).flatMap
        (ofController settings origin lines) := by
  have hPasses :
      ∀ found : List Position,
        found ⊆ positions lines →
        found.flatMap (declaredFrom settings origin) =
          (found.filterMap
            (Controller.declaredAt? settings)).flatMap
              (ofController settings origin lines) := by
    intro found hFound
    induction found with
    | nil => rfl
    | cons position found ih =>
        rw [List.cons_subset] at hFound
        rw [List.flatMap_cons, ih hFound.2]
        cases hDeclared :
            Controller.declaredAt? settings position with
        | none =>
            rw [List.filterMap_cons_none hDeclared]
            simp [declaredFrom, hDeclared]
        | some controller =>
            have hPosition :=
              mem_positions_iff.mp hFound.1
            rw [← Controller.lineIndex_of_declaredAt?
              hDeclared] at hPosition
            rw [List.filterMap_cons_some hDeclared,
              List.flatMap_cons]
            simp [declaredFrom, ofController, hDeclared,
              hPosition]
  exact hPasses (positions lines)
    (List.Subset.refl (positions lines))

/-
  The pass over a controller collects the actions on the
  lines that the controller contains.
-/
theorem mem_ofController_iff
    {controller : Controller}
    {route : Route}
    (hController :
      controller ∈ Controller.all settings lines) :
    route ∈ ofController settings origin lines controller ↔
      ∃ position ∈ positions lines, ∃ action,
        controller.contains position.index = true ∧
          controller.actionAt? settings
              settings.actionWindow position =
            some action ∧
          route =
            action.route controller origin
              position.index := by
  rcases Controller.mem_all_iff.mp hController with
    ⟨start, hStart, hDeclared⟩
  have hIndex :=
    Controller.lineIndex_of_declaredAt? hDeclared
  have hPosition := mem_positions_iff.mp hStart
  rw [← hIndex] at hPosition
  unfold ofController
  rw [hPosition]
  simp only [Controller.routes, List.mem_filterMap,
    Option.map_eq_some_iff, Controller.contains_iff]
  constructor
  · rintro ⟨position, hMember, action, hAction, rfl⟩
    rcases located_of_mem_until hStart hMember with
      ⟨hAfter, hBefore, whole, hWhole, hAgrees⟩
    have hSame : position.index = whole.index := hAgrees.1
    rw [Controller.actionAt?_of_agreesAbove hAgrees]
      at hAction
    refine
      ⟨whole, hWhole, action, ⟨?_, ?_⟩, hAction,
        by rw [hSame]⟩
    · omega
    · omega
  · rintro
      ⟨whole, hWhole, action, ⟨hAfter, hBefore⟩, hAction,
        rfl⟩
    rcases exists_mem_until hStart hWhole (by omega) hBefore
      with ⟨position, hMember, hAgrees⟩
    have hSame : position.index = whole.index := hAgrees.1
    rw [← Controller.actionAt?_of_agreesAbove hAgrees]
      at hAction
    exact
      ⟨position, hMember, action, hAction, by rw [hSame]⟩

end Route

end RouteAtlas
