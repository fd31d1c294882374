import Mathlib
import RouteAtlas.Controller.Extract
import RouteAtlas.Proofs.Source.CommentedLine

/-
  Controllers and routes of a file without its comments.

  A controller is declared by the lines from the window
  above its header to the end of its body, an action by the
  lines from the window above its header to the header.  All
  of them say the same without their silent comments, so the
  routes of a file do not depend on such comments.

  Main statements:
    * `declaredAt?_dropsComments`
    * `actionAt?_dropsComments`
    * `ofLines_dropsComments`
-/

------------------------------------------------------------
-- Related Lists
------------------------------------------------------------

namespace RouteAtlas

open Source

section Related

variable {α β γ : Type}
variable {related : α → β → Prop}
variable {xs : List α} {ys : List β}
variable (hRelated : List.Forall₂ related xs ys)

include hRelated

theorem filterMap_eq_of_forall₂
    {f : α → Option γ}
    {g : β → Option γ}
    (hSame : ∀ x y, related x y → g y = f x) :
    ys.filterMap g = xs.filterMap f := by
  induction hRelated with
  | nil => rfl
  | cons hHead hTail ih =>
      rw [List.filterMap_cons, List.filterMap_cons,
        hSame _ _ hHead, ih]

theorem flatMap_eq_of_forall₂
    {f : α → List γ}
    {g : β → List γ}
    (hSame : ∀ x y, related x y → g y = f x) :
    ys.flatMap g = xs.flatMap f := by
  induction hRelated with
  | nil => rfl
  | cons hHead hTail ih =>
      rw [List.flatMap_cons, List.flatMap_cons,
        hSame _ _ hHead, ih]

end Related

------------------------------------------------------------
-- Positions
------------------------------------------------------------

namespace Source

/- Whether a position has lost silent comments only. -/
structure Position.DropsComments
    (position position' : Position) :
    Prop where
  index : position'.index = position.index
  above :
    List.Forall₂ DropsComment position.above position'.above
  line : DropsComment position.line position'.line
  below :
    List.Forall₂ DropsComment position.below position'.below

variable {lines lines' : List Text}
variable (hLines : List.Forall₂ DropsComment lines lines')

include hLines

theorem positionsFrom_dropsComments
    {above above' : List Text}
    (hAbove : List.Forall₂ DropsComment above above')
    (index : Nat) :
    List.Forall₂ Position.DropsComments
      (positionsFrom index above lines)
      (positionsFrom index above' lines') := by
  induction hLines generalizing index above above' with
  | nil => exact List.Forall₂.nil
  | cons hLine hBelow ih =>
      exact
        List.Forall₂.cons ⟨rfl, hAbove, hLine, hBelow⟩
          (ih (List.Forall₂.cons hLine hAbove) (index + 1))

theorem positions_dropsComments :
    List.Forall₂ Position.DropsComments
      (positions lines) (positions lines') :=
  positionsFrom_dropsComments hLines List.Forall₂.nil 0

omit hLines in
theorem Position.DropsComments.until
    {position position' : Position}
    (hDrops : position.DropsComments position')
    (stop : Nat) :
    List.Forall₂ Position.DropsComments
      (position.until stop) (position'.until stop) := by
  unfold Position.until
  rw [hDrops.index]
  exact
    positionsFrom_dropsComments
      (List.forall₂_take _ hDrops.below)
      (List.Forall₂.cons hDrops.line hDrops.above) _

end Source

------------------------------------------------------------
-- Declarations
------------------------------------------------------------

namespace Controller

section Declarations

variable {position position' : Position}
variable (hDrops : position.DropsComments position')

include hDrops

/- The same controller is declared. -/
theorem declaredAt?_dropsComments
    (settings : Settings) :
    declaredAt? settings position' =
      declaredAt? settings position := by
  unfold declaredAt?
  rw [← hDrops.line.classHeader?]
  cases hHeader : classHeader? position'.line with
  | none => rfl
  | some header =>
      have hBefore :
          position'.line.take header.column =
            position.line.take header.column :=
        hDrops.line.take (column_le_of_classHeader? hHeader)
      have hEnd :=
        linesToClose_dropsComment
          (List.Forall₂.cons hDrops.line hDrops.below) .start
      simp only [Option.bind_eq_bind, Option.bind_some,
        hBefore, hEnd, hDrops.index,
        attributesAbove_dropsComment hDrops.above]

/- The same action is declared. -/
theorem actionAt?_dropsComments
    (settings : Settings)
    (window : Nat)
    (controller : Controller) :
    controller.actionAt? settings window position' =
      controller.actionAt? settings window position := by
  unfold actionAt?
  rw [← hDrops.line.methodHeader?]
  cases hHeader : methodHeader? position'.line with
  | none => rfl
  | some header =>
      have hBefore :
          position'.line.take header.start =
            position.line.take header.start :=
        hDrops.line.take (start_le_of_methodHeader? hHeader)
      simp only [Option.bind_eq_bind, Option.bind_some,
        hBefore, hDrops.index,
        attributesAbove_dropsComment hDrops.above]

end Declarations

/- The same controllers are declared. -/
theorem all_dropsComments
    {lines lines' : List Text}
    (hLines : List.Forall₂ DropsComment lines lines')
    (settings : Settings) :
    all settings lines' = all settings lines :=
  filterMap_eq_of_forall₂ (positions_dropsComments hLines)
    fun _ _ hDrops =>
      declaredAt?_dropsComments hDrops settings

end Controller

------------------------------------------------------------
-- Routes
------------------------------------------------------------

namespace Route

/- The same routes are declared, comments or not. -/
theorem ofLines_dropsComments
    {lines lines' : List Text}
    (hLines : List.Forall₂ DropsComment lines lines')
    (settings : Settings)
    (origin : Controller.Origin) :
    ofLines settings origin lines' =
      ofLines settings origin lines := by
  apply flatMap_eq_of_forall₂
    (positions_dropsComments hLines)
  intro position position' hDrops
  unfold declaredFrom
  rw [Controller.declaredAt?_dropsComments hDrops]
  cases Controller.declaredAt? settings position with
  | none => rfl
  | some controller =>
      apply filterMap_eq_of_forall₂
        (hDrops.until controller.bodyEnd)
      intro inner inner' hInner
      rw [Controller.actionAt?_dropsComments hInner,
        hInner.index]

end Route

end RouteAtlas
