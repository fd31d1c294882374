import Mathlib
import RouteAtlas.Proofs.Controller.Pass

/-
  Actions that are met in more than one pass.

  A pass over one controller goes down the lines, so it
  collects at most one route from each of them.  Every pass
  is taken by itself, though, whatever the spans of other
  controllers: an action in two spans is collected twice.
  So the routes of a file are declared on different lines
  exactly if no line is an action of two controllers.

  Main statements:
    * `pairwise_line_ofController`
    * `mem_map_line_ofController_iff`
    * `nodup_map_line_ofSource_iff`
-/

------------------------------------------------------------
-- Order of Lines
------------------------------------------------------------

namespace RouteAtlas

open Source

/- Positions are counted line by line. -/
theorem Source.map_index_positionsFrom
    (index : Nat)
    (above lines : List Text) :
    (positionsFrom index above lines).map (·.index) =
      List.range' index lines.length := by
  induction lines generalizing index above with
  | nil => rfl
  | cons line lines ih =>
      rw [positionsFrom, List.map_cons, ih,
        List.length_cons, List.range'_succ]

theorem Source.pairwise_index_positionsFrom
    (index : Nat)
    (above lines : List Text) :
    (positionsFrom index above lines).Pairwise
      (·.index < ·.index) := by
  have hIndices :
      ((positionsFrom index above lines).map
        (·.index)).Pairwise (· < ·) := by
    rw [map_index_positionsFrom]
    exact List.pairwise_lt_range'
  exact List.pairwise_map.mp hIndices

namespace Controller

variable {settings : Settings}
variable {lines : List Text}

/- Controllers come in the order of their declarations. -/
theorem pairwise_lineIndex_all :
    (all settings lines).Pairwise
      (·.lineIndex < ·.lineIndex) := by
  unfold all
  refine
    (pairwise_index_positionsFrom 0 [] lines).filterMap _ ?_
  intro position later hOrder controller hFirst other hSecond
  rw [lineIndex_of_declaredAt? hFirst,
    lineIndex_of_declaredAt? hSecond]
  exact hOrder

/-
  Whether a controller has an action at a position: the line
  lies in its span, and the action is accepted.
-/
def HasActionAt
    (settings : Settings)
    (controller : Controller)
    (position : Position) :
    Prop :=
  controller.contains position.index = true ∧
    (controller.actionAt? settings settings.actionWindow
      position).isSome

end Controller

------------------------------------------------------------
-- One Pass
------------------------------------------------------------

namespace Route

variable {settings : Settings}
variable {origin : Controller.Origin}
variable {lines : List Text}

/- A pass collects routes further and further down. -/
theorem pairwise_line_ofController
    (controller : Controller) :
    (ofController settings origin lines controller).Pairwise
      (·.line < ·.line) := by
  unfold ofController
  split
  next => exact List.Pairwise.nil
  next start hStart =>
    unfold Controller.routes Position.until
    refine
      (pairwise_index_positionsFrom _ _ _).filterMap _ ?_
    intro position later hOrder route hFirst other hSecond
    rcases Option.map_eq_some_iff.mp hFirst with
      ⟨first, -, rfl⟩
    rcases Option.map_eq_some_iff.mp hSecond with
      ⟨second, -, rfl⟩
    have hLines : position.index + 1 < later.index + 1 :=
      Nat.add_lt_add_right hOrder 1
    exact Int.ofNat_lt.mpr hLines

/- A pass collects a route from each line of an action. -/
theorem mem_map_line_ofController_iff
    {controller : Controller}
    {line : Int}
    (hController :
      controller ∈ Controller.all settings lines) :
    line ∈
        (ofController settings origin lines controller).map
          (·.line) ↔
      ∃ position ∈ positions lines,
        line = position.index + 1 ∧
          controller.HasActionAt settings position := by
  rw [List.mem_map]
  constructor
  · rintro ⟨route, hRoute, rfl⟩
    rcases (mem_ofController_iff hController).mp hRoute with
      ⟨position, hMember, action, hContains, hAction, rfl⟩
    exact
      ⟨position, hMember, rfl, hContains, by
        rw [hAction]; rfl⟩
  · rintro ⟨position, hMember, rfl, hContains, hAccepted⟩
    rcases Option.isSome_iff_exists.mp hAccepted with
      ⟨action, hAction⟩
    refine
      ⟨action.route controller origin position.index, ?_,
        rfl⟩
    exact (mem_ofController_iff hController).mpr
      ⟨position, hMember, action, hContains, hAction, rfl⟩

/- Two passes share a line exactly if they share an action. -/
theorem disjoint_map_line_ofController_iff
    {first second : Controller}
    (hFirst : first ∈ Controller.all settings lines)
    (hSecond : second ∈ Controller.all settings lines) :
    List.Disjoint
        ((ofController settings origin lines first).map
          (·.line))
        ((ofController settings origin lines second).map
          (·.line)) ↔
      ∀ position ∈ positions lines,
        first.HasActionAt settings position →
        ¬second.HasActionAt settings position := by
  unfold List.Disjoint
  simp only [mem_map_line_ofController_iff hFirst,
    mem_map_line_ofController_iff hSecond]
  constructor
  · intro hDisjoint position hMember hOne hTwo
    exact hDisjoint
      ⟨position, hMember, rfl, hOne⟩
      ⟨position, hMember, rfl, hTwo⟩
  · rintro hApart line
      ⟨position, hMember, hLine, hOne⟩
      ⟨other, hOther, hSame, hTwo⟩
    have hIndex : position.index = other.index := by omega
    have hPosition : position = other := by
      have hFound := mem_positions_iff.mp hMember
      rw [hIndex, mem_positions_iff.mp hOther,
        Option.some.injEq] at hFound
      exact hFound.symm
    subst hPosition
    exact hApart position hMember hOne hTwo

------------------------------------------------------------
-- All Passes
------------------------------------------------------------

/-
  The routes of a source text are declared on different
  lines exactly if no line is an action of two controllers.
-/
theorem nodup_map_line_ofSource_iff
    (settings : Settings)
    (origin : Controller.Origin)
    (source : Text) :
    ((ofSource settings origin source).map (·.line)).Nodup ↔
      ∀ position ∈ positions (Text.lines source),
        ∀ first ∈ Controller.all settings (Text.lines source),
          ∀ second ∈
              Controller.all settings (Text.lines source),
            first.HasActionAt settings position →
            second.HasActionAt settings position →
            first = second := by
  unfold ofSource
  rw [ofLines_eq_flatMap_ofController, List.map_flatMap,
    List.nodup_flatMap]
  have hOrdered :
      (Controller.all settings (Text.lines source)).Pairwise
        (·.lineIndex < ·.lineIndex) :=
    Controller.pairwise_lineIndex_all
  have hPasses :
      ∀ controller ∈
          Controller.all settings (Text.lines source),
        ((ofController settings origin (Text.lines source)
          controller).map (·.line)).Nodup := by
    intro controller _
    exact (List.pairwise_map.mpr
      (pairwise_line_ofController controller)).imp
        fun hOrder => Int.ne_of_lt hOrder
  constructor
  · rintro ⟨-, hDisjoint⟩ position hMember first hFirst second
      hSecond hOne hTwo
    by_contra hDifferent
    have hSymmetric :
        Std.Symm
          (Function.onFun List.Disjoint
            fun controller =>
              (ofController settings origin
                (Text.lines source) controller).map
                  (·.line)) :=
      ⟨fun _ _ hApart => hApart.symm⟩
    have hApart :=
      hDisjoint.forall hFirst hSecond hDifferent
    exact
      (disjoint_map_line_ofController_iff hFirst hSecond).mp
        hApart position hMember hOne hTwo
  · intro hOnce
    refine ⟨hPasses, ?_⟩
    refine hOrdered.imp_of_mem ?_
    intro first second hFirst hSecond hOrder
    refine
      (disjoint_map_line_ofController_iff hFirst hSecond).mpr
        ?_
    intro position hMember hOne hTwo
    have hSame :=
      hOnce position hMember first hFirst second hSecond hOne
        hTwo
    rw [hSame] at hOrder
    exact absurd hOrder (Nat.lt_irrefl _)

/- A controller in the body of another one. -/
def ordersWithItems : Text :=
  Text.joinWith ['\n']
    ["[Route(\"orders\")]".toList,
     "public class OrdersController".toList,
     "\x7b".toList,
     "    [Route(\"items\")]".toList,
     "    public class ItemsController".toList,
     "    \x7b".toList,
     "        [HttpGet]".toList,
     "        public IActionResult Get() => Ok();".toList,
     "    \x7d".toList,
     "\x7d".toList]

/- The action of the inner controller is collected twice. -/
theorem ordersWithItems_collectedTwice :
    ¬((ofSource .default ⟨[], none⟩ ordersWithItems).map
        (·.line)).Nodup ∧
      (ofSource .default ⟨[], none⟩ ordersWithItems).map
          (fun route => (route.controller, route.line)) =
        [("OrdersController".toList, 8),
         ("ItemsController".toList, 8)] := by
  decide +kernel

end Route

end RouteAtlas
