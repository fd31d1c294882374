import Mathlib
import RouteAtlas.Proofs.Controller.Pass
import RouteAtlas.Proofs.Source.Braces

/-
  Where the spans of controllers end.

  The span of a controller ends where its body closes, and
  the depth of that body is counted from the start of the
  line that declares it.  A brace that closes another class
  on the same line is counted too, so the body seems to end
  too early or never.

  Main statements:
    * `bodyEnd_of_mem_all`
    * `bodyEnd_eq_closingEnd`
    * `closedOnLine_ends`
-/

------------------------------------------------------------
-- Controllers
------------------------------------------------------------

namespace RouteAtlas

open Source

namespace Controller

variable {settings : Settings}
variable {lines : List Text}

theorem bodyEnd_of_declaredAt?
    {position : Position}
    {controller : Controller}
    (hDeclared :
      declaredAt? settings position = some controller) :
    controller.bodyEnd =
      position.index +
        linesToClose .start
          (position.line :: position.below) := by
  unfold declaredAt? at hDeclared
  simp only [Option.bind_eq_bind, Option.bind_eq_some_iff]
    at hDeclared
  rcases hDeclared with ⟨header, -, hController⟩
  split at hController
  · rw [← Option.some.inj hController]
  · simp at hController

/- The span of a controller ends where its body does. -/
theorem bodyEnd_of_mem_all
    {controller : Controller}
    (hController : controller ∈ all settings lines) :
    controller.bodyEnd =
      Source.bodyEnd lines controller.lineIndex := by
  rcases mem_all_iff.mp hController with
    ⟨position, hMember, hDeclared⟩
  rcases position?_eq_some_iff.mp
      (mem_positions_iff.mp hMember) with
    ⟨line, hLine, hPosition⟩
  rcases List.getElem?_eq_some_iff.mp hLine with
    ⟨hIndex, hGet⟩
  have hBelow :
      position.line :: position.below =
        lines.drop position.index := by
    rw [hPosition, List.drop_eq_getElem_cons hIndex, hGet]
  rw [bodyEnd_of_declaredAt? hDeclared,
    lineIndex_of_declaredAt? hDeclared, hBelow,
    add_linesToClose hIndex.le, Source.bodyEnd_eq]

/-
  A body, and with it the span of a controller, ends on the
  line of the brace at which the braces from its first one
  on come to as many as were closed before: with none, on
  the line of the matching brace.
-/
theorem bodyEnd_eq_closingEnd
    (settings : Settings)
    (lines : List Text)
    (start : Nat) :
    Source.bodyEnd lines start =
        closingEnd (closedBefore (bracesBelow lines start))
          lines start ∧
      ∀ controller ∈ all settings lines,
        controller.bodyEnd =
          closingEnd
            (closedBefore
              (bracesBelow lines controller.lineIndex))
            lines controller.lineIndex := by
  refine ⟨Source.bodyEnd_eq lines start, ?_⟩
  intro controller hController
  rw [bodyEnd_of_mem_all hController, Source.bodyEnd_eq]

/- A controller with braces in a literal and a comment. -/
def quotedBraces : List Text :=
  ["public class OrdersController".toList, "\x7b".toList,
    "    string Opening = \"\x7b\"; // \x7b".toList,
    "\x7d".toList, "class Order \x7b \x7d".toList]

/- Its span ends at the brace of its own. -/
theorem bodyEnd_quotedBraces :
    Source.bodyEnd quotedBraces 0 = 3 ∧
      ∃ controller ∈ all .default quotedBraces,
        controller.bodyEnd = 3 := by
  have hEnds :=
    bodyEnd_eq_closingEnd .default quotedBraces 0
  have hClosing :
      closingEnd (closedBefore (bracesBelow quotedBraces 0))
          quotedBraces 0 =
        3 := by
    decide +kernel
  have hIndices :
      (all .default quotedBraces).map (·.lineIndex) = [0] := by
    decide +kernel
  rcases List.map_eq_singleton_iff.mp hIndices with
    ⟨controller, hAll, hIndex⟩
  have hController :
      controller ∈ all .default quotedBraces := by
    simp [hAll]
  refine ⟨hEnds.1.trans hClosing, controller, hController, ?_⟩
  rw [hEnds.2 controller hController, hIndex]
  exact hClosing

/- Two classes, the second declared where the first closes. -/
def closedOnLine : List Text :=
  ["class A \x7b".toList,
    "\x7d class BController \x7b".toList, "\x7d".toList,
    "class C \x7b".toList, "\x7d".toList]

/- The same, with a body that nests. -/
def closedOnNestedLine : List Text :=
  ["class A \x7b".toList,
    "\x7d class BController \x7b \x7b".toList,
    "\x7d".toList, "\x7d".toList]

/-
  A brace that closes the class before makes a span reach to
  the end of the file, or end inside the body.
-/
theorem closedOnLine_ends :
    (Source.bodyEnd closedOnLine 1 = 5 ∧
        closingEnd 0 closedOnLine 1 = 2 ∧
        (all .default closedOnLine).map (·.bodyEnd) = [5]) ∧
      Source.bodyEnd closedOnNestedLine 1 = 2 ∧
        closingEnd 0 closedOnNestedLine 1 = 3 ∧
        (all .default closedOnNestedLine).map (·.bodyEnd) =
          [2] := by
  decide +kernel

end Controller

end RouteAtlas
