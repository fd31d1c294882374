import Mathlib
import RouteAtlas.Proofs.Controller.Pass
import RouteAtlas.Proofs.Source.Attribute
import RouteAtlas.Proofs.Text.Lines

/-
  The quick look at a file before it is read for routes.

  A method is an action because of its own attributes or of
  the route attribute of its controller.  Either way some
  line holds a route mark as a whole word, and so does the
  text; hence a text without marks declares no routes, and
  the quick look rejects no file that declares one.

  Main statements:
    * `hasRouteMark_of_mem_ofSource`
    * `ofFile_eq_ofSource`
-/

------------------------------------------------------------
-- Marks in Texts
------------------------------------------------------------

namespace RouteAtlas

open Source Text

namespace Controller

/- A route mark that is a whole word is recognised. -/
theorem hasRouteMark_of_word
    {before mark after : Text}
    (hMark : mark ∈ routeMarks)
    (hStart : wordMayStart before.getLast? = true)
    (hEnds : wordEndsAt after = true) :
    hasRouteMark (before ++ (mark ++ after)) = true := by
  have hAny :
      (routeMarks.any fun mark' =>
        (mark'.isPrefixOf? (mark ++ after)).any
          wordEndsAt) = true := by
    rw [List.any_eq_true]
    refine ⟨mark, hMark, ?_⟩
    rw [isPrefixOf?_append]
    exact hEnds
  apply find?_isSome before (mark ++ after)
  unfold readRouteMark
  rw [hStart, hAny]
  rfl

/- A text that holds a route mark is recognised. -/
theorem hasRouteMark_of_holdsWord
    {source : Text}
    (hHolds : HoldsWord routeMarks source) :
    hasRouteMark source = true := by
  rcases hHolds with
    ⟨before, mark, hMark, after, rfl, hStart, hAfter⟩
  exact hasRouteMark_of_word hMark hStart
    (wordEndsAt_of_leavesWord hAfter)

/- A mark on a line of a text is a mark of the text. -/
theorem hasRouteMark_of_line
    {source line : Text}
    (hLine : line ∈ lines source)
    (hHolds : HoldsWord routeMarks line) :
    hasRouteMark source = true := by
  rcases mem_lines hLine with
    ⟨before, after, rfl, hBefore⟩
  apply hasRouteMark_of_holdsWord
  apply HoldsWord.append
  apply hHolds.prepend
  intro c hLast
  have hStop := hBefore c hLast
  unfold endsLine at hStop
  rw [Bool.or_eq_true, beq_iff_eq, beq_iff_eq] at hStop
  rcases hStop with rfl | rfl
  · decide
  · decide

/- An attribute of a declaration leaves a mark. -/
theorem hasRouteMark_of_hit
    {source : Text}
    {position : Position}
    {window column : Nat}
    {hit : AttributeHit}
    (hPosition : position ∈ positions (lines source))
    (hHit :
      hit ∈
        attributesAbove position.above position.index
          window (position.line.take column)) :
    hasRouteMark source = true := by
  rcases mem_lines_of_position hPosition with
    ⟨hLine, hAbove⟩
  rcases hit_located hHit with
    hHere | ⟨line, hMember, i, hFound⟩
  · apply hasRouteMark_of_line hLine
    have hHolds :=
      (holdsWord_of_hit hHere).append
        (position.line.drop column)
    rwa [List.take_append_drop] at hHolds
  · exact
      hasRouteMark_of_line (hAbove line hMember)
        (holdsWord_of_hit hFound)

------------------------------------------------------------
-- Marks of Routes
------------------------------------------------------------

/- A verb is resolved because of some attribute. -/
theorem exists_hit_of_resolveVerb
    {hits : List AttributeHit}
    {baseRoute : Option Text}
    {verb : HttpVerb}
    (hVerb :
      (ActionAttributes.ofHits hits).resolveVerb baseRoute =
        some verb) :
    (∃ hit, hit ∈ hits) ∨
      ∃ route, baseRoute = some route := by
  cases hits with
  | cons hit hits => exact Or.inl ⟨hit, by simp⟩
  | nil =>
      right
      cases baseRoute with
      | some route => exact ⟨route, rfl⟩
      | none =>
          simp [ActionAttributes.resolveVerb,
            ActionAttributes.ofHits, lastVerb] at hVerb

/- The route of a controller comes from an attribute. -/
theorem exists_hit_of_nearestRoute
    {hits : List AttributeHit}
    {route : Text}
    (hRoute : nearestRoute hits = some route) :
    ∃ hit, hit ∈ hits := by
  unfold nearestRoute at hRoute
  rw [Option.bind_eq_some_iff] at hRoute
  rcases hRoute with ⟨hit, hFound, -⟩
  exact ⟨hit, List.mem_of_find?_eq_some hFound⟩

/- A controller with a route leaves a mark. -/
theorem hasRouteMark_of_baseRoute
    {settings : Settings}
    {source route : Text}
    {controller : Controller}
    (hController :
      controller ∈ all settings (lines source))
    (hRoute : controller.baseRoute = some route) :
    hasRouteMark source = true := by
  rcases mem_all_iff.mp hController with
    ⟨position, hPosition, hDeclared⟩
  unfold declaredAt? at hDeclared
  simp only [Option.bind_eq_bind, Option.bind_eq_some_iff]
    at hDeclared
  rcases hDeclared with ⟨header, -, hSome⟩
  split at hSome
  · simp only [Option.some.injEq] at hSome
    rw [← hSome] at hRoute
    rcases exists_hit_of_nearestRoute hRoute with
      ⟨hit, hHit⟩
    exact hasRouteMark_of_hit hPosition hHit
  · simp at hSome

/- An action of a controller leaves a mark. -/
theorem hasRouteMark_of_action
    {settings : Settings}
    {source : Text}
    {window : Nat}
    {controller : Controller}
    {position : Position}
    {action : Action}
    (hController :
      controller ∈ all settings (lines source))
    (hPosition : position ∈ positions (lines source))
    (hAction :
      controller.actionAt? settings window position =
        some action) :
    hasRouteMark source = true := by
  unfold actionAt? at hAction
  simp only [Option.bind_eq_bind, Option.bind_eq_some_iff]
    at hAction
  rcases hAction with ⟨method, -, verb, hVerb, -⟩
  rcases exists_hit_of_resolveVerb hVerb with
    ⟨hit, hHit⟩ | ⟨route, hRoute⟩
  · exact hasRouteMark_of_hit hPosition hHit
  · exact hasRouteMark_of_baseRoute hController hRoute

end Controller

------------------------------------------------------------
-- Files
------------------------------------------------------------

namespace Route

/- A text that declares a route has a mark. -/
theorem hasRouteMark_of_mem_ofSource
    {settings : Settings}
    {origin : Controller.Origin}
    {source : Text}
    {route : Route}
    (hRoute : route ∈ ofSource settings origin source) :
    Controller.hasRouteMark source = true := by
  unfold ofSource at hRoute
  rw [ofLines_eq_flatMap_ofController, List.mem_flatMap]
    at hRoute
  rcases hRoute with ⟨controller, hController, hPass⟩
  rcases (mem_ofController_iff hController).mp hPass with
    ⟨position, hPosition, action, -, hAction, -⟩
  exact
    Controller.hasRouteMark_of_action hController hPosition
      hAction

/- A text without marks declares no routes. -/
theorem ofSource_eq_nil
    {source : Text}
    (hMark : Controller.hasRouteMark source = false)
    (settings : Settings)
    (origin : Controller.Origin) :
    ofSource settings origin source = [] := by
  rw [List.eq_nil_iff_forall_not_mem]
  intro route hRoute
  have hFound := hasRouteMark_of_mem_ofSource hRoute
  rw [hMark] at hFound
  exact absurd hFound (by simp)

/-
  For a file named like a controller the quick look changes
  nothing: its routes are those of its text, of which there
  are none if the text has no mark.
-/
theorem ofFile_eq_ofSource
    (settings : Settings)
    (path source : Text)
    (project : Option Text)
    (hName : Controller.isFileName settings path = true) :
    ofFile settings path source project =
        ofSource settings ⟨path, project⟩ source ∧
      (Controller.hasRouteMark source = false →
        ofSource settings ⟨path, project⟩ source = []) := by
  have hNone :
      Controller.hasRouteMark source = false →
        ofSource settings ⟨path, project⟩ source = [] :=
    fun hMark => ofSource_eq_nil hMark settings _
  refine ⟨?_, hNone⟩
  unfold ofFile Controller.isCandidate
  rw [hName, Bool.true_and]
  cases hMark : Controller.hasRouteMark source with
  | true => rfl
  | false => exact (hNone hMark).symm

/- A text in which the marks are only parts of words. -/
def unmarkedSource : Text :=
  joinWith "\r\n".toList
    ["class AController \x7b".toList,
     "  [HttpGetter, Routes(\"a\")]".toList,
     "  public int Get() => 1;".toList,
     "\x7d".toList]

theorem ofFile_unmarkedSource :
    Controller.isFileName .default
        "src/AController.cs".toList = true ∧
      Controller.hasRouteMark unmarkedSource = false ∧
      ofFile .default "src/AController.cs".toList
          unmarkedSource none =
        ofSource .default
          ⟨"src/AController.cs".toList, none⟩
          unmarkedSource ∧
      ofSource .default
          ⟨"src/AController.cs".toList, none⟩
          unmarkedSource = [] := by
  have hName :
      Controller.isFileName .default
        "src/AController.cs".toList = true := by
    decide +kernel
  have hMark :
      Controller.hasRouteMark unmarkedSource = false := by
    decide +kernel
  have hFile :=
    ofFile_eq_ofSource .default "src/AController.cs".toList
      unmarkedSource none hName
  exact ⟨hName, hMark, hFile.1, hFile.2 hMark⟩

end Route

end RouteAtlas
