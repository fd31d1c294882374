import Mathlib
import RouteAtlas.Proofs.Layout.Hits

/-
  The scan upwards over attribute lines.

  Above a header the scan meets the attribute lines, nearest
  first, and is stopped by what lies above them.  What the
  attributes found say together can be read off the lines
  from top to bottom.

  Main statements:
    * `attributesAbove_rows`
    * `nearestRoute_hitsUpward`
    * `resolveVerb_hitsUpward`
    * `fragment_hitsUpward`
-/

------------------------------------------------------------
-- Scan
------------------------------------------------------------

namespace RouteAtlas

namespace Layout

open Source Text

/- The attributes above line `index`, nearest first. -/
def hitsUpward :
    Nat → List AttributeLine → List AttributeHit
  | _, [] => []
  | index, row :: rest =>
      row.content.hit (index - 1) (row.indent + 1) ::
        hitsUpward (index - 1) rest

/- Whether the nearest of the lines above stops the scan. -/
def Stopped
    (above : List Text) :
    Prop :=
  ∀ line ∈ above.head?,
    isCommentLine line = false ∧ stopsScan line = true

theorem Stopped.take
    {above : List Text}
    (hStopped : Stopped above)
    (window : Nat) :
    Stopped (above.take window) := by
  cases window with
  | zero => simp [Stopped]
  | succ window =>
      cases above with
      | nil => simp [Stopped]
      | cons line above => exact hStopped

theorem attributesUpward_of_stopped
    {above : List Text}
    (hStopped : Stopped above)
    (index : Nat) :
    attributesUpward index above = [] := by
  cases above with
  | nil => rfl
  | cons line above =>
      rcases hStopped line rfl with ⟨hComment, hStops⟩
      rw [attributesUpward, hComment, hStops]
      rfl

/- By induction on the lines, each adds its attribute. -/
theorem attributesUpward_rows
    {above : List Text}
    (hStopped : Stopped above)
    (rows : List AttributeLine)
    (index : Nat) :
    attributesUpward index
        (rows.map (·.line) ++ above) =
      hitsUpward index rows := by
  induction rows generalizing index with
  | nil => exact attributesUpward_of_stopped hStopped index
  | cons row rows ih =>
      rw [List.map_cons, List.cons_append, attributesUpward,
        row.isCommentLine_line, row.stopsScan_line,
        row.attributesOnLine_line, ih]
      rfl

/- The attributes of a header are those right above it. -/
theorem attributesAbove_rows
    {above : List Text}
    {rows : List AttributeLine}
    {window : Nat}
    (hStopped : Stopped above)
    (hFits : rows.length ≤ window)
    (index indent : Nat) :
    attributesAbove
        ((rows.map (·.line)).reverse ++ above) index window
        (indented indent []) =
      hitsUpward index rows.reverse := by
  have hTake :
      ((rows.map (·.line)).reverse ++ above).take window =
        rows.reverse.map (·.line) ++
          above.take (window - rows.length) := by
    rw [List.take_append, List.map_reverse,
      List.take_of_length_le]
    · simp
    · simpa using hFits
  unfold attributesAbove
  rw [attributesOnLine_indented_nil, hTake,
    attributesUpward_rows (hStopped.take _)]
  rfl

------------------------------------------------------------
-- Resolution
------------------------------------------------------------

namespace Attribute

theorem verb?_hit
    (index column : Nat)
    (content : Attribute) :
    (content.hit index column).verb? = content.verb? := by
  cases content <;> rfl

theorem isRoute_hit
    (index column : Nat)
    (content : Attribute) :
    (content.hit index column).isRoute =
      content.isRoute := by
  cases content <;> rfl

end Attribute

/- The last verb found is that of the topmost line. -/
theorem lastVerb_hitsUpward
    (rows : List AttributeLine)
    (index : Nat) :
    lastVerb (hitsUpward index rows) =
      rows.reverse.findSome? (·.content.verb?) := by
  unfold lastVerb
  induction rows generalizing index with
  | nil => rfl
  | cons row rows ih =>
      rw [hitsUpward, List.reverse_cons, List.reverse_cons,
        List.findSome?_append, List.findSome?_append, ih]
      simp [Attribute.verb?_hit]

theorem any_isRoute_hitsUpward
    (rows : List AttributeLine)
    (index : Nat) :
    (hitsUpward index rows).any (·.isRoute) =
      rows.any (·.content.isRoute) := by
  induction rows generalizing index with
  | nil => rfl
  | cons row rows ih =>
      rw [hitsUpward, List.any_cons, List.any_cons, ih,
        Attribute.isRoute_hit]

/- Solid text has no blanks at its ends. -/
theorem strip_of_solid
    {t : Text}
    (hSolid : ∀ c ∈ t, isBlank c = false) :
    strip t = t := by
  have hFront : dropBlanks t = t := by
    cases t with
    | nil => rfl
    | cons c t =>
        exact dropBlanks_cons_of_not_blank
          (hSolid c List.mem_cons_self) t
  unfold strip stripEnd
  rw [hFront]
  rcases List.eq_nil_or_concat t with
    rfl | ⟨front, last, rfl⟩
  · rfl
  · rw [List.concat_eq_append] at hSolid ⊢
    exact dropEndWhile_append (hSolid last (by simp)) front

/- The first fragment found is the lowest one. -/
theorem firstFragment_hitsUpward
    (rows : List AttributeLine)
    (index : Nat) :
    firstFragment (hitsUpward index rows) =
      (rows.filterMap (·.content.template?)).find?
        (!·.isEmpty) := by
  unfold firstFragment
  induction rows generalizing index with
  | nil => rfl
  | cons row rows ih =>
      rw [hitsUpward, List.findSome?_cons, ih]
      rcases row with ⟨indent, content⟩
      unfold Attribute.hit Attribute.template?
      cases hLiteral : content.literal? with
      | none => simp [hLiteral]
      | some template =>
          cases hText : template.text with
          | nil =>
              simp [hLiteral, hText]
          | cons c rest =>
              have hStrip := strip_of_solid template.solid
              rw [hText] at hStrip
              simp [hLiteral, hText, hStrip]

/- The nearest route found is that of the lowest line. -/
theorem nearestRoute_hitsUpward
    {rows : List AttributeLine}
    (hRoutes :
      ∀ row ∈ rows, row.content.isRoute = true)
    (index : Nat) :
    nearestRoute (hitsUpward index rows) =
      rows.head?.bind (·.content.template?) := by
  cases rows with
  | nil => rfl
  | cons row rows =>
      have hRoute := hRoutes row List.mem_cons_self
      unfold nearestRoute
      rw [hitsUpward, List.find?_cons_of_pos
        (by rw [Attribute.isRoute_hit]; exact hRoute)]
      rfl

namespace ActionBlock

/- What the attributes of an action say is its own. -/
theorem ofHits_hitsUpward
    (action : ActionBlock)
    (index : Nat) :
    ActionAttributes.ofHits
        (hitsUpward index action.attributes.reverse) =
      { verb :=
          action.attributes.findSome? (·.content.verb?)
        fragment := action.fragment?
        hasRoute :=
          action.attributes.any (·.content.isRoute) } := by
  unfold ActionAttributes.ofHits fragment?
  rw [lastVerb_hitsUpward, firstFragment_hitsUpward,
    any_isRoute_hitsUpward, List.reverse_reverse,
    List.any_reverse]

theorem resolveVerb_hitsUpward
    (action : ActionBlock)
    (base : Option Text)
    (index : Nat) :
    (ActionAttributes.ofHits
        (hitsUpward index
          action.attributes.reverse)).resolveVerb base =
      action.verb? base := by
  rw [action.ofHits_hitsUpward]
  rfl

theorem fragment_hitsUpward
    (action : ActionBlock)
    (index : Nat) :
    (ActionAttributes.ofHits
        (hitsUpward index
          action.attributes.reverse)).fragment =
      action.fragment? := by
  rw [action.ofHits_hitsUpward]

end ActionBlock

end Layout

end RouteAtlas
