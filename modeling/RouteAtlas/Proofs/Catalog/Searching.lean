import Mathlib
import RouteAtlas.Catalog.Basic
import RouteAtlas.Proofs.Unicode.Trimming

/-
  Two ways to look for routes.

  The catalogue narrows down the routes it shows to those
  that a search text matches, and it finds routes for a
  query.  A query finds the routes that it names, if there
  are any, and else those that it matches.  As a name holds
  itself, what is found is also shown.

  Main definitions:
    * `Catalog.IsCalled`

  Main statements:
    * `filtered_search`
    * `find_sublist_matched`
    * `find_eq_nil_iff`
    * `find_among_filtered`
-/

------------------------------------------------------------
-- Texts in Texts
------------------------------------------------------------

namespace RouteAtlas

namespace Text

theorem contains_iff_infix
    {needle t : Text} :
    contains needle t = true ↔ needle <:+: t := by
  induction t with
  | nil =>
      rw [contains, List.isEmpty_iff, List.infix_nil]
  | cons c t ih =>
      rw [contains, Bool.or_eq_true,
        List.isPrefixOf_iff_prefix, ih, List.infix_cons_iff]

end Text

------------------------------------------------------------
-- Searching
------------------------------------------------------------

namespace Catalog

open Text (lower strip)

/- The letter case of a search text does not matter. -/
theorem isMatchedBy_lower
    (needle : Text)
    (route : Route) :
    route.isMatchedBy (lower needle) =
      route.isMatchedBy needle := by
  rw [Route.isMatchedBy, Route.isMatchedBy,
    Unicode.lower_lower]

theorem isMatchedBy_nil
    (route : Route) :
    route.isMatchedBy [] = true :=
  List.any_eq_true.mpr
    ⟨route.path, List.mem_cons_self,
      Text.contains_iff_infix.mpr (List.nil_infix)⟩

/-
  The routes shown for a search text are those that it
  matches without the blanks around it; a blank one matches
  all of them.
-/
theorem filtered_search
    (catalog : Catalog)
    (text : Text) :
    (catalog.search text).filtered =
      Route.sorted catalog.sortBy
        (catalog.routes.filter
          (·.isMatchedBy (strip text))) := by
  have hNeedle :
      catalog.routes.filter
          (·.isMatchedBy (strip (lower text))) =
        catalog.routes.filter
          (·.isMatchedBy (strip text)) := by
    apply List.filter_congr
    intro route _
    rw [Unicode.strip_lower, isMatchedBy_lower]
  change
    Route.sorted catalog.sortBy
        (if (!Text.isBlankText (lower text)) = true then
          catalog.routes.filter
            (·.isMatchedBy (strip (lower text)))
        else catalog.routes) =
      _
  split
  next => rw [hNeedle]
  next hBlank =>
    rw [Bool.not_eq_true, Bool.not_eq_false'] at hBlank
    have hGap : Text.IsGap (lower text) :=
      List.all_eq_true.mp hBlank
    have hNothing : strip (lower text) = [] := by
      have hStripped := Text.strip_gap_append hGap []
      rw [List.append_nil] at hStripped
      exact hStripped
    rw [← hNeedle, hNothing, List.filter_eq_self.mpr]
    exact fun route _ => isMatchedBy_nil route

------------------------------------------------------------
-- Finding
------------------------------------------------------------

/-
  Whether the path or the alias of a route is a query, the
  letter case and the blanks around the query aside.
-/
def IsCalled
    (query : Text)
    (route : Route) :
    Prop :=
  lower route.path = lower (strip query) ∨
    ∃ aliasName ∈ route.aliasName,
      lower aliasName = lower (strip query)

instance (query : Text) (route : Route) :
    Decidable (IsCalled query route) := by
  unfold IsCalled
  infer_instance

section Find

variable (catalog : Catalog)
variable (query : Text)

/- What names a route is found in it by a search. -/
theorem isMatchedBy_of_isNamedBy
    {query : Text}
    {route : Route}
    (hNamed : isNamedBy query route = true) :
    route.isMatchedBy query = true := by
  have hHolds :
      ∀ t ∈ route.searchedTexts, lower t = query →
        route.isMatchedBy query = true := by
    rintro t hText rfl
    rw [isMatchedBy_lower]
    exact
      List.any_eq_true.mpr
        ⟨t, hText,
          Text.contains_iff_infix.mpr List.infix_rfl⟩
  rw [isNamedBy, Bool.or_eq_true, beq_iff_eq,
    beq_iff_eq] at hNamed
  rcases hNamed with hAlias | hPath
  · exact
      hHolds _ (by simp [Route.searchedTexts]) hAlias
  · exact hHolds _ List.mem_cons_self hPath

/- A route that is called by the query is named by it. -/
theorem isNamedBy_of_isCalled
    {query : Text}
    {route : Route}
    (hCalled : IsCalled query route) :
    isNamedBy (lower (strip query)) route = true := by
  rw [isNamedBy, Bool.or_eq_true, beq_iff_eq, beq_iff_eq]
  rcases hCalled with hPath | ⟨aliasName, hAlias, hSame⟩
  · exact .inr hPath
  · rw [hAlias]
    exact .inl hSame

/- The routes that are named are found, else the matched. -/
theorem find_cases :
    let named :=
      catalog.routes.filter
        (isNamedBy (lower (strip query)))
    (named ≠ [] ∧ catalog.find query = named) ∨
      (named = [] ∧
        catalog.find query =
          catalog.routes.filter
            (·.isMatchedBy (strip query))) := by
  dsimp only
  rw [find]
  cases catalog.routes.filter
      (isNamedBy (lower (strip query))) with
  | nil =>
      refine .inr ⟨rfl, List.filter_congr ?_⟩
      exact fun route _ => isMatchedBy_lower _ route
  | cons route others =>
      exact .inl ⟨List.cons_ne_nil route others, rfl⟩

/- Whatever is found is matched, and found in order. -/
theorem find_sublist_matched :
    (catalog.find query).Sublist
      (catalog.routes.filter
        (·.isMatchedBy (strip query))) := by
  rcases find_cases catalog query with
    ⟨-, hNamed⟩ | ⟨-, hMatched⟩
  · rw [hNamed]
    apply List.monotone_filter_right
    intro route hName
    rw [← isMatchedBy_lower]
    exact isMatchedBy_of_isNamedBy hName
  · rw [hMatched]

theorem find_eq_nil_iff :
    catalog.find query = [] ↔
      catalog.routes.filter
        (·.isMatchedBy (strip query)) = [] := by
  constructor
  · intro hNone
    rcases find_cases catalog query with
      ⟨hSome, hNamed⟩ | ⟨-, hMatched⟩
    · exact absurd (hNamed.symm.trans hNone) hSome
    · exact hMatched.symm.trans hNone
  · intro hNone
    have hFound := find_sublist_matched catalog query
    rw [hNone] at hFound
    exact List.sublist_nil.mp hFound

theorem called_sublist_find :
    (catalog.routes.filter (IsCalled query ·)).Sublist
      (catalog.find query) := by
  have hCalled :
      (catalog.routes.filter (IsCalled query ·)).Sublist
        (catalog.routes.filter
          (isNamedBy (lower (strip query)))) := by
    apply List.monotone_filter_right
    intro route hRoute
    exact isNamedBy_of_isCalled (of_decide_eq_true hRoute)
  rcases find_cases catalog query with
    ⟨-, hNamed⟩ | ⟨hNone, -⟩
  · rwa [hNamed]
  · rw [hNone] at hCalled
    rw [List.sublist_nil.mp hCalled]
    exact List.nil_sublist _

/-
  What a query finds stands in the order of the catalogue
  and is shown when the query is the search text; nothing is
  found just if nothing is shown; and every route that the
  query calls is found.
-/
theorem find_among_filtered :
    let found := catalog.find query
    let shown := (catalog.search query).filtered
    found.Sublist catalog.routes ∧
      found.Subperm shown ∧
        (found = [] ↔ shown = []) ∧
          (catalog.routes.filter (IsCalled query ·)).Sublist
            found := by
  have hShown :
      ((catalog.search query).filtered).Perm
        (catalog.routes.filter
          (·.isMatchedBy (strip query))) := by
    rw [filtered_search]
    exact List.mergeSort_perm _ _
  have hFound := find_sublist_matched catalog query
  refine
    ⟨hFound.trans List.filter_sublist,
      hFound.subperm.trans hShown.symm.subperm, ?_,
      called_sublist_find catalog query⟩
  rw [find_eq_nil_iff, ← List.perm_nil, ← List.perm_nil]
  exact ⟨hShown.trans, hShown.symm.trans⟩

end Find

end Catalog

end RouteAtlas
