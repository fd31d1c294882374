import Mathlib
import RouteAtlas.Proofs.Catalog.Searching
import RouteAtlas.Proofs.Text.Order

/-
  Sorting routes.

  Routes with an alias come first, and in both parts the
  texts that routes are sorted by ascend.  The sort is
  stable: routes between which it does not choose stay in
  the order in which they came.  So it does not matter
  whether routes are chosen by a search before they are
  sorted, or after.

  Main definitions:
    * `Route.Ascends`
    * `Route.IsSorting`

  Main statements:
    * `sorted_filter`
    * `isSorting_sorted`
    * `isSorting_and_filtered`
-/

------------------------------------------------------------
-- Parts of a List
------------------------------------------------------------

namespace RouteAtlas

/- What passes a test stands in front, if it always does. -/
theorem eq_filter_append_filter
    {α : Type}
    {test : α → Bool}
    {values : List α}
    (hFront :
      values.Pairwise fun a b =>
        test b = true → test a = true) :
    values =
      values.filter test ++ values.filter (!test ·) := by
  induction values with
  | nil => rfl
  | cons a values ih =>
      rw [List.pairwise_cons] at hFront
      have hRest := ih hFront.2
      cases hTest : test a with
      | true => simp [hTest, ← hRest]
      | false =>
          have hNone : values.filter test = [] := by
            rw [List.filter_eq_nil_iff]
            intro b hMember hLater
            rw [hFront.1 b hMember hLater] at hTest
            cases hTest
          rw [hNone, List.nil_append] at hRest
          simp [hTest, hNone, ← hRest]

------------------------------------------------------------
-- Order of Routes
------------------------------------------------------------

namespace Route

section Order

variable {key : SortKey}

/- Whether routes stand in the order of their sort texts. -/
def Ascends
    (key : SortKey)
    (routes : List Route) :
    Prop :=
  routes.Pairwise fun a b =>
    Text.le (a.sortText key) (b.sortText key) = true

theorem precedes_iff
    {a b : Route} :
    precedes key a b = true ↔
      (a.aliasName.isSome = true ∧
          b.aliasName.isSome = false) ∨
        (a.aliasName.isSome = b.aliasName.isSome ∧
          Text.le (a.sortText key) (b.sortText key) =
            true) := by
  unfold precedes
  cases a.aliasName.isSome <;>
    cases b.aliasName.isSome <;> simp

theorem precedes_trans
    (a b c : Route)
    (hFirst : precedes key a b = true)
    (hSecond : precedes key b c = true) :
    precedes key a c = true := by
  rw [precedes_iff] at hFirst hSecond ⊢
  rcases hFirst with ⟨hNamed, hOther⟩ | ⟨hSame, hFirst⟩
  · rcases hSecond with ⟨hNamed', -⟩ | ⟨hSame', -⟩
    · rw [hOther] at hNamed'
      cases hNamed'
    · exact .inl ⟨hNamed, hSame' ▸ hOther⟩
  · rcases hSecond with ⟨hNamed, hOther⟩ | ⟨hSame', hSecond⟩
    · exact .inl ⟨hSame.trans hNamed, hOther⟩
    · exact
        .inr
          ⟨hSame.trans hSame',
            Text.le_trans _ _ _ hFirst hSecond⟩

theorem precedes_total
    (a b : Route) :
    (precedes key a b || precedes key b a) = true := by
  have hTexts :=
    Text.le_total (a.sortText key) (b.sortText key)
  unfold precedes
  cases a.aliasName.isSome <;>
    cases b.aliasName.isSome <;> simp_all

end Order

------------------------------------------------------------
-- Sorted Routes
------------------------------------------------------------

/-
  Whether routes are others in order: those with an alias,
  then those without, both by their sort texts, and those
  with one sort text as they came.
-/
structure IsSorting
    (key : SortKey)
    (routes inOrder : List Route) :
    Prop where
  perm : inOrder.Perm routes
  parts :
    ∃ named unnamed,
      inOrder = named ++ unnamed ∧
        (∀ route ∈ named, route.aliasName ≠ none) ∧
        (∀ route ∈ unnamed, route.aliasName = none) ∧
        Ascends key named ∧ Ascends key unnamed
  stable :
    ∀ isNamed text,
      let isAlike := fun route : Route =>
        route.aliasName.isSome == isNamed &&
          route.sortText key == text
      inOrder.filter isAlike = routes.filter isAlike

section Sorted

variable (key : SortKey)
variable (routes : List Route)

theorem pairwise_sorted :
    (sorted key routes).Pairwise fun a b =>
      precedes key a b = true :=
  List.pairwise_mergeSort precedes_trans precedes_total routes

theorem sorted_filter
    (keeps : Route → Bool) :
    sorted key (routes.filter keeps) =
      (sorted key routes).filter keeps :=
  mergeSort_filter precedes_trans precedes_total keeps routes

/- Sorting a list again leaves it as it is. -/
theorem sorted_sorted :
    sorted key (sorted key routes) = sorted key routes :=
  List.mergeSort_of_pairwise (pairwise_sorted key routes)

/- Routes that are alike but for their keys ascend. -/
theorem ascends_filter
    {keeps : Route → Bool}
    {isNamed : Bool}
    (hAlike :
      ∀ route, keeps route = true →
        route.aliasName.isSome = isNamed) :
    Ascends key ((sorted key routes).filter keeps) := by
  refine ((pairwise_sorted key routes).filter keeps).imp_of_mem
    ?_
  intro a b hFirst hSecond hPrecedes
  have hFirst' := hAlike a (List.mem_filter.mp hFirst).2
  have hSecond' := hAlike b (List.mem_filter.mp hSecond).2
  rcases precedes_iff.mp hPrecedes with
    ⟨hNamed, hOther⟩ | ⟨-, hTexts⟩
  · rw [hFirst', ← hSecond', hOther] at hNamed
    cases hNamed
  · exact hTexts

/- The routes with an alias stand in front of all others. -/
theorem sorted_eq_append :
    sorted key routes =
      (sorted key routes).filter (·.aliasName.isSome) ++
        (sorted key routes).filter (!·.aliasName.isSome) := by
  apply eq_filter_append_filter
  refine (pairwise_sorted key routes).imp ?_
  intro a b hPrecedes hNamed
  rcases precedes_iff.mp hPrecedes with
    ⟨hNamed', -⟩ | ⟨hSame, -⟩
  · exact hNamed'
  · exact hSame.trans hNamed

theorem isSorting_sorted :
    IsSorting key routes (sorted key routes) where
  perm := List.mergeSort_perm routes _
  parts := by
    refine ⟨_, _, sorted_eq_append key routes, ?_, ?_,
      ascends_filter key routes fun _ => id, ?_⟩
    · intro route hMember
      exact
        Option.isSome_iff_ne_none.mp
          (List.mem_filter.mp hMember).2
    · intro route hMember
      have hUnnamed := (List.mem_filter.mp hMember).2
      rw [Bool.not_eq_true'] at hUnnamed
      apply Option.not_isSome_iff_eq_none.mp
      rw [hUnnamed]
      exact Bool.false_ne_true
    · apply ascends_filter key routes
      intro route hUnnamed
      exact (Bool.not_eq_true' _).mp hUnnamed
  stable := by
    intro isNamed text
    apply filter_mergeSort_eq precedes_trans precedes_total
    intro a b hFirst hSecond
    rw [Bool.and_eq_true, beq_iff_eq, beq_iff_eq]
      at hFirst hSecond
    refine
      precedes_iff.mpr
        (.inr ⟨hFirst.1.trans hSecond.1.symm, ?_⟩)
    rw [hFirst.2, hSecond.2]
    exact Text.le_refl text

end Sorted

end Route

------------------------------------------------------------
-- Sorting and Searching
------------------------------------------------------------

/-
  The catalogue shows its routes in order, each as often as
  it came.  Routes that are in order stay so, and those that
  a search text matches can be chosen before or after.
-/
theorem Catalog.isSorting_and_filtered
    (catalog : Catalog)
    (text : Text) :
    let inOrder :=
      Route.sorted catalog.sortBy catalog.routes
    Route.IsSorting catalog.sortBy catalog.routes inOrder ∧
      Route.sorted catalog.sortBy inOrder = inOrder ∧
        inOrder.filter (·.isMatchedBy (Text.strip text)) =
          (catalog.search text).filtered := by
  refine
    ⟨Route.isSorting_sorted _ _, Route.sorted_sorted _ _, ?_⟩
  rw [filtered_search, Route.sorted_filter]

end RouteAtlas
