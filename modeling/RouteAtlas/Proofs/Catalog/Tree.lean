import Mathlib
import RouteAtlas.Catalog.Tree
import RouteAtlas.Proofs.Text.Order

/-
  The route tree as a partition of its routes.

  Grouping puts each item under its key, once and in order,
  so the groups taken together are the items.  A tree groups
  twice and then sorts what it grouped.  Sorting moves whole
  groups only, and as no two groups have one key, it leaves
  them in a strict order also where labels are equal.

  Main definitions:
    * `Catalog.Precedes`
    * `Catalog.Partitions`

  Main statements:
    * `perm_flatMap_groupBy`
    * `pairwise_mergeSort_lePair`
    * `mem_tree_iff`
    * `tree_partitions`
-/

------------------------------------------------------------
-- Grouping
------------------------------------------------------------

namespace RouteAtlas

namespace Catalog

section Grouping

variable {α : Type}
variable {key : α → Text}
variable {items : List α}

/-
  By induction on the length: behind its first occurrence an
  item is erased.
-/
theorem nodup_eraseDups
    (texts : List Text) :
    texts.eraseDups.Nodup := by
  induction hLength : texts.length
    using Nat.strong_induction_on generalizing texts with
  | _ n ih =>
      cases texts with
      | nil => exact .nil
      | cons text texts =>
          have hShorter :
              (texts.filter fun other => !other == text).length <
                n := by
            rw [← hLength, List.length_cons]
            exact Nat.lt_succ_of_le (List.length_filter_le _ _)
          rw [List.eraseDups_cons, List.nodup_cons,
            List.mem_eraseDups, List.mem_filter]
          exact ⟨by simp, ih _ hShorter _ rfl⟩

theorem nodup_map_fst_groupBy :
    ((groupBy key items).map (·.1)).Nodup := by
  unfold groupBy
  rw [List.map_map]
  exact (List.map_id _).symm ▸ nodup_eraseDups _

/- A group has the items of its key, and it has some. -/
theorem mem_groupBy_iff
    {k : Text}
    {group : List α} :
    (k, group) ∈ groupBy key items ↔
      k ∈ items.map key ∧
        group = items.filter fun item => key item == k := by
  unfold groupBy
  simp only [List.mem_map, List.mem_eraseDups,
    Prod.mk.injEq]
  constructor
  · rintro ⟨other, hOther, rfl, rfl⟩
    exact ⟨hOther, rfl⟩
  · rintro ⟨hKey, rfl⟩
    exact ⟨k, hKey, rfl, rfl⟩

/-
  By induction on the keys: the items of one key and those of
  the keys behind it make up the items of all of them.
-/
theorem perm_flatMap_filter
    {keys : List Text}
    (hKeys : keys.Nodup) :
    (keys.flatMap fun k =>
        items.filter fun item => key item == k).Perm
      (items.filter fun item => keys.contains (key item)) := by
  induction keys with
  | nil => simp
  | cons k keys ih =>
      rw [List.nodup_cons] at hKeys
      have hHere :
          (items.filter fun item =>
              (k :: keys).contains (key item)).filter
              (fun item => key item == k) =
            items.filter fun item => key item == k := by
        rw [List.filter_filter]
        apply List.filter_congr
        intro item hItem
        by_cases hSame : key item = k <;> simp [hSame]
      have hLater :
          (items.filter fun item =>
              (k :: keys).contains (key item)).filter
              (fun item => !key item == k) =
            items.filter fun item =>
              keys.contains (key item) := by
        rw [List.filter_filter]
        apply List.filter_congr
        intro item hItem
        by_cases hSame : key item = k
        · simp [hSame, hKeys.1]
        · simp [hSame]
      rw [List.flatMap_cons, ← hHere]
      refine ((ih hKeys.2).append_left _).trans ?_
      rw [← hLater]
      exact List.filter_append_perm _ _

/- All groups together are the items. -/
theorem perm_flatMap_groupBy :
    ((groupBy key items).flatMap (·.2)).Perm items := by
  unfold groupBy
  rw [List.flatMap_map]
  refine (perm_flatMap_filter (nodup_eraseDups _)).trans ?_
  rw [List.filter_eq_self.mpr]
  intro item hItem
  rw [List.contains_iff_mem, List.mem_eraseDups]
  exact List.mem_map_of_mem hItem

end Grouping

------------------------------------------------------------
-- Order
------------------------------------------------------------

/- Strict order of pairs of texts, the first one deciding. -/
def Precedes
    (a b : Text × Text) :
    Prop :=
  Text.IsBefore a.1 b.1 ∨
    (a.1 = b.1 ∧ Text.IsBefore a.2 b.2)

theorem lePair_iff
    {a b : Text × Text} :
    lePair a b = true ↔
      Text.IsBefore a.1 b.1 ∨
        (a.1 = b.1 ∧ Text.le a.2 b.2 = true) := by
  unfold lePair Text.IsBefore
  by_cases hFirst : a.1 = b.1 <;> simp [hFirst]

theorem lePair_total
    (a b : Text × Text) :
    (lePair a b || lePair b a) = true := by
  rw [Bool.or_eq_true, lePair_iff, lePair_iff]
  by_cases hFirst : a.1 = b.1
  · have hSecond := Text.le_total a.2 b.2
    rw [Bool.or_eq_true] at hSecond
    exact
      hSecond.imp (fun h => .inr ⟨hFirst, h⟩)
        fun h => .inr ⟨hFirst.symm, h⟩
  · have hOrder := Text.le_total a.1 b.1
    rw [Bool.or_eq_true] at hOrder
    exact
      hOrder.imp (fun h => .inl ⟨h, hFirst⟩)
        fun h => .inl ⟨h, Ne.symm hFirst⟩

theorem lePair_trans
    (a b c : Text × Text)
    (hFirst : lePair a b = true)
    (hSecond : lePair b c = true) :
    lePair a c = true := by
  rw [lePair_iff] at hFirst hSecond ⊢
  rcases hFirst with ⟨hLe, hNe⟩ | ⟨hSame, hLe⟩
  · rcases hSecond with ⟨hLe', hNe'⟩ | ⟨hSame', -⟩
    · refine .inl ⟨Text.le_trans _ _ _ hLe hLe', ?_⟩
      intro hEqual
      rw [← hEqual] at hLe'
      exact hNe (Text.le_antisymm hLe hLe')
    · exact .inl (hSame' ▸ ⟨hLe, hNe⟩)
  · rcases hSecond with ⟨hLe', hNe'⟩ | ⟨hSame', hLe'⟩
    · exact .inl (hSame.symm ▸ ⟨hLe', hNe'⟩)
    · exact
        .inr ⟨hSame.trans hSame',
          Text.le_trans _ _ _ hLe hLe'⟩

/- Groups with distinct keys are sorted strictly. -/
theorem pairwise_mergeSort_lePair
    {α : Type}
    {sortKey : α → Text × Text}
    {groups : List α}
    (hKeys : (groups.map fun group => (sortKey group).2).Nodup) :
    (groups.mergeSort fun a b =>
        lePair (sortKey a) (sortKey b)).Pairwise
      fun a b => Precedes (sortKey a) (sortKey b) := by
  have hSorted :
      (groups.mergeSort fun a b =>
          lePair (sortKey a) (sortKey b)).Pairwise
        fun a b => lePair (sortKey a) (sortKey b) = true :=
    List.pairwise_mergeSort
      (fun a b c =>
        lePair_trans (sortKey a) (sortKey b) (sortKey c))
      (fun a b => lePair_total (sortKey a) (sortKey b)) groups
  have hDistinct :
      (groups.mergeSort fun a b =>
          lePair (sortKey a) (sortKey b)).Pairwise
        fun a b => (sortKey a).2 ≠ (sortKey b).2 := by
    rw [← List.pairwise_map]
    exact
      ((List.mergeSort_perm groups _).map _).nodup_iff.mpr
        hKeys
  refine (hSorted.and hDistinct).imp ?_
  rintro a b ⟨hLe, hNe⟩
  rw [lePair_iff] at hLe
  exact
    hLe.imp id fun ⟨hSame, hSecond⟩ => ⟨hSame, hSecond, hNe⟩

------------------------------------------------------------
-- Controllers
------------------------------------------------------------

section Controllers

variable {replace : Text → Text}
variable {suffix key : Text}
variable {routes : List Route}

theorem mem_controllerGroups_iff
    {group : ControllerGroup} :
    group ∈ controllerGroups replace suffix key routes ↔
      ∃ name ∈ routes.map (·.controller),
        group =
          { projectKey := key
            controllerName := name
            label := controllerLabel name suffix
            items :=
              (routes.filter fun route =>
                route.controller == name).map
                (.ofRoute replace) } := by
  unfold controllerGroups
  rw [List.mem_mergeSort, List.mem_map]
  constructor
  · rintro ⟨⟨name, group⟩, hGroup, rfl⟩
    rw [mem_groupBy_iff] at hGroup
    exact ⟨name, hGroup.1, by rw [hGroup.2]⟩
  · rintro ⟨name, hName, rfl⟩
    exact ⟨(name, _), mem_groupBy_iff.mpr ⟨hName, rfl⟩, rfl⟩

theorem nodup_controllerName :
    ((controllerGroups replace suffix key routes).map
      (·.controllerName)).Nodup := by
  unfold controllerGroups
  rw [((List.mergeSort_perm _ _).map _).nodup_iff,
    List.map_map]
  exact nodup_map_fst_groupBy

/- The routes of all controllers of a project are its own. -/
theorem perm_items_controllerGroups :
    ((controllerGroups replace suffix key routes).flatMap
        (·.items)).Perm
      (routes.map (.ofRoute replace)) := by
  unfold controllerGroups
  refine
    ((List.mergeSort_perm _ _).flatMap_right _).trans ?_
  rw [List.flatMap_map, ← List.map_flatMap]
  exact perm_flatMap_groupBy.map _

theorem pairwise_controllerGroups :
    (controllerGroups replace suffix key routes).Pairwise
      fun a b => Precedes a.sortKey b.sortKey := by
  unfold controllerGroups
  apply pairwise_mergeSort_lePair
  rw [List.map_map]
  exact nodup_map_fst_groupBy

end Controllers

------------------------------------------------------------
-- Projects
------------------------------------------------------------

section Projects

variable {replace : Text → Text}
variable {suffix : Text}
variable {routes : List Route}

theorem mem_tree_iff
    {project : ProjectGroup} :
    project ∈ tree replace suffix routes ↔
      ∃ key ∈ routes.map projectKey,
        project =
          { projectKey := key
            label := projectLabel key
            controllers :=
              controllerGroups replace suffix key
                (routes.filter fun route =>
                  projectKey route == key) } := by
  unfold tree
  rw [List.mem_mergeSort, List.mem_map]
  constructor
  · rintro ⟨⟨key, group⟩, hGroup, rfl⟩
    rw [mem_groupBy_iff] at hGroup
    exact ⟨key, hGroup.1, by rw [hGroup.2]⟩
  · rintro ⟨key, hKey, rfl⟩
    exact ⟨(key, _), mem_groupBy_iff.mpr ⟨hKey, rfl⟩, rfl⟩

theorem nodup_projectKey :
    ((tree replace suffix routes).map
      (·.projectKey)).Nodup := by
  unfold tree
  rw [((List.mergeSort_perm _ _).map _).nodup_iff,
    List.map_map]
  exact nodup_map_fst_groupBy

theorem perm_items_tree :
    ((tree replace suffix routes).flatMap fun project =>
        project.controllers.flatMap (·.items)).Perm
      (routes.map (.ofRoute replace)) := by
  unfold tree
  refine
    ((List.mergeSort_perm _ _).flatMap_right _).trans ?_
  rw [List.flatMap_map]
  refine
    (List.Perm.flatMap_left _ fun pair _ =>
      perm_items_controllerGroups).trans ?_
  rw [← List.map_flatMap]
  exact perm_flatMap_groupBy.map _

theorem pairwise_tree :
    (tree replace suffix routes).Pairwise
      fun a b => Precedes a.sortKey b.sortKey := by
  unfold tree
  apply pairwise_mergeSort_lePair
  rw [List.map_map]
  exact nodup_map_fst_groupBy

/- The routes of a project are counted one by one. -/
theorem ProjectGroup.routeCount_eq
    (project : ProjectGroup) :
    project.routeCount =
      (project.controllers.flatMap (·.items)).length := by
  have hCount :
      ∀ (groups : List ControllerGroup) (n : Nat),
        groups.foldl
            (fun n controller => n + controller.items.length)
            n =
          n + (groups.flatMap (·.items)).length := by
    intro groups
    induction groups with
    | nil => exact fun _ => rfl
    | cons group groups ih =>
        intro n
        rw [List.foldl_cons, ih, List.flatMap_cons,
          List.length_append, Nat.add_assoc]
  unfold routeCount
  rw [hCount, Nat.zero_add]

end Projects

------------------------------------------------------------
-- Partitions
------------------------------------------------------------

/-
  Whether project groups hold each of some routes just once,
  in the groups of its project and its controller, where all
  groups are sorted and the routes keep their order.
-/
structure Partitions
    (replace : Text → Text)
    (suffix : Text)
    (routes : List Route)
    (projects : List ProjectGroup) :
    Prop where
  items :
    (projects.flatMap fun project =>
        project.controllers.flatMap (·.items)).Perm
      (routes.map (.ofRoute replace))
  count :
    (projects.map (·.routeCount)).sum = routes.length
  labelled :
    ∀ project ∈ projects,
      project.label = projectLabel project.projectKey ∧
        ∀ controller ∈ project.controllers,
          controller.label =
            controllerLabel controller.controllerName suffix
  owned :
    ∀ project ∈ projects,
      ∀ controller ∈ project.controllers,
        controller.projectKey = project.projectKey ∧
          ∀ item ∈ controller.items,
            projectKey item.route = project.projectKey ∧
              item.route.controller = controller.controllerName
  ordered :
    ∀ project ∈ projects,
      ∀ controller ∈ project.controllers,
        controller.items =
          (routes.filter fun route =>
              projectKey route == project.projectKey &&
                route.controller ==
                  controller.controllerName).map
            (.ofRoute replace)
  keys : (projects.map (·.projectKey)).Nodup
  names :
    ∀ project ∈ projects,
      (project.controllers.map (·.controllerName)).Nodup
  inhabited :
    ∀ project ∈ projects,
      project.controllers ≠ [] ∧
        ∀ controller ∈ project.controllers,
          controller.items ≠ []
  sorted :
    projects.Pairwise fun a b => Precedes a.sortKey b.sortKey
  sortedControllers :
    ∀ project ∈ projects,
      project.controllers.Pairwise
        fun a b => Precedes a.sortKey b.sortKey

section Tree

variable {replace : Text → Text}
variable {suffix : Text}
variable {routes : List Route}
variable {project : ProjectGroup}
variable {controller : ControllerGroup}

/-
  The items of a controller are the routes of its project
  that have its name, in order, and there are some.
-/
theorem items_of_mem_tree
    (hProject : project ∈ tree replace suffix routes)
    (hController : controller ∈ project.controllers) :
    controller.items =
        (routes.filter fun route =>
            projectKey route == project.projectKey &&
              route.controller ==
                controller.controllerName).map
          (.ofRoute replace) ∧
      controller.items ≠ [] := by
  rcases mem_tree_iff.mp hProject with ⟨key, -, rfl⟩
  rcases mem_controllerGroups_iff.mp hController with
    ⟨name, hName, rfl⟩
  constructor
  · simp only [List.filter_filter, Bool.and_comm]
  · rcases List.mem_map.mp hName with ⟨route, hRoute, rfl⟩
    apply List.ne_nil_of_mem
    exact
      List.mem_map_of_mem
        (List.mem_filter.mpr ⟨hRoute, beq_self_eq_true _⟩)

/- An item shows a route of its project and controller. -/
theorem item_of_mem_tree
    (hProject : project ∈ tree replace suffix routes)
    (hController : controller ∈ project.controllers)
    {item : RouteItem}
    (hItem : item ∈ controller.items) :
    item = .ofRoute replace item.route ∧
      item.route ∈ routes ∧
        projectKey item.route = project.projectKey ∧
          item.route.controller =
            controller.controllerName := by
  rw [(items_of_mem_tree hProject hController).1] at hItem
  rcases List.mem_map.mp hItem with ⟨route, hRoute, rfl⟩
  simp only [List.mem_filter, Bool.and_eq_true, beq_iff_eq]
    at hRoute
  exact ⟨rfl, hRoute.1, hRoute.2.1, hRoute.2.2⟩

/- Every route has its item in some group. -/
theorem exists_item_of_mem
    {route : Route}
    (hRoute : route ∈ routes) :
    ∃ project ∈ tree replace suffix routes,
      ∃ controller ∈ project.controllers,
        .ofRoute replace route ∈ controller.items := by
  have hItem :
      .ofRoute replace route ∈
        (tree replace suffix routes).flatMap fun project =>
          project.controllers.flatMap (·.items) :=
    perm_items_tree.mem_iff.mpr (List.mem_map_of_mem hRoute)
  simpa only [List.mem_flatMap] using hItem

/- A project has a controller: that of one of its routes. -/
theorem controllers_ne_nil
    (hProject : project ∈ tree replace suffix routes) :
    project.controllers ≠ [] := by
  rcases mem_tree_iff.mp hProject with ⟨key, hKey, rfl⟩
  rcases List.mem_map.mp hKey with ⟨route, hRoute, rfl⟩
  apply List.ne_nil_of_mem
  exact
    mem_controllerGroups_iff.mpr
      ⟨route.controller,
        List.mem_map_of_mem
          (List.mem_filter.mpr
            ⟨hRoute, beq_self_eq_true _⟩),
        rfl⟩

/- The routes of all projects are counted one by one. -/
theorem sum_routeCount_tree :
    ((tree replace suffix routes).map (·.routeCount)).sum =
      routes.length := by
  have hItems :=
    (perm_items_tree :
      ((tree replace suffix routes).flatMap fun project =>
          project.controllers.flatMap (·.items)).Perm
        (routes.map (.ofRoute replace))).length_eq
  rw [List.length_flatMap, List.length_map] at hItems
  rw [← hItems]
  congr 2
  funext project
  exact project.routeCount_eq

end Tree

/-
  The tree of some routes is a partition of them, whatever
  the routes, the replacement and the suffix are.
-/
theorem tree_partitions
    (replace : Text → Text)
    (suffix : Text)
    (routes : List Route) :
    Partitions replace suffix routes
      (tree replace suffix routes) where
  items := perm_items_tree
  count := sum_routeCount_tree
  labelled := by
    intro project hProject
    rcases mem_tree_iff.mp hProject with ⟨key, -, rfl⟩
    refine ⟨rfl, ?_⟩
    intro controller hController
    rcases mem_controllerGroups_iff.mp hController with
      ⟨name, -, rfl⟩
    rfl
  owned := by
    intro project hProject controller hController
    refine
      ⟨?_, fun item hItem =>
        (item_of_mem_tree hProject hController hItem).2.2⟩
    rcases mem_tree_iff.mp hProject with ⟨key, -, rfl⟩
    rcases mem_controllerGroups_iff.mp hController with
      ⟨name, -, rfl⟩
    rfl
  ordered project hProject controller hController :=
    (items_of_mem_tree hProject hController).1
  keys := nodup_projectKey
  names := by
    intro project hProject
    rcases mem_tree_iff.mp hProject with ⟨key, -, rfl⟩
    exact nodup_controllerName
  inhabited project hProject :=
    ⟨controllers_ne_nil hProject,
      fun controller hController =>
        (items_of_mem_tree hProject hController).2⟩
  sorted := pairwise_tree
  sortedControllers := by
    intro project hProject
    rcases mem_tree_iff.mp hProject with ⟨key, -, rfl⟩
    exact pairwise_controllerGroups

end Catalog

end RouteAtlas
