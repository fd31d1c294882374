import Mathlib
import RouteAtlas.Proofs.Catalog.Tree

/-
  The route tree built route by route.

  A route goes to the group of its project and, inside, to
  that of its controller; a group that is missing is made
  behind the others.  Once all routes have their place, the
  projects are sorted and the controllers of each of them.
  This gives the tree that grouping at once gives.

  Main definitions:
    * `Catalog.placeIn`
    * `Catalog.addRoute`
    * `Catalog.sortGroups`

  Main statements:
    * `map_groupBy_append`
    * `foldl_addRoute`
    * `tree_eq_sortGroups`
-/

------------------------------------------------------------
-- Placing
------------------------------------------------------------

namespace RouteAtlas

namespace Catalog

section Placing

variable {α : Type}

/- The groups with one changed, a new one if it is missing. -/
def placeIn
    (isMeant : α → Bool)
    (change : α → α)
    (fresh : α) :
    List α → List α
  | [] => [change fresh]
  | group :: rest =>
      if isMeant group then
        change group :: rest
      else
        group :: placeIn isMeant change fresh rest

variable {isMeant : α → Bool}
variable {change : α → α}
variable {group : Text → α}
variable {keys : List Text}
variable {meant : Text}

theorem placeIn_of_not_mem
    (hMeant : ∀ key, isMeant (group key) = (key == meant))
    (hMissing : meant ∉ keys)
    (fresh : α) :
    placeIn isMeant change fresh (keys.map group) =
      keys.map group ++ [change fresh] := by
  induction keys with
  | nil => rfl
  | cons key keys ih =>
      rw [List.mem_cons, not_or] at hMissing
      have hOther : (key == meant) = false :=
        beq_eq_false_iff_ne.mpr (Ne.symm hMissing.1)
      rw [List.map_cons, placeIn, hMeant, hOther,
        ih hMissing.2]
      rfl

/-
  By induction on the keys: behind the group that is meant
  no other one has its key.
-/
theorem placeIn_of_mem
    (hMeant : ∀ key, isMeant (group key) = (key == meant))
    (hKeys : keys.Nodup)
    (hThere : meant ∈ keys)
    (fresh : α) :
    placeIn isMeant change fresh (keys.map group) =
      keys.map fun key =>
        if key == meant then change (group key)
        else group key := by
  induction keys with
  | nil => cases hThere
  | cons key keys ih =>
      rw [List.nodup_cons] at hKeys
      rw [List.map_cons, placeIn, hMeant, List.map_cons]
      by_cases hSame : key = meant
      · subst hSame
        rw [if_pos (beq_self_eq_true key),
          if_pos (beq_self_eq_true key)]
        congr 1
        apply List.map_congr_left
        intro other hOther
        rw [if_neg]
        rintro hSame
        rw [beq_iff_eq.mp hSame] at hOther
        exact hKeys.1 hOther
      · have hOther : ¬(key == meant) = true :=
          mt beq_iff_eq.mp hSame
        rw [if_neg hOther, if_neg hOther,
          ih hKeys.2
            ((List.mem_cons.mp hThere).resolve_left
              (Ne.symm hSame))]

/- A last key is kept if it is new. -/
theorem eraseDups_concat
    (keys : List Text)
    (key : Text) :
    (keys ++ [key]).eraseDups =
      if key ∈ keys then keys.eraseDups
      else keys.eraseDups ++ [key] := by
  rw [List.eraseDups_append, List.removeAll,
    List.filter_singleton]
  by_cases hThere : key ∈ keys
  · simp [hThere]
  · simp [hThere, List.eraseDups_cons]

section Grouped

variable {ι : Type}
variable {keyOf : ι → Text}
variable {item : ι}

/- One more item is in the group of its key only. -/
theorem filter_append_of_ne
    {key : Text}
    (hOther : key ≠ keyOf item)
    (items : List ι) :
    ((items ++ [item]).filter fun i => keyOf i == key) =
      items.filter fun i => keyOf i == key := by
  have hMissing : (keyOf item == key) = false :=
    beq_eq_false_iff_ne.mpr (Ne.symm hOther)
  simp [hMissing]

/-
  What one more item does to the groups that are made of
  items by their keys.
-/
theorem map_groupBy_append
    (make : Text → List ι → α)
    (hMeant :
      ∀ key members,
        isMeant (make key members) = (key == keyOf item))
    (hChange :
      ∀ members,
        change (make (keyOf item) members) =
          make (keyOf item) (members ++ [item]))
    (items : List ι) :
    (groupBy keyOf (items ++ [item])).map
        (fun pair => make pair.1 pair.2) =
      placeIn isMeant change (make (keyOf item) [])
        ((groupBy keyOf items).map
          fun pair => make pair.1 pair.2) := by
  unfold groupBy
  simp only [List.map_map, Function.comp_def]
  rw [List.map_append, List.map_singleton, eraseDups_concat]
  by_cases hThere : keyOf item ∈ items.map keyOf
  · rw [if_pos hThere,
      placeIn_of_mem (fun key => hMeant key _)
        (nodup_eraseDups _) (List.mem_eraseDups.mpr hThere)]
    apply List.map_congr_left
    intro key hKey
    by_cases hSame : key = keyOf item
    · subst hSame
      rw [if_pos (beq_self_eq_true _), hChange]
      simp
    · rw [if_neg (mt beq_iff_eq.mp hSame),
        filter_append_of_ne hSame]
  · have hNone :
        (items.filter fun i => keyOf i == keyOf item) =
          [] := by
      rw [List.filter_eq_nil_iff]
      intro i hItem hSame
      rw [beq_iff_eq] at hSame
      exact hThere (List.mem_map.mpr ⟨i, hItem, hSame⟩)
    rw [if_neg hThere, List.map_append, List.map_singleton,
      placeIn_of_not_mem (fun key => hMeant key _)
        (mt List.mem_eraseDups.mp hThere),
      hChange, List.filter_append, hNone]
    congr 1
    · apply List.map_congr_left
      intro key hKey
      rw [filter_append_of_ne]
      rintro rfl
      exact hThere (List.mem_eraseDups.mp hKey)
    · simp

end Grouped

end Placing

------------------------------------------------------------
-- Routes
------------------------------------------------------------

section Routes

variable (replace : Text → Text)
variable (suffix : Text)

/- A controller without routes. -/
def ControllerGroup.fresh
    (projectKey controllerName : Text) :
    ControllerGroup where
  projectKey
  controllerName
  label := controllerLabel controllerName suffix
  items := []

/- A controller with one more route. -/
def ControllerGroup.addRoute
    (route : Route)
    (controller : ControllerGroup) :
    ControllerGroup :=
  { controller with
    items := controller.items ++ [.ofRoute replace route] }

/- A project without controllers. -/
def ProjectGroup.fresh
    (projectKey : Text) :
    ProjectGroup where
  projectKey
  label := projectLabel projectKey
  controllers := []

/- A project with one more route. -/
def ProjectGroup.addRoute
    (route : Route)
    (project : ProjectGroup) :
    ProjectGroup :=
  { project with
    controllers :=
      placeIn
        (fun controller =>
          controller.controllerName == route.controller)
        (ControllerGroup.addRoute replace route)
        (.fresh suffix project.projectKey route.controller)
        project.controllers }

/- The projects with one more route. -/
def addRoute
    (projects : List ProjectGroup)
    (route : Route) :
    List ProjectGroup :=
  placeIn
    (fun project => project.projectKey == projectKey route)
    (ProjectGroup.addRoute replace suffix route)
    (.fresh (projectKey route))
    projects

/- The projects sorted, and the controllers of each. -/
def sortGroups
    (projects : List ProjectGroup) :
    List ProjectGroup :=
  (projects.mergeSort fun a b =>
      lePair a.sortKey b.sortKey).map fun project =>
    { project with
      controllers :=
        project.controllers.mergeSort fun a b =>
          lePair a.sortKey b.sortKey }

/- The controllers of some routes, as they come. -/
def gatheredControllers
    (key : Text)
    (routes : List Route) :
    List ControllerGroup :=
  (groupBy (·.controller) routes).map fun pair =>
    { projectKey := key
      controllerName := pair.1
      label := controllerLabel pair.1 suffix
      items := pair.2.map (.ofRoute replace) }

/- The projects of some routes, as they come. -/
def gatheredProjects
    (routes : List Route) :
    List ProjectGroup :=
  (groupBy projectKey routes).map fun pair =>
    { projectKey := pair.1
      label := projectLabel pair.1
      controllers :=
        gatheredControllers replace suffix pair.1 pair.2 }

theorem gatheredControllers_append
    (key : Text)
    (routes : List Route)
    (route : Route) :
    gatheredControllers replace suffix key
        (routes ++ [route]) =
      placeIn
        (fun controller =>
          controller.controllerName == route.controller)
        (ControllerGroup.addRoute replace route)
        (.fresh suffix key route.controller)
        (gatheredControllers replace suffix key routes) := by
  apply map_groupBy_append fun name members =>
    ({ projectKey := key
       controllerName := name
       label := controllerLabel name suffix
       items := members.map (.ofRoute replace) } :
      ControllerGroup)
  · exact fun _ _ => rfl
  · intro members
    unfold ControllerGroup.addRoute
    rw [List.map_append]
    rfl

/- One more route goes where it belongs. -/
theorem gatheredProjects_append
    (routes : List Route)
    (route : Route) :
    gatheredProjects replace suffix (routes ++ [route]) =
      addRoute replace suffix
        (gatheredProjects replace suffix routes) route := by
  apply map_groupBy_append fun key members =>
    ({ projectKey := key
       label := projectLabel key
       controllers :=
         gatheredControllers replace suffix key members } :
      ProjectGroup)
  · exact fun _ _ => rfl
  · intro members
    unfold ProjectGroup.addRoute
    rw [gatheredControllers_append]

/- By induction on the routes, from the last one on. -/
theorem foldl_addRoute
    (routes : List Route) :
    routes.foldl (addRoute replace suffix) [] =
      gatheredProjects replace suffix routes := by
  induction routes using List.reverseRecOn with
  | nil => rfl
  | append_singleton routes route ih =>
      rw [List.foldl_append, ih, gatheredProjects_append]
      rfl

/- The tree is built route by route, and sorted at the end. -/
theorem tree_eq_sortGroups
    (routes : List Route) :
    tree replace suffix routes =
      sortGroups (routes.foldl (addRoute replace suffix) []) := by
  rw [foldl_addRoute]
  unfold sortGroups gatheredProjects tree
  rw [List.map_mergeSort, List.map_map]
  · rfl
  · exact fun _ _ _ _ => rfl

end Routes

end Catalog

end RouteAtlas
