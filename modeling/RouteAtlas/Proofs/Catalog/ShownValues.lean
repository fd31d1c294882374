import Mathlib
import RouteAtlas.Catalog.Basic
import RouteAtlas.Proofs.Catalog.Tree
import RouteAtlas.Proofs.Store.Substitution
import RouteAtlas.Proofs.Unicode.Boundaries

/-
  Which variables of a route are shown with their values.

  The path of a route is lower-cased before its variables
  are replaced, and keys are compared letter by letter.  So
  a placeholder of the path is replaced if its lower-cased
  spelling is a key.  The short form of a route with a
  fragment is the lower-cased fragment, in which nothing is
  replaced.

  Main definitions:
    * `Variables.Holds`

  Main statements:
    * `holds_lower_iff`
    * `holds_replace_iff`
    * `item_withoutPlaceholder_iff`
-/

------------------------------------------------------------
-- Placeholders in Any Case
------------------------------------------------------------

namespace RouteAtlas

namespace Variables

open Text

/- Whether a text holds the placeholder of a key, in any case. -/
def Holds
    (key t : Text) :
    Prop :=
  ∃ spelling,
    lower spelling = lower key ∧ placeholder spelling <:+: t

section Holds

variable {key t : Text}

/- Lower-casing changes the case of placeholders only. -/
theorem infix_lower_iff :
    placeholder (lower key) <:+: lower t ↔ Holds key t := by
  constructor
  · rintro ⟨front, back, hText⟩
    rw [List.append_assoc, placeholder_append] at hText
    rcases Unicode.exists_of_lower_eq_append
        Unicode.isBoundary_opening hText.symm with
      ⟨front', tail, rfl, -, hTail⟩
    rcases Unicode.exists_of_lower_eq_append
        Unicode.isBoundary_closing hTail with
      ⟨spelling, back', rfl, hSpelling, -⟩
    refine ⟨spelling, hSpelling, front', back', ?_⟩
    rw [List.append_assoc, placeholder_append]
  · rintro ⟨spelling, hSpelling, front, back, rfl⟩
    refine ⟨lower front, lower back, ?_⟩
    rw [List.append_assoc, List.append_assoc,
      placeholder_append, placeholder_append,
      Unicode.lower_append_boundary Unicode.isBoundary_opening,
      Unicode.lower_append_boundary Unicode.isBoundary_closing,
      hSpelling]

/- A text that stays in lower case holds lower-case ones. -/
theorem holds_lower_iff :
    Holds key (lower t) ↔ Holds key t := by
  rw [← infix_lower_iff, ← infix_lower_iff,
    Unicode.lower_lower]

/- What stands before the first brace holds nothing. -/
theorem holds_append_iff
    {front : Text}
    (hFront : '{' ∉ front) :
    Holds key (front ++ t) ↔ Holds key t := by
  unfold Holds
  simp only [placeholder_eq, infix_append_of_not_mem hFront]

theorem not_holds_nil :
    ¬ Holds key [] := by
  rintro ⟨spelling, -, hInfix⟩
  rw [List.infix_nil] at hInfix
  cases hInfix

end Holds

------------------------------------------------------------
-- Lower-Cased Routes
------------------------------------------------------------

/- Lower-casing takes no brace away and brings none. -/
theorem isPlain_lower_iff
    {t : Text} :
    Text.IsPlain (lower t) ↔ t.IsPlain := by
  rw [Text.isPlain_iff, Text.isPlain_iff,
    Unicode.mem_lower_iff Unicode.isBoundary_opening,
    Unicode.mem_lower_iff Unicode.isBoundary_closing]

/- By induction on the length: both read the same braces. -/
theorem pairsBraces_lower
    (isOpen : Bool)
    (t : Text) :
    pairsBraces isOpen (lower t) = pairsBraces isOpen t := by
  induction hLength : t.length using Nat.strong_induction_on
    generalizing isOpen t with
  | _ n ih =>
      by_cases hPlain : t.IsPlain
      · have hText := pairsBraces_append hPlain isOpen []
        have hLower :=
          pairsBraces_append (isPlain_lower_iff.mpr hPlain)
            isOpen []
        rw [List.append_nil] at hText hLower
        rw [hText, hLower]
      · rcases exists_brace_of_not_isPlain hPlain with
          ⟨front, c, back, rfl, hFront, hBrace⟩
        have hBoundary : Unicode.IsBoundary c := by
          rcases hBrace with rfl | rfl
          · exact Unicode.isBoundary_opening
          · exact Unicode.isBoundary_closing
        have hShorter : back.length < n := by
          rw [← hLength, List.length_append, List.length_cons]
          omega
        have hBack :
            ∀ isOpen,
              pairsBraces isOpen (lower back) =
                pairsBraces isOpen back :=
          fun isOpen =>
            ih back.length hShorter isOpen back rfl
        rw [Unicode.lower_append_boundary hBoundary,
          pairsBraces_append (isPlain_lower_iff.mpr hFront),
          pairsBraces_append hFront, pairsBraces, pairsBraces,
          hBack, hBack, hBack]

------------------------------------------------------------
-- Shown Paths
------------------------------------------------------------

/-
  A path that is shown holds a placeholder of a key, in any
  case, if the path does and no variable has its lower-case
  spelling.
-/
theorem holds_replace_iff
    {values : Variables}
    (hPlain : values.IsPlain)
    {path : Text}
    (hPaired : hasPairedBraces path = true)
    {key : Text}
    (hKey : key.IsPlain) :
    Holds key (values.replace (lower path)) ↔
      Holds key path ∧
        Pairs.get? (lower key) values = none := by
  have hLower : hasPairedBraces (lower path) = true := by
    unfold hasPairedBraces at hPaired ⊢
    rwa [pairsBraces_lower]
  rcases exists_parts_of_paired hLower with ⟨parts, hParts⟩
  have hKept :
      ∀ spelling : Text, spelling.IsPlain →
        (placeholder spelling <:+:
            values.replace (lower path) ↔
          placeholder spelling <:+: lower path ∧
            Pairs.get? spelling values = none) := by
    intro spelling hSpelling
    rw [hParts, replace_eq_written hPlain,
      infix_written_iff hSpelling, infix_written_iff hSpelling,
      List.mem_map]
    simp only [Part.filled_eq_placeholder_iff]
    constructor
    · rintro ⟨part, hPart, rfl, hNone⟩
      exact ⟨hPart, hNone⟩
    · rintro ⟨hPart, hNone⟩
      exact ⟨_, hPart, rfl, hNone⟩
  constructor
  · rintro ⟨spelling, hSpelling, hInfix⟩
    have hPlain' : Text.IsPlain spelling := by
      rw [← isPlain_lower_iff, hSpelling, isPlain_lower_iff]
      exact hKey
    rcases (hKept spelling hPlain').mp hInfix with
      ⟨hThere, hNone⟩
    have hLowered : lower spelling = spelling := by
      apply Unicode.lower_of_isLowered
      intro c hChar
      apply Unicode.isLowered_of_mem_lower (t := path)
      apply hThere.subset
      simp [placeholder, hChar]
    refine
      ⟨holds_lower_iff.mp ⟨spelling, hSpelling, hThere⟩, ?_⟩
    rwa [← hSpelling, hLowered]
  · rintro ⟨hHolds, hNone⟩
    have hPlain' : Text.IsPlain (lower key) :=
      isPlain_lower_iff.mpr hKey
    exact
      ⟨lower key, Unicode.lower_lower key,
        (hKept _ hPlain').mpr
          ⟨infix_lower_iff.mpr hHolds, hNone⟩⟩

end Variables

------------------------------------------------------------
-- Items
------------------------------------------------------------

namespace Catalog

open Text Variables

section Items

variable {key : Text}

/- A short form holds what it is made from. -/
theorem holds_shortRoute_iff
    (shown : Text)
    (fragment : Option Text) :
    Holds key (shortRoute shown fragment) ↔
      if fragment.getD [] = [] then
        Holds key shown
      else
        Holds key (fragment.getD []) := by
  rcases fragment with _ | _ | ⟨c, rest⟩
  · rfl
  · rfl
  · have hSlash : '{' ∉ ['/'] := by decide
    rw [Option.getD_some, if_neg (List.cons_ne_nil c rest),
      ← holds_lower_iff (t := c :: rest)]
    unfold shortRoute
    dsimp only
    split
    next tail hTail => rw [hTail]
    next hTail => exact holds_append_iff hSlash

end Items

/- The route as an item shows it beside its tooltip. -/
def RouteItem.shortText
    (item : RouteItem) :
    Text :=
  if item.route.aliasName.getD [] = [] then
    item.label
  else
    item.description

namespace RouteItem

section OfRoute

variable (replace : Text → Text)
variable (route : Route)

theorem shortText_ofRoute :
    (ofRoute replace route).shortText =
      shortRoute (replace (lower route.path))
        route.fragment := by
  unfold shortText ofRoute
  rcases route.aliasName with _ | _ | ⟨c, rest⟩ <;> rfl

theorem tooltip_ofRoute :
    (ofRoute replace route).tooltip =
      ('[' :: route.verb.text ++ "] ".toList) ++
        replace (lower route.path) :=
  rfl

/-
  Beside the tooltip an item shows the short form of its
  route, and the alias if there is one.
-/
theorem shortText_iff
    (shows : Text → Prop)
    (hNil : ¬ shows []) :
    (¬ shows (ofRoute replace route).description ∧
        (route.aliasName.getD [] = [] →
          ¬ shows (ofRoute replace route).label)) ↔
      ¬ shows (ofRoute replace route).shortText := by
  unfold shortText ofRoute
  rcases route.aliasName with _ | _ | ⟨c, rest⟩ <;>
    simp [hNil]

end OfRoute

/-
  No placeholder of a key is left, in any case, if its
  lower-case spelling is a key or the path has none, and if
  the fragment has none either.
-/
theorem ofRoute_withoutPlaceholder_iff
    {values : Variables}
    (hPlain : values.IsPlain)
    {route : Route}
    (hPaired : hasPairedBraces route.path = true)
    {key : Text}
    (hKey : key.IsPlain) :
    (¬ Holds key (ofRoute values.replace route).tooltip ∧
        ¬ Holds key
          (ofRoute values.replace route).shortText) ↔
      (Holds key route.path →
          Pairs.has (lower key) values = true) ∧
        ¬ Holds key (route.fragment.getD []) := by
  have hPrefix :
      '{' ∉ '[' :: route.verb.text ++ "] ".toList := by
    cases route.verb <;> decide
  have hShown :
      ¬ Holds key (values.replace (lower route.path)) ↔
        (Holds key route.path →
          Pairs.has (lower key) values = true) := by
    rw [holds_replace_iff hPlain hPaired hKey, not_and]
    unfold Pairs.has
    rw [← ne_eq, Option.ne_none_iff_isSome]
  rw [tooltip_ofRoute, holds_append_iff hPrefix,
    shortText_ofRoute, holds_shortRoute_iff]
  split
  next hNone =>
    rw [hNone, hShown]
    simp [not_holds_nil]
  next => rw [hShown]

end RouteItem

------------------------------------------------------------
-- Groups
------------------------------------------------------------

/-
  In the groups of a catalogue the path of a route is shown
  lower-cased and read in one pass.  Nothing is left of a
  variable if its key is shown in lower case there, and if
  no fragment stands for the path.
-/
theorem item_withoutPlaceholder_iff
    {values : Variables}
    (hPlain : values.IsPlain)
    {catalog : Catalog}
    {project : ProjectGroup}
    (hProject : project ∈ catalog.groups values.replace)
    {controller : ControllerGroup}
    (hController : controller ∈ project.controllers)
    {item : RouteItem}
    (hItem : item ∈ controller.items)
    (hPaired : hasPairedBraces item.route.path = true)
    {key : Text}
    (hKey : Pairs.has key values = true) :
    item.tooltip =
        ('[' :: item.route.verb.text ++ "] ".toList) ++
          values.onePass (lower item.route.path) ∧
      (item.route.fragment.getD [] = [] →
        item.shortText =
          values.onePass (lower item.route.path)) ∧
      ((¬ Holds key item.tooltip ∧
            ¬ Holds key item.description ∧
              (item.route.aliasName.getD [] = [] →
                ¬ Holds key item.label)) ↔
        (Holds key item.route.path →
            Pairs.has (lower key) values = true) ∧
          ¬ Holds key (item.route.fragment.getD [])) := by
  have hShown :=
    (item_of_mem_tree hProject hController hItem).1
  generalize item.route = route at hShown hPaired ⊢
  subst hShown
  have hLower :
      hasPairedBraces (lower route.path) = true := by
    unfold hasPairedBraces at hPaired ⊢
    rwa [pairsBraces_lower]
  have hPath := replace_of_paired hPlain hLower
  have hPlainKey : key.IsPlain := by
    rcases Option.isSome_iff_exists.mp hKey with
      ⟨value, hValue⟩
    exact (hPlain _ (Pairs.mem_of_get? hValue)).1
  refine ⟨?_, ?_, ?_⟩
  · rw [RouteItem.tooltip_ofRoute, hPath]
  · intro hNone
    rw [RouteItem.shortText_ofRoute, hPath]
    rcases hFragment : route.fragment with _ | _ | ⟨c, rest⟩
    · rfl
    · rfl
    · rw [hFragment] at hNone
      cases hNone
  · rw [RouteItem.shortText_iff _ _ (Holds key) not_holds_nil]
    exact
      RouteItem.ofRoute_withoutPlaceholder_iff hPlain hPaired
        hPlainKey

/- A route of a controller of orders. -/
def singleRoute
    (path : Text)
    (fragment : Option Text) :
    Route :=
  { path
    verb := .get
    controller := "OrdersController".toList
    action := "Get".toList
    sourceFile := []
    line := 1
    project := none
    fragment
    aliasName := none }

/- A catalogue that shows a single route. -/
def showing
    (route : Route) :
    Catalog :=
  (empty .route "Controller".toList).withRoutes [route]

theorem exists_item_showing
    (replace : Text → Text)
    (route : Route) :
    ∃ project ∈ (showing route).groups replace,
      ∃ controller ∈ project.controllers,
        .ofRoute replace route ∈ controller.items := by
  have hRoute : route ∈ (showing route).filtered := by
    simp [showing, empty, withRoutes, filtered, isSearching,
      isBlankText, Route.sorted]
  exact exists_item_of_mem hRoute

/- A key that is kept in lower case is shown by its value. -/
theorem versionedRoute_withoutPlaceholder :
    let values : Variables :=
      [("version:apiversion".toList, "2.0".toList)]
    let key := "version:apiversion".toList
    let route :=
      singleRoute
        "/api/v\x7bversion:apiVersion\x7d/Orders".toList none
    values.IsPlain ∧
      hasPairedBraces route.path = true ∧
      Pairs.has key values = true ∧
      ∃ project ∈ (showing route).groups values.replace,
        ∃ controller ∈ project.controllers,
          ∃ item ∈ controller.items,
            item.route = route ∧
              item.tooltip =
                "[GET] /api/v2.0/orders".toList ∧
              ¬ Holds key item.tooltip ∧
              ¬ Holds key item.description ∧
              ¬ Holds key item.label := by
  intro values key route
  have hPlain : values.IsPlain := by decide
  have hPaired : hasPairedBraces route.path = true := by
    decide +kernel
  have hKey : Pairs.has key values = true := by decide
  rcases exists_item_showing values.replace route with
    ⟨project, hProject, controller, hController, hItem⟩
  have hShown :=
    item_withoutPlaceholder_iff hPlain hProject hController
      hItem hPaired hKey
  have hLower : Pairs.has (lower key) values = true := by
    decide +kernel
  rcases hShown.2.2.mpr
      ⟨fun _ => hLower, not_holds_nil⟩ with
    ⟨hTooltip, hDescription, hLabel⟩
  refine
    ⟨hPlain, hPaired, hKey, project, hProject, controller,
      hController, _, hItem, rfl, ?_, hTooltip, hDescription,
      hLabel rfl⟩
  rw [hShown.1]
  decide +kernel

/-
  A fragment keeps its placeholders, and so does a path whose
  variable is not written in lower case.
-/
theorem fragment_and_capital_keepPlaceholders :
    (let values : Variables := [("id".toList, "5".toList)]
      let route :=
        singleRoute "/orders/\x7bid\x7d".toList
          (some "\x7bid\x7d".toList)
      values.IsPlain ∧
        Pairs.has "id".toList values = true ∧
        placeholder "id".toList <:+: route.path ∧
        ∃ project ∈ (showing route).groups values.replace,
          ∃ controller ∈ project.controllers,
            ∃ item ∈ controller.items,
              item.route = route ∧
                Holds "id".toList item.label) ∧
      let values : Variables :=
        [("orderId".toList, "7".toList)]
      let route :=
        singleRoute "/orders/\x7borderId\x7d".toList none
      values.IsPlain ∧
        Pairs.has "orderId".toList values = true ∧
        placeholder "orderId".toList <:+: route.path ∧
        ∃ project ∈ (showing route).groups values.replace,
          ∃ controller ∈ project.controllers,
            ∃ item ∈ controller.items,
              item.route = route ∧
                Holds "orderId".toList item.tooltip := by
  constructor
  · intro values route
    rcases exists_item_showing values.replace route with
      ⟨project, hProject, controller, hController, hItem⟩
    refine
      ⟨by decide, by decide, by decide +kernel, project,
        hProject, controller, hController, _, hItem, rfl,
        "id".toList, rfl, ?_⟩
    decide +kernel
  · intro values route
    rcases exists_item_showing values.replace route with
      ⟨project, hProject, controller, hController, hItem⟩
    refine
      ⟨by decide, by decide, by decide +kernel, project,
        hProject, controller, hController, _, hItem, rfl,
        "orderid".toList, by decide +kernel, ?_⟩
    decide +kernel

end Catalog

end RouteAtlas
