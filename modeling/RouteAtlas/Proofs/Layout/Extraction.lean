import Mathlib
import RouteAtlas.Proofs.Controller.Pass
import RouteAtlas.Proofs.Layout.Lines
import RouteAtlas.Proofs.Layout.Scan

/-
  The routes of a file of the plain layout.

  The pass over a file meets headers of controllers only
  where they were laid out, and the pass over a controller
  meets its actions, each with its own attributes.  So what
  is extracted from the text is what the layout says.

  Main statements:
    * `ControllerBlock.flatMap_actions`
    * `flatMap_controllers`
    * `ofSource_source`
-/

------------------------------------------------------------
-- Actions
------------------------------------------------------------

namespace RouteAtlas

namespace Layout

open Source Text

variable {settings : Settings}
variable {origin : Controller.Origin}

/- What is collected at a position of a controller. -/
def collected
    (settings : Settings)
    (origin : Controller.Origin)
    (controller : Controller)
    (position : Position) :
    List Route :=
  ((controller.actionAt? settings settings.actionWindow
    position).map
      (·.route controller origin position.index)).toList

theorem routes_eq_flatMap
    (controller : Controller)
    (span : List Position) :
    controller.routes settings origin span =
      span.flatMap (collected settings origin controller) :=
  List.filterMap_eq_flatMap_toList _ _

theorem collected_of_no_method
    {controller : Controller}
    {position : Position}
    (hMethod : methodHeader? position.line = none) :
    collected settings origin controller position = [] := by
  unfold collected
  rw [Controller.actionAt?_of_no_method hMethod]
  rfl

/- The lines of an action end with one that stops a scan. -/
theorem ActionBlock.stopped_bodyLines
    (action : ActionBlock)
    (above : List Text) :
    Stopped (action.bodyLines.reverse ++ above) := by
  unfold bodyLines
  simp only [List.reverse_cons, List.reverse_append,
    List.reverse_nil, List.nil_append, List.cons_append]
  rintro line ⟨⟩
  exact
    ⟨isCommentLine_brace (Or.inr rfl) _,
      stopsScan_brace (Or.inr rfl) _⟩

namespace ControllerBlock

/- The controller as it is found, declared on a line. -/
def found
    (controller : ControllerBlock)
    (index : Nat) :
    Controller :=
  { name := controller.name.text
    lineIndex := index
    baseRoute := controller.base?
    bodyEnd :=
      index +
        ((controller.actions.flatMap (·.lines)).length +
          2) }

/- At the header of an action its record is collected. -/
theorem collected_header
    (hSuffix : settings.controllerSuffix = suffix)
    (controller : ControllerBlock)
    {action : ActionBlock}
    (hFits :
      action.attributes.length ≤ settings.actionWindow)
    {above : List Text}
    (hStopped : Stopped above)
    (index start : Nat)
    (below : List Text) :
    collected settings origin (controller.found index)
        ⟨start + action.attributes.length,
          (action.attributes.map (·.line)).reverse ++ above,
          action.header, below⟩ =
      (controller.route? origin start action).toList := by
  have hBefore :
      action.header.take action.indent =
        indented action.indent [] :=
    take_indented action.indent _
  unfold collected Controller.actionAt?
  simp only [action.methodHeader?_header, hBefore,
    attributesAbove_rows hStopped hFits,
    Option.bind_eq_bind, Option.bind_some,
    action.resolveVerb_hitsUpward,
    action.fragment_hitsUpward]
  unfold route?
  cases hVerb : action.verb? controller.base? with
  | none => simp [found, hVerb]
  | some verb =>
      simp [found, hVerb, hSuffix, Controller.Action.route]

/-
  By induction on the actions: the lines before a header and
  those of the body are passed, and each body stops the scan
  for the attributes of the next action.
-/
theorem flatMap_actions
    (hSuffix : settings.controllerSuffix = suffix)
    (controller : ControllerBlock)
    (index : Nat)
    {actions : List ActionBlock}
    (hFits :
      ∀ action ∈ actions,
        action.attributes.length ≤ settings.actionWindow)
    {above : List Text}
    (hStopped : Stopped above)
    (start : Nat) :
    (positionsFrom start above
        (actions.flatMap (·.lines))).flatMap
          (collected settings origin
            (controller.found index)) =
      controller.actionRoutes origin start actions := by
  induction actions generalizing above start with
  | nil => rfl
  | cons action actions ih =>
      rw [List.forall_mem_cons] at hFits
      have hRest := ih hFits.2
        (action.stopped_bodyLines
          (action.header ::
            ((action.attributes.map (·.line)).reverse ++
              above)))
        (start + action.lines.length)
      rw [actionRoutes, ← hRest,
        ← collected_header hSuffix controller hFits.1
          hStopped index start
          (action.bodyLines ++ actions.flatMap (·.lines))]
      have hLength :
          start + action.lines.length =
            start + action.attributes.length + 1 +
              action.bodyLines.length := by
        unfold ActionBlock.lines
        simp
        omega
      rw [List.flatMap_cons, hLength]
      unfold ActionBlock.lines
      rw [List.append_assoc, flatMap_positionsFrom_append,
        List.cons_append, positionsFrom, List.flatMap_cons,
        flatMap_positionsFrom_append, List.length_map]
      · intro position hLine
        exact collected_of_no_method
          (action.methodHeader?_bodyLines _ hLine)
      · intro position hLine
        rcases List.mem_map.mp hLine with ⟨row, -, hRow⟩
        apply collected_of_no_method
        rw [← hRow]
        exact row.methodHeader?_line

------------------------------------------------------------
-- Controllers
------------------------------------------------------------

theorem length_attributes
    (controller : ControllerBlock) :
    controller.attributes.length =
      controller.routes.length := by
  unfold attributes
  rw [List.length_map]

/- The nearest route above a header is its base route. -/
theorem nearestRoute_attributes
    (controller : ControllerBlock)
    (index : Nat) :
    nearestRoute
        (hitsUpward index controller.attributes.reverse) =
      controller.base? := by
  rw [nearestRoute_hitsUpward]
  · rw [List.head?_reverse]
    unfold attributes base?
    rw [List.getLast?_map]
    cases controller.routes.getLast? with
    | none => rfl
    | some route => rfl
  · intro row hRow
    rw [List.mem_reverse] at hRow
    rcases List.mem_map.mp hRow with ⟨route, -, rfl⟩
    rfl

/- At its header a controller is found. -/
theorem declaredAt?_header
    (hSuffix : settings.controllerSuffix = suffix)
    {controller : ControllerBlock}
    (hFits : controller.Fits settings)
    {above : List Text}
    (hStopped : Stopped above)
    (index : Nat)
    (below : List Text) :
    Controller.declaredAt? settings
        ⟨index,
          (controller.attributes.map (·.line)).reverse ++
            above,
          controller.header, controller.bodyLines ++ below⟩ =
      some (controller.found index) := by
  have hBefore :
      controller.header.take controller.indent =
        indented controller.indent [] :=
    take_indented controller.indent _
  have hWindow :
      controller.attributes.length ≤
        settings.controllerWindow := by
    rw [controller.length_attributes]
    exact hFits.1
  have hNamed :
      Text.endsWith suffix controller.name.text = true :=
    List.isSuffixOf_iff_suffix.mpr controller.named
  unfold Controller.declaredAt?
  simp only [controller.classHeader?_header, hSuffix, hNamed,
    hBefore, attributesAbove_rows hStopped hWindow,
    controller.nearestRoute_attributes,
    controller.linesToClose_header, Option.bind_eq_bind,
    Option.bind_some, if_true]
  rfl

/- The lines of the span are the opening brace and actions. -/
theorem take_bodyLines
    (controller : ControllerBlock)
    (below : List Text) :
    (controller.bodyLines ++ below).take
        ((controller.actions.flatMap (·.lines)).length +
          1) =
      indented controller.openIndent ['{'] ::
        controller.actions.flatMap (·.lines) := by
  unfold bodyLines
  rw [List.cons_append, List.take_succ_cons,
    List.append_assoc, List.take_left' rfl]

/- At its header the records of a controller are collected. -/
theorem declaredFrom_header
    (hSuffix : settings.controllerSuffix = suffix)
    {controller : ControllerBlock}
    (hFits : controller.Fits settings)
    {above : List Text}
    (hStopped : Stopped above)
    (start : Nat)
    (below : List Text) :
    Route.declaredFrom settings origin
        ⟨start + controller.attributes.length,
          (controller.attributes.map (·.line)).reverse ++
            above,
          controller.header, controller.bodyLines ++ below⟩ =
      controller.routesFrom origin start := by
  have hDepth :
      start + controller.attributes.length +
            ((controller.actions.flatMap
              (·.lines)).length + 2) -
          (start + controller.attributes.length + 1) =
        (controller.actions.flatMap (·.lines)).length + 1 := by
    omega
  have hOpening :
      ∀ above,
        Stopped
          (indented controller.openIndent ['{'] ::
            above) := by
    rintro above line ⟨⟩
    exact
      ⟨isCommentLine_brace (Or.inl rfl) _,
        stopsScan_brace (Or.inl rfl) _⟩
  unfold Route.declaredFrom
  rw [declaredAt?_header hSuffix hFits hStopped]
  simp only [routes_eq_flatMap, Position.until, found,
    hDepth]
  change
    List.flatMap
        (collected settings origin
          (controller.found
            (start + controller.attributes.length))) _ = _
  rw [take_bodyLines, positionsFrom,
    List.flatMap_cons,
    collected_of_no_method
      (methodHeader?_brace (Or.inl rfl) _),
    List.nil_append,
    flatMap_actions hSuffix controller _ hFits.2
      (hOpening _),
    length_attributes]
  rfl

/- The lines of a controller end with one that stops. -/
theorem stopped_bodyLines
    (controller : ControllerBlock)
    (above : List Text) :
    Stopped (controller.bodyLines.reverse ++ above) := by
  unfold bodyLines
  simp only [List.reverse_cons, List.reverse_append,
    List.reverse_nil, List.nil_append, List.cons_append]
  rintro line ⟨⟩
  exact
    ⟨isCommentLine_brace (Or.inr rfl) _,
      stopsScan_brace (Or.inr rfl) _⟩

end ControllerBlock

------------------------------------------------------------
-- Files
------------------------------------------------------------

theorem declaredFrom_of_no_class
    {position : Position}
    (hClass : classHeader? position.line = none) :
    Route.declaredFrom settings origin position = [] := by
  unfold Route.declaredFrom Controller.declaredAt?
  rw [hClass]
  rfl

/-
  By induction on the controllers: only their headers
  declare controllers, and each body stops the scan for the
  routes of the next one.
-/
theorem flatMap_controllers
    (hSuffix : settings.controllerSuffix = suffix)
    {controllers : List ControllerBlock}
    (hFits :
      ∀ controller ∈ controllers,
        controller.Fits settings)
    {above : List Text}
    (hStopped : Stopped above)
    (start : Nat) :
    (positionsFrom start above
        (controllers.flatMap (·.lines))).flatMap
          (Route.declaredFrom settings origin) =
      routesFrom origin start controllers := by
  induction controllers generalizing above start with
  | nil => rfl
  | cons controller controllers ih =>
      rw [List.forall_mem_cons] at hFits
      have hRest := ih hFits.2
        (controller.stopped_bodyLines
          (controller.header ::
            ((controller.attributes.map
              (·.line)).reverse ++ above)))
        (start + controller.lines.length)
      rw [routesFrom, ← hRest,
        ← ControllerBlock.declaredFrom_header hSuffix
          hFits.1 hStopped start
          (controllers.flatMap (·.lines))]
      have hLength :
          start + controller.lines.length =
            start + controller.attributes.length + 1 +
              controller.bodyLines.length := by
        unfold ControllerBlock.lines
        simp
        omega
      rw [List.flatMap_cons, hLength]
      unfold ControllerBlock.lines
      rw [List.append_assoc, flatMap_positionsFrom_append,
        List.cons_append, positionsFrom, List.flatMap_cons,
        flatMap_positionsFrom_append, List.length_map]
      · intro position hLine
        exact declaredFrom_of_no_class
          (controller.classHeader?_bodyLines _ hLine)
      · intro position hLine
        rcases List.mem_map.mp hLine with ⟨row, -, hRow⟩
        apply declaredFrom_of_no_class
        rw [← hRow]
        exact row.classHeader?_line

/- The lines of a file are those that were laid out. -/
theorem lines_source
    {controllers : List ControllerBlock}
    (hControllers : controllers ≠ []) :
    Text.lines (source controllers) =
      controllers.flatMap (·.lines) := by
  apply lines_joinWith
  · cases controllers with
    | nil => exact absurd rfl hControllers
    | cons controller controllers =>
        simp [ControllerBlock.lines]
  · intro line hLine
    rcases List.mem_flatMap.mp hLine with
      ⟨controller, -, hLine⟩
    exact controller.isLine_of_mem line hLine

/-
  What is extracted from a file of the plain layout is what
  its layout says, if attributes reach no further than the
  windows.
-/
theorem ofSource_source
    (hSuffix : settings.controllerSuffix = suffix)
    {controllers : List ControllerBlock}
    (hFits :
      ∀ controller ∈ controllers,
        controller.Fits settings)
    (origin : Controller.Origin) :
    Route.ofSource settings origin (source controllers) =
      routes origin controllers := by
  by_cases hEmpty : controllers = []
  · subst hEmpty
    rfl
  · unfold Route.ofSource Route.ofLines routes
    rw [lines_source hEmpty]
    exact flatMap_controllers hSuffix hFits
      (by simp [Stopped]) 0

theorem solid_of_all
    {t : Text}
    (hSolid : t.all (fun c => !isBlank c) = true) :
    ∀ c ∈ t, isBlank c = false := by
  intro c hChar
  simpa using List.all_eq_true.mp hSolid c hChar

/- The template of a controller. -/
def ordersTemplate : Literal where
  text := "api/[controller]".toList
  noQuote := by decide
  noEscape := by decide
  solid := solid_of_all rfl
  noHttp := by decide

/- The template of an action, with a path parameter. -/
def numberTemplate : Literal where
  text := "\x7bid\x7d".toList
  noQuote := by decide
  noEscape := by decide
  solid := solid_of_all rfl
  noHttp := by decide

/- A line that ends a body. -/
def returnLine : BodyLine where
  text := "        return Ok(); // done".toList
  noLineEnd := by simp [endsLine]
  noBrace := by decide
  noQuote := by decide
  noDeclaration := by
    rintro ⟨before, word, hWord, after, hText, -, -⟩
    have hInfix :
        word <:+:
          "        return Ok(); // done".toList :=
      ⟨before, after, by rw [hText, List.append_assoc]⟩
    have hNone :
        ∀ word ∈ declaringWords,
          ¬word <:+:
            "        return Ok(); // done".toList := by
      decide
    exact hNone word hWord hInfix

/- An action with two attributes, and a plain method. -/
def ordersBlock : ControllerBlock where
  routes := [(0, ordersTemplate)]
  indent := 0
  name := .ofLetters "OrdersController".toList (by decide) rfl
  named := by decide
  openIndent := 0
  actions :=
    [{ attributes :=
         [⟨4, .bareVerb .get⟩, ⟨4, .route numberTemplate⟩]
       indent := 4
       name := .ofLetters "GetAsync".toList (by decide) rfl
       openIndent := 4
       body := [returnLine]
       closeIndent := 4 },
     { attributes := []
       indent := 4
       name := .ofLetters "Helper".toList (by decide) rfl
       openIndent := 4
       body := []
       closeIndent := 4 }]
  closeIndent := 0

/- The action is extracted, and the plain method is not. -/
theorem ofSource_ordersBlock :
    (({} : Settings).controllerSuffix = suffix) ∧
      (∀ controller ∈ [ordersBlock],
        controller.Fits {}) ∧
      Route.ofSource {} ⟨"Orders.cs".toList, none⟩
          (source [ordersBlock]) =
        [{ path := "/api/orders/\x7bid\x7d".toList
           verb := .get
           controller := "OrdersController".toList
           action := "GetAsync".toList
           sourceFile := "Orders.cs".toList
           line := 6
           project := none
           fragment := some "\x7bid\x7d".toList
           aliasName := none }] := by
  have hFits :
      ∀ controller ∈ [ordersBlock],
        controller.Fits {} := by
    simp [ControllerBlock.Fits, ordersBlock]
  refine ⟨rfl, hFits, ?_⟩
  rw [ofSource_source rfl hFits]
  rfl

end Layout

end RouteAtlas
