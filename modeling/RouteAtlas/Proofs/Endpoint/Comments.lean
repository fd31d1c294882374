import Mathlib
import RouteAtlas.Endpoint.Basic
import RouteAtlas.Proofs.Controller.Comments
import RouteAtlas.Proofs.Source.Position

/-
  Comments at the ends of lines.

  Routes and endpoints are read from whole lines, comments
  included, so a comment that holds a mark of its own can
  change them.  A silent comment holds none, and dropping it
  from any lines changes nothing: no route, and no endpoint
  but for its parameters.  These change only if a comment
  stands on a line that the signature captures whole, that
  is, within a parameter list of several lines.

  Main statements:
    * `closedLines_eq`
    * `detect?_dropsComments`
    * `ofSource_and_ofText?_dropsComments`
-/

------------------------------------------------------------
-- Signatures
------------------------------------------------------------

namespace RouteAtlas

open Source

namespace Signature

/-
  Whether a line is another one without an end in which no
  group is closed.
-/
def DropsEnd
    (line line' : Text) :
    Prop :=
  ∃ back, line = line' ++ back ∧ ')' ∉ back

/- Without a closing parenthesis no group is closed. -/
theorem closedPart_of_not_mem
    {t : Text}
    (hParen : ')' ∉ t)
    (state : Parens) :
    ∃ last, closedPart state t = .error last := by
  induction t generalizing state with
  | nil => exact ⟨state, rfl⟩
  | cons c t ih =>
      rw [List.mem_cons, not_or] at hParen
      have hOpen : ¬state.closes c = true := by
        simp [Parens.closes, Ne.symm hParen.1]
      rcases ih hParen.2 (state.step c) with ⟨last, hLast⟩
      exact ⟨last, by rw [closedPart, if_neg hOpen, hLast]; rfl⟩

theorem DropsEnd.drop
    {line line' : Text}
    (hDrops : DropsEnd line line')
    {column : Nat}
    (hColumn : column ≤ line'.length) :
    DropsEnd (line.drop column) (line'.drop column) := by
  rcases hDrops with ⟨back, rfl, hParen⟩
  exact
    ⟨back, List.drop_append_of_le_length hColumn, hParen⟩

/- The part that closes a group is read without the end. -/
theorem closedPart_of_dropsEnd
    {state : Parens}
    {line line' part : Text}
    (hDrops : DropsEnd line line')
    (hClosed : closedPart state line = .ok part) :
    closedPart state line' = .ok part := by
  rcases hDrops with ⟨back, rfl, hParen⟩
  induction line' generalizing state part with
  | nil =>
      rcases closedPart_of_not_mem hParen state with
        ⟨last, hOpen⟩
      rw [List.nil_append, hOpen] at hClosed
      exact absurd hClosed (by simp)
  | cons c line' ih =>
      rw [List.cons_append, closedPart] at hClosed
      rw [closedPart]
      split at hClosed
      next hCloses =>
        rw [if_pos hCloses, ← hClosed]
      next hOpen =>
        rw [if_neg hOpen]
        cases hRest :
            closedPart (state.step c) (line' ++ back) with
        | error last =>
            rw [hRest] at hClosed
            exact absurd hClosed (by simp [Except.map])
        | ok rest =>
            rw [ih hRest, ← hClosed, hRest]

/-
  How many lines a signature captures whole: all before the
  one that closes it.
-/
def wholeLines
    (state : Parens) :
    List Text → Nat
  | [] => 0
  | line :: rest =>
      match closedPart state line with
      | .ok _ => 0
      | .error state => wholeLines state rest + 1

/-
  Line by line: the lines captured whole are the same, and
  the line that closes the signature closes it before its
  end is dropped.
-/
theorem closedLines_eq
    {lines lines' : List Text}
    (hLines : List.Forall₂ DropsEnd lines lines')
    {state : Parens}
    (hWhole :
      lines'.take (wholeLines state lines) =
        lines.take (wholeLines state lines)) :
    closedLines state lines' = closedLines state lines := by
  induction hLines generalizing state with
  | nil => rfl
  | @cons line line' rest rest' hLine hRest ih =>
      rw [wholeLines] at hWhole
      rw [closedLines, closedLines]
      cases hPart : closedPart state line with
      | ok part =>
          rw [closedPart_of_dropsEnd hLine hPart]
      | error last =>
          simp only [hPart, List.take_succ_cons,
            List.cons.injEq] at hWhole
          rw [hWhole.1, hPart]
          simp only [ih hWhole.2]

end Signature

------------------------------------------------------------
-- Parameters
------------------------------------------------------------

namespace Source

/- A silent comment closes no group. -/
theorem DropsComment.dropsEnd
    {line line' : Text}
    (hDrops : DropsComment line line') :
    Signature.DropsEnd line line' := by
  cases hDrops with
  | kept => exact ⟨[], by simp, by simp⟩
  | dropped code comment hCode hSilent =>
      exact
        ⟨endComment comment, rfl,
          not_mem_endComment (by decide) hSilent.paren⟩

theorem distance_le_of_readMethod
    {previous : Option Char}
    {t : Text}
    {signature : Signature}
    {distance : Nat}
    (hRead :
      readMethod previous t = some (signature, distance)) :
    distance ≤ t.length := by
  unfold readMethod at hRead
  split at hRead
  next =>
    simp only [Option.bind_eq_bind, Option.bind_eq_some_iff,
      Option.pure_def, Option.some.injEq, Prod.mk.injEq]
      at hRead
    rcases hRead with ⟨-, -, -, -, rfl, rfl⟩
    exact Nat.sub_le _ _
  next => simp at hRead

/- The parenthesis of a method stands in its line. -/
theorem openParen_le_of_methodHeader?
    {line : Text}
    {header : MethodHeader}
    (hHeader : methodHeader? line = some header) :
    header.openParen ≤ line.length := by
  unfold methodHeader? at hHeader
  split at hHeader
  next => simp at hHeader
  next =>
    rcases Option.map_eq_some_iff.mp hHeader with
      ⟨⟨start, signature, distance⟩, hFound, rfl⟩
    rcases Text.find?_located hFound with
      ⟨before, rest, rfl, rfl, hRead⟩
    have hDistance := distance_le_of_readMethod hRead
    simp only [List.length_append]
    omega

end Source

/- The method of an action is the one on its line. -/
theorem Controller.method_of_actionAt?
    {settings : Settings}
    {window : Nat}
    {controller : Controller}
    {position : Position}
    {action : Controller.Action}
    (hAction :
      controller.actionAt? settings window position =
        some action) :
    methodHeader? position.line = some action.method := by
  unfold Controller.actionAt? at hAction
  simp only [Option.bind_eq_bind, Option.bind_eq_some_iff,
    Option.pure_def, Option.some.injEq] at hAction
  rcases hAction with ⟨method, hMethod, verb, -, rfl⟩
  exact hMethod

namespace Endpoint

variable {settings : Settings}
variable {lines lines' : List Text}

/-
  Whether the lines that the signature on a line captures
  whole are the same in two files.
-/
def KeepsSignature
    (settings : Settings)
    (lines lines' : List Text)
    (index : Nat) :
    Prop :=
  ∀ position ∈ position? lines index,
    ∀ method ∈ methodHeader? position.line,
      let whole :=
        Signature.wholeLines .start
          (position.line.drop method.openParen ::
            position.below.take settings.signatureWindow)
      (lines'.drop index).take whole =
        (lines.drop index).take whole

/-
  A signature that keeps its whole lines is captured as
  before, and so are the parameters.
-/
theorem parametersAt_dropsComments
    {position position' : Position}
    (hDrops : position.DropsComments position')
    {action : Controller.Action}
    (hMethod : methodHeader? position.line = some action.method)
    (hWhole :
      let whole :=
        Signature.wholeLines .start
          (position.line.drop action.method.openParen ::
            position.below.take settings.signatureWindow)
      (position'.line :: position'.below).take whole =
        (position.line :: position.below).take whole) :
    parametersAt settings action position' =
      parametersAt settings action position := by
  have hColumn :
      action.method.openParen ≤ position'.line.length := by
    rw [← hDrops.line.methodHeader?] at hMethod
    exact openParen_le_of_methodHeader? hMethod
  have hEnds :
      List.Forall₂ Signature.DropsEnd
        (position.line.drop action.method.openParen ::
          position.below.take settings.signatureWindow)
        (position'.line.drop action.method.openParen ::
          position'.below.take settings.signatureWindow) :=
    List.Forall₂.cons
      (hDrops.line.dropsEnd.drop hColumn)
      ((List.forall₂_take _ hDrops.below).imp
        fun _ _ hLine => hLine.dropsEnd)
  have hCaptured :
      Signature.closedLines .start
          (position'.line.drop action.method.openParen ::
            position'.below.take settings.signatureWindow) =
        Signature.closedLines .start
          (position.line.drop action.method.openParen ::
            position.below.take settings.signatureWindow) := by
    apply Signature.closedLines_eq hEnds
    revert hWhole
    generalize Signature.wholeLines .start
      (position.line.drop action.method.openParen ::
        position.below.take settings.signatureWindow) = whole
    intro hWhole
    cases whole with
    | zero => rfl
    | succ more =>
        simp only [List.take_succ_cons, List.cons.injEq]
          at hWhole ⊢
        refine ⟨by rw [hWhole.1], ?_⟩
        rw [List.take_take, Nat.min_comm, ← List.take_take,
          hWhole.2, List.take_take, Nat.min_comm,
          ← List.take_take]
  unfold parametersAt Signature.captureFrom
  rw [hCaptured]

------------------------------------------------------------
-- Detection
------------------------------------------------------------

/- The endpoint without what is known of its parameters. -/
def withoutParameters
    (endpoint : Endpoint) :
    Endpoint :=
  { endpoint with parameters := [] }

/- Lists that are related are related place by place. -/
theorem getElem?_of_forall₂
    {α β : Type}
    {related : α → β → Prop}
    {xs : List α}
    {ys : List β}
    (hRelated : List.Forall₂ related xs ys)
    (i : Nat) :
    Option.Rel related xs[i]? ys[i]? := by
  induction hRelated generalizing i with
  | nil => exact Option.Rel.none
  | cons hHead hTail ih =>
      cases i with
      | zero => exact Option.Rel.some hHead
      | succ i =>
          rw [List.getElem?_cons_succ,
            List.getElem?_cons_succ]
          exact ih i

/- A position and the lines below it end the file. -/
theorem drop_of_position?
    {index : Nat}
    {position : Position}
    (hPosition : position? lines index = some position) :
    lines.drop index = position.line :: position.below := by
  rcases position?_eq_some_iff.mp hPosition with
    ⟨line, hLine, rfl⟩
  rcases List.getElem?_eq_some_iff.mp hLine with
    ⟨hIndex, rfl⟩
  exact List.drop_eq_getElem_cons hIndex

theorem position?_dropsComments
    (hLines : List.Forall₂ DropsComment lines lines')
    (index : Nat) :
    Option.Rel Position.DropsComments
      (position? lines index) (position? lines' index) := by
  rw [← getElem?_positions, ← getElem?_positions]
  exact
    getElem?_of_forall₂ (positions_dropsComments hLines) index

/- The action declared at a position, and its owner. -/
def detectedAt?
    (settings : Settings)
    (lines : List Text)
    (position : Position) :
    Option Detected := do
  let _ ← methodHeader? position.line
  let controller ←
    Controller.owner? (Controller.all settings lines)
      position.index
  let action ←
    controller.actionAt? settings settings.detectorWindow
      position
  return {
    controller
    action
    parameters := parametersAt settings action position }

theorem detect?_eq
    (settings : Settings)
    (lines : List Text)
    (line : Int) :
    detect? settings lines line =
      if line < 1 then
        none
      else
        (position? lines (line - 1).toNat).bind
          (detectedAt? settings lines) := by
  rfl

/-
  Whether the same action was detected in another file, with
  the same parameters if its signature was kept.
-/
def SameBut
    (settings : Settings)
    (lines lines' : List Text)
    (index : Nat)
    (detected detected' : Detected) :
    Prop :=
  detected'.controller = detected.controller ∧
    detected'.action = detected.action ∧
    (KeepsSignature settings lines lines' index →
      detected'.parameters = detected.parameters)

theorem detectedAt?_dropsComments
    (hLines : List.Forall₂ DropsComment lines lines')
    {index : Nat}
    {position position' : Position}
    (hPosition : position? lines index = some position)
    (hPosition' : position? lines' index = some position')
    (hDrops : position.DropsComments position') :
    Option.Rel (SameBut settings lines lines' index)
      (detectedAt? settings lines position)
      (detectedAt? settings lines' position') := by
  unfold detectedAt?
  rw [hDrops.line.methodHeader?, hDrops.index,
    Controller.all_dropsComments hLines]
  cases hMethod : methodHeader? position.line with
  | none => exact Option.Rel.none
  | some method =>
      cases hOwner :
          Controller.owner? (Controller.all settings lines)
            position.index with
      | none => exact Option.Rel.none
      | some controller =>
          simp only [Option.bind_eq_bind, Option.bind_some,
            Controller.actionAt?_dropsComments hDrops]
          cases hAction :
              controller.actionAt? settings
                settings.detectorWindow position with
          | none => exact Option.Rel.none
          | some action =>
              have hSame :=
                Controller.method_of_actionAt? hAction
              refine Option.Rel.some ⟨rfl, rfl, ?_⟩
              intro hKeeps
              apply parametersAt_dropsComments hDrops hSame
              rw [← drop_of_position? hPosition,
                ← drop_of_position? hPosition']
              exact
                hKeeps position hPosition action.method hSame

/- The same action is detected on the same line. -/
theorem detect?_dropsComments
    (settings : Settings)
    (hLines : List.Forall₂ DropsComment lines lines')
    (line : Int) :
    Option.Rel
      (SameBut settings lines lines' (line - 1).toNat)
      (detect? settings lines line)
      (detect? settings lines' line) := by
  rw [detect?_eq, detect?_eq]
  split
  next => exact Option.Rel.none
  next =>
    have hRelated :=
      position?_dropsComments hLines (line - 1).toNat
    generalize hOld : position? lines (line - 1).toNat = old
      at hRelated
    generalize hNew : position? lines' (line - 1).toNat = new
      at hRelated
    cases hRelated with
    | none => exact Option.Rel.none
    | some hDrops =>
        exact
          detectedAt?_dropsComments hLines hOld hNew hDrops

------------------------------------------------------------
-- Files
------------------------------------------------------------

/-
  Silent comments may be dropped from any lines of a text:
  its routes stay the same, and so does the endpoint on each
  line but for the parameters, which stay the same if the
  lines that the signature captures whole do.
-/
theorem ofSource_and_ofText?_dropsComments
    (settings : Settings)
    (origin : Controller.Origin)
    (source source' : Text)
    (hLines :
      List.Forall₂ DropsComment
        (Text.lines source) (Text.lines source')) :
    Route.ofSource settings origin source' =
        Route.ofSource settings origin source ∧
      ∀ line,
        (ofText? settings source' line).map
            withoutParameters =
          (ofText? settings source line).map
            withoutParameters ∧
        (KeepsSignature settings (Text.lines source)
            (Text.lines source') (line - 1).toNat →
          ofText? settings source' line =
            ofText? settings source line) := by
  refine
    ⟨Route.ofLines_dropsComments hLines settings origin, ?_⟩
  intro line
  have hDetected :=
    detect?_dropsComments settings hLines line
  unfold ofText?
  generalize detect? settings (Text.lines source) line =
    old at hDetected
  generalize detect? settings (Text.lines source') line =
    new at hDetected
  cases hDetected with
  | none => exact ⟨rfl, fun _ => rfl⟩
  | @some detected detected' hSame =>
      rcases hSame with
        ⟨hController, hAction, hParameters⟩
      constructor
      · simp [ofDetected, withoutParameters, hController,
          hAction]
      · intro hKeeps
        simp [ofDetected, hController, hAction,
          hParameters hKeeps]

/- A controller with comments that say nothing. -/
def shopLines : List Text :=
  ["".toList ++ endComment " the shop".toList,
   "public class ShopController ".toList ++
     endComment " to do".toList,
   "\x7b".toList,
   "    [HttpGet(\"\x7bid\x7d\")] ".toList ++
     endComment " one item".toList,
   "    public IActionResult Item(int id) ".toList ++
     endComment " by (id".toList,
   "        => Ok();".toList,
   "\x7d".toList]

/- The same controller without the comments. -/
def plainShopLines : List Text :=
  ["".toList,
   "public class ShopController ".toList,
   "\x7b".toList,
   "    [HttpGet(\"\x7bid\x7d\")] ".toList,
   "    public IActionResult Item(int id) ".toList,
   "        => Ok();".toList,
   "\x7d".toList]

def shop : Text :=
  Text.joinWith ['\n'] shopLines

def plainShop : Text :=
  Text.joinWith ['\n'] plainShopLines

theorem shop_dropsComments :
    List.Forall₂ DropsComment
      (Text.lines shop) (Text.lines plainShop) := by
  have hLines : Text.lines shop = shopLines := by
    decide +kernel
  have hPlain : Text.lines plainShop = plainShopLines := by
    decide +kernel
  rw [hLines, hPlain]
  refine .cons (.dropped _ _ (by decide +kernel) ?_)
    (.cons (.dropped _ _ (by decide +kernel) ?_)
      (.cons (.kept _)
        (.cons (.dropped _ _ (by decide +kernel) ?_)
          (.cons (.dropped _ _ (by decide +kernel) ?_)
            (.cons (.kept _) (.cons (.kept _) .nil))))))
  all_goals
    exact isSilent_of_not_infix (by decide) (by decide)
      (by decide +kernel)

theorem shop_withoutComments :
    List.Forall₂ DropsComment
        (Text.lines shop) (Text.lines plainShop) ∧
      KeepsSignature .default (Text.lines shop)
        (Text.lines plainShop) 4 ∧
      (Route.ofSource .default ⟨[], none⟩ shop).map
          (·.line) =
        [5] ∧
      Route.ofSource .default ⟨[], none⟩ plainShop =
        Route.ofSource .default ⟨[], none⟩ shop ∧
      ofText? .default plainShop 5 =
        ofText? .default shop 5 := by
  have hKeeps :
      KeepsSignature .default (Text.lines shop)
        (Text.lines plainShop) 4 := by
    unfold KeepsSignature
    decide +kernel
  have hSame :=
    ofSource_and_ofText?_dropsComments .default ⟨[], none⟩
      shop plainShop shop_dropsComments
  exact
    ⟨shop_dropsComments, hKeeps, by decide +kernel, hSame.1,
      (hSame.2 5).2 hKeeps⟩

/- The text with every end comment dropped. -/
def dropComments
    (source : Text) :
    Text :=
  Text.joinWith ['\n']
    ((Text.lines source).map withoutComment)

/- A comment that names another verb than the attribute. -/
def notedVerb : Text :=
  Text.joinWith ['\n']
    ["public class OrdersController".toList,
     "\x7b".toList,
     "    [HttpGet] // was [HttpPost]".toList,
     "    public IActionResult All() => Ok();".toList,
     "\x7d".toList]

/- A comment within a parameter list of two lines. -/
def notedParameter : Text :=
  Text.joinWith ['\n']
    ["public class OrdersController".toList,
     "\x7b".toList,
     "    [HttpGet]".toList,
     "    public int Range(int low, // at least".toList,
     "        int high) => 1;".toList,
     "\x7d".toList]

/-
  The verb is read from the comment, and the parameter below
  the other comment is lost.
-/
theorem comments_change_reading :
    ((Route.ofSource .default ⟨[], none⟩ notedVerb).map
          (·.verb) =
        [.post] ∧
      (Route.ofSource .default ⟨[], none⟩
          (dropComments notedVerb)).map (·.verb) =
        [.get]) ∧
      ((ofText? .default notedParameter 4).map
            (fun endpoint =>
              endpoint.parameters.map (·.name)) =
          some ["low".toList] ∧
        (ofText? .default
              (dropComments notedParameter) 4).map
            (fun endpoint =>
              endpoint.parameters.map (·.name)) =
          some ["low".toList, "high".toList]) := by
  decide +kernel

end Endpoint

end RouteAtlas
