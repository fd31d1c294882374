import RouteAtlas.Controller.Extract
import RouteAtlas.Proofs.Source.Header
import RouteAtlas.Proofs.Text.Lines

/-
  Controller files of the plain layout.

  A file is a list of controllers.  Each has its route
  attributes, a header and, between braces on lines of their
  own, its actions; each of these has its attributes, a
  header and, between braces again, a body.  Every line may
  be indented by spaces.

  The routes of such a file can be read off its controllers
  without reading any text.

  Main definitions:
    * `Layout.source`
    * `Layout.routes`
-/

------------------------------------------------------------
-- Attributes
------------------------------------------------------------

namespace RouteAtlas

namespace Layout

open Source

/-
  A route template as it stands between quotes: solid text
  without quotes, escapes and what verb attributes begin
  with.
-/
structure Literal where
  text : Text
  noQuote : '"' ∉ text
  noEscape : '\\' ∉ text
  solid : ∀ c ∈ text, Text.isBlank c = false
  noHttp : ¬"Http".toList <:+: text

/- The names of the verb attributes. -/
inductive VerbWord where
  | get
  | post
  | put
  | delete
deriving DecidableEq, Repr

namespace VerbWord

/- The name as it is written. -/
def text :
    VerbWord → Text
  | .get => "HttpGet".toList
  | .post => "HttpPost".toList
  | .put => "HttpPut".toList
  | .delete => "HttpDelete".toList

/- The verb that the name stands for. -/
def verb :
    VerbWord → HttpVerb
  | .get => .get
  | .post => .post
  | .put => .put
  | .delete => .delete

end VerbWord

/- An attribute on a line of its own. -/
inductive Attribute where
  | bareVerb (word : VerbWord)
  | verb (word : VerbWord) (template : Literal)
  | route (template : Literal)

namespace Attribute

/- The name of the attribute. -/
def word :
    Attribute → Text
  | .bareVerb word => word.text
  | .verb word _ => word.text
  | .route _ => "Route".toList

/- The template, when there is one. -/
def literal? :
    Attribute → Option Literal
  | .bareVerb _ => none
  | .verb _ template => some template
  | .route template => some template

/- The arguments as they are written. -/
def arguments :
    Option Literal → Text
  | none => []
  | some template =>
      '(' :: '"' :: (template.text ++ ['"', ')'])

/- A name and its arguments between brackets. -/
def bracketed
    (word : Text)
    (literal : Option Literal) :
    Text :=
  '[' :: (word ++ (arguments literal ++ [']']))

/- The attribute as it is written. -/
def text
    (content : Attribute) :
    Text :=
  bracketed content.word content.literal?

/- The verb of a verb attribute. -/
def verb? :
    Attribute → Option HttpVerb
  | .bareVerb word => some word.verb
  | .verb word _ => some word.verb
  | .route _ => none

/- The text of the template, when there is one. -/
def template?
    (content : Attribute) :
    Option Text :=
  content.literal?.map (·.text)

/- Whether the attribute is a route attribute. -/
def isRoute :
    Attribute → Bool
  | .bareVerb _ => false
  | .verb _ _ => false
  | .route _ => true

end Attribute

/- An attribute and the spaces before it. -/
structure AttributeLine where
  indent : Nat
  content : Attribute

/- The line of an attribute. -/
def AttributeLine.line
    (row : AttributeLine) :
    Text :=
  indented row.indent row.content.text

------------------------------------------------------------
-- Actions
------------------------------------------------------------

/- A word, as names are. -/
structure Name where
  text : Text
  nonempty : text ≠ []
  isWord : ∀ c ∈ text, Text.isWordChar c = true

/- A name of letters and digits. -/
def Name.ofLetters
    (text : Text)
    (hNonempty : text ≠ [])
    (hLetters : text.all Char.isAlphanum = true) :
    Name where
  text := text
  nonempty := hNonempty
  isWord := fun c hChar =>
    Text.isWordChar_of_isAlphanum
      (List.all_eq_true.mp hLetters c hChar)

/- The words without which a line declares nothing. -/
def declaringWords : List Text :=
  "class".toList :: accessWords

/- Whether one of the words stands in a text as a whole. -/
def HoldsWhole
    (words : List Text)
    (t : Text) :
    Prop :=
  ∃ before, ∃ word ∈ words, ∃ after,
    t = before ++ (word ++ after) ∧
      Text.wordMayStart before.getLast? = true ∧
      Text.wordEndsAt after = true

/- A line of a body, which neither nests nor declares. -/
structure BodyLine where
  text : Text
  noLineEnd : ∀ c ∈ text, Text.endsLine c = false
  noBrace : '{' ∉ text ∧ '}' ∉ text
  noQuote : '"' ∉ text
  noDeclaration : ¬HoldsWhole declaringWords text

/-
  An action: its attributes from top to bottom, its header,
  and its body between two braces.
-/
structure ActionBlock where
  attributes : List AttributeLine
  indent : Nat
  name : Name
  openIndent : Nat
  body : List BodyLine
  closeIndent : Nat

namespace ActionBlock

/- The line of the header. -/
def header
    (action : ActionBlock) :
    Text :=
  indented action.indent
    ("public IActionResult ".toList ++
      (action.name.text ++ "()".toList))

/- The lines from the opening to the closing brace. -/
def bodyLines
    (action : ActionBlock) :
    List Text :=
  indented action.openIndent ['{'] ::
    (action.body.map (·.text) ++
      [indented action.closeIndent ['}']])

/- All lines of the action. -/
def lines
    (action : ActionBlock) :
    List Text :=
  action.attributes.map (·.line) ++
    action.header :: action.bodyLines

/-
  The verb of the topmost verb attribute.  Without one the
  action answers any verb if it has a route attribute or the
  controller's route has room for its name.
-/
def verb?
    (base : Option Text)
    (action : ActionBlock) :
    Option HttpVerb :=
  match action.attributes.findSome?
      (·.content.verb?) with
  | some verb => some verb
  | none =>
      if action.attributes.any (·.content.isRoute) ||
          base.any Template.namesAction then
        some .any
      else
        none

/- The template nearest to the header that is not empty. -/
def fragment?
    (action : ActionBlock) :
    Option Text :=
  (action.attributes.reverse.filterMap
    (·.content.template?)).find? (!·.isEmpty)

end ActionBlock

------------------------------------------------------------
-- Controllers
------------------------------------------------------------

/- What the names of controllers end with. -/
def suffix : Text := "Controller".toList

/-
  A controller: its routes from top to bottom, its header,
  and its actions between two braces.
-/
structure ControllerBlock where
  routes : List (Nat × Literal)
  indent : Nat
  name : Name
  named : suffix <:+ name.text
  openIndent : Nat
  actions : List ActionBlock
  closeIndent : Nat

namespace ControllerBlock

/- The route attributes above the header. -/
def attributes
    (controller : ControllerBlock) :
    List AttributeLine :=
  controller.routes.map fun (indent, template) =>
    ⟨indent, .route template⟩

/- The line of the header. -/
def header
    (controller : ControllerBlock) :
    Text :=
  indented controller.indent
    ("public class ".toList ++ controller.name.text)

/- The lines from the opening to the closing brace. -/
def bodyLines
    (controller : ControllerBlock) :
    List Text :=
  indented controller.openIndent ['{'] ::
    (controller.actions.flatMap (·.lines) ++
      [indented controller.closeIndent ['}']])

/- All lines of the controller. -/
def lines
    (controller : ControllerBlock) :
    List Text :=
  controller.attributes.map (·.line) ++
    controller.header :: controller.bodyLines

/- The template nearest to the header. -/
def base?
    (controller : ControllerBlock) :
    Option Text :=
  controller.routes.getLast?.map (·.2.text)

/- Whether attributes reach no further than the windows. -/
def Fits
    (settings : Settings)
    (controller : ControllerBlock) :
    Prop :=
  controller.routes.length ≤ settings.controllerWindow ∧
    ∀ action ∈ controller.actions,
      action.attributes.length ≤ settings.actionWindow

/-
  The record of an action whose first line has the index
  `start`, if it is accepted.
-/
def route?
    (origin : Controller.Origin)
    (controller : ControllerBlock)
    (start : Nat)
    (action : ActionBlock) :
    Option Route :=
  (action.verb? controller.base?).map fun verb =>
    { path :=
        Template.compose controller.base? action.fragment?
          controller.name.text action.name.text suffix
      verb
      controller := controller.name.text
      action := action.name.text
      sourceFile := origin.file
      line := start + action.attributes.length + 1
      project := origin.project
      fragment := action.fragment?
      aliasName := none }

/- The records of actions that follow one another. -/
def actionRoutes
    (origin : Controller.Origin)
    (controller : ControllerBlock) :
    Nat → List ActionBlock → List Route
  | _, [] => []
  | start, action :: rest =>
      (controller.route? origin start action).toList ++
        controller.actionRoutes origin
          (start + action.lines.length) rest

/- The records of a controller that starts at a line. -/
def routesFrom
    (origin : Controller.Origin)
    (start : Nat)
    (controller : ControllerBlock) :
    List Route :=
  controller.actionRoutes origin
    (start + controller.routes.length + 2)
    controller.actions

end ControllerBlock

------------------------------------------------------------
-- Files
------------------------------------------------------------

/- The text of a file with the given controllers. -/
def source
    (controllers : List ControllerBlock) :
    Text :=
  Text.joinWith ['\n'] (controllers.flatMap (·.lines))

/- The records of controllers that follow one another. -/
def routesFrom
    (origin : Controller.Origin) :
    Nat → List ControllerBlock → List Route
  | _, [] => []
  | start, controller :: rest =>
      controller.routesFrom origin start ++
        routesFrom origin
          (start + controller.lines.length) rest

/- The records of a file. -/
def routes
    (origin : Controller.Origin)
    (controllers : List ControllerBlock) :
    List Route :=
  routesFrom origin 0 controllers

end Layout

end RouteAtlas
