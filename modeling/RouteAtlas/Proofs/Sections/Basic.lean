import RouteAtlas.Controller.File
import RouteAtlas.Proofs.Layout.Basic
import RouteAtlas.Proofs.Source.Attribute

/-
  Lines of attribute sections.

  A line is a list of sections between brackets, each a list
  of attributes.  An attribute may have arguments: first a
  template, then named arguments.  Blanks may stand between
  any two marks.

  The attributes of such a line, with their columns, can be
  read off its sections without reading any text.

  Main definitions:
    * `Sections.Line.text`
    * `Sections.Line.hits`
    * `Sections.Attribute.IsClosed`
-/

------------------------------------------------------------
-- Arguments
------------------------------------------------------------

namespace RouteAtlas

namespace Sections

open Source Text

/- Blanks between two marks. -/
structure Gap where
  text : Text
  blank : ∀ c ∈ text, isBlank c = true

/- Some spaces. -/
def Gap.spaces
    (n : Nat) :
    Gap where
  text := List.replicate n ' '
  blank := by
    intro c hChar
    rw [List.eq_of_mem_replicate hChar]
    decide

/-
  What a string literal holds: no quote, no escape, and no
  text that attributes begin with.
-/
structure Literal where
  text : Text
  noQuote : '"' ∉ text
  noEscape : '\\' ∉ text
  noHttp : ¬"Http".toList <:+: text
  noRoute : ¬"Route".toList <:+: text

/- The literal between its quotes. -/
def Literal.quoted
    (literal : Literal) :
    Text :=
  '"' :: (literal.text ++ ['"'])

/- Whether parentheses close as they were opened. -/
def IsBalanced
    (t : Text) :
    Prop :=
  t.count '(' = t.count ')' ∧
    ∀ front, front <+: t → front.count ')' ≤ front.count '('

/- The value of a named argument. -/
inductive Value where
  | literal (content : Literal)
  | name (word : Layout.Name)
  | call (word : Layout.Name) (gap : Gap) (inside : Text)
      (balanced : IsBalanced inside)

/- The value as it is written. -/
def Value.text :
    Value → Text
  | .literal content => content.quoted
  | .name word => word.text
  | .call word gap inside _ =>
      word.text ++ (gap.text ++ '(' :: (inside ++ [')']))

/-
  Whether a route mark stands in a text where an attribute
  may follow it: before an opening parenthesis, a comma, a
  bracket or the end of the text.
-/
def OffersMark
    (t : Text) :
    Prop :=
  ∃ front, ∃ word ∈ Controller.routeMarks, ∃ back,
    t = front ++ (word ++ back) ∧
      wordMayStart front.getLast? = true ∧
      (back = [] ∨ FollowsName back)

/- Whether a value that is no literal offers no mark. -/
def Value.IsUnmarked
    (value : Value) :
    Prop :=
  match value with
  | .literal _ => True
  | _ => ¬OffersMark value.text

/- An argument with its name, and the blanks around both. -/
structure NamedArgument where
  before : Gap
  name : Layout.Name
  beforeSign : Gap
  afterSign : Gap
  value : Value
  behind : Gap

/- The argument as it is written. -/
def NamedArgument.text
    (argument : NamedArgument) :
    Text :=
  argument.before.text ++
    (argument.name.text ++
      (argument.beforeSign.text ++
        '=' ::
          (argument.afterSign.text ++
            (argument.value.text ++ argument.behind.text))))

/- Named arguments, with a comma before all but a first. -/
def listed :
    Bool → List NamedArgument → Text
  | _, [] => []
  | true, argument :: rest =>
      argument.text ++ listed false rest
  | false, argument :: rest =>
      ',' :: (argument.text ++ listed false rest)

/-
  The arguments of an attribute: perhaps a template, and any
  named ones.
-/
structure Arguments where
  before : Gap
  inner : Gap
  template? : Option Literal
  behind : Gap
  named : List NamedArgument

namespace Arguments

/- What stands between the template and the last parenthesis. -/
def tail
    (arguments : Arguments) :
    Text :=
  arguments.behind.text ++
    listed arguments.template?.isNone arguments.named

/- The arguments between their parentheses. -/
def text
    (arguments : Arguments) :
    Text :=
  arguments.before.text ++
    '(' ::
      (arguments.inner.text ++
        ((arguments.template?.map (·.quoted)).getD [] ++
          (arguments.tail ++ [')'])))

/-
  Whether the first parenthesis behind the template that
  closes anything is the last one, or has a comma or bracket
  behind it.
-/
def IsClosed
    (arguments : Arguments) :
    Prop :=
  ∀ others,
    after? ')' arguments.tail = some others →
      attributeEnds others = true

end Arguments

------------------------------------------------------------
-- Attributes
------------------------------------------------------------

/- A routing attribute. -/
inductive Attribute where
  | bareVerb (word : Layout.VerbWord)
  | verb (word : Layout.VerbWord) (arguments : Arguments)
  | route (arguments : Arguments)

namespace Attribute

/- The attribute as it is written. -/
def text :
    Attribute → Text
  | .bareVerb word => word.text
  | .verb word arguments => word.text ++ arguments.text
  | .route arguments => "Route".toList ++ arguments.text

/- The named arguments of the attribute. -/
def named :
    Attribute → List NamedArgument
  | .bareVerb _ => []
  | .verb _ arguments => arguments.named
  | .route arguments => arguments.named

/- The verb of a verb attribute, and its template. -/
def verb? :
    Attribute → Option (HttpVerb × Option Text)
  | .bareVerb word => some (word.verb, none)
  | .verb word arguments =>
      some (word.verb, arguments.template?.map (·.text))
  | .route _ => none

/- The template of a route attribute. -/
def route? :
    Attribute → Option Text
  | .bareVerb _ => none
  | .verb _ _ => none
  | .route arguments => arguments.template?.map (·.text)

/-
  Whether the arguments of an attribute that says something
  are closed where they seem to be.
-/
def IsClosed :
    Attribute → Prop
  | .bareVerb _ => True
  | .verb _ arguments => arguments.IsClosed
  | .route arguments =>
      arguments.template?.isSome → arguments.IsClosed

/- Whether no value of its arguments offers a mark. -/
def IsUnmarked
    (content : Attribute) :
    Prop :=
  ∀ argument ∈ content.named, argument.value.IsUnmarked

end Attribute

------------------------------------------------------------
-- Lines
------------------------------------------------------------

/- A stretch of a line: an attribute, or marks and blanks. -/
inductive Piece where
  | plain (marks : Text)
  | routing (content : Attribute)

/- The stretch as it is written. -/
def Piece.text :
    Piece → Text
  | .plain marks => marks
  | .routing content => content.text

/- The text of some pieces. -/
def textOf
    (pieces : List Piece) :
    Text :=
  pieces.flatMap (·.text)

/- The attributes of some pieces, with their columns. -/
def placedFrom :
    Nat → List Piece → List (Nat × Attribute)
  | _, [] => []
  | column, .plain marks :: rest =>
      placedFrom (column + marks.length) rest
  | column, .routing content :: rest =>
      (column, content) ::
        placedFrom (column + content.text.length) rest

/- An attribute in a section, and the blanks around it. -/
structure Item where
  before : Gap
  content : Attribute
  behind : Gap

/- The pieces of items, with a comma before all but a first. -/
def itemPieces :
    Bool → List Item → List Piece
  | _, [] => []
  | first, item :: rest =>
      .plain (if first then [] else [',']) ::
        .plain item.before.text ::
        .routing item.content ::
        .plain item.behind.text ::
        itemPieces false rest

/- The pieces of sections, each with the blanks behind it. -/
def sectionPieces :
    List (List Item × Gap) → List Piece
  | [] => []
  | (items, gap) :: rest =>
      .plain ['['] ::
        (itemPieces true items ++
          .plain [']'] ::
            .plain gap.text ::
            sectionPieces rest)

/- A line of sections, with blanks before and between them. -/
structure Line where
  indent : Gap
  sections : List (List Item × Gap)

namespace Line

/- The pieces of the line. -/
def pieces
    (line : Line) :
    List Piece :=
  .plain line.indent.text :: sectionPieces line.sections

/- The line as it is written. -/
def text
    (line : Line) :
    Text :=
  textOf line.pieces

/- The attributes of the line, with their columns. -/
def placed
    (line : Line) :
    List (Nat × Attribute) :=
  placedFrom 0 line.pieces

/-
  What should be found on the line: each verb attribute from
  left to right, then each route attribute with a template.
-/
def hits
    (line : Line)
    (index : Nat) :
    List AttributeHit :=
  (line.placed.filterMap fun (column, content) =>
    content.verb?.map fun (verb, template) =>
      ⟨.verb verb, template, index, column⟩) ++
  (line.placed.filterMap fun (column, content) =>
    content.route?.map fun template =>
      ⟨.route, some template, index, column⟩)

/- Whether no value of an argument offers a mark. -/
def IsUnmarked
    (line : Line) :
    Prop :=
  ∀ placed ∈ line.placed, placed.2.IsUnmarked

/- Whether all arguments are closed where they seem to be. -/
def IsClosed
    (line : Line) :
    Prop :=
  ∀ placed ∈ line.placed, placed.2.IsClosed

end Line

end Sections

end RouteAtlas
