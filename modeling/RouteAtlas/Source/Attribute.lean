import RouteAtlas.Source.MethodHeader
import RouteAtlas.Route.Verb

/-
  Routing attributes of a line: `HttpGet`, `HttpPost`,
  `HttpPut`, `HttpDelete` and `Route`, each followed by the
  comma or bracket that ends it.  A template is a string
  literal that comes first among the arguments.
-/

------------------------------------------------------------
-- Hits
------------------------------------------------------------

namespace RouteAtlas

namespace Source

open Text

/- A verb attribute or a route attribute. -/
inductive AttributeKind where
  | verb (verb : HttpVerb)
  | route
deriving DecidableEq, Repr

/- A routing attribute and where it stands. -/
structure AttributeHit where
  kind : AttributeKind
  template : Option Text
  lineIndex : Nat
  column : Nat
deriving DecidableEq, Repr

/- The verb of a verb attribute. -/
def AttributeHit.verb?
    (hit : AttributeHit) :
    Option HttpVerb :=
  match hit.kind with
  | .verb verb => some verb
  | .route => none

/- Whether the hit is a route attribute. -/
def AttributeHit.isRoute
    (hit : AttributeHit) :
    Bool :=
  hit.kind == .route

------------------------------------------------------------
-- Arguments
------------------------------------------------------------

/- Whether a comma or a bracket ends the attribute here. -/
def attributeEnds
    (t : Text) :
    Bool :=
  match dropBlanks t with
  | ',' :: _ => true
  | ']' :: _ => true
  | _ => false

/- Answers the rest of a text at which an attribute ends. -/
def endOfAttribute?
    (t : Text) :
    Option Text :=
  if attributeEnds t then some t else none

/- Passes a closing parenthesis that ends the attribute. -/
def closeArguments?
    (t : Text) :
    Option Text :=
  (after? ')' t).bind endOfAttribute?

/- Reads a quoted template and what follows the quote. -/
def quotedTemplate?
    (t : Text) :
    Option (Text × Text) :=
  match t with
  | '"' :: rest =>
      (after? '"' rest).map fun tail => (before '"' rest, tail)
  | _ => none

/- Reads a template and passes the other arguments. -/
def templateArguments?
    (arguments : Text) :
    Option (Text × Text) := do
  let (template, t) ← quotedTemplate? (dropBlanks arguments)
  let t ← closeArguments? t
  return (template, t)

/- Passes an opening parenthesis after blanks. -/
def openArguments?
    (t : Text) :
    Option Text :=
  match dropBlanks t with
  | '(' :: arguments => some arguments
  | _ => none

/-
  Reads the optional arguments of a verb attribute: first
  with a template, then without one, then none at all.
-/
def verbArguments?
    (t : Text) :
    Option (Option Text × Text) :=
  match openArguments? t with
  | some arguments =>
      match templateArguments? arguments with
      | some (template, rest) => some (some template, rest)
      | none =>
          (closeArguments? arguments).map fun rest =>
            (none, rest)
  | none =>
      (endOfAttribute? t).map fun rest => (none, rest)

------------------------------------------------------------
-- Attributes
------------------------------------------------------------

/- The verb attributes by what follows `Http`. -/
def verbWords : List (Text × HttpVerb) :=
  [("Get".toList, .get), ("Post".toList, .post),
   ("Put".toList, .put), ("Delete".toList, .delete)]

/- Reads one of the verb words. -/
def verbWord?
    (t : Text) :
    Option (HttpVerb × Text) :=
  verbWords.findSome? fun (word, verb) =>
    (word.isPrefixOf? t).map fun rest => (verb, rest)

/- Reads a verb attribute, with the length read. -/
def readVerbAttribute
    (previous : Option Char)
    (t : Text) :
    Option ((HttpVerb × Option Text) × Nat) :=
  if wordMayStart previous then do
    let rest ← "Http".toList.isPrefixOf? t
    let (verb, rest) ← verbWord? rest
    let (template, rest) ← verbArguments? rest
    return ((verb, template), t.length - rest.length)
  else
    none

/- Reads a route attribute, with the length read. -/
def readRouteAttribute
    (previous : Option Char)
    (t : Text) :
    Option (Text × Nat) :=
  if wordMayStart previous then do
    let rest ← "Route".toList.isPrefixOf? t
    let arguments ← openArguments? rest
    let (template, rest) ← templateArguments? arguments
    return (template, t.length - rest.length)
  else
    none

/-
  The routing attributes of a line: verb attributes from
  left to right, then route attributes from left to right.
-/
def attributesOnLine
    (line : Text)
    (index : Nat) :
    List AttributeHit :=
  ((findAll readVerbAttribute line).map
    fun (column, verb, template) =>
      ⟨.verb verb, template, index, column⟩) ++
  ((findAll readRouteAttribute line).map
    fun (column, template) =>
      ⟨.route, some template, index, column⟩)

end Source

end RouteAtlas
