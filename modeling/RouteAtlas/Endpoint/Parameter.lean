import RouteAtlas.Source.MethodHeader
import RouteAtlas.Route.Template
import RouteAtlas.Route.Verb

/-
  Parameters of an action.

  A parameter is written as attributes, modifiers, a type, a
  name and perhaps a default.  It is bound to the path, the
  query, the body or a header: by an attribute that says so,
  else to the path if the route names it, else by the verb.
-/

------------------------------------------------------------
-- Formal Parameters
------------------------------------------------------------

namespace RouteAtlas

open Text Source

/- A parameter as it is declared. -/
structure FormalParameter where
  attributes : Text
  declaredType : Text
  name : Text
  hasDefault : Bool
deriving DecidableEq, Repr

namespace FormalParameter

/- The modifiers of a parameter. -/
def modifiers : List Text :=
  ["this".toList, "ref".toList, "out".toList,
   "in".toList, "params".toList, "scoped".toList]

/-
  Passes any number of attribute sections and the blanks
  behind them.  Every section takes a character, so `fuel`
  may be the length.
-/
def skipSections :
    Nat → Text → Text
  | 0, t => t
  | fuel + 1, t =>
      match t with
      | '[' :: rest =>
          match after? ']' rest with
          | some rest => skipSections fuel (dropBlanks rest)
          | none => t
      | _ => t

/-
  Passes any number of `[]`, with or without blanks between
  the brackets, `fuel` being the length.
-/
def skipRanks :
    Nat → Text → Text
  | 0, t => t
  | fuel + 1, t =>
      match t with
      | '[' :: rest =>
          match dropBlanks rest with
          | ']' :: rest => skipRanks fuel rest
          | _ => t
      | _ => t

/- The type and name of a parameter, and its default. -/
structure Declaration where
  typeText : Text
  name : Text
  hasDefault : Bool
deriving DecidableEq, Repr

/- Passes the `@` of a name that would be a keyword. -/
def skipAt :
    Text → Text
  | '@' :: rest => rest
  | t => t

/- Whether a default is written, or the text ends. -/
def default? :
    Text → Option Bool
  | [] => some false
  | '=' :: _ => some true
  | _ => none

/-
  Reads the end of the type, the name and the default;
  `whole` is the text from the type on.
-/
def readTypeEnd
    (whole t : Text) :
    Option Declaration := do
  let t := skipNullableMark (skipRanks t.length t)
  let typeText := whole.take (whole.length - t.length)
  let t ← blanks? t
  let (name, t) ← word? (skipAt t)
  let hasDefault ← default? (dropBlanks t)
  return ⟨typeText, name, hasDefault⟩

/- Reads a declaration that starts with its type. -/
def readDeclaration
    (t : Text) :
    Option Declaration :=
  match t.span isDottedChar with
  | ([], _) => none
  | (_, rest) =>
      match dropBlanks rest with
      | '<' :: arguments =>
          lastClosing? (fun _ => false) (readTypeEnd t)
            arguments
      | _ => readTypeEnd t rest

/-
  Reads modifiers and a declaration, as many modifiers as
  possible, `fuel` being the length.
-/
def readModifiersUpTo :
    Nat → Text → Option Declaration
  | 0, t => readDeclaration t
  | fuel + 1, t =>
      match wordThenBlanks? modifiers t with
      | some rest =>
          (readModifiersUpTo fuel rest).orElse fun _ =>
            readDeclaration t
      | none => readDeclaration t

/- The parameter that a text declares. -/
def ofText?
    (t : Text) :
    Option FormalParameter :=
  let t := strip t
  let rest := skipSections t.length t
  (readModifiersUpTo rest.length rest).map
    fun declaration =>
      { attributes := t.take (t.length - rest.length)
        declaredType :=
          strip (collapseBlanks declaration.typeText)
        name := declaration.name
        hasDefault := declaration.hasDefault }

end FormalParameter

------------------------------------------------------------
-- Binding
------------------------------------------------------------

/- Where the value of a parameter comes from. -/
inductive ParameterSource where
  | path
  | query
  | body
  | header
deriving DecidableEq, Repr

namespace ParameterSource

/- All sources. -/
def all : List ParameterSource :=
  [.path, .query, .body, .header]

/- The source as it is written in records. -/
def text :
    ParameterSource → Text
  | .path => "Path".toList
  | .query => "Query".toList
  | .body => "Body".toList
  | .header => "Header".toList

/- The source written by the given text. -/
def ofText?
    (t : Text) :
    Option ParameterSource :=
  all.find? fun source => source.text == t

/- The source of a parameter that nothing else decides. -/
def ofVerb :
    HttpVerb → ParameterSource
  | .get => .query
  | .delete => .query
  | .any => .query
  | .post => .body
  | .put => .body

/- The binding attributes by what follows `From`. -/
def bindingWords : List (Text × ParameterSource) :=
  [("Query".toList, .query), ("Body".toList, .body),
   ("Header".toList, .header), ("Route".toList, .path)]

/- Reads a binding attribute. -/
def readBinding
    (previous : Option Char)
    (t : Text) :
    Option ParameterSource :=
  if wordMayStart previous then do
    let rest ← "From".toList.isPrefixOf? t
    bindingWords.findSome? fun (word, source) =>
      match word.isPrefixOf? rest with
      | some rest =>
          if wordEndsAt rest then some source else none
      | none => none
  else
    none

end ParameterSource

namespace FormalParameter

/- The source that a parameter is bound to. -/
def bind
    (parameter : FormalParameter)
    (verb : HttpVerb)
    (pathParameters : List Text) :
    ParameterSource :=
  match find? ParameterSource.readBinding
      parameter.attributes with
  | some (_, source) => source
  | none =>
      if pathParameters.contains (lower parameter.name) then
        .path
      else
        .ofVerb verb

/-
  Whether a request has to give the parameter.  Only if it
  is to be inferred can it be optional: by a nullable type
  or a default.
-/
def isRequired
    (parameter : FormalParameter)
    (inferOptional : Bool) :
    Bool :=
  !inferOptional ||
    !(endsWith ['?'] parameter.declaredType ||
      parameter.hasDefault)

end FormalParameter

/- Whether a type is the one of cancellation tokens. -/
def isCancellationToken
    (declaredType : Text) :
    Bool :=
  let simple :=
    dropEndWhile (· == '?') (strip declaredType)
  lower ((splitOn '.' simple).getLast?.getD []) ==
    "cancellationtoken".toList

------------------------------------------------------------
-- Parameters of Endpoints
------------------------------------------------------------

/- A parameter of an endpoint. -/
structure Parameter where
  name : Text
  declaredType : Text
  source : ParameterSource
  required : Bool
deriving DecidableEq, Repr

end RouteAtlas
