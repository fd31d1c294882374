import RouteAtlas.Text.Search

/-
  Route templates.

  A controller route may name the controller and the action
  by the tokens `[controller]` and `[action]`, in any letter
  case.  A full route is the controller route with its
  tokens replaced, a slash, and the action's own fragment;
  it always starts with exactly one slash.  Path parameters
  stand in braces.
-/

------------------------------------------------------------
-- Leading Slash
------------------------------------------------------------

namespace RouteAtlas

namespace Template

open Text

/- The route with exactly one leading slash. -/
def rooted
    (route : Text) :
    Text :=
  '/' :: route.dropWhile (· == '/')

------------------------------------------------------------
-- Letter Case
------------------------------------------------------------

/-
  Whether a character is a letter, written in lower case, up
  to case.  The dotted capital I and the dotless i count as
  an i, and the long s counts as an s.
-/
def sameLetter
    (letter c : Char) :
    Bool :=
  c == letter || c == letter.toUpper ||
    (letter == 'i' && (c == 'İ' || c == 'ı')) ||
    (letter == 's' && c == 'ſ')

/- Whether the text begins with a word, up to case. -/
def beginsWith :
    Text → Text → Bool
  | [], _ => true
  | _ :: _, [] => false
  | letter :: word, c :: t =>
      sameLetter letter c && beginsWith word t

------------------------------------------------------------
-- Names
------------------------------------------------------------

/- The controller's name without its suffix, lower-cased. -/
def controllerName
    (name suffix : Text) :
    Text :=
  if suffix.isEmpty then
    lower name
  else
    lower ((dropEnding? suffix name).getD name)

/- The name without one final `Async`, in any case. -/
def withoutAsync :
    Text → Text
  | [] => []
  | c :: rest =>
      if beginsWith "async".toList (c :: rest) then
        match (c :: rest).drop 5 with
        | [] => []
        | ['\n'] => ['\n']
        | _ => c :: withoutAsync rest
      else
        c :: withoutAsync rest

/- The action's name without `Async`, lower-cased. -/
def actionName
    (name : Text) :
    Text :=
  lower (withoutAsync name)

------------------------------------------------------------
-- Tokens
------------------------------------------------------------

/- The token that stands for the controller's name. -/
def controllerToken : Text :=
  "[controller]".toList

/- The token that stands for the action's name. -/
def actionToken : Text :=
  "[action]".toList

/- Replaces a token, in any case, by a name. -/
def replaceToken
    (token name template : Text) :
    Text :=
  replaceFrom
    (fun t =>
      if beginsWith token t then some token.length else none)
    name 0 template

/- Whether the route leaves room for the action's name. -/
def namesAction :
    Text → Bool
  | [] => false
  | c :: rest =>
      beginsWith actionToken (c :: rest) || namesAction rest

/- The template with both tokens replaced. -/
def substitute
    (template controller action suffix : Text) :
    Text :=
  replaceToken actionToken (actionName action)
    (replaceToken controllerToken
      (controllerName controller suffix) template)

------------------------------------------------------------
-- Composition
------------------------------------------------------------

/- The fragment behind the route, a slash between them. -/
def appendFragment
    (route fragment : Text) :
    Text :=
  if fragment.isEmpty then
    route
  else if route.isEmpty then
    fragment
  else
    route ++ '/' :: fragment

/-
  The full route of an action.  An absent part adds nothing,
  and if both are absent the route is a single slash.
-/
def compose
    (controllerRoute fragment : Option Text)
    (controller action suffix : Text) :
    Text :=
  let route :=
    (controllerRoute.map
      (substitute · controller action suffix)).getD []
  rooted (appendFragment route (fragment.getD []))

------------------------------------------------------------
-- Path Parameters
------------------------------------------------------------

/-
  Reads a path parameter: a brace, any number of stars, a
  name, and everything up to the closing brace.
-/
def readPathParameter
    (t : Text) :
    Option (Text × Nat) :=
  match t with
  | '{' :: rest => do
      let (name, rest) ← word? (rest.dropWhile (· == '*'))
      let rest ← after? '}' rest
      return (name, t.length - rest.length)
  | _ => none

/- The lower-cased names of the path parameters, in order. -/
def pathParameters
    (template : Text) :
    List Text :=
  (findAll (fun _ => readPathParameter) template).map
    fun (_, name) => lower name

end Template

end RouteAtlas
