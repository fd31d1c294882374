import RouteAtlas.Text.Basic

/-
  HTTP verbs of routes.  An action without a verb attribute
  of its own answers any verb.
-/

------------------------------------------------------------
-- Verbs
------------------------------------------------------------

namespace RouteAtlas

/- The verb an action answers. -/
inductive HttpVerb where
  | get
  | post
  | put
  | delete
  | any
deriving DecidableEq, Repr

namespace HttpVerb

/- All verbs. -/
def all : List HttpVerb :=
  [.get, .post, .put, .delete, .any]

/- The verb as it is written in records. -/
def text :
    HttpVerb → Text
  | .get => "GET".toList
  | .post => "POST".toList
  | .put => "PUT".toList
  | .delete => "DELETE".toList
  | .any => "ANY".toList

/- The verb written by the given text, letter case kept. -/
def ofText?
    (t : Text) :
    Option HttpVerb :=
  all.find? fun verb => verb.text == t

end HttpVerb

end RouteAtlas
