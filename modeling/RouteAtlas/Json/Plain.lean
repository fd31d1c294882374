import RouteAtlas.Json.Value
import RouteAtlas.Text.Quoted

/-
  Plain text of JSON values.  A string is its own text;
  inside lists and objects strings are quoted.
-/

------------------------------------------------------------
-- Nested Values
------------------------------------------------------------

namespace RouteAtlas

namespace Json

mutual

/- A value inside another one. -/
def nestedText :
    Json → Text
  | .null => "None".toList
  | .bool true => "True".toList
  | .bool false => "False".toList
  | .integer n => Text.ofInt n
  | .real x => x.text
  | .string t => Text.quoted t
  | .array [] => "[]".toList
  | .array (item :: items) =>
      '[' :: nestedText item ++ moreItems items ++ [']']
  | .object [] => ['{', '}']
  | .object (member :: members) =>
      '{' :: memberText member ++ moreMembers members ++ ['}']

/- The items behind the first. -/
def moreItems :
    List Json → Text
  | [] => []
  | item :: items =>
      ',' :: ' ' :: nestedText item ++ moreItems items

/- A key and its value. -/
def memberText :
    Text × Json → Text
  | (key, value) =>
      Text.quoted key ++ ':' :: ' ' :: nestedText value

/- The members behind the first. -/
def moreMembers :
    List (Text × Json) → Text
  | [] => []
  | member :: members =>
      ',' :: ' ' :: memberText member ++ moreMembers members

end

------------------------------------------------------------
-- Values
------------------------------------------------------------

/- The text of a value. -/
def plain :
    Json → Text
  | .string t => t
  | value => nestedText value

end Json

end RouteAtlas
