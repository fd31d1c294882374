import RouteAtlas.Route.Record
import RouteAtlas.Store.StateFile

/-
  Aliases: names that users give to routes.

  An alias belongs to a verb and a route, letter case aside.
  Both are joined by a colon into the key of the alias; when
  aliases are written, a key is split at its first colon.
-/

------------------------------------------------------------
-- Keys
------------------------------------------------------------

namespace RouteAtlas

/- Aliases by key, in the order in which they were given. -/
abbrev Aliases := List (Text × Text)

namespace Aliases

/- The key of a verb and a route. -/
def key
    (route verb : Text) :
    Text :=
  Text.lower verb ++ ':' :: Text.lower route

/- The alias of a verb and a route. -/
def get?
    (route verb : Text)
    (aliases : Aliases) :
    Option Text :=
  Pairs.get? (key route verb) aliases

/- Gives a verb and a route an alias. -/
def set
    (route verb aliasName : Text)
    (aliases : Aliases) :
    Aliases :=
  Pairs.put (key route verb) aliasName aliases

/- Takes the alias of a verb and a route away. -/
def clear
    (route verb : Text)
    (aliases : Aliases) :
    Aliases :=
  Pairs.erase (key route verb) aliases

/- The routes, each with its alias or with none. -/
def apply
    (aliases : Aliases)
    (routes : List Route) :
    List Route :=
  routes.map fun route =>
    route.withAlias (aliases.get? route.path route.verb.text)

------------------------------------------------------------
-- Entries
------------------------------------------------------------

/- An alias as it is written. -/
structure Item where
  route : Text
  verb : Text
  aliasName : Text
deriving DecidableEq, Repr

/- The entry of a key and its alias. -/
def Item.ofPair
    (pair : Text × Text) :
    Item :=
  match Text.cut? [':'] pair.1 with
  | some (verb, route) => ⟨route, verb, pair.2⟩
  | none => ⟨[], pair.1, pair.2⟩

/- The entries of all aliases. -/
def entries
    (aliases : Aliases) :
    List Item :=
  aliases.map .ofPair

/- The aliases of some entries, the last of a key counting. -/
def ofEntries
    (items : List Item) :
    Aliases :=
  items.foldl
    (fun aliases item =>
      set item.route item.verb item.aliasName aliases)
    []

------------------------------------------------------------
-- Documents
------------------------------------------------------------

/- A member by the first of its two names that is present. -/
def field
    (name otherName : Text)
    (members : List (Text × Json)) :
    Checked Text :=
  match Pairs.get? name members with
  | some value => Conversion.text value
  | none => Conversion.required otherName Conversion.text members

/- The entry that an object describes. -/
def Item.ofMembers
    (members : List (Text × Json)) :
    Checked Item :=
  Item.mk
    <$> field "Route".toList "route".toList members
    <*> field "HttpVerb".toList "http_verb".toList members
    <*> field "Alias".toList "alias".toList members

/- The object of an entry. -/
def Item.toJson
    (item : Item) :
    Json :=
  .object
    [("Route".toList, .string item.route),
     ("HttpVerb".toList, .string item.verb),
     ("Alias".toList, .string item.aliasName)]

/- The aliases in a document; none if it is malformed. -/
def ofJson
    (document : Json) :
    Aliases :=
  match Conversion.list (Conversion.object Item.ofMembers)
      document with
  | .valid items => ofEntries items
  | .invalid _ => []

/- The document of the aliases. -/
def toJson
    (aliases : Aliases) :
    Json :=
  .array (aliases.entries.map (·.toJson))

------------------------------------------------------------
-- Files
------------------------------------------------------------

/- The name of the file of aliases. -/
def fileName : Text :=
  "aliases.json".toList

/- The aliases of a workspace. -/
def load
    (disk : Disk)
    (workspace : Path) :
    Except Breakdown Aliases :=
  StateFile.load (some ∘ ofJson) [] disk workspace fileName

/- The disk with the aliases saved in a workspace. -/
def save
    (aliases : Aliases)
    (workspace : Path)
    (disk : Disk) :
    Except Failure Disk :=
  StateFile.write workspace fileName aliases.toJson disk

------------------------------------------------------------
-- Changes That Are Saved
------------------------------------------------------------

/-
  Gives a route an alias and saves all aliases.  The aliases
  change also if they cannot be saved.
-/
def assign
    (workspace : Path)
    (route verb aliasName : Text)
    (aliases : Aliases)
    (disk : Disk) :
    Aliases × Except Failure Disk :=
  let changed := aliases.set route verb aliasName
  (changed, changed.save workspace disk)

/-
  Takes the alias of a route away and saves all aliases; the
  answer tells whether there was one.  The aliases change
  also if they cannot be saved.
-/
def withdraw
    (workspace : Path)
    (route verb : Text)
    (aliases : Aliases)
    (disk : Disk) :
    Aliases × Except Failure (Bool × Disk) :=
  let changed := aliases.clear route verb
  let known := (aliases.get? route verb).isSome
  (changed,
    (changed.save workspace disk).map fun disk => (known, disk))

end Aliases

end RouteAtlas
