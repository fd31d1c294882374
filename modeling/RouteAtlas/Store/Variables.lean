import RouteAtlas.Json.Plain
import RouteAtlas.Store.StateFile

/-
  Route variables: values that are shown in place of the
  placeholders of routes, as in `{version:apiversion}`.
-/

------------------------------------------------------------
-- Variables
------------------------------------------------------------

namespace RouteAtlas

/- Values by key, in the order in which they were given. -/
abbrev Variables := List (Text × Text)

namespace Variables

/- Gives a variable a value. -/
def set
    (key value : Text)
    (values : Variables) :
    Variables :=
  Pairs.put key value values

/- Takes a variable away. -/
def remove
    (key : Text)
    (values : Variables) :
    Variables :=
  Pairs.erase key values

/- The placeholder of a variable. -/
def placeholder
    (key : Text) :
    Text :=
  '{' :: key ++ ['}']

/-
  The route with every placeholder replaced, one variable
  after the other.
-/
def replace
    (values : Variables)
    (route : Text) :
    Text :=
  values.foldl
    (fun route (key, value) =>
      Text.replaceAll (placeholder key) value route)
    route

/- What a new file of variables holds. -/
def template : Variables :=
  [("version:apiversion".toList, "1.0".toList)]

------------------------------------------------------------
-- Files
------------------------------------------------------------

/- The variables in a document; none if it is no object. -/
def ofJson :
    Json → Variables
  | .object members =>
      members.map fun (key, value) => (key, value.plain)
  | _ => []

/- The document of the variables. -/
def toJson
    (values : Variables) :
    Json :=
  .object (values.map fun (key, value) =>
    (key, .string value))

/- The name of the file of variables. -/
def fileName : Text :=
  "variables.json".toList

/- The variables of a workspace. -/
def load
    (disk : Disk)
    (workspace : Path) :
    Except Breakdown Variables :=
  StateFile.load (some ∘ ofJson) [] disk workspace fileName

/- The disk with the variables saved in a workspace. -/
def save
    (values : Variables)
    (workspace : Path)
    (disk : Disk) :
    Except Failure Disk :=
  StateFile.write workspace fileName values.toJson disk

/- Whether a workspace has something of that name already. -/
def fileExists
    (disk : Disk)
    (workspace : Path) :
    Except Breakdown Bool :=
  disk.holds (StateFile.path workspace fileName)

------------------------------------------------------------
-- Changes That Are Saved
------------------------------------------------------------

/-
  Gives a variable a value and saves all variables, which
  change also if they cannot be saved.
-/
def assign
    (workspace : Path)
    (key value : Text)
    (values : Variables)
    (disk : Disk) :
    Variables × Except Failure Disk :=
  let changed := values.set key value
  (changed, changed.save workspace disk)

/-
  Takes a variable away and saves all variables, which
  change also if they cannot be saved; the answer tells
  whether there was such a variable.
-/
def withdraw
    (workspace : Path)
    (key : Text)
    (values : Variables)
    (disk : Disk) :
    Variables × Except Failure (Bool × Disk) :=
  let changed := values.remove key
  let known := Pairs.has key values
  (changed,
    (changed.save workspace disk).map fun disk => (known, disk))

/-
  Replaces the variables by the template and saves it where
  there is no file yet; the answer tells whether one was
  made.
-/
def ensureFile
    (workspace : Path)
    (values : Variables)
    (disk : Disk) :
    Variables × Except Failure (Bool × Disk) :=
  match fileExists disk workspace with
  | .error cause => (values, .error (.broken cause))
  | .ok true => (values, .ok (false, disk))
  | .ok false =>
      (template,
        (template.save workspace disk).map fun disk =>
          (true, disk))

end Variables

end RouteAtlas
