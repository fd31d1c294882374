import RouteAtlas.Text.Basic

/-
  Paths, taken apart at slashes.

  A path has a root, which is absent, one slash or exactly
  two, and names.  Empty names and single dots are dropped,
  double dots are kept: paths are compared by their spelling
  and never looked up here.
-/

------------------------------------------------------------
-- Paths
------------------------------------------------------------

namespace RouteAtlas

/- A path: its root and the names from the root on. -/
structure Path where
  root : Text
  names : List Text
deriving DecidableEq, Repr

namespace Path

/- Whether a piece between slashes is a name. -/
def isName
    (piece : Text) :
    Bool :=
  !piece.isEmpty && piece != ['.']

/-
  The root of a path.  Exactly two slashes are a root of
  their own; any other number of slashes is like one.
-/
def rootOf
    (t : Text) :
    Text :=
  match t with
  | '/' :: '/' :: '/' :: _ => ['/']
  | '/' :: '/' :: _ => ['/', '/']
  | '/' :: _ => ['/']
  | _ => []

/- The path that a text writes. -/
def ofText
    (t : Text) :
    Path :=
  ⟨rootOf t, (Text.splitOn '/' t).filter isName⟩

/- The path as text; the empty path is a dot. -/
def text
    (path : Path) :
    Text :=
  match path.root, path.names with
  | [], [] => ['.']
  | root, names => root ++ Text.joinWith ['/'] names

/- Whether the path has a root. -/
def isAbsolute
    (path : Path) :
    Bool :=
  !path.root.isEmpty

/- The directory of the path; a root is its own. -/
def parent
    (path : Path) :
    Path :=
  { path with names := path.names.dropLast }

/- The path read from a directory, unless it is absolute. -/
def join
    (directory path : Path) :
    Path :=
  if path.isAbsolute then
    path
  else
    ⟨directory.root, directory.names ++ path.names⟩

/- The number of parts, the root counted as one. -/
def size
    (path : Path) :
    Nat :=
  path.names.length + if path.isAbsolute then 1 else 0

/- Whether a name holds the null character. -/
def holdsNull
    (path : Path) :
    Bool :=
  path.names.any fun name => name.any (· == '\x00')

/- The last name, empty when there is none. -/
def name
    (path : Path) :
    Text :=
  path.names.getLast?.getD []

/-
  The last name without its extension.  A dot at either end
  of the name starts no extension.
-/
def stem
    (path : Path) :
    Text :=
  match Text.cutLast? '.' path.name with
  | some (c :: head, _ :: _) => c :: head
  | _ => path.name

/-
  The path as seen from a directory that it lies in, or
  `none` when it does not.
-/
def relativeTo?
    (path directory : Path) :
    Option Path :=
  if path.root == directory.root then
    (directory.names.isPrefixOf? path.names).map
      fun names => ⟨[], names⟩
  else
    none

end Path

/- What follows the last slash of a text. -/
def Text.baseName
    (t : Text) :
    Text :=
  match Text.cutLast? '/' t with
  | some (_, name) => name
  | none => t

end RouteAtlas
