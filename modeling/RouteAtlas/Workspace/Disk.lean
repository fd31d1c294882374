import RouteAtlas.Failure
import RouteAtlas.Pairs
import RouteAtlas.Path.Basic
import RouteAtlas.Text.Utf8

/-
  The disk: a tree of directories and files, a directory
  that relative paths start from, and paths that may not be
  listed.

  A path that holds a null character names nothing, and no
  file can be read by it.  A name or a path that is too long
  cannot be looked up, which is not the same as leading to
  nothing.
-/

------------------------------------------------------------
-- Entries
------------------------------------------------------------

namespace RouteAtlas

/- A file or a directory with its entries by name. -/
inductive Entry where
  | file (content : Utf8.Bytes)
  | directory (entries : List (Text × Entry))
deriving Repr

namespace Entry

/- Whether the entry is a file. -/
def isFile :
    Entry → Bool
  | .file _ => true
  | .directory _ => false

/- A directory without entries. -/
def empty : Entry :=
  .directory []

/- An entry inside new directories of the given names. -/
def nested
    (entry : Entry)
    (names : List Text) :
    Entry :=
  names.foldr (fun name e => .directory [(name, e)]) entry

/-
  The tree with an entry at a place; directories on the way
  are made.  It fails if a file is in the way.
-/
def put?
    (entry : Entry) :
    List Text → Entry → Option Entry
  | [], _ => some entry
  | _ :: _, .file _ => none
  | name :: names, .directory entries =>
      match Pairs.get? name entries with
      | some child =>
          (put? entry names child).map fun child =>
            .directory (Pairs.put name child entries)
      | none =>
          some (.directory
            (Pairs.put name (entry.nested names) entries))

/- The tree without the entry at a place. -/
def erase :
    List Text → Entry → Entry
  | _, .file content => .file content
  | [], entry => entry
  | [name], .directory entries =>
      .directory (Pairs.erase name entries)
  | name :: names, .directory entries =>
      match Pairs.get? name entries with
      | some child =>
          .directory (Pairs.put name (erase names child) entries)
      | none => .directory entries

/- What ends the way to an entry. -/
inductive Obstacle where
  | missing
  | notDirectory
  | nameTooLong
deriving DecidableEq, Repr

/- The obstacle on the way to a path as a fault. -/
def Obstacle.fault
    (path : Path) :
    Obstacle → FileFault
  | .missing => .missing path.text
  | .notDirectory => .notDirectory path.text
  | .nameTooLong => .nameTooLong path.text

/- The most bytes of a name. -/
def maxNameBytes : Nat := 255

/- Whether a name is too long to be looked up. -/
def isLongName
    (name : Text) :
    Bool :=
  maxNameBytes < (Utf8.encode name).length

/-
  The entry that names lead to, from the innermost of some
  nested entries on.  Two dots lead back to the one around
  it, if there is one.
-/
def follow :
    List Entry → List Text → Except Obstacle Entry
  | [], _ => .error .missing
  | current :: _, [] => .ok current
  | .file _ :: _, _ :: _ => .error .notDirectory
  | .directory entries :: above, name :: names =>
      if name == ['.', '.'] then
        match above with
        | [] => follow [.directory entries] names
        | _ :: _ => follow above names
      else if isLongName name then
        .error .nameTooLong
      else
        match Pairs.get? name entries with
        | none => .error .missing
        | some child =>
            follow (child :: .directory entries :: above) names

end Entry

------------------------------------------------------------
-- Disks
------------------------------------------------------------

/- All files, and which paths may not be listed. -/
structure Disk where
  root : Entry
  here : Path
  denied : List Path

namespace Disk

/- The absolute path of a path. -/
def absolute
    (disk : Disk)
    (path : Path) :
    Path :=
  disk.here.join path

/- Names with each double dot taken together with its name. -/
def resolveNames
    (names : List Text) :
    List Text :=
  (names.foldl
    (fun done name =>
      if name == ['.', '.'] then done.tail else name :: done)
    []).reverse

/- The absolute path without double dots. -/
def resolve
    (disk : Disk)
    (path : Path) :
    Path :=
  ⟨['/'], resolveNames (disk.absolute path).names⟩

/- The absolute path without double dots, if it can be one. -/
def canonical
    (disk : Disk)
    (path : Path) :
    Except Breakdown Path :=
  if path.holdsNull then .error .nullCharacter
  else .ok (disk.resolve path)

------------------------------------------------------------
-- Looking Up
------------------------------------------------------------

/- The most bytes of a path, the one behind it included. -/
def maxPathBytes : Nat := 4096

/- The entry at a path, or what is in the way. -/
def walk
    (disk : Disk)
    (path : Path) :
    Except Entry.Obstacle Entry :=
  if maxPathBytes ≤ (Utf8.encode path.text).length then
    .error .nameTooLong
  else
    Entry.follow [disk.root] (disk.absolute path).names

/- The entry at a path. -/
def entry?
    (disk : Disk)
    (path : Path) :
    Option Entry :=
  (disk.walk path).toOption

/-
  Whether the entry at a path is of some kind, which breaks
  down if the path cannot be looked up.
-/
def probe
    (disk : Disk)
    (isOfKind : Entry → Bool)
    (path : Path) :
    Except Breakdown Bool :=
  if path.holdsNull then
    .ok false
  else
    match disk.walk path with
    | .ok entry => .ok (isOfKind entry)
    | .error .nameTooLong =>
        .error (.unusable (.nameTooLong path.text))
    | .error _ => .ok false

/- Whether there is anything at the path. -/
def holds
    (disk : Disk)
    (path : Path) :
    Except Breakdown Bool :=
  disk.probe (fun _ => true) path

/- Whether there is a file at the path. -/
def isFile
    (disk : Disk)
    (path : Path) :
    Except Breakdown Bool :=
  disk.probe Entry.isFile path

/- Whether there is a directory at the path. -/
def isDirectory
    (disk : Disk)
    (path : Path) :
    Except Breakdown Bool :=
  disk.probe (!·.isFile) path

------------------------------------------------------------
-- Reading
------------------------------------------------------------

/- The bytes of the file at a path. -/
def bytes?
    (disk : Disk)
    (path : Path) :
    Option Utf8.Bytes :=
  match disk.entry? path with
  | some (.file content) => some content
  | _ => none

/-
  The bytes of the file at a path, if it can be read; a path
  with a null character breaks down.
-/
def readBytes
    (disk : Disk)
    (path : Path) :
    Except Breakdown (Option Utf8.Bytes) :=
  if path.holdsNull then .error .nullCharacter
  else .ok (disk.bytes? path)

/-
  The text of the file at a path: UTF-8, a byte order mark
  dropped, line ends unified.
-/
def stateText?
    (disk : Disk)
    (path : Path) :
    Option Text :=
  (disk.bytes? path).bind fun bytes =>
    (Utf8.decode? (Utf8.dropMark bytes)).map
      Text.unifyNewlines

/- The text of a file, its byte order mark kept. -/
def text?
    (disk : Disk)
    (path : Path) :
    Option Text :=
  (disk.bytes? path).bind fun bytes =>
    (Utf8.decode? bytes).map Text.unifyNewlines

/- The text of a file, as `readBytes` reads it. -/
def readText
    (disk : Disk)
    (path : Path) :
    Except Breakdown (Option Text) :=
  if path.holdsNull then .error .nullCharacter
  else .ok (disk.text? path)

------------------------------------------------------------
-- Listing
------------------------------------------------------------

/- Whether a path may be listed, as it is written. -/
def mayList
    (disk : Disk)
    (path : Path) :
    Bool :=
  !disk.denied.contains path

/- The names in a directory, sorted, and which are files. -/
def list?
    (disk : Disk)
    (path : Path) :
    Option (List (Text × Bool)) :=
  match disk.entry? path with
  | some (.directory entries) =>
      if disk.mayList path then
        some
          ((entries.map fun (name, entry) =>
            (name, entry.isFile)).mergeSort
            fun a b => Text.le a.1 b.1)
      else
        none
  | _ => none

------------------------------------------------------------
-- Changes
------------------------------------------------------------

/- The disk with an entry at a path. -/
def put
    (entry : Entry)
    (path : Path)
    (disk : Disk) :
    Except FileFault Disk :=
  let names := (disk.resolve path).names
  if names.any Entry.isLongName then
    .error (.nameTooLong path.text)
  else
    match Entry.put? entry names disk.root with
    | some root => .ok { disk with root }
    | none => .error (.notDirectory path.text)

/- The disk with a file at a path. -/
def writeFile
    (content : Utf8.Bytes)
    (path : Path)
    (disk : Disk) :
    Except FileFault Disk :=
  match disk.walk path with
  | .ok (.directory _) => .error (.isDirectory path.text)
  | .ok (.file _) | .error .missing =>
      disk.put (.file content) path
  | .error obstacle => .error (obstacle.fault path)

/-
  The disk if there is a directory at the path, or another
  one if nothing is there.
-/
def orMissing
    (path : Path)
    (disk : Disk)
    (otherwise : Except FileFault Disk) :
    Except FileFault Disk :=
  match disk.walk path with
  | .ok (.file _) => .error (.fileExists path.text)
  | .ok (.directory _) => .ok disk
  | .error .missing => otherwise
  | .error obstacle => .error (obstacle.fault path)

/-
  The disk with a directory at a path.  Of the directories
  above it, the given number may be missing; they are made
  first.
-/
def makeDirectoryWithin :
    Nat → Path → Disk → Except FileFault Disk
  | 0, path, disk =>
      disk.orMissing path (.error (.missing path.text))
  | above + 1, path, disk =>
      disk.orMissing path do
        let disk ← makeDirectoryWithin above path.parent disk
        disk.orMissing path (disk.put .empty path)

/- The disk with a directory at a path, and those above. -/
def makeDirectory
    (path : Path)
    (disk : Disk) :
    Except FileFault Disk :=
  makeDirectoryWithin path.names.length path disk

/- The disk without what is at a path. -/
def erase
    (path : Path)
    (disk : Disk) :
    Except FileFault Disk :=
  match disk.walk path with
  | .ok _ =>
      .ok { disk with
        root := disk.root.erase (disk.resolve path).names }
  | .error obstacle => .error (obstacle.fault path)

end Disk

end RouteAtlas
