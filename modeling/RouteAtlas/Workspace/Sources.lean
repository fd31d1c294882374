import RouteAtlas.Glob
import RouteAtlas.Settings.Basic
import RouteAtlas.Workspace.Disk

/-
  The source files of a workspace.

  Directories that an exclude pattern covers are not walked,
  and files that one covers are not listed.  The files of a
  directory come before those of its subdirectories, each in
  the order of their names.  A subdirectory that may not be
  listed counts as empty.  A walk with a limit ends at the
  file that reaches it.
-/

------------------------------------------------------------
-- Places
------------------------------------------------------------

namespace RouteAtlas

namespace Workspace

/- Names from the workspace to an entry. -/
abbrev Place := List Text

/- A place as the patterns see it. -/
def placeText
    (place : Place) :
    Text :=
  Text.joinWith ['/'] place

/- Whether a directory is walked. -/
def isWalked
    (settings : Settings)
    (place : Place) :
    Bool :=
  !Glob.excludesDirectory settings.excludePatterns
    (placeText place)

/- Whether a file is a source file to be listed. -/
def isSource
    (settings : Settings)
    (place : Place) :
    Bool :=
  Text.endsWith settings.sourceExtension
      (place.getLast?.getD []) &&
    !Glob.excludes settings.excludePatterns (placeText place)

/- Whether a name is that of a project descriptor. -/
def isDescriptor
    (settings : Settings)
    (name : Text) :
    Bool :=
  Text.endsWith settings.projectExtension name

------------------------------------------------------------
-- Source Files
------------------------------------------------------------

/- Named results in the order of their names. -/
def byName
    {α : Type}
    (named : List (Text × α)) :
    List (Text × α) :=
  named.mergeSort fun a b => Text.le a.1 b.1

/- The files of a directory that are listed. -/
def filesIn
    (settings : Settings)
    (place : Place)
    (entries : List (Text × Entry)) :
    List Place :=
  (byName (entries.filter fun (_, entry) =>
    entry.isFile)).filterMap fun (name, _) =>
      if isSource settings (place ++ [name]) then
        some (place ++ [name])
      else
        none

mutual

/- The source files in a directory at a place. -/
def sourcesAt
    (settings : Settings)
    (mayList : Place → Bool)
    (place : Place) :
    Entry → List Place
  | .file _ => []
  | .directory entries =>
      if mayList place then
        filesIn settings place entries ++
          (byName
            (sourcesBelow settings mayList place
              entries)).flatMap (·.2)
      else
        []

/- The source files of each subdirectory, by its name. -/
def sourcesBelow
    (settings : Settings)
    (mayList : Place → Bool)
    (place : Place) :
    List (Text × Entry) → List (Text × List Place)
  | [] => []
  | (name, entry) :: rest =>
      let below := sourcesBelow settings mayList place rest
      if isWalked settings (place ++ [name]) then
        (name,
          sourcesAt settings mayList (place ++ [name])
            entry) :: below
      else
        below

end

------------------------------------------------------------
-- Limited Walks
------------------------------------------------------------

/-
  The files that a walk has found: `.ok` if it goes on, and
  `.error` if it has ended at its limit.
-/
abbrev Gathered := Except (List Place) (List Place)

/- The files that were found, whether or not all were. -/
def Gathered.files :
    Gathered → List Place
  | .ok found => found
  | .error found => found

/-
  Adds a file to those found.  The limit is looked at behind
  each file, so that it never keeps the first one away.
-/
def note
    (limit : Int)
    (found : List Place)
    (file : Place) :
    Gathered :=
  let found := found ++ [file]
  if limit ≤ found.length then .error found else .ok found

mutual

/- Goes on with the walk through a directory at a place. -/
def gatherAt
    (settings : Settings)
    (mayList : Place → Bool)
    (limit : Int)
    (place : Place) :
    Entry → List Place → Gathered
  | .file _ => fun found => .ok found
  | .directory entries => fun found =>
      if mayList place then do
        let found ←
          (filesIn settings place entries).foldlM
            (note limit) found
        (byName
          (gatherBelow settings mayList limit place
            entries)).foldlM
          (fun found below => below.2 found) found
      else
        .ok found

/- How to go on through each subdirectory, by its name. -/
def gatherBelow
    (settings : Settings)
    (mayList : Place → Bool)
    (limit : Int)
    (place : Place) :
    List (Text × Entry) →
      List (Text × (List Place → Gathered))
  | [] => []
  | (name, entry) :: rest =>
      let below :=
        gatherBelow settings mayList limit place rest
      if isWalked settings (place ++ [name]) then
        (name,
          gatherAt settings mayList limit (place ++ [name])
            entry) :: below
      else
        below

end

/- The source files of a tree, with or without a limit. -/
def sourcesWithin
    (settings : Settings)
    (mayList : Place → Bool)
    (limit : Option Int)
    (root : Entry) :
    List Place :=
  match limit with
  | none => sourcesAt settings mayList [] root
  | some limit =>
      (gatherAt settings mayList limit [] root []).files

------------------------------------------------------------
-- Projects
------------------------------------------------------------

mutual

/- Whether a directory holds a project at any depth. -/
def projectAt
    (settings : Settings)
    (mayList : Place → Bool)
    (place : Place) :
    Entry → Bool
  | .file _ => false
  | .directory entries =>
      mayList place &&
        (entries.any (fun (name, entry) =>
          entry.isFile && isDescriptor settings name) ||
        projectBelow settings mayList place entries)

/- Whether one of the subdirectories holds a project. -/
def projectBelow
    (settings : Settings)
    (mayList : Place → Bool)
    (place : Place) :
    List (Text × Entry) → Bool
  | [] => false
  | (name, entry) :: rest =>
      (isWalked settings (place ++ [name]) &&
        projectAt settings mayList (place ++ [name])
          entry) ||
      projectBelow settings mayList place rest

end

------------------------------------------------------------
-- Workspaces
------------------------------------------------------------

/- Whether a place in a workspace may be listed. -/
def mayListIn
    (disk : Disk)
    (workspace : Path)
    (place : Place) :
    Bool :=
  disk.mayList ⟨workspace.root, workspace.names ++ place⟩

/- The directory of a workspace, if it may be listed. -/
def root?
    (disk : Disk)
    (workspace : Path) :
    Except FileFault Entry :=
  if disk.mayList workspace then
    .ok ((disk.entry? workspace).getD .empty)
  else
    .error (.permissionDenied workspace.text)

/- The absolute path of a place in a workspace. -/
def filePath
    (workspace : Path)
    (place : Place) :
    Text :=
  Path.text ⟨workspace.root, workspace.names ++ place⟩

/- The source files of a workspace, as absolute paths. -/
def sources
    (disk : Disk)
    (settings : Settings)
    (limit : Option Int)
    (workspace : Path) :
    Except FileFault (List Text) :=
  (root? disk workspace).map fun root =>
    (sourcesWithin settings (mayListIn disk workspace) limit
      root).map (filePath workspace)

/- Whether a workspace holds a project. -/
def hasProject
    (disk : Disk)
    (settings : Settings)
    (workspace : Path) :
    Except FileFault Bool :=
  (root? disk workspace).map
    (projectAt settings (mayListIn disk workspace) [])

end Workspace

end RouteAtlas
