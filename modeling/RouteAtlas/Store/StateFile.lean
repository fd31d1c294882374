import RouteAtlas.Json.Document
import RouteAtlas.Json.Writer
import RouteAtlas.Settings.Reading
import RouteAtlas.Workspace.Disk

/-
  State files: JSON documents in the state directory of a
  workspace.  A file that is missing, cannot be decoded or
  is no JSON counts as absent; a document that is nested too
  deep breaks down.

  What a document holds are texts, in which no lone surrogate
  stands: `Json.unitChar` reads an escaped one as U+FFFD, and
  a store that loaded it saves that.  Where strings keep the
  surrogate, one that is checked makes its document invalid,
  and variables that hold one cannot be saved.  So the stores
  are as described here for documents without such escapes.
-/

------------------------------------------------------------
-- Paths
------------------------------------------------------------

namespace RouteAtlas

namespace StateFile

/- The state directory of a workspace. -/
def directory
    (workspace : Path) :
    Path :=
  workspace.join ⟨[], [".apinav".toList]⟩

/- The state file with a name. -/
def path
    (workspace : Path)
    (name : Text) :
    Path :=
  (directory workspace).join ⟨[], [name]⟩

------------------------------------------------------------
-- Reading and Writing
------------------------------------------------------------

/-
  The document in a state file, if there is such a file; it
  breaks down if the file cannot even be looked up.
-/
def read
    (disk : Disk)
    (workspace : Path)
    (name : Text) :
    Except Breakdown (Option Json) := do
  let file := path workspace name
  if ← disk.isFile file then
    match disk.stateText? file with
    | some t => Json.document t
    | none => return none
  else
    return none

/- The value of the document in a state file, or a default. -/
def load
    {α : Type}
    (interpret : Json → Option α)
    (default : α)
    (disk : Disk)
    (workspace : Path)
    (name : Text) :
    Except Breakdown α :=
  (read disk workspace name).map fun document =>
    (document.bind interpret).getD default

/-
  The disk with a document in a state file; the state
  directory is made if need be.  A path with a null character
  breaks down.
-/
def write
    (workspace : Path)
    (name : Text)
    (document : Json)
    (disk : Disk) :
    Except Failure Disk :=
  let file := path workspace name
  let written := do
    let disk ← disk.makeDirectory (directory workspace)
    disk.writeFile (Utf8.encode document.indented) file
  if file.holdsNull then
    .error (.broken .nullCharacter)
  else
    written.mapError (.unwritable file.text)

end StateFile

------------------------------------------------------------
-- Settings
------------------------------------------------------------

namespace Settings

/- The name of the settings file. -/
def fileName : Text :=
  "config.json".toList

/- The settings of a workspace, the default if not valid. -/
def load
    (disk : Disk)
    (workspace : Path) :
    Except Breakdown Settings :=
  StateFile.load (fun document => (ofJson document).toOption)
    .default disk workspace fileName

end Settings

end RouteAtlas
