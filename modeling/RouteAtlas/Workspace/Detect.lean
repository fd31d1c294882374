import RouteAtlas.Endpoint.Resolve
import RouteAtlas.Workspace.Disk

/-
  Endpoints of files on the disk.  A file is read to its
  end; bytes that are no character are dropped.
-/

------------------------------------------------------------
-- Source Texts
------------------------------------------------------------

namespace RouteAtlas

/- The text of a source file, if it can be read. -/
def Disk.sourceText
    (disk : Disk)
    (file : Path) :
    Except Breakdown (Option Text) :=
  (disk.readBytes file).map fun bytes =>
    bytes.map fun bytes =>
      Utf8.decodeLossy (Utf8.dropMark bytes)

------------------------------------------------------------
-- Detection
------------------------------------------------------------

namespace Endpoint

/-
  The endpoint declared on a line of a file, with the full
  URL that a resolver gives it.
-/
def resolveIn
    (disk : Disk)
    (world : World)
    (settings : Settings)
    (file : Path)
    (line : Int)
    (resolver : Resolver) :
    Resolver.Lookup (Option Endpoint) :=
  match disk.sourceText file with
  | .error cause => (.error cause, resolver)
  | .ok none => (.ok none, resolver)
  | .ok (some source) =>
      resolve world settings file.text source line resolver

/-
  The endpoint declared on a line of a file, without a full
  URL.
-/
def locateIn
    (disk : Disk)
    (find : Text → Except Breakdown (Option Path))
    (settings : Settings)
    (file : Path)
    (line : Int) :
    Except Breakdown (Option Endpoint) := do
  match ← disk.sourceText file with
  | none => return none
  | some source => locate find settings file.text source line

end Endpoint

end RouteAtlas
