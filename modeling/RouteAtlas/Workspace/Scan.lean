import RouteAtlas.Controller.File
import RouteAtlas.Project.Resolver
import RouteAtlas.Store.Aliases
import RouteAtlas.Workspace.Sources

/-
  Scanning a workspace.

  All source files are enumerated; those with the name of a
  controller are candidates, and each candidate is read on
  its own.  A candidate that yields no route is noted as
  skipped.  A workspace without any project is not scanned.
-/

------------------------------------------------------------
-- Worlds
------------------------------------------------------------

namespace RouteAtlas

namespace Disk

/-
  The project descriptor of a file on the disk.  A directory
  whose path holds a null character cannot be listed at all.
-/
def locate
    (disk : Disk)
    (settings : Settings)
    (file : Text) :
    Except Breakdown (Option Path) :=
  let path := Path.ofText file
  if path.parent.holdsNull then
    .error .nullCharacter
  else
    .ok (Project.search disk.list? settings.projectExtension
      settings.searchDepth path).1

/- The disk as a resolver sees it. -/
def world
    (disk : Disk)
    (settings : Settings) :
    World :=
  ⟨disk.readText, disk.locate settings⟩

end Disk

/- A resolver for the given settings. -/
def Resolver.ofSettings
    (settings : Settings) :
    Resolver :=
  .fresh (.ofText settings.launchSettingsPath)

namespace Workspace

------------------------------------------------------------
-- Candidates
------------------------------------------------------------

/- The most bytes of a file that are read. -/
def defaultByteLimit : Int := 2000000

/-
  The bytes up to a limit; a negative limit tells how many
  to leave out at the end.
-/
def limitedBytes
    (limit : Int)
    (bytes : Utf8.Bytes) :
    Utf8.Bytes :=
  if limit < 0 then
    bytes.take (bytes.length - limit.natAbs)
  else
    bytes.take limit.toNat

/-
  The text of a file.  What lies behind the byte limit is
  cut off, and bytes that are no character are dropped.
-/
def fileText
    (disk : Disk)
    (byteLimit : Int)
    (file : Text) :
    Except Breakdown (Option Text) :=
  (disk.readBytes (.ofText file)).map fun bytes =>
    bytes.map fun bytes =>
      Utf8.decodeLossy
        (Utf8.dropMark (limitedBytes byteLimit bytes))

/-
  The routes of a source text that lies in a file, in the
  project that is found for it.  The project is looked for
  only if the file has to be read for routes.
-/
def sourceRoutes
    (settings : Settings)
    (world : World)
    (file source : Text)
    (resolver : Resolver) :
    Resolver.Lookup (List Route) :=
  if Controller.isCandidate settings file source then
    (resolver.descriptor world file).map fun project =>
      Route.ofSource settings ⟨file, project.map (·.text)⟩
        source
  else
    (.ok [], resolver)

/-
  The routes of a file, none if it cannot be read or if the
  look-up of its project breaks down.  A file that does not
  have the name of a controller is not even read.
-/
def fileRoutes
    (disk : Disk)
    (settings : Settings)
    (byteLimit : Int)
    (world : World)
    (file : Text)
    (resolver : Resolver) :
    Resolver.Lookup (List Route) :=
  if !Controller.isFileName settings file then
    (.ok [], resolver)
  else
    match fileText disk byteLimit file with
    | .error cause => (.error cause, resolver)
    | .ok none => (.ok [], resolver)
    | .ok (some source) =>
        let (found, resolver) :=
          sourceRoutes settings world file source resolver
        (.ok (found.toOption.getD []), resolver)

/- The routes of each of some files, one after the other. -/
def allFileRoutes
    (disk : Disk)
    (settings : Settings)
    (world : World) :
    List Text → Resolver →
      Resolver.Lookup (List (Text × List Route))
  | [], resolver => (.ok [], resolver)
  | file :: files, resolver =>
      (fileRoutes disk settings defaultByteLimit world file
        resolver).andThen fun routes resolver =>
          (allFileRoutes disk settings world files
            resolver).map fun rest => (file, routes) :: rest

------------------------------------------------------------
-- Scans
------------------------------------------------------------

/- What a scan finds. -/
structure ScanResult where
  workspace : Text
  filesScanned : Nat
  candidates : List Text
  routes : List Route
  hasProject : Bool
  skipped : List Text
deriving DecidableEq, Repr

/- How a scan is carried out. -/
structure ScanOptions where
  settings : Settings
  limit : Option Int
  cancelled : Bool

/-
  Scans a workspace without giving names to routes.  A scan
  that is cancelled ends before the first candidate.
-/
def scan
    (disk : Disk)
    (options : ScanOptions)
    (world : World)
    (workspace : Path)
    (resolver : Resolver) :
    Except Failure (ScanResult × Resolver) := do
  let name := workspace.text
  let settings := options.settings
  let isDirectory ←
    (disk.isDirectory workspace).mapError .broken
  if !isDirectory then
    throw (.notWorkspace name)
  let files ←
    (sources disk settings options.limit workspace).mapError
      (.unlistable name)
  let found ←
    (hasProject disk settings workspace).mapError
      (.unlistable name)
  if !found then
    return (⟨name, files.length, [], [], false, []⟩, resolver)
  let candidates :=
    files.filter (Controller.isFileName settings)
  if options.cancelled && !candidates.isEmpty then
    throw (.cancelled name)
  let (perFile, resolver) :=
    allFileRoutes disk settings world candidates resolver
  let perFile ← perFile.mapError .broken
  return (
    { workspace := name
      filesScanned := files.length
      candidates
      routes := perFile.flatMap (·.2)
      hasProject := true
      skipped :=
        (perFile.filter (·.2.isEmpty)).map (·.1) },
    resolver)

------------------------------------------------------------
-- Names
------------------------------------------------------------

/- The result with names given to its routes. -/
def ScanResult.withNames
    (aliases : Aliases)
    (result : ScanResult) :
    ScanResult :=
  { result with routes := aliases.apply result.routes }

/-
  The result with the names that are saved in a directory,
  and the aliases known afterwards: those that were saved,
  or still the same if there was no project to scan.
-/
def ScanResult.named
    (disk : Disk)
    (saved : Path)
    (aliases : Aliases)
    (result : ScanResult) :
    Except Breakdown (ScanResult × Aliases) := do
  if result.hasProject then
    let aliases ← Aliases.load disk saved
    return (result.withNames aliases, aliases)
  else
    return (result, aliases)

end Workspace

end RouteAtlas
