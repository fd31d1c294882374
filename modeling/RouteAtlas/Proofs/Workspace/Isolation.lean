import Mathlib
import RouteAtlas.Proofs.Workspace.Accounts
import RouteAtlas.Proofs.Workspace.Enumerated

/-
  What one file can change.

  The bytes of one candidate decide nothing about the routes
  of another: not by its path, since files stand at places
  of their own, not by its project, which is found by names
  only, and not by a failure, which leaves it without
  routes.

  Main statements:
    * `withBytes_of_writeFile`
    * `bytes?_withBytes`
    * `agreesOn_withBytes`
    * `scanAnswer_accounts_and_isolates`
-/

------------------------------------------------------------
-- Other Bytes in One File
------------------------------------------------------------

namespace RouteAtlas

open Entry

namespace Disk

/- The disk with other bytes in the file at a path. -/
def withBytes
    (content : Utf8.Bytes)
    (path : Path)
    (disk : Disk) :
    Disk :=
  { disk with
    root :=
      (put? (.file content) (disk.resolve path).names
        disk.root).getD disk.root }

/- A file that can be written is written so. -/
theorem withBytes_of_writeFile
    {disk changed : Disk}
    {path : Path}
    {content : Utf8.Bytes}
    (hWritten : disk.writeFile content path = .ok changed) :
    disk.withBytes content path = changed := by
  rcases put_eq_ok (writeFile_eq_ok hWritten).2.2 with
    ⟨-, root, hRoot, rfl⟩
  unfold withBytes
  rw [hRoot, Option.getD_some]

section WithBytes

variable {disk : Disk}
variable {path : Path}
variable {old : Utf8.Bytes}
variable
  (hPlace :
    place? (disk.resolve path).names disk.root =
      some (.file old))

include hPlace

theorem put?_of_file
    (content : Utf8.Bytes) :
    put? (.file content) (disk.resolve path).names
        disk.root =
      some (disk.withBytes content path).root := by
  have hSome :
      (put? (.file content) (disk.resolve path).names
        disk.root).isSome = true := by
    rw [isSome_put? _ (.file old), put?_of_place? hPlace]
    rfl
  rcases Option.isSome_iff_exists.mp hSome with
    ⟨root, hRoot⟩
  unfold withBytes
  rw [hRoot, Option.getD_some]

/- All other places hold what they held. -/
theorem agreesOn_withBytes
    (hTree : disk.root.isWellFormed = true)
    (content : Utf8.Bytes) :
    disk.AgreesOn (· ≠ (disk.resolve path).names)
      (disk.withBytes content path) := by
  have hPut := put?_of_file hPlace content
  have hFile : (Entry.file content).isWellFormed = true := rfl
  exact
    { here := rfl
      denied := rfl
      wellFormed := hTree
      wellFormed' :=
        isWellFormed_put? hTree hFile hPlace hPut
      shape := sameShape_put? hPlace rfl hPut
      same := fun names hOther =>
        sameAt_put? hPlace rfl hPut hOther }

end WithBytes

/- What is read at a path is the file at its place. -/
theorem place?_of_bytes?
    {disk : Disk}
    {path : Path}
    {content : Utf8.Bytes}
    (hRead : disk.bytes? path = some content) :
    place? (disk.resolve path).names disk.root =
        some (.file content) ∧
      disk.walk path = .ok (.file content) := by
  unfold bytes? entry? at hRead
  cases hWalk : disk.walk path with
  | error obstacle =>
      rw [hWalk] at hRead
      cases hRead
  | ok entry =>
      rw [hWalk] at hRead
      cases entry with
      | directory entries => cases hRead
      | file kept =>
          cases hRead
          exact ⟨place?_of_walk hWalk, rfl⟩

/- The other bytes are read where the old ones were. -/
theorem bytes?_withBytes
    {disk : Disk}
    {path : Path}
    {old : Utf8.Bytes}
    (hTree : disk.root.isWellFormed = true)
    (hRead : disk.bytes? path = some old)
    (content : Utf8.Bytes) :
    (disk.withBytes content path).bytes? path =
      some content := by
  rcases place?_of_bytes? hRead with ⟨hPlace, hWalk⟩
  have hAgrees := agreesOn_withBytes hPlace hTree content
  rcases hAgrees.walk path with
    ⟨obstacle, hNone, -⟩ | ⟨entry, entry', -, hWalk', -⟩
  · rw [hWalk] at hNone
    cases hNone
  · have hThere := place?_of_walk hWalk'
    rw [hAgrees.resolve_eq,
      place?_put? (put?_of_file hPlace content),
      Option.some.injEq] at hThere
    unfold bytes? entry?
    rw [hWalk', ← hThere]
    rfl

end Disk

------------------------------------------------------------
-- Isolation
------------------------------------------------------------

namespace Workspace

/-
  Whether two results differ at most in the routes of a file
  and in whether it is skipped.
-/
structure ScanResult.DiffersOnlyBy
    (file : Text)
    (after before : ScanResult) :
    Prop where
  workspace : after.workspace = before.workspace
  filesScanned : after.filesScanned = before.filesScanned
  candidates : after.candidates = before.candidates
  hasProject : after.hasProject = before.hasProject
  routes :
    after.routes.filter (·.sourceFile != file) =
      before.routes.filter (·.sourceFile != file)
  skipped :
    after.skipped.filter (· != file) =
      before.skipped.filter (· != file)

/- Files that answer as before account for the same. -/
theorem accounted_differsOnlyBy
    {settings : Settings}
    {workspace : Path}
    {files : List Text}
    {own own' : Text → List Route}
    {file : Text}
    (hOthers :
      ∀ other ∈
          files.filter (Controller.isFileName settings),
        other ≠ file → own' other = own other)
    (hOwn : ∀ route ∈ own file, route.sourceFile = file)
    (hOwn' : ∀ route ∈ own' file, route.sourceFile = file) :
    (accounted settings workspace files
      own').DiffersOnlyBy file
        (accounted settings workspace files own) := by
  have hGone :
      ∀ routes : List Route,
        (∀ route ∈ routes, route.sourceFile = file) →
          routes.filter (·.sourceFile != file) = [] := by
    intro routes hRoutes
    rw [List.filter_eq_nil_iff]
    intro route hRoute
    rw [hRoutes route hRoute, bne_self_eq_false]
    exact Bool.false_ne_true
  unfold accounted
  constructor
  · rfl
  · rfl
  · rfl
  · rfl
  · dsimp only
    rw [List.filter_flatMap, List.filter_flatMap]
    apply List.flatMap_congr
    intro other hOther
    by_cases hSame : other = file
    · rw [hSame, hGone _ hOwn, hGone _ hOwn']
    · rw [hOthers other hOther hSame]
  · dsimp only
    generalize
      files.filter (Controller.isFileName settings) =
        candidates at hOthers ⊢
    rw [List.filter_filter, List.filter_filter]
    apply List.filter_congr
    intro other hOther
    by_cases hSame : other = file
    · rw [hSame, bne_self_eq_false, Bool.false_and,
        Bool.false_and]
    · rw [hOthers other hOther hSame]

section Agreement

variable {matters : List Text → Prop}
variable {disk other : Disk}

/- A file whose place matters answers the same. -/
theorem ownRoutes_of_agreesOn
    (hAgrees : disk.AgreesOn matters other)
    (settings lookedAt : Settings)
    (resolver : Resolver)
    {file : Text}
    (hMatters :
      matters (disk.resolve (.ofText file)).names) :
    ownRoutes other settings (other.world lookedAt) resolver
        file =
      ownRoutes disk settings (disk.world lookedAt) resolver
        file := by
  have hLocate :
      (other.world lookedAt).locate =
        (disk.world lookedAt).locate :=
    hAgrees.locate_eq lookedAt
  unfold ownRoutes
  rw [answer_fileRoutes_congr (hAgrees.fileText_eq hMatters _)
    (congrArg _
      (Resolver.descriptor_of_locate hLocate file resolver))]

theorem naming_of_agreesOn
    (hAgrees : disk.AgreesOn matters other)
    {saved : Option Path}
    (hMatters :
      ∀ place ∈ saved,
        matters
          (disk.resolve
            (StateFile.path place Aliases.fileName)).names) :
    naming other saved = naming disk saved := by
  unfold naming
  cases saved with
  | none => rfl
  | some place =>
      dsimp only
      rw [hAgrees.loadAliases_eq (hMatters place rfl)]

end Agreement

/-
  What a scan answers whose resolver looks at the disk that
  is scanned.
-/
def scanAnswer
    (disk : Disk)
    (options : ScanOptions)
    (lookedAt : Settings)
    (workspace : Path)
    (saved : Option Path)
    (resolver : Resolver) :
    Except Failure ScanResult :=
  (scanAndName disk options (disk.world lookedAt) workspace
    saved resolver).map (·.1)

section Answers

variable {disk : Disk}
variable {options : ScanOptions}
variable {lookedAt : Settings}
variable {workspace : Path}
variable {saved : Option Path}
variable {resolver : Resolver}
variable {files : List Text}

/- No source file of a directory breaks down. -/
theorem answer_fileRoutes_of_mem_sources
    (hTree : disk.root.isWellFormed = true)
    (hSpelled : workspace.IsSpelled)
    (hDirectory : disk.isDirectory workspace = .ok true)
    (hFiles :
      sources disk options.settings options.limit
        workspace = .ok files)
    {file : Text}
    (hFile : file ∈ files) :
    (fileRoutes disk options.settings defaultByteLimit
        (disk.world lookedAt) file resolver).1 =
      .ok (ownRoutes disk options.settings
        (disk.world lookedAt) resolver file) := by
  rcases exists_isPlaced_of_mem_sources hTree hFiles hFile
    with ⟨place, hPlaced⟩
  exact
    answer_fileRoutes
      (hPlaced.holdsNull_eq_false hSpelled
        (Disk.isDirectory_eq_true_iff.mp hDirectory).1)

theorem scanAnswer_eq_accounted
    (hTree : disk.root.isWellFormed = true)
    (hSpelled : workspace.IsSpelled)
    (hDirectory : disk.isDirectory workspace = .ok true)
    (hFiles :
      sources disk options.settings options.limit
        workspace = .ok files)
    (hProject :
      hasProject disk options.settings workspace =
        .ok true)
    (hCancelled : options.cancelled = false) :
    scanAnswer disk options lookedAt workspace saved
        resolver =
      ((naming disk saved).mapError .broken).map fun name =>
        accounted options.settings workspace files fun file =>
          (ownRoutes disk options.settings
            (disk.world lookedAt) resolver file).map name := by
  apply scanAndName_eq_accounted hDirectory hFiles hProject
    hCancelled
  intro file hFile
  exact
    answer_fileRoutes_of_mem_sources hTree hSpelled hDirectory
      hFiles (List.mem_of_mem_filter hFile)

/-
  Other bytes in one candidate change no other one, nor what
  is saved elsewhere.
-/
theorem scanAnswer_withBytes
    (hTree : disk.root.isWellFormed = true)
    (hSpelled : workspace.IsSpelled)
    (hDirectory : disk.isDirectory workspace = .ok true)
    (hFiles :
      sources disk options.settings options.limit
        workspace = .ok files)
    (hProject :
      hasProject disk options.settings workspace =
        .ok true)
    (hCancelled : options.cancelled = false)
    {file : Text}
    (hFile : file ∈ files)
    (hSaved :
      ∀ place ∈ saved,
        disk.resolve
            (StateFile.path place Aliases.fileName) ≠
          disk.resolve (.ofText file))
    {name : Route → Route}
    (hNames : naming disk saved = .ok name)
    (content : Utf8.Bytes) :
    ∃ after,
      scanAnswer (disk.withBytes content (.ofText file))
          options lookedAt workspace saved resolver =
        .ok after ∧
      after.DiffersOnlyBy file
        (accounted options.settings workspace files
          fun file =>
            (ownRoutes disk options.settings
              (disk.world lookedAt) resolver
                file).map name) := by
  rcases exists_isPlaced_of_mem_sources hTree hFiles hFile
    with ⟨place, hPlaced⟩
  rcases hPlaced.holds with ⟨old, hThere⟩
  rw [← hPlaced.names_resolve hSpelled] at hThere
  have hAgrees :=
    Disk.agreesOn_withBytes hThere hTree content
  generalize
    disk.withBytes content (.ofText file) = changed at hAgrees
  have hNames' : naming changed saved = .ok name := by
    rw [naming_of_agreesOn hAgrees, hNames]
    intro place hPlace hSame
    exact hSaved place hPlace (congrArg (Path.mk ['/']) hSame)
  have hOthers :
      ∀ other ∈ files, other ≠ file →
        ownRoutes changed options.settings
            (changed.world lookedAt) resolver other =
          ownRoutes disk options.settings
            (disk.world lookedAt) resolver other := by
    intro other hOther hDifferent
    apply ownRoutes_of_agreesOn hAgrees
    intro hSame
    rcases exists_isPlaced_of_mem_sources hTree hFiles hOther
      with ⟨place', hPlaced'⟩
    exact
      hDifferent
        (hPlaced.eq_of_names_resolve_eq hPlaced' hSpelled
          hSame)
  rw [← hAgrees.isDirectory_eq] at hDirectory
  rw [← hAgrees.sources_eq] at hFiles
  rw [← hAgrees.hasProject_eq] at hProject
  rw [scanAnswer_eq_accounted hAgrees.wellFormed' hSpelled
    hDirectory hFiles hProject hCancelled, hNames']
  refine ⟨_, rfl, ?_⟩
  apply accounted_differsOnlyBy
  · intro other hOther hDifferent
    rw [hOthers other (List.mem_of_mem_filter hOther)
      hDifferent]
  · exact fun _ => sourceFile_of_mem_named hNames
  · exact fun _ => sourceFile_of_mem_named hNames

end Answers

/-
  A scan of a workspace with a project tells how many source
  files there are, takes those with the name of a controller
  as candidates, and tells the routes of each in turn, named
  as it is saved; it skips those without routes.  Other
  bytes in one candidate change nothing about the others.
-/
theorem scanAnswer_accounts_and_isolates
    (disk : Disk)
    (hTree : disk.root.isWellFormed = true)
    (workspace : Path)
    (hSpelled : workspace.IsSpelled)
    (hDirectory : disk.isDirectory workspace = .ok true)
    (options : ScanOptions)
    (hProject :
      hasProject disk options.settings workspace =
        .ok true)
    (hCancelled : options.cancelled = false)
    (lookedAt : Settings)
    (saved : Option Path)
    (resolver : Resolver) :
    ∃ (files : List Text) (own : Text → List Route),
      sources disk options.settings options.limit
          workspace = .ok files ∧
        (∀ file ∈ files,
          (fileRoutes disk options.settings defaultByteLimit
            (disk.world lookedAt) file resolver).1 =
              .ok (own file)) ∧
        scanAnswer disk options lookedAt workspace saved
            resolver =
          ((naming disk saved).mapError .broken).map
            (fun name =>
              accounted options.settings workspace files
                fun file => (own file).map name) ∧
        ∀ file ∈
            files.filter
              (Controller.isFileName options.settings),
          (∀ place ∈ saved,
            disk.resolve
                (StateFile.path place Aliases.fileName) ≠
              disk.resolve (.ofText file)) →
          ∀ content name,
            naming disk saved = .ok name →
              ∃ after,
                scanAnswer
                    (disk.withBytes content (.ofText file))
                    options lookedAt workspace saved
                    resolver =
                  .ok after ∧
                after.DiffersOnlyBy file
                  (accounted options.settings workspace
                    files fun file =>
                      (own file).map name) := by
  rcases exists_of_map_eq_ok hProject with ⟨root, hRoot, -⟩
  have hFiles :
      ∃ files,
        sources disk options.settings options.limit
          workspace = .ok files := by
    unfold sources
    rw [hRoot]
    exact ⟨_, rfl⟩
  rcases hFiles with ⟨files, hFiles⟩
  refine
    ⟨files,
      ownRoutes disk options.settings (disk.world lookedAt)
        resolver, hFiles, ?_, ?_, ?_⟩
  · intro file hFile
    exact
      answer_fileRoutes_of_mem_sources hTree hSpelled
        hDirectory hFiles hFile
  · exact
      scanAnswer_eq_accounted hTree hSpelled hDirectory
        hFiles hProject hCancelled
  · intro file hCandidate hSaved content name hNames
    exact
      scanAnswer_withBytes hTree hSpelled hDirectory hFiles
        hProject hCancelled (List.mem_of_mem_filter hCandidate)
        hSaved hNames content

/- A project with two controllers. -/
def stallEntries : List (Text × Entry) :=
  [("ItemsController.cs".toList, .file []),
   ("OrdersController.cs".toList,
     .file (Utf8.encode
       "[HttpGet] public int All() => 1;".toList)),
   ("Stall.csproj".toList, .file [])]

def stallDisk : Disk where
  root :=
    .directory [("stall".toList, .directory stallEntries)]
  here := ⟨['/'], []⟩
  denied := []

/- The workspace of the project. -/
def stall : Path :=
  ⟨['/'], ["stall".toList]⟩

/- One of the controllers. -/
def stallItems : Text :=
  "/stall/ItemsController.cs".toList

theorem sources_stallDisk :
    sources stallDisk .default none stall =
      .ok [stallItems,
        "/stall/OrdersController.cs".toList] := by
  have hRoot :
      root? stallDisk stall =
        .ok (.directory stallEntries) := by
    rfl
  unfold sources
  rw [hRoot, Except.map, sourcesWithin, sourcesAt, filesIn,
    byName, byName,
    List.mergeSort_of_pairwise (by decide +kernel),
    List.mergeSort_of_pairwise (by decide +kernel)]
  decide +kernel

/- Whatever the bytes of one become, the other is the same. -/
theorem scanAnswer_stallDisk_withBytes :
    stallDisk.root.isWellFormed = true ∧
      stall.IsSpelled ∧
      stallDisk.isDirectory stall = .ok true ∧
      hasProject stallDisk .default stall = .ok true ∧
      ∀ lookedAt resolver content, ∃ before after,
        scanAnswer stallDisk ⟨.default, none, false⟩ lookedAt
            stall (some stall) resolver = .ok before ∧
          before.candidates =
            [stallItems,
              "/stall/OrdersController.cs".toList] ∧
          scanAnswer
              (stallDisk.withBytes content
                (.ofText stallItems))
              ⟨.default, none, false⟩ lookedAt stall
              (some stall) resolver = .ok after ∧
          after.DiffersOnlyBy stallItems before := by
  have hTree : stallDisk.root.isWellFormed = true := by
    decide +kernel
  have hSpelled : stall.IsSpelled :=
    ⟨.inr (.inl rfl), by decide +kernel⟩
  have hDirectory :
      stallDisk.isDirectory stall = .ok true := by
    rfl
  have hProject :
      hasProject stallDisk .default stall = .ok true := by
    decide +kernel
  refine ⟨hTree, hSpelled, hDirectory, hProject, ?_⟩
  intro lookedAt resolver content
  rcases
      scanAnswer_accounts_and_isolates stallDisk hTree stall
        hSpelled hDirectory ⟨.default, none, false⟩ hProject
        rfl lookedAt (some stall) resolver with
    ⟨files, own, hFiles, -, hAnswer, hIsolated⟩
  cases hFiles.symm.trans sources_stallDisk
  have hNames :
      naming stallDisk (some stall) = .ok (nameFrom []) := by
    rfl
  rcases
      hIsolated stallItems (by decide +kernel)
        (by decide +kernel) content _ hNames with
    ⟨after, hAfter, hDiffers⟩
  have hCandidates :
      [stallItems, "/stall/OrdersController.cs".toList].filter
          (Controller.isFileName .default) =
        [stallItems, "/stall/OrdersController.cs".toList] := by
    decide +kernel
  rw [hNames] at hAnswer
  exact
    ⟨_, after, hAnswer, hCandidates, hAfter, hDiffers⟩

end Workspace

end RouteAtlas
