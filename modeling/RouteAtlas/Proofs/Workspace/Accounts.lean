import Mathlib
import RouteAtlas.Proofs.Except
import RouteAtlas.Proofs.Project.Remembered
import RouteAtlas.Proofs.Workspace.Listing

/-
  What a scan accounts for.

  Each candidate is read on its own.  The project that is
  remembered for a file is the one that would be found for
  it again, so the files before it do not change what a file
  answers.  A scan that is not cut short is therefore made
  of what each candidate answers by itself.

  Main statements:
    * `answer_fileRoutes_fileRoutes`
    * `answer_allFileRoutes`
    * `scan_eq_accounted`
    * `scanAndName_eq_accounted`
-/

------------------------------------------------------------
-- Routes of One File
------------------------------------------------------------

namespace RouteAtlas

/- Every route of a text tells the file of the text. -/
theorem Route.sourceFile_of_mem_ofSource
    {settings : Settings}
    {origin : Controller.Origin}
    {source : Text}
    {route : Route}
    (hRoute : route ∈ ofSource settings origin source) :
    route.sourceFile = origin.file := by
  unfold ofSource ofLines at hRoute
  rcases List.mem_flatMap.mp hRoute with
    ⟨position, -, hDeclared⟩
  unfold declaredFrom at hDeclared
  split at hDeclared
  · cases hDeclared
  · rcases List.mem_filterMap.mp hDeclared with
      ⟨inner, -, hAction⟩
    rcases Option.map_eq_some_iff.mp hAction with
      ⟨action, -, rfl⟩
    rfl

namespace Workspace

section OneFile

variable {disk : Disk}
variable {settings : Settings}
variable {limit : Int}
variable {world : World}
variable {file : Text}
variable {resolver : Resolver}

/- The routes of a text tell the file it lies in. -/
theorem sourceFile_of_mem_sourceRoutes
    {source : Text}
    {routes : List Route}
    (hRoutes :
      (sourceRoutes settings world file source
        resolver).1 = .ok routes)
    {route : Route}
    (hRoute : route ∈ routes) :
    route.sourceFile = file := by
  unfold sourceRoutes at hRoutes
  split at hRoutes
  · rcases exists_of_map_eq_ok hRoutes with
      ⟨project, -, rfl⟩
    exact Route.sourceFile_of_mem_ofSource hRoute
  · cases hRoutes
    cases hRoute

/- A look-up that breaks down leaves a file without routes. -/
theorem fileRoutes_eq :
    fileRoutes disk settings limit world file resolver =
      if !Controller.isFileName settings file then
        (.ok [], resolver)
      else
        match fileText disk limit file with
        | .error cause => (.error cause, resolver)
        | .ok none => (.ok [], resolver)
        | .ok (some source) =>
            (.ok ((sourceRoutes settings world file source
                resolver).1.toOption.getD []),
              (sourceRoutes settings world file source
                resolver).2) := by
  rfl

theorem sourceFile_of_mem_fileRoutes
    {routes : List Route}
    (hRoutes :
      (fileRoutes disk settings limit world file
        resolver).1 = .ok routes)
    {route : Route}
    (hRoute : route ∈ routes) :
    route.sourceFile = file := by
  rw [fileRoutes_eq] at hRoutes
  split at hRoutes
  · cases hRoutes
    cases hRoute
  · split at hRoutes
    next => cases hRoutes
    next =>
      cases hRoutes
      cases hRoute
    next source hSource =>
      cases hAnswer :
          (sourceRoutes settings world file source
            resolver).1 with
      | error cause =>
          rw [hAnswer] at hRoutes
          cases hRoutes
          cases hRoute
      | ok found =>
          rw [hAnswer] at hRoutes
          cases hRoutes
          exact sourceFile_of_mem_sourceRoutes hAnswer hRoute

/- A file answers by its text and the project it is in. -/
theorem answer_fileRoutes_congr
    {changed : Disk}
    {world' : World}
    {resolver' : Resolver}
    (hText :
      fileText changed limit file =
        fileText disk limit file)
    (hDescriptor :
      (resolver'.descriptor world' file).1 =
        (resolver.descriptor world file).1) :
    (fileRoutes changed settings limit world' file
        resolver').1 =
      (fileRoutes disk settings limit world file
        resolver).1 := by
  have hSource :
      ∀ source,
        (sourceRoutes settings world' file source
            resolver').1 =
          (sourceRoutes settings world file source
            resolver).1 := by
    intro source
    unfold sourceRoutes
    split
    · unfold Resolver.Lookup.map
      rw [hDescriptor]
    · rfl
  rw [fileRoutes_eq, fileRoutes_eq, hText]
  split
  · rfl
  · split
    next => rfl
    next => rfl
    next source _ => rw [hSource]

/- The project of a file is all that is looked for. -/
theorem resolver_fileRoutes :
    (fileRoutes disk settings limit world file
        resolver).2 = resolver ∨
      (fileRoutes disk settings limit world file
          resolver).2 =
        (resolver.descriptor world file).2 := by
  rw [fileRoutes_eq]
  split
  · exact .inl rfl
  · split
    next => exact .inl rfl
    next => exact .inl rfl
    next =>
      unfold sourceRoutes
      split
      · exact .inr rfl
      · exact .inl rfl

/- Reading a file changes the answer of no other file. -/
theorem answer_fileRoutes_fileRoutes
    (other : Text) :
    (fileRoutes disk settings limit world other
        (fileRoutes disk settings limit world file
          resolver).2).1 =
      (fileRoutes disk settings limit world other
        resolver).1 := by
  have hAfter :
      (fileRoutes disk settings limit world file
          resolver).2 = resolver ∨
        (fileRoutes disk settings limit world file
            resolver).2 =
          (resolver.descriptor world file).2 :=
    resolver_fileRoutes
  apply answer_fileRoutes_congr rfl
  rcases hAfter with hSame | hLookedFor
  · rw [hSame]
  · rw [hLookedFor]
    exact Resolver.answer_descriptor_descriptor file other

/- The routes that a file answers, none if it breaks down. -/
def ownRoutes
    (disk : Disk)
    (settings : Settings)
    (world : World)
    (resolver : Resolver)
    (file : Text) :
    List Route :=
  (fileRoutes disk settings defaultByteLimit world file
    resolver).1.toOption.getD []

/- Only a null character breaks a file down. -/
theorem answer_fileRoutes
    (hNull : (Path.ofText file).holdsNull = false) :
    (fileRoutes disk settings defaultByteLimit world file
        resolver).1 =
      .ok (ownRoutes disk settings world resolver file) := by
  unfold ownRoutes
  rw [fileRoutes_eq]
  split
  · rfl
  · unfold fileText Disk.readBytes
    rw [hNull, if_neg Bool.false_ne_true]
    cases disk.bytes? (.ofText file) with
    | none => rfl
    | some bytes => rfl

theorem sourceFile_of_mem_ownRoutes
    {route : Route}
    (hRoute :
      route ∈ ownRoutes disk settings world resolver file) :
    route.sourceFile = file := by
  unfold ownRoutes at hRoute
  cases hAnswer :
      (fileRoutes disk settings defaultByteLimit world file
        resolver).1 with
  | error cause =>
      rw [hAnswer] at hRoute
      cases hRoute
  | ok routes =>
      rw [hAnswer] at hRoute
      exact sourceFile_of_mem_fileRoutes hAnswer hRoute

end OneFile

------------------------------------------------------------
-- Routes of All Files
------------------------------------------------------------

/-
  By induction on the files: what one of them leaves behind
  changes no answer of the next ones.
-/
theorem answer_allFileRoutes
    {disk : Disk}
    {settings : Settings}
    {world : World}
    {files : List Text}
    {resolver : Resolver}
    {own : Text → List Route}
    (hOwn :
      ∀ file ∈ files,
        (fileRoutes disk settings defaultByteLimit world file
          resolver).1 = .ok (own file)) :
    (allFileRoutes disk settings world files resolver).1 =
      .ok (files.map fun file => (file, own file)) := by
  induction files generalizing resolver with
  | nil => rfl
  | cons file files ih =>
      rw [List.forall_mem_cons] at hOwn
      have hRest :
          ∀ other ∈ files,
            (fileRoutes disk settings defaultByteLimit world
              other
              (fileRoutes disk settings defaultByteLimit
                world file resolver).2).1 =
              .ok (own other) := by
        intro other hOther
        rw [answer_fileRoutes_fileRoutes]
        exact hOwn.2 other hOther
      rw [allFileRoutes,
        Resolver.Lookup.andThen_of_ok hOwn.1]
      unfold Resolver.Lookup.map
      rw [ih hRest]
      rfl

------------------------------------------------------------
-- Accounts
------------------------------------------------------------

/- The result of a scan whose files have the given routes. -/
def accounted
    (settings : Settings)
    (workspace : Path)
    (files : List Text)
    (own : Text → List Route) :
    ScanResult :=
  let candidates :=
    files.filter (Controller.isFileName settings)
  { workspace := workspace.text
    filesScanned := files.length
    candidates
    routes := candidates.flatMap own
    hasProject := true
    skipped := candidates.filter fun file =>
      (own file).isEmpty }

/- The route with the name that aliases have for it. -/
def nameFrom
    (aliases : Aliases)
    (route : Route) :
    Route :=
  route.withAlias (aliases.get? route.path route.verb.text)

/-
  How a scan names each route: not at all, or as it is saved
  in a directory.
-/
def naming
    (disk : Disk)
    (saved : Option Path) :
    Except Breakdown (Route → Route) :=
  match saved with
  | none => .ok id
  | some place => (Aliases.load disk place).map nameFrom

/- A name does not move a route to another file. -/
theorem sourceFile_of_naming
    {disk : Disk}
    {saved : Option Path}
    {name : Route → Route}
    (hNames : naming disk saved = .ok name)
    (route : Route) :
    (name route).sourceFile = route.sourceFile := by
  unfold naming at hNames
  split at hNames
  · cases hNames
    rfl
  · rcases exists_of_map_eq_ok hNames with
      ⟨aliases, -, rfl⟩
    rfl

theorem sourceFile_of_mem_named
    {disk : Disk}
    {saved : Option Path}
    {name : Route → Route}
    (hNames : naming disk saved = .ok name)
    {scanned : Disk}
    {settings : Settings}
    {world : World}
    {resolver : Resolver}
    {file : Text}
    {route : Route}
    (hRoute :
      route ∈
        (ownRoutes scanned settings world resolver
          file).map name) :
    route.sourceFile = file := by
  rcases List.mem_map.mp hRoute with
    ⟨unnamed, hUnnamed, rfl⟩
  rw [sourceFile_of_naming hNames]
  exact sourceFile_of_mem_ownRoutes hUnnamed

section Accounts

variable {disk : Disk}
variable {options : ScanOptions}
variable {world : World}
variable {workspace : Path}
variable {resolver : Resolver}
variable {files : List Text}
variable {own : Text → List Route}

/- A scan that is not cut short answers for each file. -/
theorem scan_eq_accounted
    (hDirectory : disk.isDirectory workspace = .ok true)
    (hFiles :
      sources disk options.settings options.limit
        workspace = .ok files)
    (hProject :
      hasProject disk options.settings workspace =
        .ok true)
    (hCancelled : options.cancelled = false)
    (hOwn :
      ∀ file ∈
          files.filter
            (Controller.isFileName options.settings),
        (fileRoutes disk options.settings defaultByteLimit
          world file resolver).1 = .ok (own file)) :
    scan disk options world workspace resolver =
      .ok (accounted options.settings workspace files own,
        (allFileRoutes disk options.settings world
          (files.filter
            (Controller.isFileName options.settings))
          resolver).2) := by
  have hAll := answer_allFileRoutes hOwn
  have hFound :
      ((files.filter
          (Controller.isFileName options.settings)).map
            fun file => (file, own file)).flatMap (·.2) =
        (files.filter
          (Controller.isFileName options.settings)).flatMap
            own := by
    rw [List.flatMap_map]
  have hSkipped :
      (((files.filter
          (Controller.isFileName options.settings)).map
            fun file => (file, own file)).filter
              (·.2.isEmpty)).map (·.1) =
        (files.filter
          (Controller.isFileName options.settings)).filter
            fun file => (own file).isEmpty := by
    rw [List.filter_map, List.map_map]
    exact List.map_id _
  unfold scan accounted
  simp only [hDirectory, hFiles, hProject, hCancelled, hAll,
    Except.mapError, bind, Except.bind, Bool.not_true,
    Bool.false_and, Bool.false_eq_true, if_false]
  rw [hFound, hSkipped]
  rfl

/- Naming all routes names those of each file. -/
theorem named_accounted
    (settings : Settings)
    (place : Path) :
    (accounted settings workspace files own).named disk place
        [] =
      (Aliases.load disk place).map fun aliases =>
        (accounted settings workspace files fun file =>
          (own file).map (nameFrom aliases), aliases) := by
  unfold ScanResult.named
  cases Aliases.load disk place with
  | error cause => rfl
  | ok aliases =>
      have hNamed :
          (accounted settings workspace files
              own).withNames aliases =
            accounted settings workspace files fun file =>
              (own file).map (nameFrom aliases) := by
        unfold ScanResult.withNames Aliases.apply accounted
        simp only [List.map_flatMap, List.isEmpty_map]
        rfl
      rw [Except.map, ← hNamed]
      rfl

theorem scanAndName_eq_accounted
    (hDirectory : disk.isDirectory workspace = .ok true)
    (hFiles :
      sources disk options.settings options.limit
        workspace = .ok files)
    (hProject :
      hasProject disk options.settings workspace =
        .ok true)
    (hCancelled : options.cancelled = false)
    (hOwn :
      ∀ file ∈
          files.filter
            (Controller.isFileName options.settings),
        (fileRoutes disk options.settings defaultByteLimit
          world file resolver).1 = .ok (own file))
    (saved : Option Path) :
    (scanAndName disk options world workspace saved
        resolver).map (·.1) =
      ((naming disk saved).mapError .broken).map fun name =>
        accounted options.settings workspace files
          fun file => (own file).map name := by
  unfold scanAndName naming
  rw [scan_eq_accounted hDirectory hFiles hProject hCancelled
    hOwn]
  cases saved with
  | none =>
      simp only [Except.map, Except.mapError, List.map_id]
      rfl
  | some place =>
      simp only [bind, Except.bind, named_accounted]
      cases Aliases.load disk place with
      | error cause => rfl
      | ok aliases => rfl

end Accounts

end Workspace

end RouteAtlas
