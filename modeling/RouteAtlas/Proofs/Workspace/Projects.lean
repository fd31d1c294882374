import Mathlib
import RouteAtlas.Proofs.Project.Remembered
import RouteAtlas.Proofs.Workspace.Enumerated

/-
  The projects of source files.

  Three walks have to agree: the one down to the source
  files, the one down in search of a project, and the one
  from a file up to the descriptor of its project.  A walk
  up leads through directories that the walk down to the
  file has entered, and those are entered in search of a
  project as well.  A workspace that is not scanned for want
  of a project is therefore one to whose projects none of
  its source files belongs.

  Main statements:
    * `projectAt_of_enters`
    * `exists_child_of_locate`
    * `hasProject_of_locate`
-/

------------------------------------------------------------
-- The Walk Down
------------------------------------------------------------

namespace RouteAtlas

open Entry

namespace Workspace

/- A descriptor in a directory that is entered is found. -/
theorem projectAt_of_enters
    {settings : Settings}
    {mayList : Place → Bool}
    {tree : Entry}
    {front place : Place}
    {inner : List (Text × Entry)}
    (hEnters :
      Enters settings mayList front tree place inner)
    {name : Text}
    {content : Utf8.Bytes}
    (hThere : (name, .file content) ∈ inner)
    (hName : isDescriptor settings name = true) :
    projectAt settings mayList front tree = true := by
  induction hEnters with
  | here listed =>
      rw [projectAt, listed, Bool.true_and, Bool.or_eq_true]
      left
      exact
        List.any_eq_true.mpr ⟨_, hThere, hName⟩
  | @inside front place entries inner other child listed
      member walked entered ih =>
      rw [projectAt, listed, Bool.true_and, Bool.or_eq_true,
        projectBelow_eq_any]
      right
      refine
        List.any_eq_true.mpr
          ⟨(other, child), Pairs.mem_of_get? member, ?_⟩
      rw [walked, ih hThere]
      rfl

end Workspace

------------------------------------------------------------
-- The Walk Up
------------------------------------------------------------

/- A name is the path of itself. -/
theorem Path.ofText_of_plain
    {name : Text}
    (hPlain : isName name = true ∧ '/' ∉ name) :
    ofText name = ⟨[], [name]⟩ := by
  have hSpelled : IsSpelled ⟨[], [name]⟩ :=
    ⟨.inl rfl, List.forall_mem_singleton.mpr hPlain⟩
  have hText := ofText_text hSpelled
  rwa [text_eq (.inr (List.cons_ne_nil _ _)),
    List.nil_append, Text.joinWith_singleton] at hText

/- A path that is seen from a directory starts with its. -/
theorem Path.prefix_of_relativeTo?
    {path directory : Path}
    (hInside : (path.relativeTo? directory).isSome = true) :
    directory.names <+: path.names := by
  unfold relativeTo? at hInside
  split at hInside
  · rw [Option.isSome_map] at hInside
    rcases Option.isSome_iff_exists.mp hInside with
      ⟨inner, hPrefix⟩
    rw [List.isPrefixOf?_eq_some_iff_append_eq] at hPrefix
    exact ⟨inner, hPrefix⟩
  · cases hInside

/- The directories above a directory begin its path. -/
theorem Project.prefix_of_mem_chain
    {depth : Nat}
    {directory above : Path}
    (hAbove : above ∈ chain directory depth) :
    above.root = directory.root ∧
      above.names <+: directory.names := by
  induction depth generalizing directory with
  | zero => cases hAbove
  | succ depth ih =>
      rw [chain] at hAbove
      split at hAbove
      · rw [List.mem_singleton.mp hAbove]
        exact ⟨rfl, List.prefix_refl _⟩
      · rcases List.mem_cons.mp hAbove with rfl | hHigher
        · exact ⟨rfl, List.prefix_refl _⟩
        · rcases ih hHigher with ⟨hRoot, hNames⟩
          exact
            ⟨hRoot, hNames.trans (List.dropLast_prefix _)⟩

/- A descriptor is a file with the right extension. -/
theorem Project.mem_of_descriptorIn?
    {extension name : Text}
    {listing : Listing}
    (hName : descriptorIn? extension listing = some name) :
    (name, true) ∈ listing ∧
      Text.endsWith extension name = true := by
  rcases Option.map_eq_some_iff.mp hName with
    ⟨⟨found, isFile⟩, hFound, rfl⟩
  have hHolds := List.find?_some hFound
  rw [Bool.and_eq_true] at hHolds
  rcases hHolds with ⟨rfl, hEnds⟩
  exact ⟨List.mem_of_find?_eq_some hFound, hEnds⟩

namespace Disk

variable {disk : Disk}

/- What is listed as a file is a file of the directory. -/
theorem exists_entries_of_list?
    {path : Path}
    {listing : Project.Listing}
    (hList : disk.list? path = some listing) :
    ∃ entries,
      disk.walk path = .ok (.directory entries) ∧
        ∀ name, (name, true) ∈ listing →
          ∃ content, (name, .file content) ∈ entries := by
  unfold list? entry? at hList
  cases hWalk : disk.walk path with
  | error obstacle =>
      rw [hWalk] at hList
      cases hList
  | ok entry =>
      rw [hWalk] at hList
      cases entry with
      | file content => cases hList
      | directory entries =>
          refine ⟨entries, rfl, ?_⟩
          dsimp only [Except.toOption] at hList
          split at hList
          · rw [← Option.some.inj hList]
            intro name hName
            rw [(List.mergeSort_perm _ _).mem_iff] at hName
            rcases List.mem_map.mp hName with
              ⟨⟨other, entry⟩, hEntry, hSame⟩
            cases entry with
            | directory others => cases hSame
            | file content =>
                cases hSame
                exact ⟨content, hEntry⟩
          · cases hList

/- The descriptor of a file stands in a directory above it. -/
theorem exists_child_of_locate
    {settings : Settings}
    {file : Text}
    {descriptor : Path}
    (hTree : disk.root.isWellFormed = true)
    (hLocate :
      disk.locate settings file = .ok (some descriptor)) :
    ∃ directory name entries content,
      descriptor = directory.child name ∧
        directory.root = (Path.ofText file).root ∧
          directory.names <+: (Path.ofText file).names.dropLast ∧
            disk.walk directory = .ok (.directory entries) ∧
              Pairs.get? name entries = some (.file content) ∧
                isEntryName name = true ∧
                  Workspace.isDescriptor settings name = true := by
  unfold locate at hLocate
  dsimp only at hLocate
  split at hLocate
  · cases hLocate
  · rcases Project.exists_of_searchAlong
        (Except.ok.inj hLocate) with
      ⟨directory, hAbove, listing, name, hList, hName, rfl⟩
    rcases Project.prefix_of_mem_chain hAbove with
      ⟨hRoot, hNames⟩
    rcases Project.mem_of_descriptorIn? hName with
      ⟨hListed, hDescriptor⟩
    rcases exists_entries_of_list? hList with
      ⟨entries, hWalk, hFiles⟩
    rcases hFiles name hListed with ⟨content, hMember⟩
    have hEntries :=
      isWellFormed_of_place? hTree (place?_of_walk hWalk)
    have hThere :=
      (Pairs.get?_eq_some_iff
        (nodup_of_isWellFormed hEntries)).mpr hMember
    have hPlain := isEntryName_of_get? hEntries hThere
    refine
      ⟨directory, name, entries, content, ?_, hRoot, hNames,
        hWalk, hThere, hPlain, hDescriptor⟩
    rw [Path.ofText_of_plain (plain_of_isEntryName hPlain).2.1]
    rfl

end Disk

------------------------------------------------------------
-- Scans without a Project
------------------------------------------------------------

namespace Workspace

variable {disk : Disk}
variable {workspace : Path}

/-
  The directory of the descriptor stands between the
  workspace and the file, so that it was entered on the way
  to the file.
-/
theorem hasProject_of_located
    {settings : Settings}
    {limit : Option Int}
    {files : List Text}
    {file : Text}
    {descriptor : Path}
    (hTree : disk.root.isWellFormed = true)
    (hSpelled : workspace.IsSpelled)
    (hFiles :
      sources disk settings limit workspace = .ok files)
    (hFile : file ∈ files)
    (hLocate :
      disk.locate settings file = .ok (some descriptor))
    (hInside :
      (descriptor.relativeTo? workspace).isSome = true) :
    hasProject disk settings workspace = .ok true := by
  rcases exists_entered_of_mem_sources hTree hFiles hFile
    with
    ⟨root, above, last, listed, hRoot, hWalk, hEnters,
      hPlaced⟩
  rcases Disk.exists_child_of_locate hTree hLocate with
    ⟨directory, name, entries, content, rfl, hSame, hAbove,
      hDirectory, hThere, hPlain, hName⟩
  have hPlace := Disk.place?_of_walk hWalk
  have hFound := Disk.place?_of_walk hDirectory
  rw [hPlaced.ofText_eq hSpelled] at hSame hAbove
  rw [← List.append_assoc, List.dropLast_concat] at hAbove
  rcases List.prefix_concat_iff.mp
      (Path.prefix_of_relativeTo? hInside) with
    hNames | ⟨between, hBetween⟩
  · -- The workspace would be the file of the descriptor.
    have hChild : workspace = directory.child name := by
      rw [Path.mk.injEq]
      exact ⟨hSame.symm, hNames⟩
    rw [hChild, disk.names_resolve_child directory
        (plain_of_isEntryName hPlain).1,
      place?_snoc hFound, hThere, Option.some.injEq] at hPlace
    rw [← hPlace] at hEnters
    cases hEnters
  · rw [← hBetween, List.prefix_append_right_inj] at hAbove
    rcases hAbove with ⟨below, rfl⟩
    rcases hEnters.of_append with ⟨inner, hEntered⟩
    have hNames :
        ∀ other ∈ between, isEntryName other = true :=
      fun other hOther =>
        hPlaced.plain other (by simp [hOther])
    have hChild :
        directory =
          ⟨workspace.root, workspace.names ++ between⟩ := by
      rw [Path.mk.injEq]
      exact ⟨hSame, hBetween.symm⟩
    rw [hChild, names_resolve_place hNames, place?_append,
      hPlace, Option.bind_some, hEntered.place?_eq,
      Option.some.injEq, Entry.directory.injEq] at hFound
    subst hFound
    unfold hasProject
    rw [hRoot, Except.map,
      projectAt_of_enters hEntered (Pairs.mem_of_get? hThere)
        hName]

/-
  If the project of a source file lies in the workspace, the
  workspace holds a project.  So none does of a workspace
  that is not scanned for want of one.
-/
theorem hasProject_of_locate
    (hTree : disk.root.isWellFormed = true)
    (hSpelled : workspace.IsSpelled)
    (options : ScanOptions)
    {files : List Text}
    (hFiles :
      sources disk options.settings options.limit workspace =
        .ok files) :
    (∀ file ∈ files, ∀ descriptor,
      disk.locate options.settings file =
          .ok (some descriptor) →
        (descriptor.relativeTo? workspace).isSome = true →
          hasProject disk options.settings workspace =
            .ok true) ∧
      ∀ world resolver result resolver',
        scan disk options world workspace resolver =
            .ok (result, resolver') →
          result.hasProject = false →
            ∀ file ∈ files, ∀ descriptor,
              disk.locate options.settings file =
                  .ok (some descriptor) →
                descriptor.relativeTo? workspace = none := by
  have hProject :
      ∀ file ∈ files, ∀ descriptor,
        disk.locate options.settings file =
            .ok (some descriptor) →
          (descriptor.relativeTo? workspace).isSome = true →
            hasProject disk options.settings workspace =
              .ok true :=
    fun file hFile descriptor hLocate hInside =>
      hasProject_of_located hTree hSpelled hFiles hFile
        hLocate hInside
  refine ⟨hProject, ?_⟩
  intro world resolver result resolver' hScan hNone file hFile
    descriptor hLocate
  rw [← Option.not_isSome_iff_eq_none]
  intro hInside
  have hFound := (scan_cases hScan).1
  rw [hProject file hFile descriptor hLocate hInside, hNone]
    at hFound
  cases hFound

/- A project whose only source file lies below it. -/
def yardDisk : Disk where
  root :=
    .directory
      [("yard".toList, .directory
        [("Yard.csproj".toList, .file []),
         ("docs".toList, .directory
           [("Notes.cs".toList, .file [])])])]
  here := ⟨['/'], []⟩
  denied := []

def yard : Path :=
  ⟨['/'], ["yard".toList]⟩

def yardNotes : Text :=
  "/yard/docs/Notes.cs".toList

/-
  The project is found from its directory, and is none of
  the directory of the file.
-/
theorem hasProject_yardDisk :
    yardDisk.root.isWellFormed = true ∧
      yard.IsSpelled ∧
      (yard.child "docs".toList).IsSpelled ∧
      sources yardDisk .default none yard = .ok [yardNotes] ∧
      sources yardDisk .default none
          (yard.child "docs".toList) =
        .ok [yardNotes] ∧
      yardDisk.locate .default yardNotes =
        .ok (some (yard.child "Yard.csproj".toList)) ∧
      hasProject yardDisk .default yard = .ok true ∧
      (yard.child "Yard.csproj".toList).relativeTo?
          (yard.child "docs".toList) =
        none := by
  have hTree : yardDisk.root.isWellFormed = true := by
    decide +kernel
  have hSpelled : yard.IsSpelled :=
    ⟨.inr (.inl rfl), by decide +kernel⟩
  have hSpelled' : (yard.child "docs".toList).IsSpelled :=
    ⟨.inr (.inl rfl), by decide +kernel⟩
  have hFiles :
      sources yardDisk .default none yard =
        .ok [yardNotes] := by
    cbv
  have hFiles' :
      sources yardDisk .default none
          (yard.child "docs".toList) =
        .ok [yardNotes] := by
    cbv
  have hLocate :
      yardDisk.locate .default yardNotes =
        .ok (some (yard.child "Yard.csproj".toList)) := by
    cbv
  have hDirectory :
      yardDisk.isDirectory (yard.child "docs".toList) =
        .ok true := by
    rfl
  have hNone :
      hasProject yardDisk .default
          (yard.child "docs".toList) =
        .ok false := by
    decide +kernel
  have hScan :
      scan yardDisk ⟨.default, none, false⟩
          (yardDisk.world .default)
          (yard.child "docs".toList)
          (.ofSettings .default) =
        .ok (⟨(yard.child "docs".toList).text, 1, [], [],
            false, []⟩, .ofSettings .default) := by
    simp only [scan, hDirectory, hFiles', hNone, bind,
      Except.bind, Except.mapError]
    rfl
  refine
    ⟨hTree, hSpelled, hSpelled', hFiles, hFiles', hLocate,
      ?_, ?_⟩
  · exact
      (hasProject_of_locate hTree hSpelled
        ⟨.default, none, false⟩ hFiles).1
        yardNotes (List.mem_singleton_self _) _ hLocate rfl
  · exact
      (hasProject_of_locate hTree hSpelled'
        ⟨.default, none, false⟩ hFiles').2
        _ _ _ _ hScan rfl yardNotes
        (List.mem_singleton_self _) _ hLocate

end Workspace

end RouteAtlas
