import Mathlib
import RouteAtlas.Proofs.Path.Spelling
import RouteAtlas.Proofs.Workspace.Listing

/-
  Where the source files of a workspace stand.

  A source file is listed under the path of its place in the
  workspace, and there is a file at that place.  The walk
  has entered its directory and all those on the way there.
  Different source files stand at different places of the
  disk.

  Main definitions:
    * `Workspace.Enters`
    * `Workspace.IsPlaced`

  Main statements:
    * `exists_entered_of_mem_sources`
    * `exists_isPlaced_of_mem_sources`
    * `IsPlaced.names_resolve`
    * `IsPlaced.eq_of_names_resolve_eq`
-/

------------------------------------------------------------
-- Enumerated Places
------------------------------------------------------------

namespace RouteAtlas

open Entry

namespace Workspace

section Enumerated

variable {settings : Settings}
variable {mayList : Place → Bool}

theorem exists_file_of_mem_filesIn
    {entries : List (Text × Entry)}
    {front place : Place}
    (hEntries : (directory entries).isWellFormed = true)
    (hPlace : place ∈ filesIn settings front entries) :
    ∃ name content,
      place = front ++ [name] ∧
        Pairs.get? name entries = some (.file content) := by
  unfold filesIn at hPlace
  rcases List.mem_filterMap.mp hPlace with
    ⟨⟨name, entry⟩, hEntry, hSource⟩
  rw [(perm_byName _).mem_iff, List.mem_filter] at hEntry
  rw [← Pairs.get?_eq_some_iff
    (nodup_of_isWellFormed hEntries)] at hEntry
  rcases hEntry with ⟨hThere, hFile⟩
  cases entry with
  | directory others => cases hFile
  | file content =>
      dsimp only at hSource
      split at hSource
      · exact
          ⟨name, content, (Option.some.inj hSource).symm,
            hThere⟩
      · cases hSource

/-
  Whether a walk that comes to a tree at a place enters one
  of its directories, whose entries are given.
-/
inductive Enters
    (settings : Settings)
    (mayList : Place → Bool) :
    Place → Entry → Place → List (Text × Entry) → Prop
  | here
      {front : Place}
      {entries : List (Text × Entry)}
      (listed : mayList front = true) :
      Enters settings mayList front (.directory entries) []
        entries
  | inside
      {front place : Place}
      {entries inner : List (Text × Entry)}
      {name : Text}
      {child : Entry}
      (listed : mayList front = true)
      (member : Pairs.get? name entries = some child)
      (walked : isWalked settings (front ++ [name]) = true)
      (entered :
        Enters settings mayList (front ++ [name]) child place
          inner) :
      Enters settings mayList front (.directory entries)
        (name :: place) inner

theorem Enters.place?_eq
    {tree : Entry}
    {front place : Place}
    {inner : List (Text × Entry)}
    (hEnters :
      Enters settings mayList front tree place inner) :
    place? place tree = some (.directory inner) := by
  induction hEnters with
  | here listed => rfl
  | inside listed member walked entered ih =>
      rw [place?, member]
      exact ih

/- The directories on the way are entered as well. -/
theorem Enters.of_append
    {tree : Entry}
    {front above below : Place}
    {inner : List (Text × Entry)}
    (hEnters :
      Enters settings mayList front tree (above ++ below)
        inner) :
    ∃ entries,
      Enters settings mayList front tree above entries := by
  induction above generalizing front tree with
  | nil =>
      cases hEnters with
      | here listed => exact ⟨_, .here listed⟩
      | inside listed member walked entered =>
          exact ⟨_, .here listed⟩
  | cons name above ih =>
      cases hEnters with
      | inside listed member walked entered =>
          rcases ih entered with ⟨entries, hAbove⟩
          exact ⟨entries, .inside listed member walked hAbove⟩

/-
  By induction on the tree: a file of the directory itself,
  or one that is listed below one of its names.
-/
theorem exists_entered_of_mem_sourcesAt
    {tree : Entry}
    {front place : Place}
    (hTree : tree.isWellFormed = true)
    (hPlace :
      place ∈ sourcesAt settings mayList front tree) :
    ∃ above name entries content,
      place = front ++ (above ++ [name]) ∧
        Enters settings mayList front tree above entries ∧
          Pairs.get? name entries = some (.file content) := by
  induction tree using Entry.induct generalizing front with
  | file content =>
      rw [sourcesAt] at hPlace
      cases hPlace
  | directory entries ih =>
      have hDistinct := nodup_of_isWellFormed hTree
      rw [sourcesAt] at hPlace
      split at hPlace
      next hListed =>
        rcases List.mem_append.mp hPlace with hHere | hBelow
        · rcases exists_file_of_mem_filesIn hTree hHere with
            ⟨name, content, rfl, hThere⟩
          exact
            ⟨[], name, entries, content, rfl, .here hListed,
              hThere⟩
        · rcases List.mem_flatMap.mp hBelow with
            ⟨⟨name, places⟩, hPlaces, hMember⟩
          rw [mem_byName_iff
              (hDistinct.sublist
                (sublist_map_fst_sourcesBelow entries)),
            get?_sourcesBelow hDistinct] at hPlaces
          split at hPlaces
          next hWalked =>
            rcases Option.map_eq_some_iff.mp hPlaces with
              ⟨child, hChild, rfl⟩
            rcases ih name child hChild
                (isWellFormed_of_get? hTree hChild)
                hMember with
              ⟨above, last, inner, content, rfl, hEnters,
                hThere⟩
            refine
              ⟨name :: above, last, inner, content, ?_,
                .inside hListed hChild hWalked hEnters,
                hThere⟩
            rw [List.append_assoc]
            rfl
          next => cases hPlaces
      next => cases hPlace

theorem exists_file_of_mem_sourcesAt
    {tree : Entry}
    {front place : Place}
    (hTree : tree.isWellFormed = true)
    (hPlace :
      place ∈ sourcesAt settings mayList front tree) :
    ∃ names content,
      place = front ++ names ∧
        place? names tree = some (.file content) := by
  rcases exists_entered_of_mem_sourcesAt hTree hPlace with
    ⟨above, name, entries, content, hNames, hEnters, hThere⟩
  refine ⟨above ++ [name], content, hNames, ?_⟩
  rw [place?_snoc hEnters.place?_eq]
  exact hThere

end Enumerated

------------------------------------------------------------
-- Placed Files
------------------------------------------------------------

/-
  Whether a file of a workspace is listed under the path of
  a place, and there is a file.
-/
structure IsPlaced
    (disk : Disk)
    (workspace : Path)
    (file : Text)
    (place : Place) :
    Prop where
  file_eq : file = filePath workspace place
  plain : ∀ name ∈ place, isEntryName name = true
  holds :
    ∃ content,
      place? ((disk.resolve workspace).names ++ place)
        disk.root = some (.file content)

/- The walk through the workspace comes to a source file. -/
theorem exists_entered_of_mem_sources
    {disk : Disk}
    {settings : Settings}
    {limit : Option Int}
    {workspace : Path}
    {files : List Text}
    (hTree : disk.root.isWellFormed = true)
    (hFiles :
      sources disk settings limit workspace = .ok files)
    {file : Text}
    (hFile : file ∈ files) :
    ∃ root above name entries,
      root? disk workspace = .ok root ∧
        disk.walk workspace = .ok root ∧
          Enters settings (mayListIn disk workspace) [] root
              above entries ∧
            IsPlaced disk workspace file (above ++ [name]) := by
  rcases exists_of_map_eq_ok hFiles with
    ⟨root, hRoot, rfl⟩
  rcases List.mem_map.mp hFile with ⟨place, hPlace, rfl⟩
  have hListed := mem_of_mem_sourcesWithin hPlace
  have hWalk : disk.walk workspace = .ok root := by
    have hFound := hRoot
    unfold root? Disk.entry? at hFound
    split at hFound
    · cases hWalk : disk.walk workspace with
      | ok tree =>
          rw [hWalk] at hFound
          rw [← Except.ok.inj hFound]
          rfl
      | error obstacle =>
          -- Nothing is listed where there is no directory.
          rw [hWalk] at hFound
          rw [← Except.ok.inj hFound] at hListed
          have hEmpty : Entry.empty.isWellFormed = true := rfl
          rcases exists_file_of_mem_sourcesAt hEmpty hListed
            with ⟨names, content, -, hFile⟩
          cases names <;> cases hFile
    · cases hFound
  have hThere := Disk.place?_of_walk hWalk
  have hInner := isWellFormed_of_place? hTree hThere
  rcases exists_entered_of_mem_sourcesAt hInner hListed with
    ⟨above, name, entries, content, hNames, hEnters, hLast⟩
  rw [List.nil_append] at hNames
  subst hNames
  rw [← place?_snoc hEnters.place?_eq] at hLast
  refine
    ⟨root, above, name, entries, hRoot, hWalk, hEnters, rfl,
      isEntryName_of_place? hInner hLast, content, ?_⟩
  rw [place?_append, hThere]
  exact hLast

theorem exists_isPlaced_of_mem_sources
    {disk : Disk}
    {settings : Settings}
    {limit : Option Int}
    {workspace : Path}
    {files : List Text}
    (hTree : disk.root.isWellFormed = true)
    (hFiles :
      sources disk settings limit workspace = .ok files)
    {file : Text}
    (hFile : file ∈ files) :
    ∃ place, IsPlaced disk workspace file place := by
  rcases exists_entered_of_mem_sources hTree hFiles hFile
    with ⟨-, above, name, -, -, -, -, hPlaced⟩
  exact ⟨above ++ [name], hPlaced⟩

theorem isSpelled_append
    {workspace : Path}
    {place : Place}
    (hSpelled : workspace.IsSpelled)
    (hPlain : ∀ name ∈ place, isEntryName name = true) :
    Path.IsSpelled
      ⟨workspace.root, workspace.names ++ place⟩ := by
  refine ⟨hSpelled.root, ?_⟩
  intro name hName
  rcases List.mem_append.mp hName with hFront | hBack
  · exact hSpelled.names name hFront
  · exact (plain_of_isEntryName (hPlain name hBack)).2.1

theorem names_resolve_place
    {disk : Disk}
    {workspace : Path}
    {place : Place}
    (hPlain : ∀ name ∈ place, isEntryName name = true) :
    (disk.resolve
        ⟨workspace.root, workspace.names ++ place⟩).names =
      (disk.resolve workspace).names ++ place := by
  induction place using List.reverseRecOn with
  | nil => rw [List.append_nil, List.append_nil]
  | append_singleton front name ih =>
      rw [List.forall_mem_append, List.forall_mem_singleton]
        at hPlain
      have hName := (plain_of_isEntryName hPlain.2).1
      have hChild :=
        disk.names_resolve_child
          ⟨workspace.root, workspace.names ++ front⟩ hName
      rw [ih hPlain.1] at hChild
      rw [← List.append_assoc, ← List.append_assoc]
      exact hChild

/- Two places in a workspace have two paths. -/
theorem eq_of_filePath_eq
    {workspace : Path}
    {place other : Place}
    (hSpelled : workspace.IsSpelled)
    (hPlain : ∀ name ∈ place, isEntryName name = true)
    (hPlain' : ∀ name ∈ other, isEntryName name = true)
    (hSame :
      filePath workspace place = filePath workspace other) :
    place = other := by
  have hPath :=
    (isSpelled_append hSpelled hPlain).eq_of_text_eq
      (isSpelled_append hSpelled hPlain') hSame
  rw [Path.mk.injEq] at hPath
  exact List.append_cancel_left hPath.2

namespace IsPlaced

variable {disk : Disk}
variable {workspace : Path}
variable {file : Text}
variable {place : Place}

/- The path of a file is that of its place. -/
theorem ofText_eq
    (hPlaced : IsPlaced disk workspace file place)
    (hSpelled : workspace.IsSpelled) :
    Path.ofText file =
      ⟨workspace.root, workspace.names ++ place⟩ := by
  rw [hPlaced.file_eq]
  exact
    Path.ofText_text
      (isSpelled_append hSpelled hPlaced.plain)

theorem holdsNull_eq_false
    (hPlaced : IsPlaced disk workspace file place)
    (hSpelled : workspace.IsSpelled)
    (hNull : workspace.holdsNull = false) :
    (Path.ofText file).holdsNull = false := by
  rw [hPlaced.ofText_eq hSpelled]
  unfold Path.holdsNull at hNull ⊢
  rw [List.any_append, hNull, Bool.false_or,
    List.any_eq_false]
  intro name hName hHolds
  rcases List.any_eq_true.mp hHolds with ⟨c, hChar, hIsNull⟩
  rw [beq_iff_eq.mp hIsNull] at hChar
  exact
    (plain_of_isEntryName (hPlaced.plain name hName)).2.2
      hChar

/- A file resolves to its place below the workspace. -/
theorem names_resolve
    (hPlaced : IsPlaced disk workspace file place)
    (hSpelled : workspace.IsSpelled) :
    (disk.resolve (.ofText file)).names =
      (disk.resolve workspace).names ++ place := by
  rw [hPlaced.ofText_eq hSpelled]
  exact names_resolve_place hPlaced.plain

/- Two files at one place are the same. -/
theorem eq_of_names_resolve_eq
    {other : Text}
    {place' : Place}
    (hPlaced : IsPlaced disk workspace file place)
    (hOther : IsPlaced disk workspace other place')
    (hSpelled : workspace.IsSpelled)
    (hSame :
      (disk.resolve (.ofText other)).names =
        (disk.resolve (.ofText file)).names) :
    other = file := by
  rw [hPlaced.names_resolve hSpelled,
    hOther.names_resolve hSpelled] at hSame
  rw [hPlaced.file_eq, hOther.file_eq,
    List.append_cancel_left hSame]

end IsPlaced

end Workspace

end RouteAtlas
