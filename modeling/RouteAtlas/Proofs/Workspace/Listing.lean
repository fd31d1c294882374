import Mathlib
import RouteAtlas.Proofs.Except
import RouteAtlas.Proofs.Text.Order
import RouteAtlas.Proofs.Workspace.Disk
import RouteAtlas.Proofs.Workspace.Limit
import RouteAtlas.Proofs.Workspace.Shape
import RouteAtlas.Workspace.Scan

/-
  Disks whose trees have one shape.

  Listing, searching for descriptors and enumerating source
  files look at the shape of a tree only, and sort what they
  find.  Two disks of one shape therefore answer the same,
  in whatever order their directories are kept.  Reading
  answers the same at the places where they hold the same.

  Main statements:
    * `sourcesAt_congr`
    * `projectAt_congr`
    * `AgreesOn.list?_eq`
    * `AgreesOn.sources_eq`
    * `AgreesOn.locate_eq`
    * `scan_cases`
-/

------------------------------------------------------------
-- Source Files
------------------------------------------------------------

namespace RouteAtlas

open Entry

namespace Workspace

variable {settings : Settings}
variable {mayList : Place → Bool}
variable {place : Place}
variable {entries others : List (Text × Entry)}

/- Only the names of the files of a directory matter. -/
theorem filesIn_eq_names :
    filesIn settings place entries =
      (byName
        ((entries.filter fun pair => pair.2.isFile).map
          fun pair => (pair.1, ()))).filterMap fun pair =>
        if isSource settings (place ++ [pair.1]) then
          some (place ++ [pair.1])
        else
          none := by
  unfold filesIn
  rw [← map_byName (fun _ => ()),
    List.filterMap_map]
  rfl

theorem filesIn_congr
    (hEntries : (directory entries).isWellFormed = true)
    (hOthers : (directory others).isWellFormed = true)
    (hShape :
      SameShape (directory entries) (directory others)) :
    filesIn settings place entries =
      filesIn settings place others := by
  have hDistinct := nodup_of_isWellFormed hEntries
  have hDistinct' := nodup_of_isWellFormed hOthers
  rw [filesIn_eq_names, filesIn_eq_names]
  congr 1
  apply byName_congr
  · rw [List.map_map]
    exact hDistinct.sublist (List.filter_sublist.map _)
  · rw [List.map_map]
    exact hDistinct'.sublist (List.filter_sublist.map _)
  · intro name
    rw [Pairs.get?_map (fun _ : Entry => ()),
      Pairs.get?_map (fun _ : Entry => ()),
      Pairs.get?_filter isFile name hDistinct,
      Pairs.get?_filter isFile name hDistinct']
    rcases hShape.get? name with
      ⟨hNone, hNone'⟩ |
      ⟨child, child', hChild, hChild', hBelow⟩
    · rw [hNone, hNone']
    · rw [hChild, hChild', Option.filter_some,
        Option.filter_some, hBelow.isFile_eq]
      split <;> rfl

/- The names of walked subdirectories are names of entries. -/
theorem sublist_map_fst_sourcesBelow
    (entries : List (Text × Entry)) :
    ((sourcesBelow settings mayList place entries).map
      (·.1)).Sublist (entries.map (·.1)) := by
  induction entries with
  | nil => exact .slnil
  | cons pair rest ih =>
      rcases pair with ⟨name, entry⟩
      rw [sourcesBelow]
      split
      · exact ih.cons_cons name
      · exact ih.cons name

theorem get?_sourcesBelow
    (hDistinct : (entries.map (·.1)).Nodup)
    (name : Text) :
    Pairs.get? name
        (sourcesBelow settings mayList place entries) =
      if isWalked settings (place ++ [name]) then
        (Pairs.get? name entries).map
          (sourcesAt settings mayList (place ++ [name]))
      else
        none := by
  induction entries with
  | nil => simp [sourcesBelow, Pairs.get?]
  | cons pair rest ih =>
      rcases pair with ⟨other, entry⟩
      rw [List.map_cons, List.nodup_cons] at hDistinct
      rw [sourcesBelow, Pairs.get?]
      by_cases hSame : other = name
      · subst hSame
        split
        · rw [Pairs.get?, if_pos (beq_self_eq_true other),
            if_pos (beq_self_eq_true other)]
          rfl
        next hSkipped =>
          rw [ih hDistinct.2, if_neg hSkipped]
      · have hOther : ¬(other == name) = true :=
          mt beq_iff_eq.mp hSame
        rw [if_neg hOther, ← ih hDistinct.2]
        split
        · rw [Pairs.get?, if_neg hOther]
        · rfl

/-
  By induction on the tree: the files of a directory and the
  results below it are sorted by distinct names.
-/
theorem sourcesAt_congr
    (tree other : Entry)
    (hTree : tree.isWellFormed = true)
    (hOther : other.isWellFormed = true)
    (hShape : SameShape tree other)
    (place : Place) :
    sourcesAt settings mayList place tree =
      sourcesAt settings mayList place other := by
  induction tree using Entry.induct
    generalizing other place with
  | file content =>
      cases other with
      | file content' => rw [sourcesAt, sourcesAt]
      | directory others => cases hShape.isFile_eq
  | directory entries ih =>
      cases other with
      | file content => cases hShape.isFile_eq
      | directory others =>
          have hDistinct := nodup_of_isWellFormed hTree
          have hDistinct' := nodup_of_isWellFormed hOther
          rw [sourcesAt, sourcesAt,
            filesIn_congr hTree hOther hShape]
          split
          · congr 2
            apply byName_congr
            · exact
                hDistinct.sublist
                  (sublist_map_fst_sourcesBelow entries)
            · exact
                hDistinct'.sublist
                  (sublist_map_fst_sourcesBelow others)
            · intro name
              rw [get?_sourcesBelow hDistinct,
                get?_sourcesBelow hDistinct']
              rcases hShape.get? name with
                ⟨hNone, hNone'⟩ |
                ⟨child, child', hChild, hChild', hBelow⟩
              · rw [hNone, hNone']
              · rw [hChild, hChild', Option.map_some,
                  Option.map_some,
                  ih name child hChild child'
                    (isWellFormed_of_get? hTree hChild)
                    (isWellFormed_of_get? hOther hChild')
                    hBelow]
          · rfl

------------------------------------------------------------
-- Projects
------------------------------------------------------------

theorem projectBelow_eq_any
    (entries : List (Text × Entry)) :
    projectBelow settings mayList place entries =
      entries.any fun pair =>
        isWalked settings (place ++ [pair.1]) &&
          projectAt settings mayList (place ++ [pair.1])
            pair.2 := by
  induction entries with
  | nil => rfl
  | cons pair rest ih =>
      rcases pair with ⟨name, entry⟩
      rw [projectBelow, ih, List.any_cons]

/- An entry that answers has one of its name that does. -/
theorem any_of_sameShape
    {answers : Text × Entry → Bool}
    (hEntries : (directory entries).isWellFormed = true)
    (hOthers : (directory others).isWellFormed = true)
    (hShape :
      SameShape (directory entries) (directory others))
    (hAnswers :
      ∀ name child child',
        Pairs.get? name entries = some child →
          Pairs.get? name others = some child' →
            SameShape child child' →
              answers (name, child) = answers (name, child'))
    (hAny : entries.any answers = true) :
    others.any answers = true := by
  rw [List.any_eq_true] at hAny ⊢
  rcases hAny with ⟨⟨name, child⟩, hMember, hAnswer⟩
  rw [← Pairs.get?_eq_some_iff
    (nodup_of_isWellFormed hEntries)] at hMember
  rcases hShape.get? name with
    ⟨hNone, -⟩ |
    ⟨found, child', hFound, hChild', hBelow⟩
  · rw [hNone] at hMember
    cases hMember
  · rw [hFound, Option.some.injEq] at hMember
    subst hMember
    rw [hAnswers name found child' hFound hChild' hBelow]
      at hAnswer
    exact
      ⟨(name, child'), mem_of_get? hOthers hChild', hAnswer⟩

theorem any_congr
    {answers : Text × Entry → Bool}
    (hEntries : (directory entries).isWellFormed = true)
    (hOthers : (directory others).isWellFormed = true)
    (hShape :
      SameShape (directory entries) (directory others))
    (hAnswers :
      ∀ name child child',
        Pairs.get? name entries = some child →
          Pairs.get? name others = some child' →
            SameShape child child' →
              answers (name, child) =
                answers (name, child')) :
    entries.any answers = others.any answers := by
  apply Bool.eq_iff_iff.mpr
  constructor
  · exact any_of_sameShape hEntries hOthers hShape hAnswers
  · apply any_of_sameShape hOthers hEntries hShape.symm
    intro name child' child hChild' hChild hBelow
    exact
      (hAnswers name child child' hChild hChild'
        hBelow.symm).symm

theorem projectAt_congr
    (tree other : Entry)
    (hTree : tree.isWellFormed = true)
    (hOther : other.isWellFormed = true)
    (hShape : SameShape tree other)
    (place : Place) :
    projectAt settings mayList place tree =
      projectAt settings mayList place other := by
  induction tree using Entry.induct
    generalizing other place with
  | file content =>
      cases other with
      | file content' => rw [projectAt, projectAt]
      | directory others => cases hShape.isFile_eq
  | directory entries ih =>
      cases other with
      | file content => cases hShape.isFile_eq
      | directory others =>
          rw [projectAt, projectAt, projectBelow_eq_any,
            projectBelow_eq_any]
          congr 2
          · apply any_congr hTree hOther hShape
            intro name child child' hChild hChild' hBelow
            dsimp only
            rw [hBelow.isFile_eq]
          · apply any_congr hTree hOther hShape
            intro name child child' hChild hChild' hBelow
            rw [ih name child hChild child'
              (isWellFormed_of_get? hTree hChild)
              (isWellFormed_of_get? hOther hChild') hBelow]

end Workspace

------------------------------------------------------------
-- Disks
------------------------------------------------------------

namespace Disk

/-
  Whether two disks are used from one directory, have trees
  of one shape, and hold the same at the places that matter.
-/
structure AgreesOn
    (matters : List Text → Prop)
    (disk other : Disk) :
    Prop where
  here : other.here = disk.here
  denied : other.denied = disk.denied
  wellFormed : disk.root.isWellFormed = true
  wellFormed' : other.root.isWellFormed = true
  shape : SameShape disk.root other.root
  same :
    ∀ names, matters names →
      SameAt names disk.root other.root

theorem bytes?_eq_bind
    (disk : Disk)
    (path : Path) :
    disk.bytes? path =
      (disk.entry? path).bind content? := by
  unfold bytes?
  cases disk.entry? path with
  | none => rfl
  | some entry => cases entry <;> rfl

section Agreement

variable {matters : List Text → Prop}
variable {disk other : Disk}
variable (hAgrees : disk.AgreesOn matters other)
variable {path : Path}

include hAgrees

theorem AgreesOn.absolute_eq :
    other.absolute = disk.absolute := by
  funext path
  unfold absolute
  rw [hAgrees.here]

theorem AgreesOn.resolve_eq :
    other.resolve = disk.resolve := by
  funext path
  unfold resolve
  rw [hAgrees.absolute_eq]

theorem AgreesOn.mayList_eq :
    other.mayList = disk.mayList := by
  funext path
  unfold mayList
  rw [hAgrees.denied]

theorem AgreesOn.mayListIn_eq :
    Workspace.mayListIn other = Workspace.mayListIn disk := by
  funext workspace place
  unfold Workspace.mayListIn
  rw [hAgrees.mayList_eq]

/- A path meets one obstacle, or leads to one shape. -/
theorem AgreesOn.walk
    (path : Path) :
    (∃ obstacle,
      disk.walk path = .error obstacle ∧
        other.walk path = .error obstacle) ∨
      ∃ entry entry',
        disk.walk path = .ok entry ∧
          other.walk path = .ok entry' ∧
            SameShape entry entry' := by
  have hKinds :
      (disk.walk path).map Entry.isFile =
        (other.walk path).map Entry.isFile := by
    unfold Disk.walk
    rw [hAgrees.absolute_eq]
    split
    · rfl
    · exact
        SameShape.follow (.cons hAgrees.shape .nil) _
  cases hWalk : disk.walk path with
  | error obstacle =>
      rw [hWalk] at hKinds
      cases hWalk' : other.walk path with
      | error obstacle' =>
          rw [hWalk'] at hKinds
          cases hKinds
          exact .inl ⟨obstacle, rfl, rfl⟩
      | ok entry' =>
          rw [hWalk'] at hKinds
          cases hKinds
  | ok entry =>
      rw [hWalk] at hKinds
      cases hWalk' : other.walk path with
      | error obstacle' =>
          rw [hWalk'] at hKinds
          cases hKinds
      | ok entry' =>
          have hPlace' := place?_of_walk hWalk'
          rw [hAgrees.resolve_eq] at hPlace'
          exact
            .inr ⟨entry, entry', rfl, rfl,
              hAgrees.shape.of_place? (place?_of_walk hWalk)
                hPlace'⟩

/- What a probe tells from the kind of an entry. -/
theorem AgreesOn.probe_eq
    {isOfKind : Entry → Bool}
    (hKind :
      ∀ entry entry',
        entry.isFile = entry'.isFile →
          isOfKind entry = isOfKind entry') :
    other.probe isOfKind = disk.probe isOfKind := by
  funext path
  unfold probe
  rcases hAgrees.walk path with
    ⟨obstacle, hWalk, hWalk'⟩ |
    ⟨entry, entry', hWalk, hWalk', hShape⟩
  · rw [hWalk, hWalk']
  · rw [hWalk, hWalk']
    dsimp only
    rw [hKind entry entry' hShape.isFile_eq]

theorem AgreesOn.isFile_eq :
    other.isFile = disk.isFile :=
  hAgrees.probe_eq fun _ _ hKind => hKind

theorem AgreesOn.isDirectory_eq :
    other.isDirectory = disk.isDirectory :=
  hAgrees.probe_eq fun _ _ hKind => congrArg not hKind

/- Bytes are the same at a place that matters. -/
theorem AgreesOn.bytes?_eq
    (hMatters : matters (disk.resolve path).names) :
    other.bytes? path = disk.bytes? path := by
  rw [bytes?_eq_bind, bytes?_eq_bind]
  unfold entry?
  rcases hAgrees.walk path with
    ⟨obstacle, hWalk, hWalk'⟩ |
    ⟨entry, entry', hWalk, hWalk', hShape⟩
  · rw [hWalk, hWalk']
  · have hPlace' := place?_of_walk hWalk'
    rw [hAgrees.resolve_eq] at hPlace'
    have hSame := hAgrees.same _ hMatters
    unfold SameAt at hSame
    rw [place?_of_walk hWalk, hPlace', Option.map_some,
      Option.map_some, Option.some.injEq] at hSame
    rw [hWalk, hWalk']
    exact hSame.symm

theorem AgreesOn.fileText_eq
    {file : Text}
    (hMatters : matters (disk.resolve (.ofText file)).names)
    (byteLimit : Int) :
    Workspace.fileText other byteLimit file =
      Workspace.fileText disk byteLimit file := by
  unfold Workspace.fileText readBytes
  rw [hAgrees.bytes?_eq hMatters]

/- Aliases are the same if their file matters. -/
theorem AgreesOn.loadAliases_eq
    {saved : Path}
    (hMatters :
      matters
        (disk.resolve
          (StateFile.path saved Aliases.fileName)).names) :
    Aliases.load other saved = Aliases.load disk saved := by
  unfold Aliases.load StateFile.load StateFile.read stateText?
  dsimp only
  rw [hAgrees.isFile_eq, hAgrees.bytes?_eq hMatters]

/- A directory is listed in the order of its names. -/
theorem AgreesOn.list?_eq :
    other.list? = disk.list? := by
  funext path
  unfold list? entry?
  rw [hAgrees.mayList_eq]
  rcases hAgrees.walk path with
    ⟨obstacle, hWalk, hWalk'⟩ |
    ⟨entry, entry', hWalk, hWalk', hShape⟩
  · rw [hWalk, hWalk']
  · have hEntry :=
      isWellFormed_of_place? hAgrees.wellFormed
        (place?_of_walk hWalk)
    have hEntry' :=
      isWellFormed_of_place? hAgrees.wellFormed'
        (place?_of_walk hWalk')
    rw [hWalk, hWalk']
    rcases hShape.kinds with
      ⟨content, content', rfl, rfl⟩ |
      ⟨entries, entries', rfl, rfl⟩
    · rfl
    · have hSorted :
          Workspace.byName
              (entries'.map fun pair =>
                (pair.1, pair.2.isFile)) =
            Workspace.byName
              (entries.map fun pair =>
                (pair.1, pair.2.isFile)) := by
        apply Workspace.byName_congr
        · rw [List.map_map]
          exact nodup_of_isWellFormed hEntry'
        · rw [List.map_map]
          exact nodup_of_isWellFormed hEntry
        · intro name
          rw [Pairs.get?_map, Pairs.get?_map,
            hShape.get?_isFile]
      dsimp only [Except.toOption]
      split
      · exact congrArg some hSorted
      · rfl

theorem AgreesOn.locate_eq
    (settings : Settings) :
    other.locate settings = disk.locate settings := by
  funext file
  unfold locate
  rw [hAgrees.list?_eq]

/- The directory of a workspace has one shape. -/
theorem AgreesOn.root?
    (workspace : Path) :
    (∃ fault,
      Workspace.root? disk workspace = .error fault ∧
        Workspace.root? other workspace = .error fault) ∨
      ∃ tree tree',
        Workspace.root? disk workspace = .ok tree ∧
          Workspace.root? other workspace = .ok tree' ∧
            tree.isWellFormed = true ∧
              tree'.isWellFormed = true ∧
                SameShape tree tree' := by
  unfold Workspace.root? entry?
  rw [hAgrees.mayList_eq]
  split
  · refine .inr ⟨_, _, rfl, rfl, ?_⟩
    rcases hAgrees.walk workspace with
      ⟨obstacle, hWalk, hWalk'⟩ |
      ⟨entry, entry', hWalk, hWalk', hShape⟩
    · rw [hWalk, hWalk']
      exact ⟨rfl, rfl, fun _ => rfl⟩
    · rw [hWalk, hWalk']
      exact
        ⟨isWellFormed_of_place? hAgrees.wellFormed
            (place?_of_walk hWalk),
          isWellFormed_of_place? hAgrees.wellFormed'
            (place?_of_walk hWalk'),
          hShape⟩
  · exact .inl ⟨_, rfl, rfl⟩

theorem AgreesOn.sources_eq
    (settings : Settings)
    (limit : Option Int)
    (workspace : Path) :
    Workspace.sources other settings limit workspace =
      Workspace.sources disk settings limit workspace := by
  unfold Workspace.sources
  rw [hAgrees.mayListIn_eq]
  rcases hAgrees.root? workspace with
    ⟨fault, hRoot, hRoot'⟩ |
    ⟨tree, tree', hRoot, hRoot', hTree, hTree', hShape⟩
  · rw [hRoot, hRoot']
  · rw [hRoot, hRoot']
    dsimp only [Except.map]
    rw [Workspace.sourcesWithin_congr
      (Workspace.sourcesAt_congr tree tree' hTree hTree'
        hShape [])]

theorem AgreesOn.hasProject_eq
    (settings : Settings)
    (workspace : Path) :
    Workspace.hasProject other settings workspace =
      Workspace.hasProject disk settings workspace := by
  unfold Workspace.hasProject
  rw [hAgrees.mayListIn_eq]
  rcases hAgrees.root? workspace with
    ⟨fault, hRoot, hRoot'⟩ |
    ⟨tree, tree', hRoot, hRoot', hTree, hTree', hShape⟩
  · rw [hRoot, hRoot']
  · rw [hRoot, hRoot']
    dsimp only [Except.map]
    rw [Workspace.projectAt_congr tree tree' hTree hTree'
      hShape]

end Agreement

end Disk

------------------------------------------------------------
-- Scans
------------------------------------------------------------

/-
  A scan that does not fail says whether there is a project,
  and finds no routes if there is none.
-/
theorem Workspace.scan_cases
    {disk : Disk}
    {options : ScanOptions}
    {world : World}
    {workspace : Path}
    {resolver resolver' : Resolver}
    {result : ScanResult}
    (hScan :
      scan disk options world workspace resolver =
        .ok (result, resolver')) :
    hasProject disk options.settings workspace =
        .ok result.hasProject ∧
      (result.hasProject = false → result.routes = []) := by
  simp only [scan, bind, Except.bind, pure, Except.pure,
    throw, throwThe, MonadExceptOf.throw] at hScan
  split at hScan
  · cases hScan
  split at hScan
  · cases hScan
  split at hScan
  · cases hScan
  split at hScan
  · cases hScan
  next found hFound =>
    have hProject := eq_ok_of_mapError_eq_ok hFound
    split at hScan
    next hNone =>
      cases hScan
      rw [Bool.not_eq_true'] at hNone
      exact ⟨hNone ▸ hProject, fun _ => rfl⟩
    next hSome =>
      rw [Bool.not_eq_true', Bool.not_eq_false] at hSome
      split at hScan
      · cases hScan
      split at hScan
      · cases hScan
      · cases hScan
        exact ⟨hSome ▸ hProject, nofun⟩

/-
  A whole scan: its routes get the names that are saved in a
  directory, if the scan is told one.
-/
def Workspace.scanAndName
    (disk : Disk)
    (options : ScanOptions)
    (world : World)
    (workspace : Path)
    (saved : Option Path)
    (resolver : Resolver) :
    Except Failure (ScanResult × Resolver) := do
  let (result, resolver) ←
    scan disk options world workspace resolver
  match saved with
  | none => return (result, resolver)
  | some saved =>
      let (result, _) ←
        (result.named disk saved []).mapError .broken
      return (result, resolver)

end RouteAtlas
