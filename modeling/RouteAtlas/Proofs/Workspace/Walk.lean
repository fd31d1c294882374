import Mathlib
import RouteAtlas.Proofs.Glob.Matching
import RouteAtlas.Proofs.Workspace.Enumerated

/-
  The pruned walk as a filter of all files.

  Source files are found by a walk that leaves out excluded
  directories.  It answers as if all files were walked, and
  those kept that are source files and below no excluded
  directory.  If exclude patterns end with a star, a file
  below an excluded directory is excluded itself, and being
  a source file is all that matters.

  Main definitions:
    * `Workspace.plainWalk`
    * `Workspace.IsWalkedBefore`
    * `Workspace.directoriesAbove`
    * `Workspace.Finds`

  Main statements:
    * `mem_plainWalk_iff`
    * `pairwise_plainWalk`
    * `sourcesAt_eq_filter`
    * `sources_eq_filtered`
-/

------------------------------------------------------------
-- Walking All Files
------------------------------------------------------------

namespace RouteAtlas

open Entry

namespace Workspace

mutual

/- The places of all files, the nearest ones first. -/
def plainWalk :
    Entry → List Place
  | .file _ => []
  | .directory entries =>
      (byName (entries.filter fun (_, entry) =>
          entry.isFile)).map (fun (name, _) => [name]) ++
        (byName (plainBelow entries)).flatMap
          fun (name, places) => places.map (name :: ·)

/- The places in each subdirectory, by its name. -/
def plainBelow :
    List (Text × Entry) → List (Text × List Place)
  | [] => []
  | (name, entry) :: rest =>
      (name, plainWalk entry) :: plainBelow rest

end

section Plain

variable {tree : Entry}
variable {entries : List (Text × Entry)}
variable {name : Text}
variable {place : Place}

theorem plainBelow_eq_map
    (entries : List (Text × Entry)) :
    plainBelow entries =
      entries.map fun pair => (pair.1, plainWalk pair.2) := by
  induction entries with
  | nil => rfl
  | cons pair rest ih =>
      rcases pair with ⟨name, entry⟩
      rw [plainBelow, ih, List.map_cons]

/- Names are put in order before any of them is entered. -/
theorem plainWalk_directory
    (entries : List (Text × Entry)) :
    plainWalk (.directory entries) =
      (byName (entries.filter fun pair =>
          pair.2.isFile)).map (fun pair => [pair.1]) ++
        (byName entries).flatMap fun pair =>
          (plainWalk pair.2).map (pair.1 :: ·) := by
  rw [plainWalk, plainBelow_eq_map,
    ← map_byName fun pair : Text × Entry =>
      plainWalk pair.2,
    List.flatMap_map]

theorem ne_nil_of_mem_plainWalk
    (hPlace : place ∈ plainWalk tree) :
    place ≠ [] := by
  rintro rfl
  cases tree with
  | file content =>
      rw [plainWalk] at hPlace
      cases hPlace
  | directory entries =>
      rw [plainWalk_directory, List.mem_append,
        List.mem_map, List.mem_flatMap] at hPlace
      rcases hPlace with
        ⟨pair, -, hEmpty⟩ | ⟨pair, -, hBelow⟩
      · cases hEmpty
      · rcases List.mem_map.mp hBelow with
          ⟨below, -, hEmpty⟩
        cases hEmpty

/-
  By induction on the tree: one name leads to a file of the
  directory, more names lead on below the first of them.
-/
theorem mem_plainWalk_iff
    (hTree : tree.isWellFormed = true) :
    place ∈ plainWalk tree ↔
      place ≠ [] ∧
        ∃ content,
          place? place tree = some (.file content) := by
  refine
    ⟨fun hPlace => ⟨ne_nil_of_mem_plainWalk hPlace, ?_⟩, ?_⟩
  · induction tree using Entry.induct generalizing place with
    | file content =>
        rw [plainWalk] at hPlace
        cases hPlace
    | directory entries ih =>
        have hDistinct := nodup_of_isWellFormed hTree
        rw [plainWalk_directory, List.mem_append,
          List.mem_map, List.mem_flatMap] at hPlace
        rcases hPlace with
          ⟨⟨name, child⟩, hFile, rfl⟩ |
          ⟨⟨name, child⟩, hChild, hBelow⟩
        · rw [(perm_byName _).mem_iff, List.mem_filter,
            ← Pairs.get?_eq_some_iff hDistinct] at hFile
          rcases hFile with ⟨hChild, hFile⟩
          cases child with
          | directory others => cases hFile
          | file content =>
              refine ⟨content, ?_⟩
              rw [place?, hChild]
              rfl
        · rw [mem_byName_iff hDistinct] at hChild
          rcases List.mem_map.mp hBelow with
            ⟨below, hInner, rfl⟩
          rw [place?, hChild]
          exact
            ih name child hChild
              (isWellFormed_of_get? hTree hChild) hInner
  · rintro ⟨hSome, content, hPlace⟩
    induction tree using Entry.induct generalizing place with
    | file content =>
        cases place with
        | nil => exact absurd rfl hSome
        | cons name below => cases hPlace
    | directory entries ih =>
        cases place with
        | nil => exact absurd rfl hSome
        | cons name below =>
            rcases exists_child_of_place? hPlace with
              ⟨child, hChild, hInner⟩
            rw [plainWalk_directory, List.mem_append,
              List.mem_map, List.mem_flatMap]
            cases below with
            | nil =>
                cases hInner
                refine .inl ⟨(name, .file content), ?_, rfl⟩
                rw [(perm_byName _).mem_iff, List.mem_filter]
                exact ⟨mem_of_get? hTree hChild, rfl⟩
            | cons other below =>
                refine
                  .inr ⟨(name, child),
                    (mem_byName_iff
                      (nodup_of_isWellFormed hTree)).mpr
                        hChild,
                    ?_⟩
                exact
                  List.mem_map_of_mem
                    (ih name child hChild
                      (isWellFormed_of_get? hTree hChild)
                      (List.cons_ne_nil other below) hInner)

end Plain

------------------------------------------------------------
-- Order of the Walk
------------------------------------------------------------

/-
  Whether one place is walked before another: the files of a
  directory before those below it, and each in the order of
  the names.
-/
inductive IsWalkedBefore :
    Place → Place → Prop
  | file
      {name other : Text}
      (names : Text.IsBefore name other) :
      IsWalkedBefore [name] [other]
  | nearer
      (name other : Text)
      {below : Place}
      (deeper : below ≠ []) :
      IsWalkedBefore [name] (other :: below)
  | directory
      {name other : Text}
      {below below' : Place}
      (names : Text.IsBefore name other)
      (deeper : below ≠ [])
      (deeper' : below' ≠ []) :
      IsWalkedBefore (name :: below) (other :: below')
  | inside
      (name : Text)
      {below below' : Place}
      (before : IsWalkedBefore below below') :
      IsWalkedBefore (name :: below) (name :: below')

theorem IsWalkedBefore.ne
    {place other : Place}
    (hBefore : IsWalkedBefore place other) :
    place ≠ other := by
  induction hBefore with
  | file names =>
      exact fun hSame => names.2 (List.cons.inj hSame).1
  | nearer name other deeper =>
      exact fun hSame => deeper (List.cons.inj hSame).2.symm
  | directory names deeper deeper' =>
      exact fun hSame => names.2 (List.cons.inj hSame).1
  | inside name before ih =>
      exact fun hSame => ih (List.cons.inj hSame).2

/- By induction on the tree, as the walk goes. -/
theorem pairwise_plainWalk
    {tree : Entry}
    (hTree : tree.isWellFormed = true) :
    (plainWalk tree).Pairwise IsWalkedBefore := by
  induction tree using Entry.induct with
  | file content =>
      rw [plainWalk]
      exact .nil
  | directory entries ih =>
      have hDistinct := nodup_of_isWellFormed hTree
      have hFiles :
          ((entries.filter fun pair =>
            pair.2.isFile).map (·.1)).Nodup :=
        hDistinct.sublist (List.filter_sublist.map _)
      rw [plainWalk_directory, List.pairwise_append,
        List.pairwise_map, List.pairwise_flatMap]
      refine ⟨?_, ⟨?_, ?_⟩, ?_⟩
      · exact
          (pairwise_isBefore_byName hFiles).imp
            IsWalkedBefore.file
      · rintro ⟨name, child⟩ hPair
        rw [mem_byName_iff hDistinct] at hPair
        rw [List.pairwise_map]
        exact
          (ih name child hPair
            (isWellFormed_of_get? hTree hPair)).imp
            (IsWalkedBefore.inside name)
      · refine (pairwise_isBefore_byName hDistinct).imp ?_
        intro pair pair' hNames place hPlace place' hPlace'
        rcases List.mem_map.mp hPlace with
          ⟨below, hBelow, rfl⟩
        rcases List.mem_map.mp hPlace' with
          ⟨below', hBelow', rfl⟩
        exact
          .directory hNames (ne_nil_of_mem_plainWalk hBelow)
            (ne_nil_of_mem_plainWalk hBelow')
      · intro place hPlace place' hPlace'
        rcases List.mem_map.mp hPlace with ⟨pair, -, rfl⟩
        rcases List.mem_flatMap.mp hPlace' with
          ⟨pair', -, hBelow⟩
        rcases List.mem_map.mp hBelow with
          ⟨below', hBelow', rfl⟩
        exact .nearer _ _ (ne_nil_of_mem_plainWalk hBelow')

------------------------------------------------------------
-- Directories Above
------------------------------------------------------------

/- The directories below the workspace that lead to a place. -/
def directoriesAbove :
    Place → List Place
  | [] => []
  | [_] => []
  | name :: other :: below =>
      [name] ::
        (directoriesAbove (other :: below)).map (name :: ·)

/- They are the shorter starts of the place. -/
theorem mem_directoriesAbove_iff
    {above place : Place} :
    above ∈ directoriesAbove place ↔
      above ≠ [] ∧
        ∃ below, below ≠ [] ∧ place = above ++ below := by
  induction place generalizing above with
  | nil => simp [directoriesAbove]
  | cons name rest ih =>
      cases rest with
      | nil =>
          refine iff_of_false List.not_mem_nil ?_
          rintro ⟨hSome, below, hBelow, hSplit⟩
          have hFront := List.length_pos_of_ne_nil hSome
          have hBack := List.length_pos_of_ne_nil hBelow
          have hLength := congrArg List.length hSplit
          rw [List.length_append, List.length_singleton]
            at hLength
          omega
      | cons other rest =>
          rw [directoriesAbove, List.mem_cons, List.mem_map]
          constructor
          · rintro (rfl | ⟨inner, hInner, rfl⟩)
            · exact
                ⟨List.cons_ne_nil name [], other :: rest,
                  List.cons_ne_nil other rest, rfl⟩
            · rcases ih.mp hInner with
                ⟨-, below, hBelow, hSplit⟩
              exact
                ⟨List.cons_ne_nil name inner, below, hBelow,
                  by rw [hSplit]; rfl⟩
          · rintro ⟨hSome, below, hBelow, hSplit⟩
            cases above with
            | nil => exact absurd rfl hSome
            | cons first inner =>
                rw [List.cons_append, List.cons.injEq]
                  at hSplit
                rcases hSplit with ⟨rfl, hSplit⟩
                cases inner with
                | nil => exact .inl rfl
                | cons second inner =>
                    exact
                      .inr ⟨second :: inner,
                        ih.mpr
                          ⟨List.cons_ne_nil second inner,
                            below, hBelow, hSplit⟩,
                        rfl⟩

/-
  Whether a file below a place is found: it is a source file,
  and each directory that leads to it is walked.
-/
def isFound
    (settings : Settings)
    (front place : Place) :
    Bool :=
  isSource settings (front ++ place) &&
    (directoriesAbove place).all fun above =>
      isWalked settings (front ++ above)

/- The first directory decides about all that is below. -/
theorem isFound_cons
    (settings : Settings)
    (front : Place)
    (name : Text)
    {below : Place}
    (hBelow : below ≠ []) :
    isFound settings front (name :: below) =
      (isWalked settings (front ++ [name]) &&
        isFound settings (front ++ [name]) below) := by
  cases below with
  | nil => exact absurd rfl hBelow
  | cons other below =>
      unfold isFound
      rw [directoriesAbove, List.all_cons, List.all_map,
        List.append_cons front name (other :: below),
        Bool.and_left_comm]
      congr 3
      funext above
      exact congrArg _ (List.append_cons front name above)

------------------------------------------------------------
-- The Pruned Walk
------------------------------------------------------------

section Pruned

variable {settings : Settings}
variable {mayList : Place → Bool}

theorem sourcesBelow_eq_map
    (front : Place)
    (entries : List (Text × Entry)) :
    sourcesBelow settings mayList front entries =
      (entries.filter fun pair =>
          isWalked settings (front ++ [pair.1])).map
        fun pair =>
          (pair.1,
            sourcesAt settings mayList (front ++ [pair.1])
              pair.2) := by
  induction entries with
  | nil => rfl
  | cons pair rest ih =>
      rcases pair with ⟨name, entry⟩
      rw [sourcesBelow, List.filter_cons]
      dsimp only
      rw [ih]
      split <;> rfl

/- What is sorted below a directory is what it holds. -/
theorem sourcesAt_directory
    (hListed : ∀ place, mayList place = true)
    (entries : List (Text × Entry))
    (front : Place) :
    sourcesAt settings mayList front (.directory entries) =
      filesIn settings front entries ++
        (byName entries).flatMap fun pair =>
          if isWalked settings (front ++ [pair.1]) then
            sourcesAt settings mayList (front ++ [pair.1])
              pair.2
          else
            [] := by
  rw [sourcesAt, if_pos (hListed front), sourcesBelow_eq_map,
    ← map_byName fun pair =>
      sourcesAt settings mayList (front ++ [pair.1]) pair.2,
    byName_filter, List.flatMap_map]
  congr 1
  generalize byName entries = sorted
  induction sorted with
  | nil => rfl
  | cons pair rest ih =>
      rw [List.filter_cons, List.flatMap_cons, ← ih]
      split <;> rfl

/- Of the files of a directory, the source files are found. -/
theorem filesIn_eq_filter
    (front : Place)
    (entries : List (Text × Entry)) :
    filesIn settings front entries =
      (((byName (entries.filter fun pair =>
          pair.2.isFile)).map fun pair =>
            ([pair.1] : Place)).filter
          (isFound settings front)).map (front ++ ·) := by
  have hFound :
      ∀ name : Text,
        isFound settings front [name] =
          isSource settings (front ++ [name]) := by
    intro name
    exact Bool.and_true _
  unfold filesIn
  generalize byName _ = sorted
  induction sorted with
  | nil => rfl
  | cons pair rest ih =>
      rw [List.filterMap_cons, List.map_cons,
        List.filter_cons, hFound, ih]
      by_cases hSource :
          isSource settings (front ++ [pair.1]) = true
      · simp only [if_pos hSource]
        rfl
      · simp only [if_neg hSource]

/-
  By induction on the tree: what is found below a name is
  found below the directory if the name is walked.
-/
theorem sourcesAt_eq_filter
    (hListed : ∀ place, mayList place = true)
    {tree : Entry}
    (hTree : tree.isWellFormed = true)
    (front : Place) :
    sourcesAt settings mayList front tree =
      ((plainWalk tree).filter
        (isFound settings front)).map (front ++ ·) := by
  induction tree using Entry.induct generalizing front with
  | file content => rw [sourcesAt, plainWalk]; rfl
  | directory entries ih =>
      have hDistinct := nodup_of_isWellFormed hTree
      rw [sourcesAt_directory hListed, plainWalk_directory,
        filesIn_eq_filter, List.filter_append, List.map_append,
        List.filter_flatMap, List.map_flatMap]
      congr 1
      apply List.flatMap_congr
      rintro ⟨name, child⟩ hPair
      rw [mem_byName_iff hDistinct] at hPair
      have hInner :
          ∀ below ∈ plainWalk child,
            isFound settings front (name :: below) =
              (isWalked settings (front ++ [name]) &&
                isFound settings (front ++ [name]) below) :=
        fun below hBelow =>
          isFound_cons settings front name
            (ne_nil_of_mem_plainWalk hBelow)
      dsimp only
      rw [List.filter_map, Function.comp_def,
        List.filter_congr hInner, List.map_map]
      split
      next hWalked =>
        rw [ih name child hPair
          (isWellFormed_of_get? hTree hPair), hWalked]
        simp
      next hSkipped => simp [hSkipped]

end Pruned

------------------------------------------------------------
-- Excluded Directories
------------------------------------------------------------

theorem placeText_append
    {above below : Place}
    (hAbove : above ≠ [])
    (hBelow : below ≠ []) :
    placeText (above ++ below) =
      placeText above ++ '/' :: placeText below := by
  unfold placeText
  rw [Text.joinWith_append _ hAbove hBelow,
    List.append_assoc]
  rfl

/- A place does not end with a slash. -/
theorem getLast?_placeText
    {place : Place}
    (hNames : ∀ name ∈ place, isEntryName name = true) :
    (placeText place).getLast? ≠ some '/' := by
  apply Text.getLast?_joinWith_ne
  intro name hName
  have hPlain := (plain_of_isEntryName (hNames name hName)).2.1
  exact ⟨Path.ne_nil_of_isName hPlain.1, hPlain.2⟩

section Stars

variable {settings : Settings}
variable
  (hStars :
    ∀ pattern ∈ settings.excludePatterns,
      Glob.EndsInStar pattern)

include hStars

/- What is not excluded is below walked directories only. -/
theorem isWalked_of_isSource
    {above below : Place}
    (hNames : ∀ name ∈ above, isEntryName name = true)
    (hAbove : above ≠ [])
    (hBelow : below ≠ [])
    (hSource : isSource settings (above ++ below) = true) :
    isWalked settings above = true := by
  unfold isSource at hSource
  rw [Bool.and_eq_true, Bool.not_eq_true',
    placeText_append hAbove hBelow] at hSource
  unfold isWalked
  rw [Bool.not_eq_true', ← Bool.not_eq_true]
  intro hExcludes
  have hBelowExcluded :=
    Glob.excludes_below hStars (getLast?_placeText hNames)
      hExcludes (placeText below)
  rw [hSource.2] at hBelowExcluded
  cases hBelowExcluded

theorem isFound_eq_isSource
    {place : Place}
    (hNames : ∀ name ∈ place, isEntryName name = true) :
    isFound settings [] place = isSource settings place := by
  unfold isFound
  rw [List.nil_append, Bool.and_eq_left_iff_imp,
    List.all_eq_true]
  intro hSource above hMember
  rcases mem_directoriesAbove_iff.mp hMember with
    ⟨hAbove, below, hBelow, rfl⟩
  exact
    isWalked_of_isSource hStars
      (fun name hName =>
        hNames name (List.mem_append_left below hName))
      hAbove hBelow hSource

end Stars

------------------------------------------------------------
-- Source Files of a Workspace
------------------------------------------------------------

/-
  What a walk of a tree has to find: of all files those that
  no pattern hides, in order and each once.
-/
structure Finds
    (settings : Settings)
    (tree : Entry)
    (places : List Place) :
    Prop where
  eq_filter :
    places =
      (plainWalk tree).filter fun place =>
        isSource settings place &&
          (directoriesAbove place).all (isWalked settings)
  mem_iff :
    ∀ place,
      place ∈ places ↔
        (∃ content,
          place? place tree = some (.file content)) ∧
          isSource settings place = true ∧
            ∀ above ∈ directoriesAbove place,
              isWalked settings above = true
  ordered : places.Pairwise IsWalkedBefore
  unpruned :
    (∀ pattern ∈ settings.excludePatterns,
      Glob.EndsInStar pattern) →
        places = (plainWalk tree).filter (isSource settings)

theorem finds_sourcesAt
    (settings : Settings)
    {mayList : Place → Bool}
    (hListed : ∀ place, mayList place = true)
    {entries : List (Text × Entry)}
    (hTree : (directory entries).isWellFormed = true) :
    Finds settings (.directory entries)
      (sourcesAt settings mayList [] (.directory entries)) := by
  have hFilter :
      sourcesAt settings mayList [] (.directory entries) =
        (plainWalk (.directory entries)).filter
          (isFound settings []) :=
    (sourcesAt_eq_filter hListed hTree []).trans
      (List.map_id _)
  refine ⟨hFilter, ?_, ?_, ?_⟩
  · intro place
    rw [hFilter, List.mem_filter, mem_plainWalk_iff hTree,
      isFound, Bool.and_eq_true, List.all_eq_true]
    refine and_congr_left' (and_iff_right_of_imp ?_)
    rintro ⟨content, hPlace⟩ rfl
    cases hPlace
  · rw [hFilter]
    exact (pairwise_plainWalk hTree).filter _
  · intro hStars
    rw [hFilter]
    apply List.filter_congr
    intro place hPlace
    rcases (mem_plainWalk_iff hTree).mp hPlace with
      ⟨-, content, hFile⟩
    exact
      isFound_eq_isSource hStars
        (isEntryName_of_place? hTree hFile)

/- What a path leads to in a well-formed tree is well formed. -/
theorem isWellFormed_of_entry?
    {disk : Disk}
    {path : Path}
    {entry : Entry}
    (hTree : disk.root.isWellFormed = true)
    (hEntry : disk.entry? path = some entry) :
    entry.isWellFormed = true := by
  unfold Disk.entry? at hEntry
  cases hWalk : disk.walk path with
  | error obstacle =>
      rw [hWalk] at hEntry
      cases hEntry
  | ok found =>
      rw [hWalk] at hEntry
      cases hEntry
      exact
        isWellFormed_of_place? hTree
          (Disk.place?_of_walk hWalk)

/-
  Where everything may be listed, the source files are those
  that a walk has to find, each under a path of its own.
-/
theorem sources_eq_filtered
    {disk : Disk}
    {workspace : Path}
    {entries : List (Text × Entry)}
    (hTree : disk.root.isWellFormed = true)
    (hWorkspace :
      disk.entry? workspace = some (.directory entries))
    (hListed : disk.denied = [])
    (hSpelled : workspace.IsSpelled)
    (settings : Settings) :
    (∃ places,
      sources disk settings none workspace =
          .ok (places.map (filePath workspace)) ∧
        (places.map (filePath workspace)).Nodup ∧
          Finds settings (.directory entries) places) ∧
      ∀ pattern ∈ defaultExcludePatterns,
        Glob.EndsInStar pattern := by
  have hMayList : ∀ path, disk.mayList path = true := by
    intro path
    unfold Disk.mayList
    rw [hListed]
    rfl
  have hRoot :
      root? disk workspace = .ok (.directory entries) := by
    unfold root?
    rw [if_pos (hMayList workspace), hWorkspace]
    rfl
  have hEntries := isWellFormed_of_entry? hTree hWorkspace
  have hMayListIn :
      ∀ place, mayListIn disk workspace place = true :=
    fun place => hMayList _
  have hFinds := finds_sourcesAt settings hMayListIn hEntries
  refine ⟨⟨_, ?_, ?_, hFinds⟩, by decide⟩
  · unfold sources
    rw [hRoot]
    rfl
  · refine
      List.Nodup.map_on ?_
        (hFinds.ordered.imp IsWalkedBefore.ne)
    intro place hPlace other hOther hSame
    rcases ((hFinds.mem_iff place).mp hPlace).1 with
      ⟨content, hFile⟩
    rcases ((hFinds.mem_iff other).mp hOther).1 with
      ⟨content', hFile'⟩
    exact
      eq_of_filePath_eq hSpelled
        (isEntryName_of_place? hEntries hFile)
        (isEntryName_of_place? hEntries hFile') hSame

/- A workspace with build output beside its sources. -/
def builtEntries : List (Text × Entry) :=
  [("bin".toList, .directory
     [("Main.cs".toList, .file [])]),
   ("src".toList, .directory
     [("Items.cs".toList, .file [])])]

def builtDisk : Disk where
  root :=
    .directory [("built".toList, .directory builtEntries)]
  here := ⟨['/'], []⟩
  denied := []

theorem sources_builtDisk :
    builtDisk.root.isWellFormed = true ∧
      ∃ places,
        sources builtDisk .default none
            ⟨['/'], ["built".toList]⟩ =
          .ok (places.map
            (filePath ⟨['/'], ["built".toList]⟩)) ∧
          ["src".toList, "Items.cs".toList] ∈ places ∧
            ["bin".toList, "Main.cs".toList] ∉ places ∧
              places =
                (plainWalk (.directory builtEntries)).filter
                  (isSource .default) := by
  have hTree : builtDisk.root.isWellFormed = true := by
    decide +kernel
  have hWorkspace :
      builtDisk.entry? ⟨['/'], ["built".toList]⟩ =
        some (.directory builtEntries) := by
    rfl
  have hSpelled :
      Path.IsSpelled ⟨['/'], ["built".toList]⟩ :=
    ⟨.inr (.inl rfl), by decide +kernel⟩
  rcases
      sources_eq_filtered hTree hWorkspace rfl hSpelled
        .default with
    ⟨⟨places, hSources, -, hFinds⟩, hStars⟩
  refine
    ⟨hTree, places, hSources, ?_, ?_, hFinds.unpruned hStars⟩
  · rw [hFinds.mem_iff]
    exact ⟨⟨[], rfl⟩, by decide +kernel, by decide +kernel⟩
  · rw [hFinds.mem_iff]
    rintro ⟨-, hSource, -⟩
    exact absurd hSource (by decide +kernel)

end Workspace

end RouteAtlas
