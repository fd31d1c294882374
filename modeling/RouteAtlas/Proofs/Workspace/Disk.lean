import Mathlib
import RouteAtlas.Proofs.Workspace.Tree

/-
  Directories that are made and files that are written.

  What is made or written is found by the same path, and all
  directories there were stay.  Whether a file can be written
  does not depend on its content; one that was written can
  be written again.

  Main statements:
    * `walk_put`
    * `hasDirectory_makeDirectory`
    * `walk_writeFile`
    * `writeFile_same`
-/

------------------------------------------------------------
-- Paths
------------------------------------------------------------

namespace RouteAtlas

/- The path of a name in a directory. -/
def Path.child
    (directory : Path)
    (name : Text) :
    Path :=
  ⟨directory.root, directory.names ++ [name]⟩

/- A path is empty or the path of a name in its parent. -/
theorem Path.eq_child_parent
    {path : Path}
    (hNames : path.names ≠ []) :
    path = path.parent.child (path.names.getLast hNames) := by
  rcases path with ⟨root, names⟩
  unfold parent child
  rw [List.dropLast_append_getLast hNames]

theorem Path.parent_of_nil
    {path : Path}
    (hNames : path.names = []) :
    path.parent = path := by
  rcases path with ⟨root, names⟩
  subst hNames
  rfl

namespace Disk

theorem names_absolute_child
    (disk : Disk)
    (directory : Path)
    (name : Text) :
    (disk.absolute (directory.child name)).names =
      (disk.absolute directory).names ++ [name] := by
  unfold absolute Path.join Path.child Path.isAbsolute
  by_cases hRoot : (!directory.root.isEmpty) = true
  · rw [if_pos hRoot, if_pos hRoot]
  · rw [if_neg hRoot, if_neg hRoot, List.append_assoc]

theorem names_resolve
    (disk : Disk)
    (path : Path) :
    (disk.resolve path).names =
      (Entry.namesAfter []
        (disk.absolute path).names).reverse := by
  rfl

theorem names_resolve_child
    (disk : Disk)
    (directory : Path)
    {name : Text}
    (hPlain : (name == ['.', '.']) ≠ true) :
    (disk.resolve (directory.child name)).names =
      (disk.resolve directory).names ++ [name] := by
  rw [names_resolve, names_resolve, names_absolute_child]
  unfold Entry.namesAfter
  rw [List.foldl_append, List.foldl_cons, List.foldl_nil,
    if_neg hPlain, List.reverse_cons]

------------------------------------------------------------
-- Walking
------------------------------------------------------------

/- Whether there is a directory at a path. -/
def HasDirectory
    (disk : Disk)
    (path : Path) :
    Prop :=
  ∃ entries, disk.walk path = .ok (.directory entries)

/-
  Whether another disk has all directories of a disk, and is
  used from the same one.
-/
structure Keeps
    (disk changed : Disk) :
    Prop where
  root : Entry.KeepsDirectories disk.root changed.root
  here : changed.here = disk.here
  denied : changed.denied = disk.denied

theorem Keeps.refl
    (disk : Disk) :
    disk.Keeps disk :=
  ⟨fun _ entries hPlace => ⟨entries, hPlace⟩, rfl, rfl⟩

theorem Keeps.trans
    {first second third : Disk}
    (hFirst : first.Keeps second)
    (hSecond : second.Keeps third) :
    first.Keeps third := by
  refine ⟨?_, hSecond.here.trans hFirst.here,
    hSecond.denied.trans hFirst.denied⟩
  intro names entries hPlace
  rcases hFirst.root names entries hPlace with
    ⟨entries', hPlace'⟩
  exact hSecond.root names entries' hPlace'

theorem Keeps.absolute_eq
    {disk changed : Disk}
    (hKeeps : disk.Keeps changed)
    (path : Path) :
    changed.absolute path = disk.absolute path := by
  unfold absolute
  rw [hKeeps.here]

theorem Keeps.resolve_eq
    {disk changed : Disk}
    (hKeeps : disk.Keeps changed)
    (path : Path) :
    changed.resolve path = disk.resolve path := by
  unfold resolve
  rw [hKeeps.absolute_eq]

/- A path that can be looked up is not too long. -/
theorem not_long_of_walk
    {disk : Disk}
    {path : Path}
    (hWalk : disk.walk path ≠ .error .nameTooLong) :
    ¬maxPathBytes ≤ (Utf8.encode path.text).length := by
  intro hLong
  unfold walk at hWalk
  rw [if_pos hLong] at hWalk
  exact hWalk rfl

theorem not_long_of_walk_eq_ok
    {disk : Disk}
    {path : Path}
    {entry : Entry}
    (hWalk : disk.walk path = .ok entry) :
    ¬maxPathBytes ≤ (Utf8.encode path.text).length := by
  have hLookedUp : disk.walk path ≠ .error .nameTooLong := by
    rw [hWalk]
    exact nofun
  exact not_long_of_walk hLookedUp

theorem follow_of_walk
    {disk : Disk}
    {path : Path}
    {entry : Entry}
    (hWalk : disk.walk path = .ok entry) :
    Entry.follow [disk.root] (disk.absolute path).names =
      .ok entry := by
  have hShort := not_long_of_walk_eq_ok hWalk
  unfold walk at hWalk
  rwa [if_neg hShort] at hWalk

/- What a path leads to stands at the place it resolves to. -/
theorem place?_of_walk
    {disk : Disk}
    {path : Path}
    {entry : Entry}
    (hWalk : disk.walk path = .ok entry) :
    Entry.place? (disk.resolve path).names disk.root =
      some entry :=
  Entry.place?_of_follow (follow_of_walk hWalk)

/- A path leads on where the directories are kept. -/
theorem Keeps.walk_eq
    {disk changed : Disk}
    {path : Path}
    {entry entry' : Entry}
    (hKeeps : disk.Keeps changed)
    (hWalk : disk.walk path = .ok entry)
    (hPlace :
      Entry.place? (disk.resolve path).names changed.root =
        some entry') :
    changed.walk path = .ok entry' := by
  have hShort := not_long_of_walk_eq_ok hWalk
  unfold walk
  rw [if_neg hShort, hKeeps.absolute_eq]
  exact Entry.follow_of_keepsDirectories hKeeps.root
    .outermost .outermost (follow_of_walk hWalk) hPlace

theorem Keeps.hasDirectory
    {disk changed : Disk}
    {path : Path}
    (hKeeps : disk.Keeps changed)
    (hDirectory : disk.HasDirectory path) :
    changed.HasDirectory path := by
  rcases hDirectory with ⟨entries, hWalk⟩
  rcases hKeeps.root _ _ (place?_of_walk hWalk) with
    ⟨entries', hPlace⟩
  exact ⟨entries', hKeeps.walk_eq hWalk hPlace⟩

/- A directory can be told where there is one. -/
theorem isDirectory_eq_true_iff
    {disk : Disk}
    {path : Path} :
    disk.isDirectory path = .ok true ↔
      path.holdsNull = false ∧ disk.HasDirectory path := by
  unfold isDirectory probe HasDirectory
  by_cases hNull : path.holdsNull = true
  · simp [hNull]
  · rw [if_neg hNull]
    rw [Bool.not_eq_true] at hNull
    cases disk.walk path with
    | error obstacle => cases obstacle <;> simp [hNull]
    | ok entry => cases entry <;> simp [hNull, Entry.isFile]

theorem Keeps.isDirectory
    {disk changed : Disk}
    {path : Path}
    (hKeeps : disk.Keeps changed)
    (hDirectory : disk.isDirectory path = .ok true) :
    changed.isDirectory path = .ok true := by
  rw [isDirectory_eq_true_iff] at hDirectory ⊢
  exact ⟨hDirectory.1, hKeeps.hasDirectory hDirectory.2⟩

theorem Keeps.canonical_eq
    {disk changed : Disk}
    (hKeeps : disk.Keeps changed)
    (path : Path) :
    changed.canonical path = disk.canonical path := by
  unfold canonical
  rw [hKeeps.resolve_eq]

/- One plain name in a directory. -/
theorem walk_child
    {disk : Disk}
    {directory : Path}
    {entries : List (Text × Entry)}
    {name : Text}
    (hWalk : disk.walk directory = .ok (.directory entries))
    (hPlain : (name == ['.', '.']) ≠ true)
    (hShort :
      ¬maxPathBytes ≤
        (Utf8.encode (directory.child name).text).length) :
    disk.walk (directory.child name) =
      if Entry.isLongName name then
        .error .nameTooLong
      else
        match Pairs.get? name entries with
        | none => .error .missing
        | some child => .ok child := by
  unfold walk
  rw [if_neg hShort, names_absolute_child]
  exact Entry.follow_snoc (follow_of_walk hWalk) hPlain

/- Two dots in a directory lead to a directory. -/
theorem walk_child_dots
    {disk : Disk}
    {directory : Path}
    (hDirectory : disk.HasDirectory directory)
    (hShort :
      ¬maxPathBytes ≤
        (Utf8.encode
          (directory.child ['.', '.']).text).length) :
    disk.HasDirectory (directory.child ['.', '.']) := by
  rcases hDirectory with ⟨entries, hWalk⟩
  unfold HasDirectory walk
  rw [if_neg hShort, names_absolute_child]
  exact Entry.follow_snoc_dots .outermost (follow_of_walk hWalk)

/- Whether a path leads to a file depends on its walk. -/
theorem isFile_of_walk
    {disk disk' : Disk}
    {path : Path}
    (hWalk : disk'.walk path = disk.walk path) :
    disk'.isFile path = disk.isFile path := by
  unfold isFile probe
  rw [hWalk]

theorem stateText?_of_walk
    {disk disk' : Disk}
    {path : Path}
    (hWalk : disk'.walk path = disk.walk path) :
    disk'.stateText? path = disk.stateText? path := by
  unfold stateText? bytes? entry?
  rw [hWalk]

------------------------------------------------------------
-- Putting
------------------------------------------------------------

/- What it means that an entry was put at a path. -/
theorem put_eq_ok
    {disk changed : Disk}
    {path : Path}
    {entry : Entry}
    (hPut : disk.put entry path = .ok changed) :
    (disk.resolve path).names.any Entry.isLongName = false ∧
      ∃ root,
        Entry.put? entry (disk.resolve path).names disk.root =
            some root ∧
          changed = { disk with root } := by
  unfold put at hPut
  by_cases hLong :
      (disk.resolve path).names.any Entry.isLongName = true
  · simp only [if_pos hLong] at hPut
    cases hPut
  · simp only [if_neg hLong] at hPut
    refine ⟨Bool.eq_false_iff.mpr hLong, ?_⟩
    split at hPut
    next root hRoot =>
      exact ⟨root, hRoot, (Except.ok.inj hPut).symm⟩
    next => cases hPut

/-
  What is put at a plain name in a directory, where there is
  no directory yet, is found there.
-/
theorem walk_put
    {disk changed : Disk}
    {directory : Path}
    {name : Text}
    {entry : Entry}
    (hDirectory : disk.HasDirectory directory)
    (hPlain : (name == ['.', '.']) ≠ true)
    (hFree : ¬disk.HasDirectory (directory.child name))
    (hShort :
      disk.walk (directory.child name) ≠ .error .nameTooLong)
    (hPut :
      disk.put entry (directory.child name) = .ok changed) :
    changed.walk (directory.child name) = .ok entry ∧
      disk.Keeps changed := by
  rcases hDirectory with ⟨entries, hWalk⟩
  have hFits := not_long_of_walk hShort
  have hChild := walk_child hWalk hPlain hFits
  rcases put_eq_ok hPut with ⟨hNames, root, hRoot, rfl⟩
  rw [names_resolve_child disk directory hPlain]
    at hNames hRoot
  have hName : ¬Entry.isLongName name = true := by
    intro hLong
    rw [List.any_append, List.any_cons, hLong] at hNames
    simp at hNames
  rw [if_neg hName] at hChild
  have hKeeps : disk.Keeps { disk with root } := by
    refine ⟨Entry.keepsDirectories_put? hRoot ?_, rfl, rfl⟩
    intro inner hPlace
    rw [Entry.place?_snoc (place?_of_walk hWalk)] at hPlace
    rw [hPlace] at hChild
    exact hFree ⟨inner, hChild⟩
  refine ⟨?_, hKeeps⟩
  rcases hKeeps.hasDirectory ⟨entries, hWalk⟩ with
    ⟨entries', hWalk'⟩
  have hPlace := place?_of_walk hWalk'
  rw [hKeeps.resolve_eq] at hPlace
  have hEntry := Entry.place?_put? hRoot
  rw [Entry.place?_snoc hPlace] at hEntry
  rw [walk_child hWalk' hPlain hFits, if_neg hName, hEntry]

------------------------------------------------------------
-- Directories
------------------------------------------------------------

/- Making a directory that is there changes nothing. -/
theorem makeDirectory_of_hasDirectory
    {disk : Disk}
    {path : Path}
    (hDirectory : disk.HasDirectory path) :
    disk.makeDirectory path = .ok disk := by
  rcases hDirectory with ⟨entries, hWalk⟩
  unfold makeDirectory
  cases path.names.length with
  | zero => simp only [makeDirectoryWithin, orMissing, hWalk]
  | succ above =>
      simp only [makeDirectoryWithin, orMissing, hWalk]

/- What `orMissing` answers if it does not fail. -/
theorem orMissing_eq_ok
    {disk changed : Disk}
    {path : Path}
    {otherwise : Except FileFault Disk}
    (hMade : disk.orMissing path otherwise = .ok changed) :
    (disk.HasDirectory path ∧ changed = disk) ∨
      (disk.walk path = .error .missing ∧
        otherwise = .ok changed) := by
  unfold orMissing at hMade
  split at hMade
  next => cases hMade
  next entries hWalk =>
    exact .inl ⟨⟨entries, hWalk⟩, (Except.ok.inj hMade).symm⟩
  next hWalk => exact .inr ⟨hWalk, hMade⟩
  next => cases hMade

/- A directory is made below one that is there. -/
theorem hasDirectory_put_empty
    {disk changed : Disk}
    {path : Path}
    (hParent : disk.HasDirectory path.parent)
    (hMissing : disk.walk path = .error .missing)
    (hPut : disk.put .empty path = .ok changed) :
    changed.HasDirectory path ∧ disk.Keeps changed := by
  have hNames : path.names ≠ [] := by
    intro hNames
    rw [Path.parent_of_nil hNames] at hParent
    rcases hParent with ⟨entries, hWalk⟩
    rw [hMissing] at hWalk
    cases hWalk
  generalize hName : path.names.getLast hNames = name
  have hPath := Path.eq_child_parent hNames
  rw [hName] at hPath
  have hShort : disk.walk path ≠ .error .nameTooLong := by
    rw [hMissing]
    exact nofun
  have hFree : ¬disk.HasDirectory path := by
    rintro ⟨entries, hWalk⟩
    rw [hMissing] at hWalk
    cases hWalk
  have hPlain : (name == ['.', '.']) ≠ true := by
    intro hDots
    rw [beq_iff_eq.mp hDots] at hPath
    have hFits := not_long_of_walk hShort
    rw [hPath] at hFits hFree
    exact hFree (walk_child_dots hParent hFits)
  rw [hPath] at hShort hFree hPut ⊢
  rcases walk_put hParent hPlain hFree hShort hPut with
    ⟨hWalk, hKeeps⟩
  exact ⟨⟨[], hWalk⟩, hKeeps⟩

/-
  By induction on the number of directories that may be
  missing: the parent is there before the directory is made.
-/
theorem hasDirectory_makeDirectoryWithin
    {above : Nat}
    {disk changed : Disk}
    {path : Path}
    (hMade : makeDirectoryWithin above path disk = .ok changed) :
    changed.HasDirectory path ∧ disk.Keeps changed := by
  induction above generalizing path changed with
  | zero =>
      rcases orMissing_eq_ok hMade with
        ⟨hDirectory, rfl⟩ | ⟨-, hFailed⟩
      · exact ⟨hDirectory, .refl _⟩
      · cases hFailed
  | succ above ih =>
      rcases orMissing_eq_ok hMade with
        ⟨hDirectory, rfl⟩ | ⟨-, hBelow⟩
      · exact ⟨hDirectory, .refl _⟩
      · rcases exists_of_bind_eq_ok hBelow with
          ⟨between, hParent, hMade'⟩
        rcases ih hParent with ⟨hThere, hKeeps⟩
        rcases orMissing_eq_ok hMade' with
          ⟨hDirectory, rfl⟩ | ⟨hMissing, hPut⟩
        · exact ⟨hDirectory, hKeeps⟩
        · rcases hasDirectory_put_empty hThere hMissing hPut
            with ⟨hDirectory, hKeeps'⟩
          exact ⟨hDirectory, hKeeps.trans hKeeps'⟩

theorem hasDirectory_makeDirectory
    {disk changed : Disk}
    {path : Path}
    (hMade : disk.makeDirectory path = .ok changed) :
    changed.HasDirectory path ∧ disk.Keeps changed :=
  hasDirectory_makeDirectoryWithin hMade

------------------------------------------------------------
-- Files
------------------------------------------------------------

/- What it means that a file was written. -/
theorem writeFile_eq_ok
    {disk changed : Disk}
    {path : Path}
    {content : Utf8.Bytes}
    (hWritten : disk.writeFile content path = .ok changed) :
    ¬disk.HasDirectory path ∧
      disk.walk path ≠ .error .nameTooLong ∧
        disk.put (.file content) path = .ok changed := by
  unfold writeFile at hWritten
  unfold HasDirectory
  split at hWritten
  next => cases hWritten
  next old hWalk =>
    refine ⟨?_, ?_, hWritten⟩
    · rw [hWalk]
      rintro ⟨entries, hSame⟩
      cases hSame
    · rw [hWalk]
      exact nofun
  next hWalk =>
    refine ⟨?_, ?_, hWritten⟩
    · rw [hWalk]
      rintro ⟨entries, hSame⟩
      cases hSame
    · rw [hWalk]
      exact nofun
  next => cases hWritten

/- A file in a directory is found when it was written. -/
theorem walk_writeFile
    {disk changed : Disk}
    {directory : Path}
    {name : Text}
    {content : Utf8.Bytes}
    (hDirectory : disk.HasDirectory directory)
    (hPlain : (name == ['.', '.']) ≠ true)
    (hWritten :
      disk.writeFile content (directory.child name) =
        .ok changed) :
    changed.walk (directory.child name) = .ok (.file content) ∧
      disk.Keeps changed := by
  rcases writeFile_eq_ok hWritten with ⟨hFree, hShort, hPut⟩
  exact walk_put hDirectory hPlain hFree hShort hPut

/- Whether an entry can be put does not depend on it. -/
theorem exists_put
    {disk changed : Disk}
    {path : Path}
    {entry : Entry}
    (hPut : disk.put entry path = .ok changed)
    (other : Entry) :
    ∃ changed', disk.put other path = .ok changed' := by
  rcases put_eq_ok hPut with ⟨hNames, root, hRoot, -⟩
  have hSome :
      (Entry.put? other (disk.resolve path).names
        disk.root).isSome := by
    rw [Entry.isSome_put? other entry, hRoot]
    rfl
  rcases Option.isSome_iff_exists.mp hSome with
    ⟨root', hRoot'⟩
  unfold put
  simp only [hNames, hRoot', Bool.false_eq_true, if_false]
  exact ⟨_, rfl⟩

/- Nor does it depend on the content of a file. -/
theorem exists_writeFile
    {disk changed : Disk}
    {path : Path}
    {content : Utf8.Bytes}
    (hWritten : disk.writeFile content path = .ok changed)
    (other : Utf8.Bytes) :
    ∃ changed', disk.writeFile other path = .ok changed' := by
  have hPut := (writeFile_eq_ok hWritten).2.2
  unfold writeFile at hWritten ⊢
  split at hWritten
  next => cases hWritten
  next => exact exists_put hPut (.file other)
  next => exact exists_put hPut (.file other)
  next => cases hWritten

/-
  A file that was written can be written again, and the disk
  is the same if its content is.
-/
theorem writeFile_same
    {disk changed : Disk}
    {directory : Path}
    {name : Text}
    {content : Utf8.Bytes}
    (hDirectory : disk.HasDirectory directory)
    (hPlain : (name == ['.', '.']) ≠ true)
    (hWritten :
      disk.writeFile content (directory.child name) =
        .ok changed) :
    changed.writeFile content (directory.child name) =
      .ok changed := by
  rcases walk_writeFile hDirectory hPlain hWritten with
    ⟨hWalk, hKeeps⟩
  rcases put_eq_ok (writeFile_eq_ok hWritten).2.2 with
    ⟨hNames, root, hRoot, hChanged⟩
  have hPlace := place?_of_walk hWalk
  have hAgain := Entry.put?_of_place? hPlace
  unfold writeFile put
  simp only [hWalk, hKeeps.resolve_eq, hNames,
    Bool.false_eq_true, if_false] at hAgain ⊢
  rw [hAgain]

end Disk

end RouteAtlas
