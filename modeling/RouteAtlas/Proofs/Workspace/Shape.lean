import Mathlib
import RouteAtlas.Proofs.Workspace.Tree

/-
  Trees of one shape.

  A tree is well formed if its directories have distinct
  names that could be names on a disk.  Two trees have one
  shape if they have directories at the same places and
  files at the same places.  The same names lead through
  both, and to entries of one kind.

  Rewriting a file keeps the tree well formed, its shape and
  all other files.

  Main statements:
    * `areWellFormed_iff`
    * `SameShape.follow`
    * `isWellFormed_put?`
    * `sameAt_put?`
    * `sameShape_put?`
-/

------------------------------------------------------------
-- Well-Formed Trees
------------------------------------------------------------

namespace RouteAtlas

namespace Entry

/- Whether a text can be the name of an entry on a disk. -/
def isEntryName
    (name : Text) :
    Bool :=
  Path.isName name && name != ['.', '.'] &&
    name.all fun c => c != '/' && c != '\x00'

mutual

/- Whether the names in all directories are as they can be. -/
def isWellFormed :
    Entry → Bool
  | .file _ => true
  | .directory entries => areWellFormed entries

/- The same for the entries of a directory. -/
def areWellFormed :
    List (Text × Entry) → Bool
  | [] => true
  | (name, entry) :: rest =>
      isEntryName name && !Pairs.has name rest &&
        entry.isWellFormed && areWellFormed rest

end

theorem has_eq_false_iff
    {name : Text}
    {entries : List (Text × Entry)} :
    Pairs.has name entries = false ↔
      name ∉ entries.map (·.1) := by
  unfold Pairs.has
  rw [Option.isSome_eq_false_iff, Option.isNone_iff_eq_none,
    Pairs.get?_eq_none_iff]

theorem areWellFormed_iff
    {entries : List (Text × Entry)} :
    areWellFormed entries = true ↔
      (entries.map (·.1)).Nodup ∧
        ∀ pair ∈ entries,
          isEntryName pair.1 = true ∧
            pair.2.isWellFormed = true := by
  induction entries with
  | nil => simp [areWellFormed]
  | cons pair rest ih =>
      rcases pair with ⟨name, entry⟩
      rw [areWellFormed, Bool.and_eq_true, Bool.and_eq_true,
        Bool.and_eq_true, Bool.not_eq_true',
        has_eq_false_iff, ih, List.map_cons,
        List.nodup_cons, List.forall_mem_cons]
      tauto

section WellFormed

variable {entries : List (Text × Entry)}
variable {name : Text}
variable {child : Entry}

theorem nodup_of_isWellFormed
    (hEntries : (directory entries).isWellFormed = true) :
    (entries.map (·.1)).Nodup := by
  rw [isWellFormed, areWellFormed_iff] at hEntries
  exact hEntries.1

theorem mem_of_get?
    (hEntries : (directory entries).isWellFormed = true)
    (hChild : Pairs.get? name entries = some child) :
    (name, child) ∈ entries :=
  (Pairs.get?_eq_some_iff
    (nodup_of_isWellFormed hEntries)).mp hChild

theorem isEntryName_of_get?
    (hEntries : (directory entries).isWellFormed = true)
    (hChild : Pairs.get? name entries = some child) :
    isEntryName name = true := by
  have hMember := mem_of_get? hEntries hChild
  rw [isWellFormed, areWellFormed_iff] at hEntries
  exact (hEntries.2 _ hMember).1

theorem isWellFormed_of_get?
    (hEntries : (directory entries).isWellFormed = true)
    (hChild : Pairs.get? name entries = some child) :
    child.isWellFormed = true := by
  have hMember := mem_of_get? hEntries hChild
  rw [isWellFormed, areWellFormed_iff] at hEntries
  exact (hEntries.2 _ hMember).2

end WellFormed

/- A place in a directory starts with one of its names. -/
theorem exists_child_of_place?
    {entries : List (Text × Entry)}
    {entry : Entry}
    {name : Text}
    {names : List Text}
    (hPlace :
      place? (name :: names) (.directory entries) =
        some entry) :
    ∃ child,
      Pairs.get? name entries = some child ∧
        place? names child = some entry := by
  rw [place?] at hPlace
  exact Option.bind_eq_some_iff.mp hPlace

/- What stands in a well-formed tree is well formed. -/
theorem isWellFormed_of_place?
    {tree entry : Entry}
    {names : List Text}
    (hTree : tree.isWellFormed = true)
    (hPlace : place? names tree = some entry) :
    entry.isWellFormed = true := by
  induction names generalizing tree with
  | nil =>
      rw [place?, Option.some.injEq] at hPlace
      rwa [← hPlace]
  | cons name names ih =>
      cases tree with
      | file content => cases hPlace
      | directory entries =>
          rcases exists_child_of_place? hPlace with
            ⟨child, hChild, hInner⟩
          exact
            ih (isWellFormed_of_get? hTree hChild) hInner

/- A name of an entry takes part in a path as it is. -/
theorem plain_of_isEntryName
    {name : Text}
    (hName : isEntryName name = true) :
    (name == ['.', '.']) ≠ true ∧
      (Path.isName name = true ∧ '/' ∉ name) ∧
        '\x00' ∉ name := by
  unfold isEntryName at hName
  simp only [Bool.and_eq_true, List.all_eq_true, bne_iff_ne]
    at hName
  rcases hName with ⟨⟨hIsName, hDots⟩, hChars⟩
  refine ⟨mt beq_iff_eq.mp hDots, ⟨hIsName, ?_⟩, ?_⟩
  · exact fun hSlash => (hChars _ hSlash).1 rfl
  · exact fun hNull => (hChars _ hNull).2 rfl

/- A place in a well-formed tree is named by such names. -/
theorem isEntryName_of_place?
    {tree entry : Entry}
    {names : List Text}
    (hTree : tree.isWellFormed = true)
    (hPlace : place? names tree = some entry) :
    ∀ name ∈ names, isEntryName name = true := by
  induction names generalizing tree with
  | nil => exact nofun
  | cons name names ih =>
      cases tree with
      | file content => cases hPlace
      | directory entries =>
          rcases exists_child_of_place? hPlace with
            ⟨child, hChild, hInner⟩
          exact
            List.forall_mem_cons.mpr
              ⟨isEntryName_of_get? hTree hChild,
                ih (isWellFormed_of_get? hTree hChild)
                  hInner⟩

------------------------------------------------------------
-- Induction
------------------------------------------------------------

mutual

/- What holds of directories if it holds of their entries. -/
theorem induct
    {holds : Entry → Prop}
    (file : ∀ content, holds (.file content))
    (directory :
      ∀ entries,
        (∀ name child,
          Pairs.get? name entries = some child →
            holds child) →
          holds (.directory entries)) :
    ∀ entry, holds entry
  | .file content => file content
  | .directory entries =>
      directory entries fun _ _ hChild =>
        induct_entries file directory entries hChild

theorem induct_entries
    {holds : Entry → Prop}
    (file : ∀ content, holds (.file content))
    (directory :
      ∀ entries,
        (∀ name child,
          Pairs.get? name entries = some child →
            holds child) →
          holds (.directory entries))
    {name : Text}
    {child : Entry} :
    ∀ entries,
      Pairs.get? name entries = some child → holds child
  | [], hChild => nomatch hChild
  | (other, entry) :: rest, hChild => by
      rw [Pairs.get?] at hChild
      split at hChild
      · rw [← Option.some.inj hChild]
        exact induct file directory entry
      · exact induct_entries file directory rest hChild

end

------------------------------------------------------------
-- Shapes
------------------------------------------------------------

/- Whether two trees have the same kinds of entries. -/
def SameShape
    (tree other : Entry) :
    Prop :=
  ∀ names,
    (place? names tree).map isFile =
      (place? names other).map isFile

theorem SameShape.symm
    {tree other : Entry}
    (hShape : SameShape tree other) :
    SameShape other tree :=
  fun names => (hShape names).symm

theorem SameShape.isFile_eq
    {tree other : Entry}
    (hShape : SameShape tree other) :
    tree.isFile = other.isFile :=
  Option.some.inj (hShape [])

theorem SameShape.kinds
    {tree other : Entry}
    (hShape : SameShape tree other) :
    (∃ content content',
      tree = .file content ∧ other = .file content') ∨
      ∃ entries others,
        tree = .directory entries ∧
          other = .directory others := by
  have hKind := hShape.isFile_eq
  cases tree with
  | file content =>
      cases other with
      | file content' => exact .inl ⟨_, _, rfl, rfl⟩
      | directory others => cases hKind
  | directory entries =>
      cases other with
      | file content' => cases hKind
      | directory others => exact .inr ⟨_, _, rfl, rfl⟩

/- The entries of one name have one shape. -/
theorem SameShape.get?
    {entries others : List (Text × Entry)}
    (hShape :
      SameShape (.directory entries) (.directory others))
    (name : Text) :
    (Pairs.get? name entries = none ∧
      Pairs.get? name others = none) ∨
      ∃ child child',
        Pairs.get? name entries = some child ∧
          Pairs.get? name others = some child' ∧
            SameShape child child' := by
  have hBelow :
      ∀ names,
        ((Pairs.get? name entries).bind (place? names)).map
            isFile =
          ((Pairs.get? name others).bind (place? names)).map
            isFile :=
    fun names => hShape (name :: names)
  cases hChild : Pairs.get? name entries with
  | none =>
      cases hChild' : Pairs.get? name others with
      | none => exact .inl ⟨rfl, rfl⟩
      | some child' =>
          have hThere := hBelow []
          rw [hChild, hChild'] at hThere
          cases hThere
  | some child =>
      cases hChild' : Pairs.get? name others with
      | none =>
          have hThere := hBelow []
          rw [hChild, hChild'] at hThere
          cases hThere
      | some child' =>
          rw [hChild, hChild'] at hBelow
          exact .inr ⟨child, child', rfl, rfl, hBelow⟩

theorem SameShape.get?_isFile
    {entries others : List (Text × Entry)}
    (hShape :
      SameShape (.directory entries) (.directory others))
    (name : Text) :
    (Pairs.get? name entries).map isFile =
      (Pairs.get? name others).map isFile := by
  rcases hShape.get? name with
    ⟨hNone, hNone'⟩ |
    ⟨child, child', hChild, hChild', hBelow⟩
  · rw [hNone, hNone']
  · rw [hChild, hChild']
    exact congrArg some hBelow.isFile_eq

/- What stands at one place has one shape. -/
theorem SameShape.of_place?
    {tree other entry entry' : Entry}
    {names : List Text}
    (hShape : SameShape tree other)
    (hPlace : place? names tree = some entry)
    (hPlace' : place? names other = some entry') :
    SameShape entry entry' := by
  intro below
  have hBelow := hShape (names ++ below)
  rwa [place?_append, place?_append, hPlace, hPlace',
    Option.bind_some, Option.bind_some] at hBelow

section Stacks

variable {stack stack' : List Entry}

/- A name leads on in both trees, or meets one obstacle. -/
theorem SameShape.enter
    (hStacks : List.Forall₂ SameShape stack stack')
    (name : Text) :
    (∃ obstacle,
      Entry.enter name stack = .error obstacle ∧
        Entry.enter name stack' = .error obstacle) ∨
      ∃ next next',
        Entry.enter name stack = .ok next ∧
          Entry.enter name stack' = .ok next' ∧
            List.Forall₂ SameShape next next' := by
  cases hStacks with
  | nil => exact .inl ⟨_, rfl, rfl⟩
  | @cons current current' above above' hShape hAbove =>
      rcases hShape.kinds with
        ⟨content, content', rfl, rfl⟩ |
        ⟨entries, entries', rfl, rfl⟩
      · exact .inl ⟨_, rfl, rfl⟩
      · rw [Entry.enter, Entry.enter]
        by_cases hDots : (name == ['.', '.']) = true
        · rw [if_pos hDots, if_pos hDots]
          refine .inr ⟨_, _, rfl, rfl, ?_⟩
          cases hAbove with
          | nil => exact .cons hShape .nil
          | cons hOuter hAbove => exact .cons hOuter hAbove
        · rw [if_neg hDots, if_neg hDots]
          by_cases hLong : isLongName name = true
          · rw [if_pos hLong, if_pos hLong]
            exact .inl ⟨_, rfl, rfl⟩
          · rw [if_neg hLong, if_neg hLong]
            rcases hShape.get? name with
              ⟨hNone, hNone'⟩ |
              ⟨child, child', hChild, hChild', hBelow⟩
            · rw [hNone, hNone']
              exact .inl ⟨_, rfl, rfl⟩
            · rw [hChild, hChild']
              exact
                .inr ⟨_, _, rfl, rfl,
                  .cons hBelow (.cons hShape hAbove)⟩

/- Names lead to the same kind of entry in both trees. -/
theorem SameShape.follow
    (hStacks : List.Forall₂ SameShape stack stack')
    (names : List Text) :
    (Entry.follow stack names).map isFile =
      (Entry.follow stack' names).map isFile := by
  induction names generalizing stack stack' with
  | nil =>
      cases hStacks with
      | nil => rfl
      | cons hShape hAbove =>
          exact congrArg Except.ok hShape.isFile_eq
  | cons name names ih =>
      rw [follow_cons, follow_cons]
      rcases SameShape.enter hStacks name with
        ⟨obstacle, hEnter, hEnter'⟩ |
        ⟨next, next', hEnter, hEnter', hNext⟩
      · rw [hEnter, hEnter']
      · rw [hEnter, hEnter']
        exact ih hNext

end Stacks

------------------------------------------------------------
-- Contents
------------------------------------------------------------

/- The bytes of an entry, if it is a file. -/
def content? :
    Entry → Option Utf8.Bytes
  | .file content => some content
  | .directory _ => none

theorem isSome_content?
    (entry : Entry) :
    entry.content?.isSome = entry.isFile := by
  cases entry <;> rfl

/- Whether two trees hold the same at a place. -/
def SameAt
    (names : List Text)
    (tree other : Entry) :
    Prop :=
  (place? names tree).map content? =
    (place? names other).map content?

theorem SameAt.isFile_eq
    {names : List Text}
    {tree other : Entry}
    (hSame : SameAt names tree other) :
    (place? names tree).map isFile =
      (place? names other).map isFile := by
  have hSome := congrArg (Option.map Option.isSome) hSame
  simpa only [Option.map_map, Function.comp_def,
    isSome_content?] using hSome

------------------------------------------------------------
-- Rewriting
------------------------------------------------------------

section Rewriting

variable {tree changed old : Entry}
variable {names : List Text}

/- Putting an entry below a name changes only that name. -/
theorem exists_child_of_put?
    {entry child : Entry}
    {entries : List (Text × Entry)}
    {name : Text}
    (hChild : Pairs.get? name entries = some child)
    (hPut :
      put? entry (name :: names) (.directory entries) =
        some changed) :
    ∃ child',
      put? entry names child = some child' ∧
        changed =
          .directory (Pairs.put name child' entries) := by
  rw [put?] at hPut
  simp only [hChild, Option.map_eq_some_iff] at hPut
  rcases hPut with ⟨child', hPut, rfl⟩
  exact ⟨child', hPut, rfl⟩

/- A tree stays well formed when an entry is replaced. -/
theorem isWellFormed_put?
    {entry : Entry}
    (hTree : tree.isWellFormed = true)
    (hEntry : entry.isWellFormed = true)
    (hPlace : place? names tree = some old)
    (hPut : put? entry names tree = some changed) :
    changed.isWellFormed = true := by
  induction names generalizing tree changed with
  | nil =>
      rw [put?, Option.some.injEq] at hPut
      rwa [← hPut]
  | cons name names ih =>
      cases tree with
      | file content => cases hPlace
      | directory entries =>
          rcases exists_child_of_place? hPlace with
            ⟨child, hChild, hInner⟩
          rcases exists_child_of_put? hChild hPut with
            ⟨child', hPut', rfl⟩
          have hChild' :=
            ih (isWellFormed_of_get? hTree hChild) hInner
              hPut'
          have hDistinct := nodup_of_isWellFormed hTree
          have hDistinct' :=
            Pairs.nodup_put hDistinct name child'
          rw [isWellFormed, areWellFormed_iff]
          refine ⟨hDistinct', ?_⟩
          rintro ⟨other, entry'⟩ hMember
          rw [← Pairs.get?_eq_some_iff hDistinct',
            Pairs.get?_put] at hMember
          by_cases hSame : (name == other) = true
          · rw [if_pos hSame, Option.some.injEq] at hMember
            rw [beq_iff_eq.mp hSame] at hChild
            rw [← hMember]
            exact
              ⟨isEntryName_of_get? hTree hChild, hChild'⟩
          · rw [if_neg hSame] at hMember
            exact
              ⟨isEntryName_of_get? hTree hMember,
                isWellFormed_of_get? hTree hMember⟩

/- Elsewhere a tree holds what it held before. -/
theorem sameAt_put?
    {content : Utf8.Bytes}
    (hPlace : place? names tree = some old)
    (hFile : old.isFile = true)
    (hPut : put? (.file content) names tree = some changed)
    {others : List Text}
    (hOthers : others ≠ names) :
    SameAt others tree changed := by
  induction names generalizing tree changed others with
  | nil =>
      rw [place?, Option.some.injEq] at hPlace
      rw [put?, Option.some.injEq] at hPut
      subst hPlace hPut
      cases others with
      | nil => exact absurd rfl hOthers
      | cons other others =>
          cases tree with
          | file old => rfl
          | directory entries => cases hFile
  | cons name names ih =>
      cases tree with
      | file content => cases hPlace
      | directory entries =>
          rcases exists_child_of_place? hPlace with
            ⟨child, hChild, hInner⟩
          rcases exists_child_of_put? hChild hPut with
            ⟨child', hPut', rfl⟩
          cases others with
          | nil => rfl
          | cons other others =>
              unfold SameAt
              rw [place?, place?, Pairs.get?_put]
              by_cases hSame : name = other
              · subst hSame
                rw [if_pos (beq_self_eq_true name), hChild]
                apply ih hInner hPut'
                intro hEqual
                exact hOthers (congrArg _ hEqual)
              · rw [if_neg (mt beq_iff_eq.mp hSame)]

/- A tree keeps its shape when a file is rewritten. -/
theorem sameShape_put?
    {content : Utf8.Bytes}
    (hPlace : place? names tree = some old)
    (hFile : old.isFile = true)
    (hPut : put? (.file content) names tree = some changed) :
    SameShape tree changed := by
  intro others
  by_cases hOthers : others = names
  · subst hOthers
    rw [hPlace, place?_put? hPut]
    exact congrArg some hFile
  · exact (sameAt_put? hPlace hFile hPut hOthers).isFile_eq

end Rewriting

end Entry

end RouteAtlas
