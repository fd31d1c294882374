import Mathlib
import RouteAtlas.Project.Descriptor

/-
  The way up in search of a project.

  From the directory of a file the search goes up, one
  parent after the other, to the first directory that is its
  own parent, or as far as the depth bound lets it.  It
  lists no directory twice, and none above the first that
  cannot be listed or holds a descriptor.

  Main definitions:
    * `Project.IsAscent`
    * `Project.IsDescriptor`
    * `Project.Answers`

  Main statements:
    * `isAscent_chain`
    * `answers_searchAlong`
    * `search_answers`
-/

------------------------------------------------------------
-- Ascents
------------------------------------------------------------

namespace RouteAtlas

namespace Project

/-
  Whether directories lead from one of them upwards, each to
  its parent, up to the first that is its own parent.
-/
structure IsAscent
    (start : Path)
    (directories : List Path) :
    Prop where
  head : directories.head? = some start
  steps :
    directories.IsChain fun below above =>
      below.parent ≠ below ∧ above = below.parent
  top :
    ∀ last ∈ directories.getLast?, last.parent = last

/- A directory that is not its own parent has more names. -/
theorem length_parent_lt
    {directory : Path}
    (hBelow : directory.parent ≠ directory) :
    directory.parent.names.length <
      directory.names.length := by
  have hNames : directory.names ≠ [] := by
    intro hNone
    apply hBelow
    rw [Path.parent, hNone, List.dropLast_nil, ← hNone]
  have hSome := List.length_pos_iff.mpr hNames
  rw [Path.parent, List.length_dropLast]
  omega

/- Each directory on the way has fewer names than before. -/
theorem IsAscent.nodup
    {start : Path}
    {directories : List Path}
    (hAscent : IsAscent start directories) :
    directories.Nodup := by
  have hShorter :
      (directories.map (·.names.length)).IsChain
        (· > ·) := by
    rw [List.isChain_map]
    refine hAscent.steps.imp ?_
    rintro below above ⟨hBelow, rfl⟩
    exact length_parent_lt hBelow
  have hDistinct :
      (directories.map (·.names.length)).Nodup :=
    (List.isChain_iff_pairwise.mp hShorter).imp
      fun hMore => Nat.ne_of_gt hMore
  exact hDistinct.of_map _

/- A depth above the number of names cuts nothing off. -/
theorem isAscent_chain
    {directory : Path}
    {depth : Nat}
    (hDepth : directory.names.length < depth) :
    IsAscent directory (chain directory depth) := by
  induction depth generalizing directory with
  | zero => exact absurd hDepth (Nat.not_lt_zero _)
  | succ depth ih =>
      rw [chain]
      split
      next hTop =>
        refine ⟨rfl, .singleton _, ?_⟩
        rintro _ ⟨⟩
        exact hTop
      next hBelow =>
        have hShorter := length_parent_lt hBelow
        have hAbove : IsAscent directory.parent
            (chain directory.parent depth) :=
          ih (by omega)
        refine ⟨rfl, ?_, ?_⟩
        · rw [List.isChain_cons]
          refine ⟨?_, hAbove.steps⟩
          intro above hHead
          rw [hAbove.head] at hHead
          exact ⟨hBelow, (Option.some.inj hHead).symm⟩
        · intro last hLast
          apply hAbove.top
          cases hChain : chain directory.parent depth with
          | nil =>
              have hHead := hAbove.head
              rw [hChain] at hHead
              cases hHead
          | cons above higher =>
              rw [hChain, List.getLast?_cons_cons] at hLast
              exact hLast

/- A smaller depth bound cuts the way off earlier. -/
theorem take_chain
    {depth deeper : Nat}
    (directory : Path)
    (hDepth : depth ≤ deeper) :
    (chain directory deeper).take depth =
      chain directory depth := by
  induction deeper generalizing directory depth with
  | zero =>
      obtain rfl : depth = 0 := Nat.le_zero.mp hDepth
      rfl
  | succ deeper ih =>
      cases depth with
      | zero => rfl
      | succ depth =>
          have hBound : depth ≤ deeper :=
            Nat.le_of_succ_le_succ hDepth
          rw [chain, chain]
          split
          · rw [List.take_succ_cons, List.take_nil]
          · rw [List.take_succ_cons, ih _ hBound]

------------------------------------------------------------
-- Answers
------------------------------------------------------------

/- A file, and no directory, with the extension. -/
def IsDescriptor
    (extension : Text)
    (entry : Text × Bool) :
    Prop :=
  entry.2 = true ∧ extension <:+ entry.1

section Search

variable (list : Path → Option Listing)
variable (extension : Text)

/- A directory that is listed, and holds no descriptor. -/
def IsPassed
    (directory : Path) :
    Prop :=
  ∃ listing,
    list directory = some listing ∧
      ∀ entry ∈ listing, ¬IsDescriptor extension entry

/-
  What a search along directories finds, and which of them
  it lists for it.
-/
inductive Answers
    (directories : List Path) :
    Option Path × List Path → Prop
  | nowhere
      (hPassed :
        ∀ directory ∈ directories,
          IsPassed list extension directory) :
      Answers directories (none, directories)
  | refused
      (front : List Path)
      {back : List Path}
      {stop : Path}
      (hSplit : directories = front ++ stop :: back)
      (hPassed :
        ∀ directory ∈ front,
          IsPassed list extension directory)
      (hRefused : list stop = none) :
      Answers directories (none, front ++ [stop])
  | found
      (front : List Path)
      {back : List Path}
      {stop : Path}
      {before after : Listing}
      {name : Text}
      (hSplit : directories = front ++ stop :: back)
      (hPassed :
        ∀ directory ∈ front,
          IsPassed list extension directory)
      (hListed :
        list stop = some (before ++ (name, true) :: after))
      (hBefore :
        ∀ entry ∈ before, ¬IsDescriptor extension entry)
      (hName : extension <:+ name) :
      Answers directories
        (some (stop.join (.ofText name)), front ++ [stop])

variable {list extension}

/- The directories that are listed are the first ones. -/
theorem Answers.listed_prefix
    {directories : List Path}
    {answer : Option Path × List Path}
    (hAnswer : Answers list extension directories answer) :
    answer.2 <+: directories := by
  cases hAnswer with
  | nowhere => exact List.prefix_rfl
  | @refused front back _ hSplit =>
      refine ⟨back, ?_⟩
      rw [hSplit]
      exact (List.append_cons front _ back).symm
  | @found front back _ _ _ _ hSplit =>
      refine ⟨back, ?_⟩
      rw [hSplit]
      exact (List.append_cons front _ back).symm

/- One more directory below is passed on the way. -/
theorem Answers.cons
    {directory : Path}
    {above : List Path}
    {answer : Option Path × List Path}
    (hPassed : IsPassed list extension directory)
    (hAnswer : Answers list extension above answer) :
    Answers list extension (directory :: above)
      (answer.1, directory :: answer.2) := by
  cases hAnswer with
  | nowhere hAbove =>
      exact
        .nowhere (List.forall_mem_cons.mpr ⟨hPassed, hAbove⟩)
  | refused front hSplit hFront hRefused =>
      have hBelow :=
        List.forall_mem_cons.mpr ⟨hPassed, hFront⟩
      rw [hSplit]
      exact .refused (directory :: front) rfl hBelow hRefused
  | found front hSplit hFront hListed hBefore hName =>
      have hBelow :=
        List.forall_mem_cons.mpr ⟨hPassed, hFront⟩
      rw [hSplit]
      exact
        .found (directory :: front) rfl hBelow hListed
          hBefore hName

theorem isDescriptor_iff
    {entry : Text × Bool} :
    IsDescriptor extension entry ↔
      (entry.2 && Text.endsWith extension entry.1) =
        true := by
  rw [IsDescriptor, Bool.and_eq_true, Text.endsWith,
    List.isSuffixOf_iff_suffix]

theorem descriptorIn?_eq_none
    {listing : Listing}
    (hNone : descriptorIn? extension listing = none) :
    ∀ entry ∈ listing, ¬IsDescriptor extension entry := by
  rw [descriptorIn?, Option.map_eq_none_iff,
    List.find?_eq_none] at hNone
  intro entry hEntry
  rw [isDescriptor_iff]
  exact hNone entry hEntry

/- The descriptor of a listing is the first one in it. -/
theorem descriptorIn?_eq_some
    {listing : Listing}
    {name : Text}
    (hName : descriptorIn? extension listing = some name) :
    ∃ before after,
      listing = before ++ (name, true) :: after ∧
        (∀ entry ∈ before, ¬IsDescriptor extension entry) ∧
          extension <:+ name := by
  rcases Option.map_eq_some_iff.mp hName with
    ⟨⟨found, isFile⟩, hFound, rfl⟩
  rcases List.find?_eq_some_iff_append.mp hFound with
    ⟨hHolds, before, after, hSplit, hBefore⟩
  have hEntry : IsDescriptor extension (found, isFile) :=
    isDescriptor_iff.mpr hHolds
  obtain ⟨rfl, hEnds⟩ := hEntry
  refine ⟨before, after, hSplit, ?_, hEnds⟩
  intro entry hEntry hDescriptor
  have hMiss := hBefore entry hEntry
  rw [Bool.not_eq_true'] at hMiss
  exact
    Bool.false_ne_true
      (hMiss.symm.trans (isDescriptor_iff.mp hDescriptor))

end Search

------------------------------------------------------------
-- Searching
------------------------------------------------------------

/-
  By induction on the directories: the first of them ends
  the search, or is passed.
-/
theorem answers_searchAlong
    (list : Path → Option Listing)
    (extension : Text)
    (directories : List Path) :
    Answers list extension directories
      (searchAlong list extension directories) := by
  induction directories with
  | nil => exact .nowhere nofun
  | cons directory above ih =>
      rw [searchAlong]
      cases hList : list directory with
      | none => exact .refused [] rfl nofun hList
      | some listing =>
          cases hName : descriptorIn? extension listing with
          | some name =>
              rcases descriptorIn?_eq_some hName with
                ⟨before, after, rfl, hBefore, hEnds⟩
              dsimp only
              rw [hName]
              exact
                .found [] rfl nofun hList hBefore
                  hEnds
          | none =>
              dsimp only
              rw [hName]
              exact
                ih.cons
                  ⟨listing, hList, descriptorIn?_eq_none hName⟩

/-
  The search lists the directories from that of the file
  upwards, no more than the depth bound and none twice, and
  stops at the first that cannot be listed, where it finds
  nothing, or that holds a descriptor, which it finds.
-/
theorem search_answers
    (list : Path → Option Listing)
    (extension : Text)
    (depth : Nat)
    (file : Path) :
    ∃ directories,
      IsAscent file.parent directories ∧
        Answers list extension (directories.take depth)
            (search list extension depth file) ∧
          (search list extension depth file).2.Nodup := by
  let deeper := depth + file.parent.names.length + 1
  have hAscent :
      IsAscent file.parent (chain file.parent deeper) :=
    isAscent_chain (by omega)
  have hAnswer :
      Answers list extension
        ((chain file.parent deeper).take depth)
        (search list extension depth file) := by
    rw [take_chain file.parent (by omega), search]
    exact answers_searchAlong list extension _
  refine ⟨chain file.parent deeper, hAscent, hAnswer, ?_⟩
  have hListed := hAnswer.listed_prefix.sublist
  have hTaken := List.take_sublist depth
    (chain file.parent deeper)
  exact hAscent.nodup.sublist (hListed.trans hTaken)

end Project

end RouteAtlas
