import Mathlib
import RouteAtlas.Proofs.Project.Coherence
import RouteAtlas.Workspace.Scan

/-
  What look-ups leave behind.

  A look-up that answers remembers its answer.  The next one
  for the same key gives it again, in whatever world, and
  changes nothing.  A look-up for another key is not
  affected.

  Every descriptor that a resolver remembers has a spelled
  path, because look-ups only find such, and because notices
  only make it forget.

  Main statements:
    * `get?_descriptor`
    * `get?_baseUrl`
    * `answer_descriptor_descriptor`
    * `Reachable.knowsSpelled`
-/

------------------------------------------------------------
-- Look-ups Taken Apart
------------------------------------------------------------

namespace RouteAtlas

namespace Resolver

variable {α β : Type}
variable {world : World}
variable {resolver : Resolver}

/- A look-up that answers goes on with its answer. -/
theorem Lookup.andThen_of_ok
    {lookup : Lookup α}
    {a : α}
    (hAnswer : lookup.1 = .ok a)
    (next : α → Resolver → Lookup β) :
    lookup.andThen next = next a lookup.2 := by
  rcases lookup with ⟨answer, resolver⟩
  dsimp only at hAnswer
  rw [hAnswer, Lookup.andThen]

/- Both parts of a look-up that did not break down. -/
theorem Lookup.exists_of_andThen_eq_ok
    {lookup : Lookup α}
    {next : α → Resolver → Lookup β}
    {b : β}
    (hBoth : (lookup.andThen next).1 = .ok b) :
    ∃ a,
      lookup.1 = .ok a ∧
        lookup.andThen next = next a lookup.2 := by
  rcases lookup with ⟨answer, resolver⟩
  cases answer with
  | error cause => cases hBoth
  | ok a => exact ⟨a, rfl, rfl⟩

/- What every part of a look-up keeps is kept by it. -/
theorem Lookup.andThen_keeps
    {holds : Resolver → Prop}
    {lookup : Lookup α}
    {next : α → Resolver → Lookup β}
    (hLookup : holds lookup.2)
    (hNext :
      ∀ a resolver,
        holds resolver → holds (next a resolver).2) :
    holds (lookup.andThen next).2 := by
  rcases lookup with ⟨answer, resolver⟩
  cases answer with
  | error cause => exact hLookup
  | ok a => exact hNext a resolver hLookup

------------------------------------------------------------
-- Descriptors
------------------------------------------------------------

/- What is answered is remembered. -/
theorem get?_descriptor
    {file : Text}
    {found : Option Path}
    (hFound :
      (resolver.descriptor world file).1 = .ok found) :
    Pairs.get? file
        (resolver.descriptor world file).2.descriptors =
      some found :=
  Memo.get?_lookUp hFound

/- A look-up asks a world only where descriptors lie. -/
theorem descriptor_of_locate
    {world' : World}
    (hLocate : world'.locate = world.locate)
    (file : Text)
    (resolver : Resolver) :
    resolver.descriptor world' file =
      resolver.descriptor world file := by
  unfold descriptor
  rw [hLocate]

/- A look-up changes the answer of no other look-up. -/
theorem answer_descriptor_descriptor
    (file other : Text) :
    ((resolver.descriptor world file).2.descriptor world
        other).1 =
      (resolver.descriptor world other).1 :=
  Memo.result_lookUp_lookUp file other

------------------------------------------------------------
-- Base URLs
------------------------------------------------------------

theorem get?_baseUrl
    {project : Path}
    {found : Option Text}
    (hFound :
      (resolver.baseUrl world project).1 = .ok found) :
    Pairs.get? project.text
        (resolver.baseUrl world project).2.baseUrls =
      some found :=
  Memo.get?_lookUp hFound

/- Reading launch settings locates no descriptor. -/
theorem descriptors_baseUrl
    (project : Path) :
    (resolver.baseUrl world project).2.descriptors =
      resolver.descriptors :=
  descriptors_notingIf _ _

/- The base URL of a file whose descriptor is known. -/
theorem baseUrlOfFile_of_known
    {file : Text}
    {found : Option Path}
    (hKnown :
      Pairs.get? file resolver.descriptors = some found) :
    resolver.baseUrlOfFile world file =
      match found with
      | none => (.ok none, resolver)
      | some path => resolver.baseUrl world path.parent := by
  unfold baseUrlOfFile directory
  rw [descriptor_of_known hKnown]
  cases found with
  | none => rfl
  | some path => rfl

end Resolver

------------------------------------------------------------
-- Spelled Descriptors
------------------------------------------------------------

/- Whether every descriptor that is found is spelled. -/
def World.SpellsPaths
    (world : World) :
    Prop :=
  ∀ file path,
    world.locate file = .ok (some path) → path.IsSpelled

theorem Files.spellsPaths_world
    (files : Files) :
    files.world.SpellsPaths :=
  fun _ _ hLocate => files.isSpelled_of_locate hLocate

theorem Path.IsSpelled.join
    {directory path : Path}
    (hDirectory : directory.IsSpelled)
    (hPath : path.IsSpelled) :
    (directory.join path).IsSpelled := by
  unfold Path.join
  split
  · exact hPath
  · refine ⟨hDirectory.root, ?_⟩
    intro name hName
    rcases List.mem_append.mp hName with hFront | hBack
    · exact hDirectory.names name hFront
    · exact hPath.names name hBack

/- The directories above a spelled one are spelled. -/
theorem Project.isSpelled_of_mem_chain
    {depth : Nat}
    {directory other : Path}
    (hDirectory : directory.IsSpelled)
    (hOther : other ∈ chain directory depth) :
    other.IsSpelled := by
  induction depth generalizing directory with
  | zero => cases hOther
  | succ depth ih =>
      rw [chain] at hOther
      split at hOther
      · rw [List.mem_singleton.mp hOther]
        exact hDirectory
      · rcases List.mem_cons.mp hOther with rfl | hAbove
        · exact hDirectory
        · exact ih hDirectory.parent hAbove

/- A descriptor is found under its name in a directory. -/
theorem Project.exists_of_searchAlong
    {list : Path → Option Listing}
    {extension : Text}
    {directories : List Path}
    {found : Path}
    (hFound :
      (searchAlong list extension directories).1 =
        some found) :
    ∃ directory ∈ directories, ∃ listing name,
      list directory = some listing ∧
        descriptorIn? extension listing = some name ∧
          found = directory.join (.ofText name) := by
  induction directories with
  | nil => cases hFound
  | cons directory above ih =>
      rw [searchAlong] at hFound
      cases hList : list directory with
      | none =>
          simp only [hList] at hFound
          cases hFound
      | some listing =>
          simp only [hList] at hFound
          cases hName : descriptorIn? extension listing with
          | some name =>
              simp only [hName] at hFound
              exact
                ⟨directory, List.mem_cons_self, listing, name,
                  hList, hName, (Option.some.inj hFound).symm⟩
          | none =>
              simp only [hName] at hFound
              rcases ih hFound with
                ⟨other, hOther, later, name, hFacts⟩
              exact
                ⟨other, List.mem_cons_of_mem _ hOther, later,
                  name, hFacts⟩

theorem Disk.spellsPaths_world
    (disk : Disk)
    (settings : Settings) :
    (disk.world settings).SpellsPaths := by
  intro file path hLocate
  change disk.locate settings file = .ok (some path) at hLocate
  unfold locate at hLocate
  dsimp only at hLocate
  split at hLocate
  · cases hLocate
  · rcases Project.exists_of_searchAlong
        (Except.ok.inj hLocate) with
      ⟨directory, hDirectory, _, name, -, -, rfl⟩
    have hFile := (Path.isSpelled_ofText file).parent
    exact
      (Project.isSpelled_of_mem_chain hFile
        hDirectory).join (Path.isSpelled_ofText name)

------------------------------------------------------------
-- Reachable Resolvers
------------------------------------------------------------

namespace Resolver

/-
  The resolvers that queries and notices lead to.  Files may
  change before each query, whether or not it is noticed.
-/
inductive Reachable :
    Resolver → Prop
  | fresh
      (launchSettings : Path) :
      Reachable (.fresh launchSettings)
  | asked
      {resolver : Resolver}
      {world : World}
      (hBefore : Reachable resolver)
      (hWorld : world.SpellsPaths)
      (query : Query) :
      Reachable (query.ask world resolver).2
  | told
      {resolver : Resolver}
      (hBefore : Reachable resolver)
      (notice : Notice) :
      Reachable (notice.apply resolver)

/- Whether every descriptor remembered is spelled. -/
def KnowsSpelled
    (resolver : Resolver) :
    Prop :=
  ∀ file path,
    Pairs.get? file resolver.descriptors =
      some (some path) → path.IsSpelled

section Steps

variable {world : World}
variable {resolver : Resolver}

/- A descriptor is remembered or was located. -/
theorem KnowsSpelled.descriptor
    (hKnows : resolver.KnowsSpelled)
    (hWorld : world.SpellsPaths)
    (file : Text) :
    (resolver.descriptor world file).2.KnowsSpelled := by
  intro other path hOther
  rcases Memo.known_or_computed hOther with
    hKnown | ⟨rfl, hLocate⟩
  · exact hKnows other path hKnown
  · exact hWorld other path hLocate

theorem isSpelled_of_descriptor
    (hKnows : resolver.KnowsSpelled)
    (hWorld : world.SpellsPaths)
    {file : Text}
    {path : Path}
    (hFound :
      (resolver.descriptor world file).1 =
        .ok (some path)) :
    path.IsSpelled :=
  hKnows.descriptor hWorld file file path
    (get?_descriptor hFound)

theorem KnowsSpelled.baseUrl
    (hKnows : resolver.KnowsSpelled)
    (project : Path) :
    (resolver.baseUrl world project).2.KnowsSpelled := by
  unfold KnowsSpelled
  rw [descriptors_baseUrl]
  exact hKnows

theorem KnowsSpelled.baseUrlOfFile
    (hKnows : resolver.KnowsSpelled)
    (hWorld : world.SpellsPaths)
    (file : Text) :
    (resolver.baseUrlOfFile world file).2.KnowsSpelled := by
  unfold Resolver.baseUrlOfFile
  refine Lookup.andThen_keeps ?_ ?_
  · exact hKnows.descriptor hWorld file
  · intro found next hNext
    cases found with
    | none => exact hNext
    | some project => exact hNext.baseUrl project

theorem KnowsSpelled.ask
    (hKnows : resolver.KnowsSpelled)
    (hWorld : world.SpellsPaths)
    (query : Query) :
    (query.ask world resolver).2.KnowsSpelled := by
  cases query with
  | descriptor file => exact hKnows.descriptor hWorld file
  | directory file => exact hKnows.descriptor hWorld file
  | baseUrl project => exact hKnows.baseUrl _
  | baseUrlOfFile file =>
      exact hKnows.baseUrlOfFile hWorld file
  | fullUrl descriptor route =>
      cases descriptor with
      | none => exact hKnows
      | some text =>
          cases text with
          | nil => exact hKnows
          | cons c rest => exact hKnows.baseUrl _

theorem KnowsSpelled.apply
    (hKnows : resolver.KnowsSpelled)
    (notice : Notice) :
    (notice.apply resolver).KnowsSpelled := by
  intro file path hKnown
  have hApply :
      (notice.apply resolver).descriptors = [] ∨
        (notice.apply resolver).descriptors =
          resolver.descriptors :=
    notice.descriptors_apply
  rcases hApply with hNone | hSame
  · rw [hNone] at hKnown
    cases hKnown
  · rw [hSame] at hKnown
    exact hKnows file path hKnown

end Steps

/- By induction on how the resolver was reached. -/
theorem Reachable.knowsSpelled
    {resolver : Resolver}
    (hReachable : resolver.Reachable) :
    resolver.KnowsSpelled := by
  induction hReachable with
  | fresh launchSettings =>
      intro file path hKnown
      cases hKnown
  | asked hBefore hWorld query ih => exact ih.ask hWorld query
  | told hBefore notice ih => exact ih.apply notice

end Resolver

end RouteAtlas
