import Mathlib
import RouteAtlas.Proofs.Store.Aliases

/-
  A store of aliases at work.

  A store is the aliases that it knows and the disk that it
  saves them on.  After any calls that could save, a fresh
  store loads what the store knows; and after a change,
  loading and saving again leaves the disk as it is.

  Routes, verbs and aliases are texts without surrogates; how
  a file that escapes a lone one is read differs, as said at
  `StateFile`.

  Main statements:
    * `save_of_step`
    * `loaded_step`
    * `wellFormed_run`
    * `loaded_run_and_resaves`
-/

------------------------------------------------------------
-- Stores
------------------------------------------------------------

namespace RouteAtlas

/- The aliases that a store knows, and the disk. -/
structure AliasStore where
  aliases : Aliases
  disk : Disk

namespace AliasStore

/- A store that has not loaded anything yet. -/
def fresh
    (disk : Disk) :
    AliasStore :=
  ⟨[], disk⟩

/- What a store can be called for. -/
inductive Call where
  | load
  | assign (route verb aliasName : Text)
  | withdraw (route verb : Text)
deriving DecidableEq, Repr

/-
  The aliases that a store knows after it loaded.  It forgets
  all others first, so it knows none if loading breaks down.
-/
def loaded
    (workspace : Path)
    (disk : Disk) :
    Aliases :=
  (Aliases.load disk workspace).toOption.getD []

/- The store after a call, unless it could not save. -/
def step
    (workspace : Path)
    (store : AliasStore) :
    Call → Except Failure AliasStore
  | .load =>
      .ok ⟨loaded workspace store.disk, store.disk⟩
  | .assign route verb aliasName =>
      let (aliases, saved) :=
        store.aliases.assign workspace route verb aliasName
          store.disk
      saved.map fun disk => ⟨aliases, disk⟩
  | .withdraw route verb =>
      let (aliases, saved) :=
        store.aliases.withdraw workspace route verb store.disk
      saved.map fun (_, disk) => ⟨aliases, disk⟩

/- The store after some calls, unless it could not save. -/
def run
    (workspace : Path)
    (calls : List Call)
    (store : AliasStore) :
    Except Failure AliasStore :=
  calls.foldlM (step workspace) store

/- The disk after a fresh store loaded and saved again. -/
def resave
    (workspace : Path)
    (disk : Disk) :
    Except Failure Disk := do
  let aliases ←
    (Aliases.load disk workspace).mapError .broken
  aliases.save workspace disk

/- The disk after some fresh stores did so in turn. -/
def resaves
    (workspace : Path) :
    Nat → Disk → Except Failure Disk
  | 0, disk => .ok disk
  | count + 1, disk => do
      resaves workspace count (← resave workspace disk)

------------------------------------------------------------
-- One Call
------------------------------------------------------------

section Step

variable {workspace : Path}
variable {store after : AliasStore}

/- A call that changes aliases saves those it leaves. -/
theorem save_of_step
    {call : Call}
    (hChange : call ≠ .load)
    (hFormed : store.aliases.WellFormed)
    (hStep : step workspace store call = .ok after) :
    after.aliases.WellFormed ∧
      after.aliases.save workspace store.disk =
        .ok after.disk := by
  cases call with
  | load => exact absurd rfl hChange
  | assign route verb aliasName =>
      rcases exists_of_map_eq_ok hStep with
        ⟨disk, hSaved, hAfter⟩
      rw [← hAfter]
      exact ⟨hFormed.set route verb aliasName, hSaved⟩
  | withdraw route verb =>
      rcases exists_of_map_eq_ok hStep with
        ⟨⟨known, disk⟩, hWithdrawn, hAfter⟩
      rcases exists_of_map_eq_ok hWithdrawn with
        ⟨disk', hSaved, hSame⟩
      cases hSame
      rw [← hAfter]
      exact ⟨hFormed.clear route verb, hSaved⟩

theorem wellFormed_loaded
    (workspace : Path)
    (disk : Disk) :
    (loaded workspace disk).WellFormed := by
  unfold loaded
  cases hLoaded : Aliases.load disk workspace with
  | error cause => exact Aliases.wellFormed_nil
  | ok aliases => exact Aliases.wellFormed_load hLoaded

/- After a call a fresh store loads what the store knows. -/
theorem loaded_step
    {call : Call}
    (hFormed : store.aliases.WellFormed)
    (hStep : step workspace store call = .ok after) :
    after.aliases.WellFormed ∧
      loaded workspace after.disk = after.aliases := by
  by_cases hLoad : call = .load
  · subst hLoad
    rw [step, Except.ok.injEq] at hStep
    rw [← hStep]
    exact ⟨wellFormed_loaded workspace store.disk, rfl⟩
  · rcases save_of_step hLoad hFormed hStep with
      ⟨hFormed', hSaved⟩
    refine ⟨hFormed', ?_⟩
    unfold loaded
    rw [Aliases.load_save hFormed' hSaved]
    rfl

end Step

------------------------------------------------------------
-- Many Calls
------------------------------------------------------------

section Run

variable {workspace : Path}

/- Whatever a store was called for, its keys are proper. -/
theorem wellFormed_run
    {calls : List Call}
    {store after : AliasStore}
    (hFormed : store.aliases.WellFormed)
    (hRun : run workspace calls store = .ok after) :
    after.aliases.WellFormed := by
  refine holds_of_foldlM_eq_ok (·.aliases.WellFormed)
    ?_ hFormed hRun
  intro before call next hBefore hStep
  exact (loaded_step hBefore hStep).1

/-
  Saving aliases that are on the disk already changes
  nothing, so by induction on their number no store that
  loads and saves changes the disk.
-/
theorem resaves_eq
    {aliases : Aliases}
    {disk : Disk}
    (hLoaded : Aliases.load disk workspace = .ok aliases)
    (hSaved : aliases.save workspace disk = .ok disk)
    (count : Nat) :
    resaves workspace count disk = .ok disk := by
  have hResave : resave workspace disk = .ok disk := by
    unfold resave
    rw [hLoaded]
    exact hSaved
  induction count with
  | zero => rfl
  | succ count ih =>
      rw [resaves, hResave]
      exact ih

/-
  After each call that did not fail, whatever was on the disk
  before, a fresh store loads what the store knows.  After a
  change it also loads without a breakdown, and no store that
  loads and saves again changes the disk.
-/
theorem loaded_run_and_resaves
    (disk : Disk)
    (calls : List Call)
    (last : Call)
    (after : AliasStore)
    (hRun :
      run workspace (calls ++ [last]) (.fresh disk) =
        .ok after) :
    loaded workspace after.disk = after.aliases ∧
      (last ≠ .load →
        Aliases.load after.disk workspace =
            .ok after.aliases ∧
          ∀ count,
            resaves workspace count after.disk =
              .ok after.disk) := by
  rcases exists_of_foldlM_append_eq_ok hRun with
    ⟨store, hCalls, hStep⟩
  have hFormed : store.aliases.WellFormed :=
    wellFormed_run Aliases.wellFormed_nil hCalls
  refine ⟨(loaded_step hFormed hStep).2, ?_⟩
  intro hChange
  rcases save_of_step hChange hFormed hStep with
    ⟨hFormed', hSaved⟩
  have hLoaded := Aliases.load_save hFormed' hSaved
  refine ⟨hLoaded, ?_⟩
  intro count
  exact resaves_eq hLoaded (Aliases.save_same hSaved) count

/- A document that gives one route two aliases. -/
def crowdedDocument : Json :=
  .array
    [.object
      [("route".toList, .string "/A".toList),
       ("http_verb".toList, .string "GET:x".toList),
       ("alias".toList, .string "old".toList)],
     .object
      [("Route".toList, .string "/a".toList),
       ("HttpVerb".toList, .string "get:X".toList),
       ("Alias".toList, .string "new".toList)]]

/- A workspace with this document for its aliases. -/
def crowdedDisk : Disk where
  root :=
    .directory
      [("w".toList, .directory
        [(".apinav".toList, .directory
          [("aliases.json".toList,
            .file (Utf8.encode crowdedDocument.oneLine))])])]
  here := ⟨['/'], []⟩
  denied := []

/- Verbs may hold colons, and names may hold line ends. -/
theorem crowdedDisk_loaded_and_resaves :
    ∃ after,
      run ⟨['/'], ["w".toList]⟩
          ([.load, .withdraw "/b".toList "GET".toList] ++
            [.assign "İΣ:/".toList "Get:".toList
              "\r\n".toList])
          (.fresh crowdedDisk) =
        .ok after ∧
      after.aliases.length = 2 ∧
      loaded ⟨['/'], ["w".toList]⟩ after.disk =
        after.aliases ∧
      resaves ⟨['/'], ["w".toList]⟩ 3 after.disk =
        .ok after.disk := by
  have hRuns :
      (run ⟨['/'], ["w".toList]⟩
          ([.load, .withdraw "/b".toList "GET".toList] ++
            [.assign "İΣ:/".toList "Get:".toList
              "\r\n".toList])
          (.fresh crowdedDisk)).toOption.map
        (·.aliases.length) =
        some 2 := by
    decide +kernel
  generalize hRun :
    run ⟨['/'], ["w".toList]⟩
        ([.load, .withdraw "/b".toList "GET".toList] ++
          [.assign "İΣ:/".toList "Get:".toList
            "\r\n".toList])
        (.fresh crowdedDisk) =
      result at hRuns
  cases result with
  | error failure => cases hRuns
  | ok after =>
      have hAfter :=
        loaded_run_and_resaves crowdedDisk
          [.load, .withdraw "/b".toList "GET".toList]
          (.assign "İΣ:/".toList "Get:".toList "\r\n".toList)
          after hRun
      exact
        ⟨after, rfl, Option.some.inj hRuns, hAfter.1,
          (hAfter.2 nofun).2 3⟩

end Run

end AliasStore

end RouteAtlas
