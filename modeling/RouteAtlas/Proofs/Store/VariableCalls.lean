import Mathlib
import RouteAtlas.Proofs.Store.Variables

/-
  A store of variables at work.

  Whatever a store was called for, and whatever its file held
  before, a fresh store loads the variables that it knows, in
  their order, and shows every route as it does.

  Keys and values are texts without surrogates; how a file
  that escapes a lone one is read differs, as said at
  `StateFile`.

  Main statements:
    * `loaded_step`
    * `areDistinct_run`
    * `loaded_run_and_replaced`
-/

------------------------------------------------------------
-- Stores
------------------------------------------------------------

namespace RouteAtlas

/- The variables that a store knows, and the disk. -/
structure VariableStore where
  values : Variables
  disk : Disk

namespace VariableStore

/- A store that has not loaded anything yet. -/
def fresh
    (disk : Disk) :
    VariableStore :=
  ⟨[], disk⟩

/- What a store can be called for. -/
inductive Call where
  | load
  | assign (key value : Text)
  | withdraw (key : Text)
deriving DecidableEq, Repr

/-
  The variables that a store knows after it loaded.  It
  forgets all others first, so it knows none if loading
  breaks down.
-/
def loaded
    (workspace : Path)
    (disk : Disk) :
    Variables :=
  (Variables.load disk workspace).toOption.getD []

/- The store after a call, unless it could not save. -/
def step
    (workspace : Path)
    (store : VariableStore) :
    Call → Except Failure VariableStore
  | .load =>
      .ok ⟨loaded workspace store.disk, store.disk⟩
  | .assign key value =>
      let (values, saved) :=
        store.values.assign workspace key value store.disk
      saved.map fun disk => ⟨values, disk⟩
  | .withdraw key =>
      let (values, saved) :=
        store.values.withdraw workspace key store.disk
      saved.map fun (_, disk) => ⟨values, disk⟩

/- The store after some calls, unless it could not save. -/
def run
    (workspace : Path)
    (calls : List Call)
    (store : VariableStore) :
    Except Failure VariableStore :=
  calls.foldlM (step workspace) store

------------------------------------------------------------
-- One Call
------------------------------------------------------------

section Step

variable {workspace : Path}
variable {store after : VariableStore}

/- A call that changes variables saves those it leaves. -/
theorem save_of_step
    {call : Call}
    (hChange : call ≠ .load)
    (hDistinct : store.values.AreDistinct)
    (hStep : step workspace store call = .ok after) :
    after.values.AreDistinct ∧
      after.values.save workspace store.disk =
        .ok after.disk := by
  cases call with
  | load => exact absurd rfl hChange
  | assign key value =>
      rcases exists_of_map_eq_ok hStep with
        ⟨disk, hSaved, hAfter⟩
      rw [← hAfter]
      exact ⟨hDistinct.set key value, hSaved⟩
  | withdraw key =>
      rcases exists_of_map_eq_ok hStep with
        ⟨⟨known, disk⟩, hWithdrawn, hAfter⟩
      rcases exists_of_map_eq_ok hWithdrawn with
        ⟨disk', hSaved, hSame⟩
      cases hSame
      rw [← hAfter]
      exact ⟨hDistinct.remove key, hSaved⟩

theorem areDistinct_loaded
    (workspace : Path)
    (disk : Disk) :
    (loaded workspace disk).AreDistinct := by
  unfold loaded
  cases hLoaded : Variables.load disk workspace with
  | error cause => exact Variables.areDistinct_nil
  | ok values => exact Variables.areDistinct_load hLoaded

/- After a call a fresh store loads what the store knows. -/
theorem loaded_step
    {call : Call}
    (hDistinct : store.values.AreDistinct)
    (hStep : step workspace store call = .ok after) :
    after.values.AreDistinct ∧
      loaded workspace after.disk = after.values := by
  by_cases hLoad : call = .load
  · subst hLoad
    rw [step, Except.ok.injEq] at hStep
    rw [← hStep]
    exact ⟨areDistinct_loaded workspace store.disk, rfl⟩
  · rcases save_of_step hLoad hDistinct hStep with
      ⟨hDistinct', hSaved⟩
    refine ⟨hDistinct', ?_⟩
    unfold loaded
    rw [Variables.load_save hDistinct' hSaved]
    rfl

end Step

------------------------------------------------------------
-- Many Calls
------------------------------------------------------------

section Run

variable {workspace : Path}

/- Whatever a store was called for, no key stands twice. -/
theorem areDistinct_run
    {calls : List Call}
    {store after : VariableStore}
    (hDistinct : store.values.AreDistinct)
    (hRun : run workspace calls store = .ok after) :
    after.values.AreDistinct := by
  refine holds_of_foldlM_eq_ok (·.values.AreDistinct)
    ?_ hDistinct hRun
  intro before call next hBefore hStep
  exact (loaded_step hBefore hStep).1

/-
  After each call that did not fail, whatever was on the disk
  before, a fresh store loads what the store knows, and so it
  shows all routes alike.  After a change it loads without a
  breakdown.
-/
theorem loaded_run_and_replaced
    (disk : Disk)
    (calls : List Call)
    (last : Call)
    (after : VariableStore)
    (hRun :
      run workspace (calls ++ [last]) (.fresh disk) =
        .ok after) :
    loaded workspace after.disk = after.values ∧
      (∀ route,
        (loaded workspace after.disk).replace route =
          after.values.replace route) ∧
      (last ≠ .load →
        Variables.load after.disk workspace =
          .ok after.values) := by
  rcases exists_of_foldlM_append_eq_ok hRun with
    ⟨store, hCalls, hStep⟩
  have hDistinct : store.values.AreDistinct :=
    areDistinct_run Variables.areDistinct_nil hCalls
  have hLoaded := (loaded_step hDistinct hStep).2
  refine ⟨hLoaded, fun route => by rw [hLoaded], ?_⟩
  intro hChange
  rcases save_of_step hChange hDistinct hStep with
    ⟨hDistinct', hSaved⟩
  exact Variables.load_save hDistinct' hSaved

/- A document with values of all kinds, and a key twice. -/
def foreignDocument : Json :=
  .object
    [("b".toList, .integer 1),
     ("a".toList, .array [.bool true, .string "x".toList]),
     ("".toList, .null),
     ("b".toList, .string "2".toList)]

/- A workspace with this document for its variables. -/
def foreignDisk : Disk where
  root :=
    .directory
      [("w".toList, .directory
        [(".apinav".toList, .directory
          [("variables.json".toList,
            .file (Utf8.encode foreignDocument.oneLine))])])]
  here := ⟨['/'], []⟩
  denied := []

/- What is taken away and set again comes last. -/
theorem foreignDisk_loaded :
    ∃ after,
      run ⟨['/'], ["w".toList]⟩
          ([.load, .withdraw "a".toList] ++
            [.assign "a".toList "\uFEFF\"\\\r\n".toList])
          (.fresh foreignDisk) =
        .ok after ∧
      after.values =
        [("b".toList, "2".toList),
         ("".toList, "None".toList),
         ("a".toList, "\uFEFF\"\\\r\n".toList)] ∧
      Variables.load after.disk ⟨['/'], ["w".toList]⟩ =
        .ok after.values := by
  have hRuns :
      (run ⟨['/'], ["w".toList]⟩
          ([.load, .withdraw "a".toList] ++
            [.assign "a".toList "\uFEFF\"\\\r\n".toList])
          (.fresh foreignDisk)).toOption.map (·.values) =
        some
          [("b".toList, "2".toList),
           ("".toList, "None".toList),
           ("a".toList, "\uFEFF\"\\\r\n".toList)] := by
    decide +kernel
  generalize hRun :
    run ⟨['/'], ["w".toList]⟩
        ([.load, .withdraw "a".toList] ++
          [.assign "a".toList "\uFEFF\"\\\r\n".toList])
        (.fresh foreignDisk) =
      result at hRuns
  cases result with
  | error failure => cases hRuns
  | ok after =>
      have hAfter :=
        loaded_run_and_replaced foreignDisk
          [.load, .withdraw "a".toList]
          (.assign "a".toList "\uFEFF\"\\\r\n".toList)
          after hRun
      exact
        ⟨after, rfl, Option.some.inj hRuns,
          hAfter.2.2 nofun⟩

end Run

end VariableStore

end RouteAtlas
