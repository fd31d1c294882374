import Mathlib
import RouteAtlas.Proofs.Pairs
import RouteAtlas.Store.Aliases
import RouteAtlas.Store.Variables

/-
  Changes that could not be saved.

  A store changes what it knows before it saves.  If its file
  cannot be written, the change is neither undone nor put
  off: the store knows what it would know had it saved, and
  answers as before only where there was nothing to change.

  Main statements:
    * `perform_of_unwritable`
    * `alike_applied_iff`
    * `unsaved_changes_stay`
-/

------------------------------------------------------------
-- Stores
------------------------------------------------------------

namespace RouteAtlas

/- What the two stores of a workspace know. -/
structure Stores where
  aliases : Aliases
  values : Variables
deriving DecidableEq, Repr

/- Whether two pairs of stores answer every question alike. -/
structure Stores.Alike
    (stores others : Stores) :
    Prop where
  aliasName :
    ∀ route verb,
      stores.aliases.get? route verb =
        others.aliases.get? route verb
  known :
    ∀ route verb,
      (stores.aliases.get? route verb).isSome =
        (others.aliases.get? route verb).isSome
  entries : stores.aliases.entries = others.aliases.entries
  values : stores.values = others.values
  replaced :
    ∀ route,
      stores.values.replace route =
        others.values.replace route

theorem Stores.Alike.refl
    (stores : Stores) :
    stores.Alike stores :=
  ⟨fun _ _ => rfl, fun _ _ => rfl, rfl, rfl, fun _ => rfl⟩

------------------------------------------------------------
-- Changes
------------------------------------------------------------

/- A change of one of the stores that is saved at once. -/
inductive StoreChange where
  | nameRoute (route verb aliasName : Text)
  | unnameRoute (route verb : Text)
  | setVariable (key value : Text)
  | removeVariable (key : Text)
  | ensureVariables
deriving DecidableEq, Repr

namespace StoreChange

/- The stores after a change, and the disk if it was saved. -/
def perform
    (workspace : Path)
    (stores : Stores)
    (disk : Disk) :
    StoreChange → Stores × Except Failure Disk
  | .nameRoute route verb aliasName =>
      let (aliases, saved) :=
        stores.aliases.assign workspace route verb aliasName
          disk
      ({ stores with aliases }, saved)
  | .unnameRoute route verb =>
      let (aliases, saved) :=
        stores.aliases.withdraw workspace route verb disk
      ({ stores with aliases }, saved.map (·.2))
  | .setVariable key value =>
      let (values, saved) :=
        stores.values.assign workspace key value disk
      ({ stores with values }, saved)
  | .removeVariable key =>
      let (values, saved) :=
        stores.values.withdraw workspace key disk
      ({ stores with values }, saved.map (·.2))
  | .ensureVariables =>
      let (values, saved) :=
        stores.values.ensureFile workspace disk
      ({ stores with values }, saved.map (·.2))

/- What the stores know once a change was made. -/
def applied
    (stores : Stores) :
    StoreChange → Stores
  | .nameRoute route verb aliasName =>
      { stores with
        aliases := stores.aliases.set route verb aliasName }
  | .unnameRoute route verb =>
      { stores with
        aliases := stores.aliases.clear route verb }
  | .setVariable key value =>
      { stores with values := stores.values.set key value }
  | .removeVariable key =>
      { stores with values := stores.values.remove key }
  | .ensureVariables =>
      { stores with values := Variables.template }

/-
  Whether a change finds things as it leaves them: the same
  name or value, none to take away, or the bare template.
-/
def IsIdle
    (stores : Stores) :
    StoreChange → Prop
  | .nameRoute route verb aliasName =>
      stores.aliases.get? route verb = some aliasName
  | .unnameRoute route verb =>
      stores.aliases.get? route verb = none
  | .setVariable key value =>
      Pairs.get? key stores.values = some value
  | .removeVariable key =>
      Pairs.get? key stores.values = none
  | .ensureVariables =>
      stores.values = Variables.template

------------------------------------------------------------
-- Changes That Change Nothing
------------------------------------------------------------

/- An idle change leaves the stores as they are. -/
theorem applied_of_isIdle
    {stores : Stores}
    {change : StoreChange}
    (hIdle : change.IsIdle stores) :
    change.applied stores = stores := by
  cases change with
  | nameRoute route verb aliasName =>
      unfold applied Aliases.set
      simp only
      rw [Pairs.put_of_get? hIdle]
  | unnameRoute route verb =>
      unfold applied Aliases.clear
      simp only
      rw [Pairs.erase_of_get? hIdle]
  | setVariable key value =>
      unfold applied Variables.set
      simp only
      rw [Pairs.put_of_get? hIdle]
  | removeVariable key =>
      unfold applied Variables.remove
      simp only
      rw [Pairs.erase_of_get? hIdle]
  | ensureVariables =>
      unfold applied
      simp only
      rw [← hIdle]

/- Any other change shows in some answer. -/
theorem isIdle_of_alike
    {stores : Stores}
    {change : StoreChange}
    (hAlike : (change.applied stores).Alike stores) :
    change.IsIdle stores := by
  cases change with
  | nameRoute route verb aliasName =>
      have hName := hAlike.aliasName route verb
      unfold applied Aliases.set Aliases.get? at hName
      simp only [Pairs.get?_put, beq_self_eq_true, if_true]
        at hName
      exact hName.symm
  | unnameRoute route verb =>
      have hName := hAlike.aliasName route verb
      unfold applied Aliases.clear Aliases.get? at hName
      simp only [Pairs.get?_erase, beq_self_eq_true, if_true]
        at hName
      exact hName.symm
  | setVariable key value =>
      have hValue := congrArg (Pairs.get? key) hAlike.values
      unfold applied Variables.set at hValue
      simp only [Pairs.get?_put, beq_self_eq_true, if_true]
        at hValue
      exact hValue.symm
  | removeVariable key =>
      have hValue := congrArg (Pairs.get? key) hAlike.values
      unfold applied Variables.remove at hValue
      simp only [Pairs.get?_erase, beq_self_eq_true, if_true]
        at hValue
      exact hValue.symm
  | ensureVariables => exact hAlike.values.symm

theorem alike_applied_iff
    (stores : Stores)
    (change : StoreChange) :
    (change.applied stores).Alike stores ↔
      change.IsIdle stores := by
  constructor
  · exact isIdle_of_alike
  · intro hIdle
    rw [applied_of_isIdle hIdle]
    exact .refl stores

------------------------------------------------------------
-- Changes That Were Not Saved
------------------------------------------------------------

section Unsaved

variable {workspace : Path}
variable {stores : Stores}
variable {disk : Disk}
variable {path : Text}
variable {fault : FileFault}

/- A change that could not be written was made. -/
theorem perform_of_unwritable
    {change : StoreChange}
    (hFailed :
      (change.perform workspace stores disk).2 =
        .error (.unwritable path fault)) :
    (change.perform workspace stores disk).1 =
      change.applied stores := by
  cases change with
  | nameRoute route verb aliasName => rfl
  | unnameRoute route verb => rfl
  | setVariable key value => rfl
  | removeVariable key => rfl
  | ensureVariables =>
      unfold perform Variables.ensureFile at hFailed ⊢
      -- Only where there is no file yet is one written.
      cases hExists : Variables.fileExists disk workspace with
      | error cause =>
          rw [hExists] at hFailed
          cases hFailed
      | ok found =>
          rw [hExists] at hFailed
          cases found with
          | true => cases hFailed
          | false => rfl

/-
  A change whose file cannot be written stays: the stores
  know what the change makes of them, and they answer every
  question as before just where there was nothing to change.
-/
theorem unsaved_changes_stay
    (change : StoreChange)
    (hFailed :
      (change.perform workspace stores disk).2 =
        .error (.unwritable path fault)) :
    (change.perform workspace stores disk).1 =
        change.applied stores ∧
      ((change.perform workspace stores disk).1.Alike stores ↔
        change.IsIdle stores) := by
  rw [perform_of_unwritable hFailed]
  exact ⟨rfl, alike_applied_iff stores change⟩

end Unsaved

/- A workspace with a file where its state directory goes. -/
def occupiedDisk : Disk where
  root :=
    .directory
      [("w".toList, .directory
        [(".apinav".toList, .file [])])]
  here := ⟨['/'], []⟩
  denied := []

/- Stores that know one name and one value. -/
def oneOfEach : Stores where
  aliases := Aliases.set "/a".toList "GET".toList "A".toList []
  values := Variables.set "v".toList "1".toList []

/- What is told when a file of this workspace is written. -/
def occupied
    (name : Text) :
    Failure :=
  .unwritable ("/w/.apinav/".toList ++ name)
    (.fileExists "/w/.apinav".toList)

/- A variable that cannot be saved has its new value. -/
theorem unsavedValue_stays :
    ((StoreChange.setVariable "v".toList "2".toList).perform
        ⟨['/'], ["w".toList]⟩ oneOfEach occupiedDisk).2 =
      .error (occupied Variables.fileName) ∧
      ((StoreChange.setVariable "v".toList "2".toList).perform
        ⟨['/'], ["w".toList]⟩ oneOfEach occupiedDisk).1 =
          ⟨oneOfEach.aliases, [("v".toList, "2".toList)]⟩ :=
  ⟨rfl,
    (unsaved_changes_stay
      (.setVariable "v".toList "2".toList) rfl).1⟩

/- A name that cannot be saved is given all the same. -/
theorem unsavedName_differs :
    ((StoreChange.nameRoute "/a".toList "GET".toList
        "B".toList).perform
      ⟨['/'], ["w".toList]⟩ oneOfEach occupiedDisk).2 =
      .error (occupied Aliases.fileName) ∧
      ¬((StoreChange.nameRoute "/a".toList "GET".toList
          "B".toList).perform
        ⟨['/'], ["w".toList]⟩ oneOfEach occupiedDisk).1.Alike
          oneOfEach := by
  refine ⟨rfl, ?_⟩
  intro hAlike
  have hName := hAlike.aliasName "/a".toList "GET".toList
  exact absurd hName (by decide +kernel)

end StoreChange

end RouteAtlas
