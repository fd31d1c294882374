import Mathlib
import RouteAtlas.Proofs.Workspace.Listing

/-
  Scans of reordered trees.

  The entries of a directory come in no particular order.
  Trees that differ in such orders only hold the same at all
  places, so a scan cannot tell them apart: it finds the
  same files in the same order, the same routes, the same
  projects and the same names, or fails in the same way.

  Main statements:
    * `Reordered.sameAt`
    * `Reordered.agreesOn`
    * `scanAndName_of_reordered`
-/

------------------------------------------------------------
-- Reordered Trees
------------------------------------------------------------

namespace RouteAtlas

namespace Entry

/-
  Whether trees differ only in the orders in which their
  directories have their entries.
-/
inductive Reordered :
    Entry → Entry → Prop
  | unchanged
      (tree : Entry) :
      Reordered tree tree
  | listed
      {entries others : List (Text × Entry)}
      (hPerm : entries.Perm others) :
      Reordered (.directory entries) (.directory others)
  | within
      {child child' : Entry}
      (front : List (Text × Entry))
      (name : Text)
      (back : List (Text × Entry))
      (hChild : Reordered child child') :
      Reordered (.directory (front ++ (name, child) :: back))
        (.directory (front ++ (name, child') :: back))
  | next
      {first second third : Entry}
      (hFirst : Reordered first second)
      (hSecond : Reordered second third) :
      Reordered first third

/- A reordered directory has the same entries. -/
theorem get?_of_perm
    {entries others : List (Text × Entry)}
    (hDistinct : (entries.map (·.1)).Nodup)
    (hPerm : entries.Perm others)
    (name : Text) :
    Pairs.get? name entries = Pairs.get? name others := by
  have hDistinct' : (others.map (·.1)).Nodup :=
    (hPerm.map _).nodup_iff.mp hDistinct
  ext child
  rw [Pairs.get?_eq_some_iff hDistinct,
    Pairs.get?_eq_some_iff hDistinct', hPerm.mem_iff]

theorem isWellFormed_of_perm
    {entries others : List (Text × Entry)}
    (hPerm : entries.Perm others)
    (hEntries : (directory entries).isWellFormed = true) :
    (directory others).isWellFormed = true := by
  rw [isWellFormed, areWellFormed_iff] at hEntries ⊢
  refine ⟨(hPerm.map _).nodup_iff.mp hEntries.1, ?_⟩
  intro pair hPair
  exact hEntries.2 pair (hPerm.mem_iff.mpr hPair)

section Within

variable {front back : List (Text × Entry)}
variable {name : Text}
variable {child child' : Entry}

/- The entry of the name is changed, and no other one. -/
theorem get?_within
    (hDistinct :
      ((front ++ (name, child) :: back).map (·.1)).Nodup)
    (other : Text) :
    Pairs.get? other (front ++ (name, child') :: back) =
      if name == other then some child'
      else
        Pairs.get? other (front ++ (name, child) :: back) := by
  have hDistinct' :
      ((front ++ (name, child') :: back).map
        (·.1)).Nodup := by
    simpa only [List.map_append, List.map_cons]
      using hDistinct
  by_cases hSame : name = other
  · subst hSame
    rw [if_pos (beq_self_eq_true name),
      Pairs.get?_eq_some_iff hDistinct']
    exact List.mem_append_right _ List.mem_cons_self
  · rw [if_neg (mt beq_iff_eq.mp hSame)]
    ext entry
    rw [Pairs.get?_eq_some_iff hDistinct,
      Pairs.get?_eq_some_iff hDistinct']
    simp [Ne.symm hSame]

theorem isWellFormed_within
    (hChild :
      child.isWellFormed = true →
        child'.isWellFormed = true)
    (hTree :
      (directory
        (front ++ (name, child) :: back)).isWellFormed =
          true) :
    (directory
      (front ++ (name, child') :: back)).isWellFormed =
        true := by
  rw [isWellFormed, areWellFormed_iff,
    List.forall_mem_append, List.forall_mem_cons] at hTree ⊢
  rcases hTree with ⟨hDistinct, hFront, hName, hBack⟩
  refine
    ⟨?_, hFront, ⟨hName.1, hChild hName.2⟩, hBack⟩
  simpa only [List.map_append, List.map_cons] using hDistinct

end Within

/- Reordering does not change which names there are. -/
theorem Reordered.isWellFormed
    {tree other : Entry}
    (hReordered : Reordered tree other)
    (hTree : tree.isWellFormed = true) :
    other.isWellFormed = true := by
  induction hReordered with
  | unchanged tree => exact hTree
  | listed hPerm => exact isWellFormed_of_perm hPerm hTree
  | within front name back hChild ih =>
      exact isWellFormed_within ih hTree
  | next hFirst hSecond ihFirst ihSecond =>
      exact ihSecond (ihFirst hTree)

/- A reordered tree holds the same at all places. -/
theorem Reordered.sameAt
    {tree other : Entry}
    (hReordered : Reordered tree other)
    (hTree : tree.isWellFormed = true)
    (names : List Text) :
    SameAt names tree other := by
  induction hReordered generalizing names with
  | unchanged tree => rfl
  | listed hPerm =>
      cases names with
      | nil => rfl
      | cons name names =>
          unfold SameAt
          rw [place?, place?,
            get?_of_perm (nodup_of_isWellFormed hTree) hPerm]
  | @within child child' front name back hChild ih =>
      cases names with
      | nil => rfl
      | cons other names =>
          have hDistinct := nodup_of_isWellFormed hTree
          have hOthers :
              Pairs.get? other
                  (front ++ (name, child') :: back) =
                if name == other then some child'
                else
                  Pairs.get? other
                    (front ++ (name, child) :: back) :=
            get?_within hDistinct other
          unfold SameAt
          rw [place?, place?, hOthers]
          by_cases hSame : name = other
          · subst hSame
            have hThere :
                Pairs.get? name
                    (front ++ (name, child) :: back) =
                  some child :=
              (Pairs.get?_eq_some_iff hDistinct).mpr
                (List.mem_append_right _ List.mem_cons_self)
            rw [if_pos (beq_self_eq_true name), hThere]
            exact ih (isWellFormed_of_get? hTree hThere) names
          · rw [if_neg (mt beq_iff_eq.mp hSame)]
  | next hFirst hSecond ihFirst ihSecond =>
      exact
        (ihFirst hTree names).trans
          (ihSecond (hFirst.isWellFormed hTree) names)

end Entry

------------------------------------------------------------
-- Scans
------------------------------------------------------------

namespace Workspace

section Everywhere

variable {disk other : Disk}
variable (hAgrees : disk.AgreesOn (fun _ => True) other)

include hAgrees

theorem world_of_agreesOn
    (settings : Settings) :
    other.world settings = disk.world settings := by
  unfold Disk.world
  rw [hAgrees.locate_eq]
  congr 1
  funext path
  unfold Disk.readText Disk.text?
  rw [hAgrees.bytes?_eq trivial]

theorem allFileRoutes_of_agreesOn
    (settings : Settings)
    (world : World)
    (files : List Text)
    (resolver : Resolver) :
    allFileRoutes other settings world files resolver =
      allFileRoutes disk settings world files resolver := by
  induction files generalizing resolver with
  | nil => rfl
  | cons file files ih =>
      have hFile :
          fileRoutes other settings defaultByteLimit world
              file resolver =
            fileRoutes disk settings defaultByteLimit world
              file resolver := by
        unfold fileRoutes
        rw [hAgrees.fileText_eq trivial]
      rw [allFileRoutes, allFileRoutes, hFile]
      simp only [ih]

theorem scan_of_agreesOn
    (options : ScanOptions)
    (world : World)
    (workspace : Path)
    (resolver : Resolver) :
    scan other options world workspace resolver =
      scan disk options world workspace resolver := by
  unfold scan
  simp only [hAgrees.isDirectory_eq, hAgrees.sources_eq,
    hAgrees.hasProject_eq,
    allFileRoutes_of_agreesOn hAgrees]

theorem scanAndName_of_agreesOn
    (options : ScanOptions)
    (world : World)
    (workspace : Path)
    (saved : Option Path)
    (resolver : Resolver) :
    scanAndName other options world workspace saved
        resolver =
      scanAndName disk options world workspace saved
        resolver := by
  unfold scanAndName
  rw [scan_of_agreesOn hAgrees]
  cases saved with
  | none => rfl
  | some saved =>
      unfold ScanResult.named
      simp only [hAgrees.loadAliases_eq trivial]

end Everywhere

/-
  A scan does not depend on the orders in which directories
  have their entries, whatever the settings, the limit, the
  resolver and the names it is given.
-/
theorem scanAndName_of_reordered
    (disk other : Disk)
    (hTree : disk.root.isWellFormed = true)
    (hReordered : disk.root.Reordered other.root)
    (hHere : other.here = disk.here)
    (hDenied : other.denied = disk.denied)
    (options : ScanOptions)
    (lookedAt : Settings)
    (workspace : Path)
    (saved : Option Path)
    (resolver : Resolver) :
    scanAndName other options (other.world lookedAt)
        workspace saved resolver =
      scanAndName disk options (disk.world lookedAt)
        workspace saved resolver := by
  have hAgrees : disk.AgreesOn (fun _ => True) other :=
    { here := hHere
      denied := hDenied
      wellFormed := hTree
      wellFormed' := hReordered.isWellFormed hTree
      shape := fun names =>
        (hReordered.sameAt hTree names).isFile_eq
      same := fun names _ => hReordered.sameAt hTree names }
  rw [world_of_agreesOn hAgrees,
    scanAndName_of_agreesOn hAgrees]

/- A project with a controller beside and one below it. -/
def shopEntries : List (Text × Entry) :=
  [("Shop.csproj".toList, .file []),
   ("OrdersController.cs".toList,
     .file (Utf8.encode
       "[HttpGet] public int All() => 1;".toList)),
   ("Items".toList, .directory
     [("ItemsController.cs".toList, .file [])])]

/- A disk whose workspace has the given entries. -/
def shopDisk
    (entries : List (Text × Entry)) :
    Disk where
  root := .directory [("shop".toList, .directory entries)]
  here := ⟨['/'], []⟩
  denied := []

theorem scanAndName_shopDisk_reverse :
    (shopDisk shopEntries).root.isWellFormed = true ∧
      (shopDisk shopEntries).root.Reordered
        (shopDisk shopEntries.reverse).root ∧
      ∀ options lookedAt saved resolver,
        scanAndName (shopDisk shopEntries.reverse) options
            ((shopDisk shopEntries.reverse).world lookedAt)
            ⟨['/'], ["shop".toList]⟩ saved resolver =
          scanAndName (shopDisk shopEntries) options
            ((shopDisk shopEntries).world lookedAt)
            ⟨['/'], ["shop".toList]⟩ saved resolver := by
  have hTree :
      (shopDisk shopEntries).root.isWellFormed = true := by
    decide +kernel
  have hReordered :
      (shopDisk shopEntries).root.Reordered
        (shopDisk shopEntries.reverse).root :=
    .within [] "shop".toList []
      (.listed (List.reverse_perm shopEntries).symm)
  refine ⟨hTree, hReordered, ?_⟩
  intro options lookedAt saved resolver
  exact
    scanAndName_of_reordered _ _ hTree hReordered rfl rfl
      options lookedAt _ saved resolver

end Workspace

end RouteAtlas
