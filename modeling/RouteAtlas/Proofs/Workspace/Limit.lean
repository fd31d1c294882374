import Mathlib
import RouteAtlas.Proofs.Text.Order
import RouteAtlas.Workspace.Sources

/-
  Walks with a limit.

  A walk with a limit goes through the directories as the
  one without does, and notes one file after the other until
  there are as many as the limit.  It finds a beginning of
  what is found without the limit.  The limit is looked at
  behind each file, so that a limit of zero lets the first
  file through.

  Main statements:
    * `gatherAt_eq_foldlM_note`
    * `files_foldlM_note`
    * `sources_limited_iff`
-/

------------------------------------------------------------
-- Noting One File After the Other
------------------------------------------------------------

namespace RouteAtlas

open Entry

namespace Workspace

variable {limit : Int}

/- One more file is found, and the walk ends at the limit. -/
theorem note_cases
    (limit : Int)
    (found : List Place)
    (file : Place) :
    (limit ≤ found.length + 1 ∧
      note limit found file = .error (found ++ [file])) ∨
    ((found.length : Int) + 1 < limit ∧
      note limit found file = .ok (found ++ [file])) := by
  have hLength :
      ((found ++ [file]).length : Int) = found.length + 1 := by
    simp
  unfold note
  dsimp only
  rw [hLength]
  by_cases hLimit : limit ≤ (found.length : Int) + 1
  · exact .inl ⟨hLimit, if_pos hLimit⟩
  · exact .inr ⟨not_le.mp hLimit, if_neg hLimit⟩

/-
  By induction on the files to come.  There is room before
  each of them: nothing has been found yet, or less than the
  limit.
-/
theorem files_foldlM_note
    (files : List Place)
    {found : List Place}
    (hRoom : found = [] ∨ (found.length : Int) < limit) :
    Gathered.files (files.foldlM (note limit) found) =
      (found ++ files).take (max 1 limit.toNat) := by
  induction files generalizing found with
  | nil =>
      rw [List.foldlM_nil, List.append_nil,
        List.take_of_length_le]
      · rfl
      · rcases hRoom with rfl | hLess
        · exact Nat.zero_le _
        · omega
  | cons file files ih =>
      rw [List.foldlM_cons, List.append_cons]
      rcases note_cases limit found file with
        ⟨hReached, hNote⟩ | ⟨hLess, hNote⟩
      · have hCount :
            max 1 limit.toNat = (found ++ [file]).length := by
          rw [List.length_append, List.length_singleton]
          rcases hRoom with rfl | hLess
          · rw [List.length_nil] at hReached ⊢
            omega
          · omega
        rw [hNote, hCount, List.take_left]
        rfl
      · rw [hNote]
        refine ih (.inr ?_)
        rw [List.length_append, List.length_singleton]
        exact_mod_cast hLess

------------------------------------------------------------
-- Walking the Same Way
------------------------------------------------------------

theorem foldlM_flatMap
    {α : Type}
    (files : α → List Place)
    (items : List α)
    (found : List Place) :
    (items.flatMap files).foldlM (note limit) found =
      items.foldlM
        (fun found item =>
          (files item).foldlM (note limit) found)
        found := by
  induction items generalizing found with
  | nil => rfl
  | cons item items ih =>
      rw [List.flatMap_cons, List.foldlM_append,
        List.foldlM_cons]
      exact bind_congr fun found => ih found

section Walks

variable {settings : Settings}
variable {mayList : Place → Bool}

mutual

/-
  A walk with a limit notes just the files that the walk
  without one lists, in their order.
-/
theorem gatherAt_eq_foldlM_note
    (place : Place) :
    ∀ tree,
      gatherAt settings mayList limit place tree =
        (sourcesAt settings mayList place tree).foldlM
          (note limit)
  | .file content => by
      rw [gatherAt, sourcesAt]
      rfl
  | .directory entries => by
      funext found
      rw [gatherAt, sourcesAt]
      split
      · rw [List.foldlM_append]
        refine bind_congr fun found => ?_
        rw [foldlM_flatMap, gatherBelow_eq_map place entries,
          ← map_byName fun pair : Text × List Place =>
            pair.2.foldlM (note limit),
          List.foldlM_map]
      · rfl

theorem gatherBelow_eq_map
    (place : Place) :
    ∀ entries,
      gatherBelow settings mayList limit place entries =
        (sourcesBelow settings mayList place entries).map
          fun pair =>
            (pair.1, pair.2.foldlM (note limit))
  | [] => rfl
  | (name, entry) :: rest => by
      rw [gatherBelow, sourcesBelow,
        gatherAt_eq_foldlM_note (place ++ [name]) entry,
        gatherBelow_eq_map place rest]
      split
      · rfl
      · rfl

end

/- The first files that are listed, and at least one. -/
theorem sourcesWithin_some
    (limit : Int)
    (root : Entry) :
    sourcesWithin settings mayList (some limit) root =
      (sourcesWithin settings mayList none root).take
        (max 1 limit.toNat) := by
  unfold sourcesWithin
  dsimp only
  rw [gatherAt_eq_foldlM_note]
  exact files_foldlM_note _ (.inl rfl)

theorem sourcesWithin_congr
    {root root' : Entry}
    (hSame :
      sourcesAt settings mayList [] root =
        sourcesAt settings mayList [] root')
    (limit : Option Int) :
    sourcesWithin settings mayList limit root =
      sourcesWithin settings mayList limit root' := by
  cases limit with
  | none => exact hSame
  | some limit =>
      rw [sourcesWithin_some, sourcesWithin_some]
      exact congrArg _ hSame

theorem mem_of_mem_sourcesWithin
    {limit : Option Int}
    {root : Entry}
    {place : Place}
    (hPlace :
      place ∈ sourcesWithin settings mayList limit root) :
    place ∈ sourcesAt settings mayList [] root := by
  cases limit with
  | none => exact hPlace
  | some limit =>
      rw [sourcesWithin_some] at hPlace
      exact List.mem_of_mem_take hPlace

end Walks

------------------------------------------------------------
-- Source Files of a Workspace
------------------------------------------------------------

theorem sources_some
    (disk : Disk)
    (settings : Settings)
    (limit : Int)
    (workspace : Path) :
    sources disk settings (some limit) workspace =
      (sources disk settings none workspace).map
        (·.take (max 1 limit.toNat)) := by
  unfold sources
  cases root? disk workspace with
  | error fault => rfl
  | ok root =>
      simp only [Except.map, sourcesWithin_some,
        List.map_take]

/-
  A limit takes so many of the first files, except that none
  at all are taken only where there are none.
-/
theorem sources_limited_iff
    (disk : Disk)
    (settings : Settings)
    (workspace : Path)
    (limit : Nat) :
    sources disk settings (some limit) workspace =
        (sources disk settings none workspace).map
          (·.take (max 1 limit)) ∧
      (sources disk settings (some limit) workspace =
          (sources disk settings none workspace).map
            (·.take limit) ↔
        limit ≠ 0 ∨
          ∀ files,
            sources disk settings none workspace = .ok files →
              files = []) := by
  have hLimited :=
    sources_some disk settings limit workspace
  rw [Int.toNat_natCast] at hLimited
  refine ⟨hLimited, ?_⟩
  rw [hLimited]
  cases hFiles : sources disk settings none workspace with
  | error fault =>
      exact iff_of_true rfl (.inr nofun)
  | ok files =>
      simp only [Except.map, Except.ok.injEq, forall_eq']
      cases limit with
      | zero => simp
      | succ limit => simp

/- A workspace with a single source file. -/
def kioskDisk : Disk where
  root :=
    .directory
      [("kiosk".toList, .directory
        [("Items.cs".toList, .file [])])]
  here := ⟨['/'], []⟩
  denied := []

def kiosk : Path :=
  ⟨['/'], ["kiosk".toList]⟩

/- Of one file none should be taken, but it is. -/
theorem sources_limitedToNone :
    sources kioskDisk .default none kiosk =
        .ok ["/kiosk/Items.cs".toList] ∧
      sources kioskDisk .default (some 0) kiosk =
        .ok ["/kiosk/Items.cs".toList] ∧
      sources kioskDisk .default (some 0) kiosk ≠
        (sources kioskDisk .default none kiosk).map
          (·.take 0) := by
  have hRoot :
      root? kioskDisk kiosk =
        .ok (.directory
          [("Items.cs".toList, .file [])]) := by
    rfl
  have hFiles :
      sources kioskDisk .default none kiosk =
        .ok ["/kiosk/Items.cs".toList] := by
    unfold sources
    rw [hRoot, Except.map, sourcesWithin, sourcesAt,
      filesIn, byName, byName,
      List.mergeSort_of_pairwise (by decide +kernel),
      List.mergeSort_of_pairwise (by decide +kernel)]
    decide +kernel
  rw [sources_some, hFiles]
  exact ⟨rfl, rfl, nofun⟩

end Workspace

end RouteAtlas
