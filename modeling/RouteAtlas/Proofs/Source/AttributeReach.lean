import Mathlib
import RouteAtlas.Source.AttributeScan

/-
  How far the scan for attributes reaches.

  Going upwards from a declaration the scan reads each line
  of its window that is no comment line, up to the first one
  with the word `class` or at the end of another member.  So
  neither that line nor any line above it can give a
  declaration an attribute, and what a comment line says
  does not matter either.

  Main definitions:
    * `StopsAt`
    * `Reaches`

  Main statements:
    * `attributesUpward_eq_flatMap`
    * `reached_congr`
    * `scanAttributes_reached_and_confined`
-/

------------------------------------------------------------
-- Lines Reached
------------------------------------------------------------

namespace RouteAtlas

namespace Source

/-
  Whether the scan stops at a line of the file: it is no
  comment line, and it has the word `class` or ends a member.
-/
def StopsAt
    (lines : List Text)
    (index : Nat) :
    Prop :=
  ∃ line ∈ lines[index]?,
    isCommentLine line = false ∧
      (hasClassWord line = true ∨ isMemberBoundary line = true)

/- Whether a line of the file is a comment line. -/
def IsCommentAt
    (lines : List Text)
    (index : Nat) :
    Prop :=
  ∃ line ∈ lines[index]?, isCommentLine line = true

/-
  Whether the scan from the declaration on line `index` reads
  a line above it: the line stands in the window, is no
  comment line, and neither it nor any line between it and
  the declaration stops the scan.
-/
structure Reaches
    (lines : List Text)
    (index window i : Nat) :
    Prop where
  inWindow : index ≤ i + window
  noComment : ¬IsCommentAt lines i
  unstopped : ∀ j, i ≤ j → j < index → ¬StopsAt lines j

section Decidable

variable (lines : List Text) (index window i : Nat)

instance : Decidable (StopsAt lines i) := by
  unfold StopsAt
  infer_instance

instance : Decidable (IsCommentAt lines i) := by
  unfold IsCommentAt
  infer_instance

instance : Decidable (Reaches lines index window i) :=
  decidable_of_iff
    (index ≤ i + window ∧ ¬IsCommentAt lines i ∧
      ∀ j < index, i ≤ j → ¬StopsAt lines j)
    ⟨fun h => ⟨h.1, h.2.1, fun j hLow hHigh =>
        h.2.2 j hHigh hLow⟩,
      fun h => ⟨h.inWindow, h.noComment, fun j hHigh hLow =>
        h.unstopped j hLow hHigh⟩⟩

/- The lines that the scan reads, from bottom to top. -/
def reached : List Nat :=
  (List.range index).reverse.filter
    (Reaches lines index window ·)

/- The attributes on a line of the file. -/
def attributesAt : List AttributeHit :=
  attributesOnLine (lines.getD i []) i

end Decidable

------------------------------------------------------------
-- One Line
------------------------------------------------------------

section Step

variable {lines : List Text}
variable {index window i : Nat}
variable {line : Text}

theorem mem_reached :
    i ∈ reached lines index window ↔
      i < index ∧ Reaches lines index window i := by
  simp [reached]

theorem isCommentAt_iff
    (hLine : lines[i]? = some line) :
    IsCommentAt lines i ↔ isCommentLine line = true := by
  simp [IsCommentAt, hLine]

theorem stopsAt_iff
    (hLine : lines[i]? = some line) :
    StopsAt lines i ↔
      isCommentLine line = false ∧ stopsScan line = true := by
  simp [StopsAt, stopsScan, hLine]

/-
  From one line further down the scan reaches the same lines
  in a window one line higher, unless it stops at once.
-/
theorem reaches_succ
    (hAbove : i < index) :
    Reaches lines (index + 1) (window + 1) i ↔
      ¬StopsAt lines index ∧ Reaches lines index window i := by
  constructor
  · intro hReaches
    refine ⟨hReaches.unstopped index hAbove.le index.lt_succ_self,
      ?_⟩
    exact
      { inWindow := by
          have hWindow := hReaches.inWindow
          omega
        noComment := hReaches.noComment
        unstopped := fun j hLow hHigh =>
          hReaches.unstopped j hLow (Nat.lt_succ_of_lt hHigh) }
  · rintro ⟨hStop, hReaches⟩
    exact
      { inWindow := by
          have hWindow := hReaches.inWindow
          omega
        noComment := hReaches.noComment
        unstopped := by
          intro j hLow hHigh
          rcases Nat.lt_succ_iff_lt_or_eq.mp hHigh with
            hEarlier | rfl
          · exact hReaches.unstopped j hLow hEarlier
          · exact hStop }

/- The nearest line is reached unless it is passed or stops. -/
theorem reaches_nearest :
    Reaches lines (index + 1) (window + 1) index ↔
      ¬IsCommentAt lines index ∧ ¬StopsAt lines index := by
  constructor
  · intro hReaches
    exact
      ⟨hReaches.noComment,
        hReaches.unstopped index le_rfl index.lt_succ_self⟩
  · rintro ⟨hComment, hStop⟩
    refine ⟨by omega, hComment, ?_⟩
    intro j hLow hHigh
    have hSame : j = index := by omega
    rwa [hSame]

theorem reached_of_stopsAt
    (hStop : StopsAt lines index) :
    reached lines (index + 1) window = [] := by
  rw [List.eq_nil_iff_forall_not_mem]
  intro i hMember
  rcases mem_reached.mp hMember with ⟨hAbove, hReaches⟩
  exact
    hReaches.unstopped index (Nat.le_of_lt_succ hAbove)
      index.lt_succ_self hStop

theorem reached_succ
    (hStop : ¬StopsAt lines index) :
    reached lines (index + 1) (window + 1) =
      if IsCommentAt lines index then
        reached lines index window
      else
        index :: reached lines index window := by
  have hAbove :
      (List.range index).reverse.filter
          (Reaches lines (index + 1) (window + 1) ·) =
        reached lines index window := by
    unfold reached
    apply List.filter_congr
    intro i hMember
    rw [List.mem_reverse, List.mem_range] at hMember
    simp [reaches_succ hMember, hStop]
  rw [reached, List.range_succ, List.reverse_append,
    List.reverse_singleton, List.singleton_append,
    List.filter_cons, hAbove]
  by_cases hComment : IsCommentAt lines index <;>
    simp [reaches_nearest, hComment, hStop]

theorem reached_no_window :
    reached lines index 0 = [] := by
  rw [List.eq_nil_iff_forall_not_mem]
  intro i hMember
  rcases mem_reached.mp hMember with ⟨hAbove, hReaches⟩
  have hWindow := hReaches.inWindow
  omega

end Step

------------------------------------------------------------
-- The Scan
------------------------------------------------------------

/-
  By induction on the index of the declaration: the line
  right above it is passed, stops the scan or adds its
  attributes, and the window shrinks by one.
-/
theorem attributesUpward_eq_flatMap
    {lines : List Text}
    {index : Nat}
    (hIndex : index ≤ lines.length)
    (window : Nat) :
    attributesUpward index
        ((lines.take index).reverse.take window) =
      (reached lines index window).flatMap
        (attributesAt lines) := by
  induction index generalizing window with
  | zero => simp [attributesUpward, reached]
  | succ index ih =>
      cases window with
      | zero =>
          rw [reached_no_window, List.take_zero]
          rfl
      | succ window =>
          have hLine : lines[index]? = some lines[index] :=
            List.getElem?_eq_getElem hIndex
          have hAbove :
              (lines.take (index + 1)).reverse =
                lines[index] :: (lines.take index).reverse := by
            rw [List.take_add_one, hLine, List.reverse_append]
            rfl
          have hHere :
              attributesAt lines index =
                attributesOnLine lines[index] index := by
            rw [attributesAt, List.getD_eq_getElem?_getD, hLine]
            rfl
          rw [hAbove, List.take_succ_cons, attributesUpward,
            Nat.add_sub_cancel, ih (Nat.le_of_succ_le hIndex)]
          by_cases hStop : StopsAt lines index
          · rw [reached_of_stopsAt hStop]
            rw [stopsAt_iff hLine] at hStop
            simp [hStop]
          · rw [reached_succ hStop]
            rw [stopsAt_iff hLine] at hStop
            by_cases hComment : IsCommentAt lines index
            · rw [if_pos hComment]
              rw [isCommentAt_iff hLine] at hComment
              rw [if_pos hComment]
            · rw [if_neg hComment]
              rw [isCommentAt_iff hLine] at hComment
              have hPassed : stopsScan lines[index] ≠ true :=
                fun hScan => hStop ⟨by simpa using hComment, hScan⟩
              rw [if_neg hComment, if_neg hPassed,
                List.flatMap_cons, hHere]

/- A scan reads just the lines that it reaches. -/
theorem scanAttributes_eq_reached
    {lines : List Text}
    {index : Nat}
    (hIndex : index ≤ lines.length)
    (window : Nat)
    (beforeDeclaration : Text) :
    scanAttributes lines index window beforeDeclaration =
      attributesOnLine beforeDeclaration index ++
        (reached lines index window).flatMap
          (attributesAt lines) := by
  unfold scanAttributes attributesAbove
  rw [attributesUpward_eq_flatMap hIndex]

------------------------------------------------------------
-- Confinement
------------------------------------------------------------

/-
  Whether two files have the same line at an index, or a
  comment line each.
-/
def AgreeAt
    (lines other : List Text)
    (index : Nat) :
    Prop :=
  lines[index]? = other[index]? ∨
    IsCommentAt lines index ∧ IsCommentAt other index

/-
  Whether nothing above a line can be reached from the
  declaration on line `index`: the line is the first one or
  the last one of the window, or the scan stops at it.
-/
def Confines
    (lines : List Text)
    (index window stop : Nat) :
    Prop :=
  stop = 0 ∨ stop + window ≤ index ∨
    stop < index ∧ StopsAt lines stop

section Confinement

variable {lines other : List Text}
variable {index window stop : Nat}

theorem AgreeAt.symm
    (hAgree : AgreeAt lines other index) :
    AgreeAt other lines index := by
  rcases hAgree with hSame | hComments
  · exact Or.inl hSame.symm
  · exact Or.inr hComments.symm

theorem AgreeAt.isCommentAt
    (hAgree : AgreeAt lines other index)
    (hComment : IsCommentAt lines index) :
    IsCommentAt other index := by
  rcases hAgree with hSame | hComments
  · rwa [IsCommentAt, ← hSame]
  · exact hComments.2

/- A line that stops the scan is no comment line. -/
theorem AgreeAt.stopsAt
    (hAgree : AgreeAt lines other index)
    (hStop : StopsAt lines index) :
    StopsAt other index := by
  rcases hAgree with hSame | hComments
  · rwa [StopsAt, ← hSame]
  · rcases hStop with ⟨line, hLine, hComment, -⟩
    have hOther := (isCommentAt_iff hLine).mp hComments.1
    rw [hComment] at hOther
    exact absurd hOther (by simp)

theorem AgreeAt.attributesAt
    (hAgree : AgreeAt lines other index)
    (hComment : ¬IsCommentAt lines index) :
    Source.attributesAt other index =
      Source.attributesAt lines index := by
  rcases hAgree with hSame | hComments
  · unfold Source.attributesAt
    rw [List.getD_eq_getElem?_getD,
      List.getD_eq_getElem?_getD, hSame]
  · exact absurd hComments.1 hComment

/- A line that is reached stands where the files agree. -/
theorem Confines.le_of_reaches
    (hConfines : Confines lines index window stop)
    {i : Nat}
    (hReaches : Reaches lines index window i) :
    stop ≤ i := by
  rcases hConfines with rfl | hWindow | ⟨hAbove, hStop⟩
  · exact i.zero_le
  · have hInWindow := hReaches.inWindow
    omega
  · by_contra hFarther
    exact
      hReaches.unstopped stop (Nat.le_of_not_le hFarther)
        hAbove hStop

theorem Reaches.of_agree
    {i : Nat}
    (hReaches : Reaches lines index window i)
    (hAbove : i < index)
    (hAgree :
      ∀ j, i ≤ j → j < index → AgreeAt lines other j) :
    Reaches other index window i where
  inWindow := hReaches.inWindow
  noComment := fun hComment =>
    hReaches.noComment
      ((hAgree i le_rfl hAbove).symm.isCommentAt hComment)
  unstopped := fun j hLow hHigh hStop =>
    hReaches.unstopped j hLow hHigh
      ((hAgree j hLow hHigh).symm.stopsAt hStop)

/- Where files agree, what confines one scan confines both. -/
theorem Confines.of_agree
    (hConfines : Confines lines index window stop)
    (hAgree :
      ∀ j, stop ≤ j → j < index → AgreeAt lines other j) :
    Confines other index window stop := by
  rcases hConfines with hFirst | hWindow | ⟨hAbove, hStop⟩
  · exact Or.inl hFirst
  · exact Or.inr (Or.inl hWindow)
  · exact Or.inr
      (Or.inr ⟨hAbove, (hAgree stop le_rfl hAbove).stopsAt hStop⟩)

/- Files that agree below a stop are reached alike. -/
theorem reached_congr
    (hConfines : Confines lines index window stop)
    (hAgree :
      ∀ j, stop ≤ j → j < index → AgreeAt lines other j) :
    reached other index window = reached lines index window := by
  unfold reached
  apply List.filter_congr
  intro i hMember
  rw [List.mem_reverse, List.mem_range] at hMember
  rw [decide_eq_decide]
  constructor
  · intro hReaches
    have hStop :=
      (hConfines.of_agree hAgree).le_of_reaches hReaches
    exact hReaches.of_agree hMember fun j hLow hHigh =>
      (hAgree j (hStop.trans hLow) hHigh).symm
  · intro hReaches
    have hStop := hConfines.le_of_reaches hReaches
    exact hReaches.of_agree hMember fun j hLow hHigh =>
      hAgree j (hStop.trans hLow) hHigh

theorem flatMap_reached_congr
    (hConfines : Confines lines index window stop)
    (hAgree :
      ∀ j, stop ≤ j → j < index → AgreeAt lines other j) :
    (reached other index window).flatMap (attributesAt other) =
      (reached lines index window).flatMap
        (attributesAt lines) := by
  rw [reached_congr hConfines hAgree]
  apply List.flatMap_congr
  intro i hMember
  rcases mem_reached.mp hMember with ⟨hAbove, hReaches⟩
  exact
    (hAgree i (hConfines.le_of_reaches hReaches)
      hAbove).attributesAt hReaches.noComment

end Confinement

/-
  The attributes of a declaration are those before it on its
  own line and those of the lines that the scan reaches, from
  bottom to top.  So two files that agree from a line on at
  which the scan stops, but for what their comment lines say,
  give the declaration the same attributes, whatever stands
  above that line.
-/
theorem scanAttributes_reached_and_confined
    {lines : List Text}
    {index : Nat}
    (hIndex : index ≤ lines.length)
    (window : Nat)
    (beforeDeclaration : Text) :
    scanAttributes lines index window beforeDeclaration =
        attributesOnLine beforeDeclaration index ++
          (reached lines index window).flatMap
            (attributesAt lines) ∧
      ∀ other stop,
        index ≤ other.length →
        Confines lines index window stop →
        (∀ i, stop ≤ i → i < index → AgreeAt lines other i) →
        scanAttributes other index window beforeDeclaration =
          scanAttributes lines index window
            beforeDeclaration := by
  refine ⟨scanAttributes_eq_reached hIndex _ _, ?_⟩
  intro other stop hOther hConfines hAgree
  rw [scanAttributes_eq_reached hIndex,
    scanAttributes_eq_reached hOther,
    flatMap_reached_congr hConfines hAgree]

/- An action below another one, with a comment between. -/
def itemsLines
    (above comment : Text) :
    List Text :=
  [above, "    public int Old() => 1;".toList,
   "    [HttpGet]".toList, comment,
   "    [Route(\"items\")]".toList,
   "    public int Items() => 2;".toList]

/- Neither the comment nor the other action's verb matters. -/
theorem scanAttributes_itemsLines :
    let lines :=
      itemsLines "    [HttpPost]".toList
        "    // once [HttpPut]".toList
    let other :=
      itemsLines "    [HttpDelete]".toList "    /* */".toList
    5 ≤ lines.length ∧ 5 ≤ other.length ∧
      Confines lines 5 5 1 ∧
      (∀ i, 1 ≤ i → i < 5 → AgreeAt lines other i) ∧
      reached lines 5 5 = [4, 2] ∧
      scanAttributes lines 5 5 "    ".toList =
        [⟨.route, some "items".toList, 4, 5⟩,
         ⟨.verb .get, none, 2, 5⟩] ∧
      scanAttributes other 5 5 "    ".toList =
        scanAttributes lines 5 5 "    ".toList := by
  intro lines other
  have hConfines : Confines lines 5 5 1 :=
    Or.inr (Or.inr (by decide +kernel))
  have hSame : ∀ i ∈ [1, 2, 4], lines[i]? = other[i]? := by
    decide +kernel
  have hAgree :
      ∀ i, 1 ≤ i → i < 5 → AgreeAt lines other i := by
    intro i hLow hHigh
    by_cases hComment : i = 3
    · subst hComment
      exact Or.inr (by decide +kernel)
    · have hMember : i ∈ [1, 2, 4] := by
        simp only [List.mem_cons, List.not_mem_nil, or_false]
        omega
      exact Or.inl (hSame i hMember)
  have hIndex : 5 ≤ lines.length := by
    decide
  have hScan :=
    scanAttributes_reached_and_confined hIndex 5 "    ".toList
  refine
    ⟨hIndex, by decide, hConfines, hAgree,
      by decide +kernel, ?_,
      hScan.2 other 1 (by decide) hConfines hAgree⟩
  rw [hScan.1]
  decide +kernel

end Source

end RouteAtlas
