import Mathlib
import RouteAtlas.Source.Position

/-
  Positions of a file.

  The positions of a file are those of its lines, in order,
  and a position knows all lines around it.  The positions
  between two lines differ from them only in that they do
  not see the lines from the second one on.

  Main statements:
    * `getElem?_positions`
    * `mem_positions_iff`
    * `located_of_mem_until`
    * `exists_mem_until`
-/

------------------------------------------------------------
-- Positions of Lines
------------------------------------------------------------

namespace RouteAtlas

namespace Source

theorem getElem?_positionsFrom
    (index : Nat)
    (above lines : List Text)
    (i : Nat) :
    (positionsFrom index above lines)[i]? =
      lines[i]?.map fun line =>
        ⟨index + i, (lines.take i).reverse ++ above, line,
          lines.drop (i + 1)⟩ := by
  induction lines generalizing index above i with
  | nil => simp [positionsFrom]
  | cons line lines ih =>
      cases i with
      | zero => simp [positionsFrom]
      | succ i =>
          rw [positionsFrom, List.getElem?_cons_succ, ih]
          simp [Nat.add_assoc, Nat.add_comm 1]

/- The positions of a file are those of its lines. -/
theorem getElem?_positions
    (lines : List Text)
    (i : Nat) :
    (positions lines)[i]? = position? lines i := by
  unfold positions position?
  rw [getElem?_positionsFrom]
  simp

theorem position?_eq_some_iff
    {lines : List Text}
    {i : Nat}
    {position : Position} :
    position? lines i = some position ↔
      ∃ line,
        lines[i]? = some line ∧
          position =
            ⟨i, (lines.take i).reverse, line,
              lines.drop (i + 1)⟩ := by
  unfold position?
  rw [Option.map_eq_some_iff]
  simp only [eq_comm]

theorem index_of_position?
    {lines : List Text}
    {i : Nat}
    {position : Position}
    (hPosition : position? lines i = some position) :
    position.index = i := by
  rcases position?_eq_some_iff.mp hPosition with
    ⟨line, -, rfl⟩
  rfl

theorem mem_positions_iff
    {lines : List Text}
    {position : Position} :
    position ∈ positions lines ↔
      position? lines position.index = some position := by
  constructor
  · intro hMember
    rcases List.mem_iff_getElem?.mp hMember with
      ⟨i, hGet⟩
    rw [getElem?_positions] at hGet
    rw [index_of_position? hGet]
    exact hGet
  · intro hPosition
    rw [← getElem?_positions] at hPosition
    exact List.mem_of_getElem? hPosition

/- What a position sees are lines of the file. -/
theorem mem_lines_of_position
    {lines : List Text}
    {position : Position}
    (hMember : position ∈ positions lines) :
    position.line ∈ lines ∧
      ∀ line ∈ position.above, line ∈ lines := by
  rcases position?_eq_some_iff.mp
      (mem_positions_iff.mp hMember) with
    ⟨line, hLine, hPosition⟩
  rw [hPosition]
  refine ⟨List.mem_of_getElem? hLine, ?_⟩
  intro other hOther
  exact List.mem_of_mem_take (List.mem_reverse.mp hOther)

/- Lines at which there is nothing to collect are passed. -/
theorem flatMap_positionsFrom_append
    {β : Type}
    {collect : Position → List β}
    (index : Nat)
    (above passed rest : List Text)
    (hPassed :
      ∀ position : Position,
        position.line ∈ passed → collect position = []) :
    (positionsFrom index above (passed ++ rest)).flatMap
        collect =
      (positionsFrom (index + passed.length)
        (passed.reverse ++ above) rest).flatMap collect := by
  induction passed generalizing index above with
  | nil => rfl
  | cons line passed ih =>
      rw [List.cons_append, positionsFrom,
        List.flatMap_cons, hPassed _ (by simp),
        List.nil_append, ih]
      · simp [Nat.add_assoc, Nat.add_comm 1]
      · intro position hLine
        exact hPassed position
          (List.mem_cons_of_mem line hLine)

------------------------------------------------------------
-- Positions Between Lines
------------------------------------------------------------

/- Whether two positions agree but for the lines below. -/
def Position.AgreesAbove
    (position other : Position) :
    Prop :=
  position.index = other.index ∧
    position.above = other.above ∧
    position.line = other.line

section Between

variable {lines : List Text}
variable {start : Position}

/- What lies above a line further down, from there up. -/
theorem reverse_take_add
    {k : Nat}
    {line : Text}
    (hLine : lines[k]? = some line)
    (i : Nat) :
    (lines.take (k + 1 + i)).reverse =
      ((lines.drop (k + 1)).take i).reverse ++
        (line :: (lines.take k).reverse) := by
  have hTake :
      lines.take (k + 1) = lines.take k ++ [line] := by
    rw [List.take_add_one, hLine]
    rfl
  rw [List.take_add, hTake]
  simp

theorem getElem?_until
    (hStart : start ∈ positions lines)
    (stop i : Nat) :
    (start.until stop)[i]? =
      if start.index + 1 + i < stop then
        (position? lines (start.index + 1 + i)).map
          fun position =>
            { position with
              below :=
                position.below.take
                  (stop - (start.index + 1 + i + 1)) }
      else
        none := by
  rcases position?_eq_some_iff.mp
      (mem_positions_iff.mp hStart) with
    ⟨line, hLine, hPosition⟩
  have hIndex : start.index < lines.length := by
    by_contra hShort
    rw [List.getElem?_eq_none (Nat.le_of_not_lt hShort)]
      at hLine
    exact absurd hLine (by simp)
  have hAbove := reverse_take_add hLine i
  unfold Position.until
  rw [getElem?_positionsFrom]
  rw [show start.below = lines.drop (start.index + 1) by
      rw [hPosition],
    show start.above = (lines.take start.index).reverse by
      rw [hPosition],
    show start.line = line by rw [hPosition]]
  rw [List.getElem?_take]
  by_cases hStop : start.index + 1 + i < stop
  · rw [if_pos hStop, if_pos (by omega)]
    unfold position?
    rw [List.getElem?_drop, Option.map_map, hAbove]
    congr 1
    funext other
    have hTaken :
        min i (stop - (start.index + 1)) = i := by omega
    simp only [Function.comp_apply, List.take_take, hTaken,
      List.drop_take, List.drop_drop]
    congr 2
    omega
  · rw [if_neg hStop, if_neg (by omega)]
    rfl

/- A position between two lines is one of the file. -/
theorem located_of_mem_until
    {stop : Nat}
    {position : Position}
    (hStart : start ∈ positions lines)
    (hMember : position ∈ start.until stop) :
    start.index < position.index ∧
      position.index < stop ∧
      ∃ whole ∈ positions lines,
        position.AgreesAbove whole := by
  rcases List.mem_iff_getElem?.mp hMember with ⟨i, hGet⟩
  rw [getElem?_until hStart] at hGet
  split at hGet
  next hStop =>
    rw [Option.map_eq_some_iff] at hGet
    rcases hGet with ⟨whole, hWhole, rfl⟩
    have hIndex := index_of_position? hWhole
    refine ⟨?_, ?_, whole, ?_, rfl, rfl, rfl⟩
    · change start.index < whole.index
      omega
    · change whole.index < stop
      omega
    · rw [← hIndex] at hWhole
      exact mem_positions_iff.mpr hWhole
  next => simp at hGet

/- A position of the file between two lines is met. -/
theorem exists_mem_until
    {stop : Nat}
    {whole : Position}
    (hStart : start ∈ positions lines)
    (hWhole : whole ∈ positions lines)
    (hAfter : start.index < whole.index)
    (hBefore : whole.index < stop) :
    ∃ position ∈ start.until stop,
      position.AgreesAbove whole := by
  have hGet :=
    getElem?_until hStart stop
      (whole.index - (start.index + 1))
  rw [show
      start.index + 1 + (whole.index - (start.index + 1)) =
        whole.index by omega,
    if_pos hBefore, mem_positions_iff.mp hWhole,
    Option.map_some] at hGet
  exact ⟨_, List.mem_of_getElem? hGet, rfl, rfl, rfl⟩

end Between

end Source

end RouteAtlas
