import Mathlib
import RouteAtlas.Source.Body

/-
  The line on which a body closes.

  The braces of a file, each with its line, are one sequence.
  A body begins at the first opening brace of it, and every
  closing brace before that one lowers the depth to which the
  braces from there on have to return.

  Main statements:
    * `closing?_opened`
    * `closing?_unopened`
    * `linesToClose_eq`
    * `bodyEnd_eq`
-/

------------------------------------------------------------
-- Braces
------------------------------------------------------------

namespace RouteAtlas

namespace Source

/- A brace of the code, and the index of its line. -/
structure Brace where
  line : Nat
  opens : Bool
deriving DecidableEq, Repr

/- How a brace changes the depth. -/
def Brace.weight
    (brace : Brace) :
    Int :=
  if brace.opens then 1 else -1

/- The braces of some code on one line. -/
def bracesIn
    (line : Nat)
    (code : Text) :
    List Brace :=
  code.filterMap fun c =>
    if c == '{' then
      some ⟨line, true⟩
    else if c == '}' then
      some ⟨line, false⟩
    else
      none

/- The braces of lines, the first of which has an index. -/
def bracesFrom
    (index : Nat) :
    List Text → List Brace
  | [] => []
  | line :: rest =>
      bracesIn index (codeOnly line) ++
        bracesFrom (index + 1) rest

/- How many more braces open than close. -/
def balance
    (braces : List Brace) :
    Int :=
  (braces.map (·.weight)).sum

/- Whether a sequence closes last and has that balance. -/
def closesAt
    (level : Int)
    (braces : List Brace) :
    Bool :=
  braces.getLast?.any (!·.opens) && balance braces == level

/-
  The line of the closing brace at which the balance of a
  sequence comes to a level for the first time.
-/
def closingLine?
    (level : Int)
    (braces : List Brace) :
    Option Nat :=
  (braces.inits.find? (closesAt level)).bind fun seen =>
    seen.getLast?.map (·.line)

/- How many braces close before the first one opens. -/
def closedBefore
    (braces : List Brace) :
    Nat :=
  (braces.takeWhile (!·.opens)).length

/- The braces from the first opening one on. -/
def fromOpening
    (braces : List Brace) :
    List Brace :=
  braces.dropWhile (!·.opens)

------------------------------------------------------------
-- The First Return
------------------------------------------------------------

@[simp] theorem balance_nil :
    balance [] = 0 := by
  rfl

theorem balance_cons
    (brace : Brace)
    (braces : List Brace) :
    balance (brace :: braces) =
      brace.weight + balance braces := by
  simp [balance]

theorem closesAt_nil
    (level : Int) :
    closesAt level [] = false := by
  rfl

/- A sequence that does not close at once has more to do. -/
theorem closesAt_cons
    {level : Int}
    {brace : Brace}
    (hOpen : closesAt level [brace] = false)
    (braces : List Brace) :
    closesAt level (brace :: braces) =
      closesAt (level - brace.weight) braces := by
  cases braces with
  | nil => rw [hOpen, closesAt_nil]
  | cons next braces =>
      unfold closesAt
      rw [List.getLast?_cons_cons, balance_cons]
      congr 1
      rw [Bool.eq_iff_iff, beq_iff_eq, beq_iff_eq]
      omega

/- Only a sequence of some braces closes. -/
theorem ne_nil_of_closesAt
    {level : Int}
    {braces : List Brace}
    (hCloses : closesAt level braces = true) :
    braces ≠ [] := by
  rintro rfl
  rw [closesAt_nil] at hCloses
  exact absurd hCloses Bool.false_ne_true

/-
  Either the first brace closes at the level, or the others
  come to what it leaves of the level.
-/
theorem closingLine?_cons
    (level : Int)
    (brace : Brace)
    (braces : List Brace) :
    closingLine? level (brace :: braces) =
      if closesAt level [brace] then some brace.line
      else closingLine? (level - brace.weight) braces := by
  unfold closingLine?
  rw [List.inits_cons, List.find?_cons, closesAt_nil,
    List.find?_map]
  cases hOpen : closesAt level [brace] with
  | true =>
      cases braces <;> simp [hOpen]
  | false =>
      have hRest :
          closesAt level ∘ (brace :: ·) =
            closesAt (level - brace.weight) :=
        funext (closesAt_cons hOpen)
      simp only [hRest, Bool.false_eq_true, if_false]
      cases hFound : braces.inits.find?
          (closesAt (level - brace.weight)) with
      | none => rfl
      | some seen =>
          have hSome :=
            ne_nil_of_closesAt (List.find?_some hFound)
          rcases List.exists_cons_of_ne_nil hSome with
            ⟨next, seen, rfl⟩
          rw [Option.map_some, Option.bind_some,
            Option.bind_some, List.getLast?_cons_cons]

------------------------------------------------------------
-- One Brace after the Other
------------------------------------------------------------

/- The line of the brace that closes, counted from a state. -/
def Braces.closing?
    (state : Braces) :
    List Brace → Option Nat
  | [] => none
  | brace :: rest =>
      if brace.opens then
        closing? ⟨state.depth + 1, true⟩ rest
      else if state.opened && state.depth == 1 then
        some brace.line
      else
        closing? ⟨state.depth - 1, state.opened⟩ rest

/- Once a brace was opened, the depth has to come to zero. -/
theorem closing?_opened
    (depth : Int)
    (braces : List Brace) :
    Braces.closing? ⟨depth, true⟩ braces =
      closingLine? (-depth) braces := by
  induction braces generalizing depth with
  | nil => rfl
  | cons brace braces ih =>
      rcases brace with ⟨line, opens⟩
      rw [Braces.closing?, closingLine?_cons]
      cases opens with
      | true =>
          have hOpen : closesAt (-depth) [⟨line, true⟩] = false := by
            rfl
          have hLevel : -(depth + 1) = -depth - 1 := by omega
          simp [hOpen, ih, hLevel, Brace.weight]
      | false =>
          have hCloses :
              closesAt (-depth) [⟨line, false⟩] =
                (depth == 1) := by
            rw [Bool.eq_iff_iff, beq_iff_eq]
            simp [closesAt, balance, Brace.weight]
            omega
          have hLevel : -(depth - 1) = -depth - -1 := by omega
          simp [hCloses, ih, hLevel, Brace.weight]

/-
  Until a brace is opened every closing one lowers the depth,
  and so raises the level at which the others close.
-/
theorem closing?_unopened
    (depth : Int)
    (braces : List Brace) :
    Braces.closing? ⟨depth, false⟩ braces =
      closingLine? (closedBefore braces - depth)
        (fromOpening braces) := by
  induction braces generalizing depth with
  | nil => rfl
  | cons brace braces ih =>
      rcases brace with ⟨line, opens⟩
      rw [Braces.closing?]
      cases opens with
      | true =>
          have hHere :
              fromOpening (⟨line, true⟩ :: braces) =
                ⟨line, true⟩ :: braces := by
            rfl
          have hNone :
              closedBefore (⟨line, true⟩ :: braces) = 0 := by
            rfl
          have hOpened :=
            closing?_opened depth (⟨line, true⟩ :: braces)
          rw [Braces.closing?] at hOpened
          rw [hHere, hNone, Int.natCast_zero, Int.zero_sub]
          exact hOpened
      | false =>
          have hLater :
              fromOpening (⟨line, false⟩ :: braces) =
                fromOpening braces := by
            rfl
          have hOne :
              closedBefore (⟨line, false⟩ :: braces) =
                closedBefore braces + 1 := by
            rfl
          have hLevel :
              (closedBefore braces : Int) - (depth - 1) =
                (closedBefore braces + 1 : Nat) - depth := by
            omega
          rw [hLater, hOne, ← hLevel]
          exact ih (depth - 1)

/- The braces of some code are counted as they are read. -/
theorem closing?_bracesIn
    (line : Nat)
    (code : Text)
    (state : Braces)
    (rest : List Brace) :
    state.closing? (bracesIn line code ++ rest) =
      match state.after code with
      | none => some line
      | some state => state.closing? rest := by
  unfold bracesIn
  induction code generalizing state with
  | nil => rfl
  | cons c code ih =>
      rw [Braces.after]
      by_cases hOpening : (c == '{') = true
      · simp only [List.filterMap_cons, hOpening, if_true,
          List.cons_append, Braces.closing?]
        exact ih _
      · by_cases hClosing : (c == '}') = true
        · simp only [List.filterMap_cons, hOpening, hClosing,
            if_true, if_false, List.cons_append,
            Braces.closing?, Bool.false_eq_true]
          split
          · rfl
          · exact ih _
        · simp only [List.filterMap_cons, hOpening, hClosing,
            if_false, Bool.false_eq_true]
          exact ih _

/- Lines are passed up to the one that closes. -/
theorem linesToClose_eq
    (index : Nat)
    (lines : List Text)
    (state : Braces) :
    index + linesToClose state lines =
      (state.closing? (bracesFrom index lines)).getD
        (index + lines.length) := by
  induction lines generalizing index state with
  | nil => rfl
  | cons line lines ih =>
      rw [linesToClose, bracesFrom, closing?_bracesIn]
      cases hAfter : state.after (codeOnly line) with
      | none => rfl
      | some next =>
          have hLater := ih (index + 1) next
          simp only [List.length_cons]
          rw [← Nat.add_assoc, Nat.add_right_comm, hLater]
          congr 1
          omega

theorem linesToClose_le
    (lines : List Text)
    (state : Braces) :
    linesToClose state lines ≤ lines.length := by
  induction lines generalizing state with
  | nil => exact Nat.le_refl 0
  | cons line lines ih =>
      rw [linesToClose]
      split
      · exact Nat.zero_le _
      · exact Nat.succ_le_succ (ih _)

------------------------------------------------------------
-- The End of a Body
------------------------------------------------------------

/- The braces at or below a line. -/
def bracesBelow
    (lines : List Text)
    (start : Nat) :
    List Brace :=
  bracesFrom start (lines.drop start)

/-
  The line of the closing brace at which the braces at or
  below a line, from the first opening one on, come to a
  level; the number of lines if they never do.
-/
def closingEnd
    (level : Int)
    (lines : List Text)
    (start : Nat) :
    Nat :=
  (closingLine? level
    (fromOpening (bracesBelow lines start))).getD
      lines.length

/- The lines that are passed from a line on. -/
theorem add_linesToClose
    {lines : List Text}
    {start : Nat}
    (hStart : start ≤ lines.length) :
    start + linesToClose .start (lines.drop start) =
      closingEnd (closedBefore (bracesBelow lines start))
        lines start := by
  have hLength :
      start + (lines.drop start).length = lines.length := by
    rw [List.length_drop]
    omega
  rw [linesToClose_eq, hLength, Braces.start,
    closing?_unopened, Int.sub_zero]
  rfl

/-
  A body closes where the braces from its first one on come
  to as many as were closed before it.
-/
theorem bodyEnd_eq
    (lines : List Text)
    (start : Nat) :
    bodyEnd lines start =
      closingEnd (closedBefore (bracesBelow lines start))
        lines start := by
  unfold bodyEnd
  by_cases hStart : start ≤ lines.length
  · have hLines :=
      linesToClose_le (lines.drop start) Braces.start
    rw [List.length_drop] at hLines
    rw [Nat.min_eq_left (by omega), add_linesToClose hStart]
  · have hNone : lines.drop start = [] :=
      List.drop_eq_nil_of_le (by omega)
    rw [Nat.min_eq_right (by omega)]
    unfold closingEnd bracesBelow
    rw [hNone]
    rfl

end Source

end RouteAtlas
