import Mathlib
import RouteAtlas.Proofs.Except
import RouteAtlas.Proofs.Signature.Grammar
import RouteAtlas.Proofs.Text.Split

/-
  Where the capture of a signature ends.

  The lines of a signature are captured as if they were one
  text, in which each line break is a space.  That text is
  read up to the parenthesis that closes the first one, and
  parentheses in string literals count like all others: they
  are harmless as long as no beginning of the parameters
  closes more of them than it opens, and all of them
  together open no more than they close, unless no
  parenthesis closes behind them.

  Main statements:
    * `closedPart_append`
    * `closedPart_spec`
    * `capture_eq`
    * `parameterList_capture_iff`
-/

------------------------------------------------------------
-- One Text
------------------------------------------------------------

namespace RouteAtlas

namespace Signature

open Text

/- Text is read up to where it closes, or to its end. -/
theorem closedPart_append
    (state : Parens)
    (front back : Text) :
    closedPart state (front ++ back) =
      match closedPart state front with
      | .ok part => .ok part
      | .error next =>
          (closedPart next back).map (front ++ ·) := by
  induction front generalizing state with
  | nil =>
      rw [List.nil_append]
      cases hBack : closedPart state back <;>
        simp [closedPart, hBack, Except.map]
  | cons c front ih =>
      rw [List.cons_append, closedPart, closedPart]
      split
      · rfl
      · rw [ih]
        cases closedPart (state.step c) front with
        | ok part => rfl
        | error next =>
            simp only [Except.map]
            cases closedPart next back <;> rfl

/- The text up to the parenthesis that closes it, or all. -/
def upToClosing
    (state : Parens)
    (t : Text) :
    Text :=
  match closedPart state t with
  | .ok part => part
  | .error _ => t

theorem upToClosing_append_of_error
    {state next : Parens}
    {front : Text}
    (hFront : closedPart state front = .error next)
    (back : Text) :
    upToClosing state (front ++ back) =
      front ++ upToClosing next back := by
  unfold upToClosing
  rw [closedPart_append, hFront]
  cases hBack : closedPart next back <;>
    simp [hBack, Except.map]

/- A character that is no parenthesis changes nothing. -/
theorem closedPart_cons_of_plain
    {c : Char}
    (hOpening : c ≠ '(')
    (hClosing : c ≠ ')')
    (state : Parens)
    (t : Text) :
    closedPart state (c :: t) =
      (closedPart state t).map (c :: ·) := by
  have hStep : state.step c = state := by
    simp [Parens.step, hOpening, hClosing]
  rw [closedPart, hStep]
  simp [Parens.closes, hClosing]

/- The captured lines are one text up to its closing. -/
theorem joinWith_closedLines
    (state : Parens)
    (lines : List Text) :
    joinWith [' '] (closedLines state lines) =
      upToClosing state (joinWith [' '] lines) := by
  induction lines generalizing state with
  | nil => rfl
  | cons line lines ih =>
      rw [closedLines]
      cases lines with
      | nil =>
          rw [joinWith_singleton]
          unfold upToClosing
          cases hLine : closedPart state line with
          | ok part => simp
          | error next => simp [closedLines]
      | cons second lines =>
          rw [joinWith_cons_cons, List.append_assoc]
          cases hLine : closedPart state line with
          | ok part =>
              simp [upToClosing, closedPart_append, hLine]
          | error next =>
              have hSpace :
                  upToClosing next
                      ([' '] ++
                        joinWith [' '] (second :: lines)) =
                    [' '] ++
                      upToClosing next
                        (joinWith [' '] (second :: lines)) := by
                apply upToClosing_append_of_error
                rw [closedPart_cons_of_plain (by decide)
                  (by decide)]
                rfl
              rw [upToClosing_append_of_error hLine, hSpace,
                ← ih]
              simp only
              rw [closedLines]
              split <;>
                rw [joinWith_cons_cons, List.append_assoc]

------------------------------------------------------------
-- Line Breaks
------------------------------------------------------------

/- A text with its line breaks as spaces. -/
def unbroken
    (t : Text) :
    Text :=
  t.map fun c => if c == '\n' then ' ' else c

theorem unbroken_append
    (front back : Text) :
    unbroken (front ++ back) =
      unbroken front ++ unbroken back :=
  List.map_append

/- Parentheses are no line breaks, and none becomes one. -/
theorem count_unbroken
    {paren : Char}
    (hBreak : paren ≠ '\n')
    (hSpace : paren ≠ ' ')
    (t : Text) :
    (unbroken t).count paren = t.count paren := by
  induction t with
  | nil => rfl
  | cons c t ih =>
      change ((if c == '\n' then ' ' else c) ::
        unbroken t).count paren = _
      rw [List.count_cons, List.count_cons, ih]
      by_cases hChar : c = '\n'
      · simp [hChar, Ne.symm hBreak, Ne.symm hSpace]
      · simp [hChar]

theorem mem_unbroken
    {paren : Char}
    (hBreak : paren ≠ '\n')
    (hSpace : paren ≠ ' ')
    {t : Text} :
    paren ∈ unbroken t ↔ paren ∈ t := by
  rw [← List.count_pos_iff, ← List.count_pos_iff,
    count_unbroken hBreak hSpace]

theorem unbroken_of_not_mem
    {t : Text}
    (hBreak : '\n' ∉ t) :
    unbroken t = t := by
  induction t with
  | nil => rfl
  | cons c t ih =>
      rw [List.mem_cons, not_or] at hBreak
      have hRest := ih hBreak.2
      unfold unbroken at hRest ⊢
      rw [List.map_cons, hRest]
      simp [Ne.symm hBreak.1]

theorem unbroken_joinWith
    {lines : List Text}
    (hLines : ∀ line ∈ lines, '\n' ∉ line) :
    unbroken (joinWith ['\n'] lines) =
      joinWith [' '] lines := by
  induction lines with
  | nil => rfl
  | cons line lines ih =>
      rw [List.forall_mem_cons] at hLines
      cases lines with
      | nil =>
          rw [joinWith_singleton, joinWith_singleton,
            unbroken_of_not_mem hLines.1]
      | cons second lines =>
          rw [joinWith_cons_cons, joinWith_cons_cons,
            unbroken_append, unbroken_append,
            unbroken_of_not_mem hLines.1, ih hLines.2]
          rfl

/-
  The text from a column of a line on, as far as a capture
  may read, with the line breaks in it.
-/
def reach
    (lines : List Text)
    (index paren window : Nat) :
    Text :=
  match lines.drop index with
  | [] => []
  | line :: below =>
      joinWith ['\n'] (line.drop paren :: below.take window)

/- A capture is what it may read up to the closing. -/
theorem capture_eq
    {lines : List Text}
    (hLines : ∀ line ∈ lines, '\n' ∉ line)
    (index paren window : Nat) :
    capture lines index paren window =
      upToClosing .start
        (unbroken (reach lines index paren window)) := by
  unfold capture reach
  cases hDrop : lines.drop index with
  | nil => rfl
  | cons line below =>
      have hBelow :
          ∀ other ∈ line :: below, '\n' ∉ other := by
        intro other hOther
        rw [← hDrop] at hOther
        exact hLines other (List.mem_of_mem_drop hOther)
      rw [List.forall_mem_cons] at hBelow
      simp only
      rw [unbroken_joinWith]
      · exact joinWith_closedLines _ _
      · rw [List.forall_mem_cons]
        constructor
        · intro hBreak
          exact hBelow.1 (List.mem_of_mem_drop hBreak)
        · intro other hOther
          exact hBelow.2 other (List.mem_of_mem_take hOther)

------------------------------------------------------------
-- Counting Parentheses
------------------------------------------------------------

/- How many more parentheses a text opens than it closes. -/
def depth
    (t : Text) :
    Int :=
  t.count '(' - t.count ')'

/- Whether no beginning closes more than it opens. -/
def StaysOpen
    (t : Text) :
    Prop :=
  ∀ n, 0 ≤ depth (t.take n)

theorem depth_append
    (front back : Text) :
    depth (front ++ back) = depth front + depth back := by
  unfold depth
  rw [List.count_append, List.count_append]
  omega

theorem depth_cons
    (c : Char)
    (t : Text) :
    depth (c :: t) = depth [c] + depth t :=
  depth_append [c] t

theorem depth_of_not_mem
    {t : Text}
    (hOpening : '(' ∉ t)
    (hClosing : ')' ∉ t) :
    depth t = 0 := by
  simp [depth, List.count_eq_zero_of_not_mem hOpening,
    List.count_eq_zero_of_not_mem hClosing]

theorem depth_unbroken
    (t : Text) :
    depth (unbroken t) = depth t := by
  unfold depth
  rw [count_unbroken (by decide) (by decide),
    count_unbroken (by decide) (by decide)]

theorem staysOpen_unbroken
    {t : Text} :
    StaysOpen (unbroken t) ↔ StaysOpen t := by
  have hTake :
      ∀ n, (unbroken t).take n = unbroken (t.take n) :=
    fun n => List.map_take.symm
  unfold StaysOpen
  simp only [hTake, depth_unbroken]

/- Within a group each character changes the depth. -/
theorem closedPart_cons
    (level : Int)
    (c : Char)
    (t : Text) :
    closedPart ⟨level, true⟩ (c :: t) =
      if c = ')' ∧ level = 1 then .ok [c]
      else
        (closedPart ⟨level + depth [c], true⟩ t).map
          (c :: ·) := by
  by_cases hClosing : c = ')'
  · subst hClosing
    have hDepth : depth [')'] = -1 := by decide
    rw [closedPart, hDepth]
    simp [Parens.closes, Parens.step, Int.sub_eq_add_neg]
  · by_cases hOpening : c = '('
    · subst hOpening
      have hDepth : depth ['('] = 1 := by decide
      rw [closedPart, hDepth]
      simp [Parens.closes, Parens.step]
    · have hDepth : depth [c] = 0 :=
        depth_of_not_mem
          (by simp [Ne.symm hOpening])
          (by simp [Ne.symm hClosing])
      rw [closedPart_cons_of_plain hOpening hClosing, hDepth,
        Int.add_zero]
      simp [hClosing]

/- A text that closes does so where its depth is left. -/
theorem exists_of_closedPart_eq_ok
    {level : Int}
    {t part : Text}
    (hClosed : closedPart ⟨level, true⟩ t = .ok part) :
    ∃ inside back,
      part = inside ++ [')'] ∧
        t = inside ++ ')' :: back ∧
        level + depth part = 0 := by
  induction t generalizing level part with
  | nil => simp [closedPart] at hClosed
  | cons c t ih =>
      rw [closedPart_cons] at hClosed
      split at hClosed
      next hHere =>
        rcases hHere with ⟨rfl, rfl⟩
        rw [Except.ok.injEq] at hClosed
        subst hClosed
        exact ⟨[], t, rfl, rfl, by decide⟩
      next =>
        rcases exists_of_map_eq_ok hClosed with
          ⟨rest, hRest, rfl⟩
        rcases ih hRest with
          ⟨inside, back, rfl, rfl, hDepth⟩
        refine ⟨c :: inside, back, rfl, rfl, ?_⟩
        rw [depth_cons]
        omega

/- A text that does not close leaves all beginnings open. -/
theorem of_closedPart_eq_error
    {level : Int}
    (hLevel : 0 < level)
    {t : Text}
    {next : Parens}
    (hOpen : closedPart ⟨level, true⟩ t = .error next) :
    next = ⟨level + depth t, true⟩ ∧
      ∀ n, 0 < level + depth (t.take n) := by
  induction t generalizing level with
  | nil =>
      rw [closedPart, Except.error.injEq] at hOpen
      subst hOpen
      simpa [depth] using hLevel
  | cons c t ih =>
      rw [closedPart_cons] at hOpen
      split at hOpen
      next => simp at hOpen
      next hElse =>
        have hNext : 0 < level + depth [c] := by
          by_cases hClosing : c = ')'
          · subst hClosing
            have hDepth : depth [')'] = -1 := by decide
            have hLast : level ≠ 1 := fun hOne =>
              hElse ⟨rfl, hOne⟩
            omega
          · have hDepth : 0 ≤ depth [c] := by
              simp [depth, hClosing]
            omega
        cases hRest :
            closedPart ⟨level + depth [c], true⟩ t with
        | ok part => simp [hRest, Except.map] at hOpen
        | error last =>
            rw [hRest] at hOpen
            have hLast : last = next := Except.error.inj hOpen
            subst hLast
            rcases ih hNext hRest with ⟨hState, hTake⟩
            rw [depth_cons, ← Int.add_assoc]
            refine ⟨hState, ?_⟩
            intro n
            cases n with
            | zero => simpa [depth] using hLevel
            | succ n =>
                rw [List.take_succ_cons, depth_cons,
                  ← Int.add_assoc]
                exact hTake n

/- A text that a group passes unchanged is balanced. -/
theorem staysOpen_of_passed
    {t : Text}
    (hPassed :
      closedPart ⟨1, true⟩ t = .error ⟨1, true⟩) :
    StaysOpen t ∧ depth t = 0 := by
  rcases of_closedPart_eq_error Int.one_pos hPassed with
    ⟨hState, hTake⟩
  rw [Parens.mk.injEq] at hState
  constructor
  · intro n
    have hBeginning := hTake n
    omega
  · omega

------------------------------------------------------------
-- Parameter Lists
------------------------------------------------------------

/- A list in parentheses, with none that closes behind. -/
theorem parameterList_closed
    {back : Text}
    (hBack : ')' ∉ back)
    (list : Text) :
    parameterList ('(' :: (list ++ ')' :: back)) = list := by
  have hAfter :
      after? '(' ('(' :: (list ++ ')' :: back)) =
        some (list ++ ')' :: back) := by
    simp [after?]
  unfold parameterList
  simp only [hAfter, cutLast?_append hBack]

/- A text up to its closing holds a closing one if it does. -/
theorem mem_upToClosing
    (level : Int)
    {t : Text} :
    ')' ∈ upToClosing ⟨level, true⟩ t ↔ ')' ∈ t := by
  unfold upToClosing
  cases hClosed : closedPart ⟨level, true⟩ t with
  | error next => rfl
  | ok part =>
      rcases exists_of_closedPart_eq_ok hClosed with
        ⟨inside, back, rfl, rfl, -⟩
      simp

/- Such a list ends at a parenthesis if no other follows. -/
theorem parameterList_eq_iff
    (list back : Text) :
    parameterList ('(' :: (list ++ ')' :: back)) = list ↔
      ')' ∉ back := by
  constructor
  · intro hList hBack
    rcases exists_last_mark hBack with
      ⟨front, rest, rfl, hRest⟩
    have hLonger :=
      parameterList_closed hRest (list ++ ')' :: front)
    rw [List.append_assoc, List.cons_append, hList] at hLonger
    exact absurd hLonger (by simp)
  · intro hBack
    exact parameterList_closed hBack list

/- A closing parenthesis ends a text, or leaves some open. -/
theorem upToClosing_closing
    (level : Int)
    (t : Text) :
    upToClosing ⟨1 + level, true⟩ (')' :: t) =
      ')' ::
        if level = 0 then []
        else upToClosing ⟨level, true⟩ t := by
  by_cases hLast : level = 0
  · unfold upToClosing
    rw [closedPart_cons, if_pos ⟨rfl, by omega⟩,
      if_pos hLast]
  · have hDepth : depth [')'] = -1 := by decide
    have hPassed :
        closedPart ⟨1 + level, true⟩ [')'] =
          .error ⟨level, true⟩ := by
      rw [closedPart_cons, if_neg (by omega), hDepth]
      simp [closedPart, Except.map]
    rw [if_neg hLast]
    exact upToClosing_append_of_error hPassed t

/- A text that closes has a beginning that closes too much. -/
theorem not_staysOpen_of_closed
    {t part : Text}
    (hClosed : closedPart ⟨1, true⟩ t = .ok part) :
    ¬StaysOpen t := by
  intro hStays
  rcases exists_of_closedPart_eq_ok hClosed with
    ⟨inside, back, rfl, rfl, hDepth⟩
  have hBeginning := hStays (inside ++ [')']).length
  have hSplit :
      inside ++ ')' :: back = (inside ++ [')']) ++ back := by
    simp
  rw [hSplit, List.take_left] at hBeginning
  omega

/-
  Where the list of a text ends that opens with one, when
  the parameters come first: at their own parenthesis if no
  beginning of them closes too much, and if they leave
  nothing open or no other parenthesis closes.
-/
theorem parameterList_upToClosing_iff
    (parameters after : Text) :
    parameterList
          (upToClosing .start
            ('(' :: (parameters ++ ')' :: after))) =
        parameters ↔
      StaysOpen parameters ∧
        (depth parameters = 0 ∨ ')' ∉ after) := by
  have hOpening :
      closedPart .start ['('] = .error ⟨1, true⟩ := by
    decide
  rw [← List.singleton_append,
    upToClosing_append_of_error hOpening]
  cases hParameters : closedPart ⟨1, true⟩ parameters with
  | ok part =>
      -- They close before their end, and are cut off there.
      have hPart :
          upToClosing ⟨1, true⟩ (parameters ++ ')' :: after) =
            part := by
        unfold upToClosing
        rw [closedPart_append, hParameters]
      have hStays := not_staysOpen_of_closed hParameters
      rcases exists_of_closedPart_eq_ok hParameters with
        ⟨inside, back, rfl, rfl, -⟩
      have hList :=
        parameterList_closed List.not_mem_nil inside
      rw [hPart, List.singleton_append, hList]
      simp [hStays]
  | error next =>
      rcases of_closedPart_eq_error Int.one_pos hParameters
        with ⟨rfl, hTake⟩
      have hStays : StaysOpen parameters := fun n => by
        have hBeginning := hTake n
        omega
      rw [upToClosing_append_of_error hParameters,
        upToClosing_closing, List.singleton_append,
        parameterList_eq_iff]
      by_cases hBalanced : depth parameters = 0
      · simp [hStays, hBalanced]
      · simp [hStays, hBalanced, mem_upToClosing]

------------------------------------------------------------
-- Parameters with Literals
------------------------------------------------------------

/- The parentheses of a parameter list. -/
def parentheses : Brackets :=
  ⟨'(', ')'⟩

/- Text without parentheses leaves a group as it is. -/
theorem closedPart_of_plain
    {t : Text}
    (hOpening : '(' ∉ t)
    (hClosing : ')' ∉ t)
    (state : Parens) :
    closedPart state t = .error state := by
  induction t with
  | nil => rfl
  | cons c t ih =>
      rw [List.mem_cons, not_or] at hOpening hClosing
      rw [closedPart_cons_of_plain (Ne.symm hOpening.1)
        (Ne.symm hClosing.1), ih hOpening.2 hClosing.2]
      rfl

/- So does a text whose literals hold no parentheses. -/
theorem Nested.closedPart_text
    (content : Nested [parentheses])
    (hPlain :
      ∀ part ∈ content.literals,
        '(' ∉ part.text ∧ ')' ∉ part.text)
    {level : Int}
    (hLevel : 0 < level) :
    closedPart ⟨level, true⟩ content.text =
      .error ⟨level, true⟩ := by
  induction content generalizing level with
  | done => rfl
  | mark c isMark rest ih =>
      have hMark := isMark.2 parentheses List.mem_cons_self
      rw [Nested.text,
        closedPart_cons_of_plain hMark.1 hMark.2,
        ih hPlain hLevel]
      rfl
  | literal part rest ih =>
      rw [Nested.literals, List.forall_mem_cons] at hPlain
      rw [Nested.text, closedPart_append,
        closedPart_of_plain hPlain.1.1 hPlain.1.2]
      simp only
      rw [ih hPlain.2 hLevel]
      rfl
  | group kind isKind inside rest ihInside ihRest =>
      rw [Nested.literals, List.forall_mem_append] at hPlain
      obtain rfl := List.mem_singleton.mp isKind
      have hOpening : depth ['('] = 1 := by decide
      have hClosing : depth [')'] = -1 := by decide
      change
        closedPart _ ('(' :: (inside.text ++
          ')' :: rest.text)) = _
      rw [closedPart_cons, if_neg (by simp), hOpening,
        closedPart_append, ihInside hPlain.1 (by omega)]
      simp only
      rw [closedPart_cons, if_neg (by omega), hClosing,
        Int.add_neg_cancel_right, ihRest hPlain.2 hLevel]
      rfl

/-
  The parameters of a signature that reads `(`, parameters,
  `)` and more, on as many lines as a capture may read, are
  captured with their line breaks as spaces exactly if their
  parentheses, those in literals included, stay open and
  leave none open before another one closes.  Literals
  without parentheses are never in the way.
-/
theorem parameterList_capture_iff
    (lines : List Text)
    (hLines : ∀ line ∈ lines, '\n' ∉ line)
    {index paren window : Nat}
    (parameters : Nested [parentheses])
    {after : Text}
    (hReach :
      reach lines index paren window =
        '(' :: (parameters.text ++ ')' :: after)) :
    (parameterList (capture lines index paren window) =
          unbroken parameters.text ↔
        StaysOpen parameters.text ∧
          (depth parameters.text = 0 ∨ ')' ∉ after)) ∧
      ((∀ part ∈ parameters.literals,
          '(' ∉ part.text ∧ ')' ∉ part.text) →
        parameterList (capture lines index paren window) =
          unbroken parameters.text) := by
  have hText :
      unbroken (reach lines index paren window) =
        '(' :: (unbroken parameters.text ++
          ')' :: unbroken after) := by
    rw [hReach, ← List.singleton_append, unbroken_append,
      unbroken_append]
    rfl
  have hCaptured :
      parameterList (capture lines index paren window) =
            unbroken parameters.text ↔
        StaysOpen parameters.text ∧
          (depth parameters.text = 0 ∨ ')' ∉ after) := by
    rw [capture_eq hLines, hText,
      parameterList_upToClosing_iff, staysOpen_unbroken,
      depth_unbroken, mem_unbroken (by decide) (by decide)]
  refine ⟨hCaptured, ?_⟩
  intro hPlain
  have hBalanced :=
    staysOpen_of_passed
      (parameters.closedPart_text hPlain Int.one_pos)
  exact hCaptured.mpr ⟨hBalanced.1, Or.inl hBalanced.2⟩

/- A list of two lines, with literals and a group. -/
def pagedParameters : Nested [parentheses] :=
  (Nested.literal
      (.ofText "a, (b)".toList (by decide) (by decide))
      (Nested.marks
        (.group parentheses List.mem_cons_self
          (Nested.done.marks "int, int".toList (by decide))
          (Nested.done.marks " page".toList (by decide)))
        ",\n    ".toList (by decide))).marks
    "string by = ".toList (by decide)

/- The lines that hold it. -/
def pagedLines : List Text :=
  ["    public int List(string by = \"a, (b)\",".toList,
    "    (int, int) page) => Count(by);".toList]

/- The list is captured up to its own parenthesis. -/
theorem parameterList_pagedLines :
    reach pagedLines 0 19 10 =
        '(' ::
          (pagedParameters.text ++
            ')' :: " => Count(by);".toList) ∧
      parameterList (capture pagedLines 0 19 10) =
        ("string by = \"a, (b)\",     " ++
          "(int, int) page").toList := by
  have hReach :
      reach pagedLines 0 19 10 =
        '(' ::
          (pagedParameters.text ++
            ')' :: " => Count(by);".toList) := by
    decide +kernel
  have hBalanced :=
    staysOpen_of_passed (t := pagedParameters.text) rfl
  have hCaptured :=
    (parameterList_capture_iff pagedLines (by decide)
        pagedParameters hReach).1.mpr
      ⟨hBalanced.1, Or.inl hBalanced.2⟩
  exact ⟨hReach, hCaptured⟩

/- A default that closes a parenthesis. -/
def closingDefault : Nested [parentheses] :=
  (Nested.literal
      (.ofText ")".toList (by decide) (by decide))
      (Nested.done.marks ", int at".toList (by decide))).marks
    "string mark = ".toList (by decide)

/- The line of the method. -/
def closingLine : Text :=
  "    public int Cut(string mark = \")\", int at) => at;".toList

/- The parameters end in the default. -/
theorem parameterList_closingLine :
    reach [closingLine] 0 18 10 =
        '(' ::
          (closingDefault.text ++ ')' :: " => at;".toList) ∧
      unbroken closingDefault.text =
        "string mark = \")\", int at".toList ∧
      parameterList (capture [closingLine] 0 18 10) =
        "string mark = \"".toList := by
  decide +kernel

end Signature

end RouteAtlas
