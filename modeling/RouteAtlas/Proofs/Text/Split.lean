import Mathlib
import RouteAtlas.Proofs.Text.Words

/-
  Splitting a text at a mark, and joining the pieces.

  The two are inverse to each other: pieces that do not hold
  the mark are found again in the text joined from them.
  What a mark separates is found before and after it.

  Main statements:
    * `not_mem_of_mem_splitOn`
    * `splitOn_joinWith`
    * `after?_append`
    * `cutLast?_append`
    * `cut?_append`
    * `infix_of_append_mark`
-/

------------------------------------------------------------
-- Splitting
------------------------------------------------------------

namespace RouteAtlas

namespace Text

variable {mark : Char}

/- There is always at least one piece. -/
theorem splitOn_ne_nil
    (t : Text) :
    splitOn mark t ≠ [] := by
  cases t with
  | nil => simp [splitOn]
  | cons c rest =>
      unfold splitOn
      split
      · simp
      · split <;> simp

@[simp] theorem splitOn_mark_cons
    (rest : Text) :
    splitOn mark (mark :: rest) =
      [] :: splitOn mark rest := by
  rw [splitOn]
  cases hRest : splitOn mark rest with
  | nil => exact absurd hRest (splitOn_ne_nil rest)
  | cons piece pieces => simp

/- A character that is no mark goes to the first piece. -/
theorem splitOn_cons_of_ne
    {c : Char}
    {rest piece : Text}
    {pieces : List Text}
    (hMark : c ≠ mark)
    (hRest : splitOn mark rest = piece :: pieces) :
    splitOn mark (c :: rest) =
      (c :: piece) :: pieces := by
  rw [splitOn, hRest]
  simp [hMark]

/- No piece holds the mark. -/
theorem not_mem_of_mem_splitOn
    {t piece : Text}
    (hPiece : piece ∈ splitOn mark t) :
    mark ∉ piece := by
  induction t generalizing piece with
  | nil =>
      have hEmpty : piece = [] := by
        simpa [splitOn] using hPiece
      simp [hEmpty]
  | cons c rest ih =>
      by_cases hMark : c = mark
      · subst hMark
        rw [splitOn_mark_cons, List.mem_cons] at hPiece
        rcases hPiece with rfl | hLater
        · simp
        · exact ih hLater
      · cases hRest : splitOn mark rest with
        | nil => exact absurd hRest (splitOn_ne_nil rest)
        | cons first pieces =>
            rw [splitOn_cons_of_ne hMark hRest,
              List.mem_cons] at hPiece
            rcases hPiece with rfl | hLater
            · have hFirst : mark ∉ first :=
                ih (by simp [hRest])
              simp [hFirst, Ne.symm hMark]
            · exact ih (by simp [hRest, hLater])

/- A text without the mark is a single piece. -/
theorem splitOn_of_not_mem
    {t : Text}
    (hMark : mark ∉ t) :
    splitOn mark t = [t] := by
  induction t with
  | nil => rfl
  | cons c rest ih =>
      rw [List.mem_cons, not_or] at hMark
      exact splitOn_cons_of_ne (Ne.symm hMark.1)
        (ih hMark.2)

/- The pieces on both sides of a mark. -/
theorem splitOn_append
    (front rest : Text) :
    splitOn mark (front ++ mark :: rest) =
      splitOn mark front ++ splitOn mark rest := by
  induction front with
  | nil => exact splitOn_mark_cons rest
  | cons c front ih =>
      by_cases hMark : c = mark
      · subst hMark
        rw [List.cons_append, splitOn_mark_cons, ih,
          splitOn_mark_cons, List.cons_append]
      · cases hFront : splitOn mark front with
        | nil => exact absurd hFront (splitOn_ne_nil front)
        | cons piece pieces =>
            rw [hFront, List.cons_append] at ih
            rw [List.cons_append, splitOn_cons_of_ne hMark ih,
              splitOn_cons_of_ne hMark hFront,
              List.cons_append]

/- The first mark ends the first piece. -/
theorem splitOn_append_mark
    {piece : Text}
    (hMark : mark ∉ piece)
    (rest : Text) :
    splitOn mark (piece ++ mark :: rest) =
      piece :: splitOn mark rest := by
  rw [splitOn_append, splitOn_of_not_mem hMark]
  rfl

------------------------------------------------------------
-- Joining
------------------------------------------------------------

@[simp] theorem joinWith_nil
    (separator : Text) :
    joinWith separator [] = [] := by
  rfl

@[simp] theorem joinWith_singleton
    (separator part : Text) :
    joinWith separator [part] = part := by
  simp [joinWith, List.intercalate]

theorem joinWith_cons_cons
    (separator first second : Text)
    (parts : List Text) :
    joinWith separator (first :: second :: parts) =
      first ++ separator ++
        joinWith separator (second :: parts) := by
  simp [joinWith, List.intercalate, List.append_assoc]

theorem joinWith_append
    (separator : Text)
    {front back : List Text}
    (hFront : front ≠ [])
    (hBack : back ≠ []) :
    joinWith separator (front ++ back) =
      joinWith separator front ++ separator ++
        joinWith separator back := by
  induction front with
  | nil => exact absurd rfl hFront
  | cons first front ih =>
      cases front with
      | nil =>
          cases back with
          | nil => exact absurd rfl hBack
          | cons second back =>
              rw [List.singleton_append, joinWith_cons_cons,
                joinWith_singleton]
      | cons second front =>
          rw [List.cons_append, List.cons_append,
            joinWith_cons_cons, ← List.cons_append,
            ih (List.cons_ne_nil second front),
            joinWith_cons_cons]
          simp only [List.append_assoc]

/- A mark in front of a joined text begins it with nothing. -/
theorem cons_joinWith
    {parts : List Text}
    (hSome : parts ≠ []) :
    mark :: joinWith [mark] parts =
      joinWith [mark] ([] :: parts) := by
  cases parts with
  | nil => exact absurd rfl hSome
  | cons first parts =>
      rw [joinWith_cons_cons]
      rfl

/- Joined pieces without the mark are found again. -/
theorem splitOn_joinWith
    {parts : List Text}
    (hParts : parts ≠ [])
    (hMark : ∀ part ∈ parts, mark ∉ part) :
    splitOn mark (joinWith [mark] parts) = parts := by
  induction parts with
  | nil => exact absurd rfl hParts
  | cons first parts ih =>
      have hFirst : mark ∉ first := hMark first (by simp)
      cases parts with
      | nil =>
          rw [joinWith_singleton]
          exact splitOn_of_not_mem hFirst
      | cons second parts =>
          have hRest :
              splitOn mark
                  (joinWith [mark] (second :: parts)) =
                second :: parts :=
            ih (by simp) fun part hPart =>
              hMark part (List.mem_cons_of_mem first hPart)
          rw [joinWith_cons_cons, List.append_assoc]
          change
            splitOn mark
                (first ++ mark ::
                  joinWith [mark] (second :: parts)) = _
          rw [splitOn_append_mark hFirst, hRest]

/- A text joined from unmarked parts is not marked. -/
theorem not_mem_joinWith
    {c : Char}
    {separator : Text}
    {parts : List Text}
    (hSeparator : c ∉ separator)
    (hParts : ∀ part ∈ parts, c ∉ part) :
    c ∉ joinWith separator parts := by
  induction parts with
  | nil => simp
  | cons first parts ih =>
      have hFirst : c ∉ first := hParts first (by simp)
      cases parts with
      | nil => simpa using hFirst
      | cons second parts =>
          have hRest :
              c ∉ joinWith separator (second :: parts) :=
            ih fun part hPart =>
              hParts part (List.mem_cons_of_mem first hPart)
          rw [joinWith_cons_cons]
          simp [hFirst, hSeparator, hRest]

/- Joined parts do not end with the mark between them. -/
theorem getLast?_joinWith_ne
    {parts : List Text}
    (hParts : ∀ part ∈ parts, part ≠ [] ∧ mark ∉ part) :
    (joinWith [mark] parts).getLast? ≠ some mark := by
  induction parts using List.reverseRecOn with
  | nil => exact nofun
  | append_singleton front last ih =>
      have hLast := hParts last (by simp)
      have hEnd :
          (joinWith [mark] (front ++ [last])).getLast? =
            last.getLast? := by
        by_cases hFront : front = []
        · subst hFront
          rw [List.nil_append, joinWith_singleton]
        · rw [joinWith_append _ hFront (List.cons_ne_nil _ _),
            joinWith_singleton,
            List.getLast?_append_of_ne_nil _ hLast.1]
      rw [hEnd]
      exact fun hMark => hLast.2 (List.mem_of_getLast? hMark)

------------------------------------------------------------
-- Around a Mark
------------------------------------------------------------

theorem after?_append
    {front : Text}
    (hMark : mark ∉ front)
    (rest : Text) :
    after? mark (front ++ mark :: rest) = some rest := by
  induction front with
  | nil => simp [after?]
  | cons c front ih =>
      rw [List.mem_cons, not_or] at hMark
      rw [List.cons_append, after?, ih hMark.2]
      simp [Ne.symm hMark.1]

/- Nothing follows a mark that is not there. -/
theorem after?_eq_none
    {t : Text}
    (hMark : mark ∉ t) :
    after? mark t = none := by
  induction t with
  | nil => rfl
  | cons c t ih =>
      rw [List.mem_cons, not_or] at hMark
      rw [after?, ih hMark.2]
      simp [Ne.symm hMark.1]

/- Text without the mark is passed. -/
theorem after?_append_of_not_mem
    {front : Text}
    (hMark : mark ∉ front)
    (back : Text) :
    after? mark (front ++ back) = after? mark back := by
  induction front with
  | nil => rfl
  | cons c front ih =>
      rw [List.mem_cons, not_or] at hMark
      rw [List.cons_append, after?, ih hMark.2]
      simp [Ne.symm hMark.1]

theorem before_append
    {front : Text}
    (hMark : mark ∉ front)
    (rest : Text) :
    before mark (front ++ mark :: rest) = front := by
  unfold before
  rw [List.takeWhile_append_of_pos]
  · simp
  · intro c hChar
    have hNe : c ≠ mark := by
      rintro rfl
      exact hMark hChar
    simpa using hNe

/- What follows a mark comes after the text up to it. -/
theorem after?_split
    {t rest : Text}
    (hAfter : after? mark t = some rest) :
    ∃ front, t = front ++ mark :: rest ∧ mark ∉ front := by
  induction t with
  | nil => simp [after?] at hAfter
  | cons c t ih =>
      rw [after?] at hAfter
      split at hAfter
      next hMark =>
        rw [eq_of_beq hMark, Option.some.inj hAfter]
        exact ⟨[], rfl, List.not_mem_nil⟩
      next hOther =>
        rcases ih hAfter with ⟨front, rfl, hFront⟩
        refine ⟨c :: front, rfl, ?_⟩
        rw [List.mem_cons, not_or]
        exact ⟨fun hSame => hOther (by simp [hSame]), hFront⟩

theorem mem_of_after?
    {t rest : Text}
    (hAfter : after? mark t = some rest) :
    mark ∈ t := by
  rcases after?_split hAfter with ⟨front, rfl, -⟩
  simp

/- What precedes every mark of a text precedes this one. -/
theorem mem_of_append_mark
    {c : Char}
    {before after front back : Text}
    (hText : before ++ mark :: after = front ++ c :: back)
    (hFront : mark ∉ front)
    (hChar : c ≠ mark) :
    c ∈ before := by
  induction before generalizing front with
  | nil =>
      cases front with
      | nil =>
          rw [List.nil_append, List.nil_append,
            List.cons.injEq] at hText
          exact absurd hText.1.symm hChar
      | cons d front =>
          rw [List.nil_append, List.cons_append,
            List.cons.injEq] at hText
          exact absurd (by simp [hText.1]) hFront
  | cons d before ih =>
      cases front with
      | nil =>
          rw [List.cons_append, List.nil_append,
            List.cons.injEq] at hText
          exact hText.1 ▸ List.mem_cons_self
      | cons e front =>
          rw [List.cons_append, List.cons_append,
            List.cons.injEq] at hText
          rw [List.mem_cons, not_or] at hFront
          exact List.mem_cons_of_mem d
            (ih hText.2 hFront.2)

/- Without the mark there is no last one. -/
theorem cutLast?_eq_none
    {t : Text}
    (hMark : mark ∉ t) :
    cutLast? mark t = none := by
  induction t with
  | nil => rfl
  | cons c t ih =>
      rw [List.mem_cons, not_or] at hMark
      rw [cutLast?, ih hMark.2]
      simp [Ne.symm hMark.1]

/- A text is cut at the last of its marks. -/
theorem cutLast?_append
    {back : Text}
    (hMark : mark ∉ back)
    (front : Text) :
    cutLast? mark (front ++ mark :: back) =
      some (front, back) := by
  induction front with
  | nil => simp [cutLast?, cutLast?_eq_none hMark]
  | cons c front ih => rw [List.cons_append, cutLast?, ih]

/- A text that holds a mark has a last one. -/
theorem exists_last_mark
    {t : Text}
    (hMark : mark ∈ t) :
    ∃ front back, t = front ++ mark :: back ∧ mark ∉ back := by
  induction t with
  | nil => cases hMark
  | cons c t ih =>
      by_cases hLater : mark ∈ t
      · rcases ih hLater with ⟨front, back, rfl, hBack⟩
        exact ⟨c :: front, back, rfl, hBack⟩
      · have hHere : mark = c :=
          (List.mem_cons.mp hMark).resolve_right hLater
        exact ⟨[], t, by rw [hHere]; rfl, hLater⟩

/- A text without the mark lies on one side of it. -/
theorem infix_of_append_mark
    {needle front back : Text}
    (hMark : mark ∉ needle)
    (hInfix : needle <:+: front ++ mark :: back) :
    needle <:+: front ∨ needle <:+: back := by
  rcases hInfix with ⟨before, after, hText⟩
  rcases List.append_eq_append_iff.mp hText with
    ⟨rest, hFront, -⟩ | ⟨rest, hNeedle, hBack⟩
  · exact Or.inl ⟨before, rest, hFront.symm⟩
  · cases rest with
    | nil =>
        rw [List.append_nil] at hNeedle
        exact Or.inl ⟨before, [], by simp [hNeedle]⟩
    | cons c rest =>
        rw [List.cons_append, List.cons.injEq] at hBack
        rcases hBack with ⟨rfl, rfl⟩
        rcases List.append_eq_append_iff.mp hNeedle with
          ⟨tail, -, hTail⟩ | ⟨tail, -, hTail⟩
        · exact absurd (by simp [hTail]) hMark
        · cases tail with
          | nil =>
              rw [List.nil_append] at hTail
              exact absurd (by simp [← hTail]) hMark
          | cons d tail =>
              rw [List.cons_append, List.cons.injEq] at hTail
              exact Or.inr
                ⟨tail, after, by simp [hTail.2]⟩

/- A mark of a text is its first one, or stands behind it. -/
theorem first_or_later_of_append_mark
    {first rest front back : Text}
    (hFirst : mark ∉ first)
    (hText : first ++ mark :: rest = front ++ mark :: back) :
    (front = first ∧ back = rest) ∨
      ∃ between,
        front = first ++ mark :: between ∧
          rest = between ++ mark :: back := by
  induction first generalizing front with
  | nil =>
      cases front with
      | nil => exact .inl ⟨rfl, (List.cons.inj hText).2.symm⟩
      | cons c front =>
          rcases List.cons.inj hText with ⟨rfl, hRest⟩
          exact .inr ⟨front, rfl, hRest⟩
  | cons c first ih =>
      rw [List.mem_cons, not_or] at hFirst
      cases front with
      | nil => exact absurd (List.cons.inj hText).1.symm hFirst.1
      | cons d front =>
          rcases List.cons.inj hText with ⟨rfl, hTail⟩
          rcases ih hFirst.2 hTail with
            ⟨rfl, rfl⟩ | ⟨between, rfl, rfl⟩
          · exact .inl ⟨rfl, rfl⟩
          · exact .inr ⟨between, rfl, rfl⟩

/- What begins with a mark begins behind text without it. -/
theorem infix_append_of_not_mem
    {needle front back : Text}
    (hMark : mark ∉ front) :
    mark :: needle <:+: front ++ back ↔
      mark :: needle <:+: back := by
  induction front with
  | nil => rfl
  | cons c front ih =>
      rw [List.mem_cons, not_or] at hMark
      rw [List.cons_append, List.infix_cons_iff,
        List.cons_prefix_cons, ih hMark.2]
      simp [hMark.1]

/- A beginning without the mark ends before it. -/
theorem prefix_of_append_mark
    {needle front back : Text}
    (hMark : mark ∉ needle)
    (hPrefix : needle <+: front ++ mark :: back) :
    needle <+: front := by
  rcases hPrefix with ⟨after, hText⟩
  rcases List.append_eq_append_iff.mp hText with
    ⟨rest, hFront, -⟩ | ⟨rest, hNeedle, hBack⟩
  · exact ⟨rest, hFront.symm⟩
  · cases rest with
    | nil =>
        rw [List.append_nil] at hNeedle
        exact ⟨[], by rw [hNeedle, List.append_nil]⟩
    | cons c rest =>
        rw [List.cons_append, List.cons.injEq] at hBack
        exact absurd (by simp [hNeedle, hBack.1]) hMark

/- A text is cut where its first mark opens a needle. -/
theorem cut?_append
    {needle front : Text}
    (hMark : mark ∉ front)
    (back : Text) :
    cut? (mark :: needle)
        (front ++ mark :: (needle ++ back)) =
      some (front, back) := by
  induction front with
  | nil =>
      have hNeedle :
          (mark :: needle).isPrefixOf?
              (mark :: (needle ++ back)) =
            some back :=
        isPrefixOf?_append (mark :: needle) back
      rw [List.nil_append, cut?, hNeedle]
  | cons c front ih =>
      rw [List.mem_cons, not_or] at hMark
      rw [List.cons_append, cut?, ih hMark.2]
      simp [List.isPrefixOf?, hMark.1]

theorem cut?_eq_none
    {needle t : Text}
    (hMark : mark ∉ t) :
    cut? (mark :: needle) t = none := by
  induction t with
  | nil => rfl
  | cons c t ih =>
      rw [List.mem_cons, not_or] at hMark
      rw [cut?, ih hMark.2]
      simp [List.isPrefixOf?, hMark.1]

/- A text is cut at a mark that it holds. -/
theorem exists_cut?
    {t : Text}
    (hMark : mark ∈ t) :
    ∃ head tail,
      cut? [mark] t = some (head, tail) ∧
        t = head ++ mark :: tail := by
  rcases List.eq_append_cons_of_mem hMark with
    ⟨head, tail, rfl, hHead⟩
  exact ⟨head, tail, cut?_append hHead tail, rfl⟩

end Text

end RouteAtlas
