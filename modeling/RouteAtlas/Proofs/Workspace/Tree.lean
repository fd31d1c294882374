import Mathlib
import RouteAtlas.Proofs.Except
import RouteAtlas.Proofs.Pairs
import RouteAtlas.Workspace.Disk

/-
  Places in a tree of directories and files.

  An entry that is put at a place is found there.  As long
  as no directory is replaced, all directories stay, and
  names that led to one place lead to it still.

  Main statements:
    * `place?_put?`
    * `keepsDirectories_put?`
    * `nested_of_follow`
    * `follow_of_keepsDirectories`
-/

------------------------------------------------------------
-- Places
------------------------------------------------------------

namespace RouteAtlas

namespace Entry

/- The entry at a place, which is named from the tree on. -/
def place? :
    List Text → Entry → Option Entry
  | [], entry => some entry
  | _ :: _, .file _ => none
  | name :: names, .directory entries =>
      (Pairs.get? name entries).bind (place? names)

theorem place?_append
    (front names : List Text)
    (tree : Entry) :
    place? (front ++ names) tree =
      (place? front tree).bind (place? names) := by
  induction front generalizing tree with
  | nil => rfl
  | cons name front ih =>
      cases tree with
      | file content => rfl
      | directory entries =>
          rw [List.cons_append, place?, place?]
          cases Pairs.get? name entries with
          | none => rfl
          | some child => exact ih child

theorem place?_snoc
    {names : List Text}
    {tree : Entry}
    {entries : List (Text × Entry)}
    (hDirectory : place? names tree = some (.directory entries))
    (name : Text) :
    place? (names ++ [name]) tree =
      Pairs.get? name entries := by
  rw [place?_append, hDirectory, Option.bind_some, place?]
  cases Pairs.get? name entries with
  | none => rfl
  | some child => rfl

theorem place?_nested
    (entry : Entry)
    (names : List Text) :
    place? names (entry.nested names) = some entry := by
  induction names with
  | nil => rfl
  | cons name names ih =>
      unfold nested
      rw [List.foldr_cons, place?, Pairs.get?,
        if_pos (beq_self_eq_true name)]
      exact ih

------------------------------------------------------------
-- Putting
------------------------------------------------------------

/- An entry is found where it was put. -/
theorem place?_put?
    {entry tree changed : Entry}
    {names : List Text}
    (hPut : put? entry names tree = some changed) :
    place? names changed = some entry := by
  induction names generalizing tree changed with
  | nil =>
      rw [put?] at hPut
      rw [← Option.some.inj hPut, place?]
  | cons name names ih =>
      cases tree with
      | file content => cases hPut
      | directory entries =>
          rw [put?] at hPut
          cases hChild : Pairs.get? name entries with
          | none =>
              simp only [hChild] at hPut
              rw [← Option.some.inj hPut, place?,
                Pairs.get?_put, if_pos (beq_self_eq_true name)]
              exact place?_nested entry names
          | some child =>
              simp only [hChild, Option.map_eq_some_iff]
                at hPut
              rcases hPut with ⟨child', hPut, rfl⟩
              rw [place?, Pairs.get?_put,
                if_pos (beq_self_eq_true name)]
              exact ih hPut

/- Whether all directories of a tree are in another one. -/
def KeepsDirectories
    (tree changed : Entry) :
    Prop :=
  ∀ names entries,
    place? names tree = some (.directory entries) →
      ∃ entries',
        place? names changed = some (.directory entries')

/- Directories stay if none of them is replaced. -/
theorem keepsDirectories_put?
    {entry tree changed : Entry}
    {names : List Text}
    (hPut : put? entry names tree = some changed)
    (hFree :
      ∀ entries,
        place? names tree ≠ some (.directory entries)) :
    KeepsDirectories tree changed := by
  induction names generalizing tree changed with
  | nil =>
      intro others found hFound
      cases tree with
      | directory entries =>
          exact absurd rfl (hFree entries)
      | file content =>
          cases others <;> cases hFound
  | cons name names ih =>
      cases tree with
      | file content => cases hPut
      | directory entries =>
          rw [put?] at hPut
          intro others found hFound
          cases others with
          | nil =>
              split at hPut
              · rcases Option.map_eq_some_iff.mp hPut with
                  ⟨child, -, rfl⟩
                exact ⟨_, rfl⟩
              · rw [← Option.some.inj hPut]
                exact ⟨_, rfl⟩
          | cons other others =>
              rw [place?] at hFound
              cases hChild : Pairs.get? name entries with
              | none =>
                  simp only [hChild] at hPut
                  rw [← Option.some.inj hPut, place?,
                    Pairs.get?_put]
                  by_cases hSame : (name == other) = true
                  · rw [beq_iff_eq.mp hSame] at hChild
                    rw [hChild] at hFound
                    cases hFound
                  · rw [if_neg hSame]
                    exact ⟨found, hFound⟩
              | some child =>
                  simp only [hChild, Option.map_eq_some_iff]
                    at hPut
                  rcases hPut with ⟨child', hPut, rfl⟩
                  rw [place?, Pairs.get?_put]
                  by_cases hSame : (name == other) = true
                  · rw [if_pos hSame]
                    rw [beq_iff_eq.mp hSame] at hChild
                    rw [hChild] at hFound
                    refine ih hPut ?_ others found hFound
                    intro inner hInner
                    refine hFree inner ?_
                    rw [place?, beq_iff_eq.mp hSame, hChild]
                    exact hInner
                  · rw [if_neg hSame]
                    exact ⟨found, hFound⟩

/- An entry that is there already changes nothing. -/
theorem put?_of_place?
    {entry tree : Entry}
    {names : List Text}
    (hPlace : place? names tree = some entry) :
    put? entry names tree = some tree := by
  induction names generalizing tree with
  | nil =>
      rw [place?] at hPlace
      rw [put?, hPlace]
  | cons name names ih =>
      cases tree with
      | file content => cases hPlace
      | directory entries =>
          rw [place?] at hPlace
          rcases Option.bind_eq_some_iff.mp hPlace with
            ⟨child, hChild, hInner⟩
          rw [put?]
          simp only [hChild, ih hInner, Option.map_some]
          rw [Pairs.put_of_get? hChild]

/- Whether an entry can be put does not depend on it. -/
theorem isSome_put?
    (entry other : Entry)
    (names : List Text)
    (tree : Entry) :
    (put? entry names tree).isSome =
      (put? other names tree).isSome := by
  induction names generalizing tree with
  | nil => rfl
  | cons name names ih =>
      cases tree with
      | file content => rfl
      | directory entries =>
          rw [put?, put?]
          cases Pairs.get? name entries with
          | none => rfl
          | some child =>
              simp only [Option.isSome_map]
              exact ih child

------------------------------------------------------------
-- Following
------------------------------------------------------------

/-
  Whether entries, the innermost first, stand in one another
  in a tree, and by which names, the innermost first.
-/
inductive Nested
    (tree : Entry) :
    List Text → List Entry → Prop
  | outermost :
      Nested tree [] [tree]
  | inner
      {done : List Text}
      {above : List Entry}
      {entries : List (Text × Entry)}
      {name : Text}
      {child : Entry}
      (hAbove : Nested tree done (.directory entries :: above))
      (hChild : Pairs.get? name entries = some child) :
      Nested tree (name :: done)
        (child :: .directory entries :: above)

/- The innermost entry stands at the place of its names. -/
theorem Nested.place?_eq
    {tree current : Entry}
    {done : List Text}
    {above : List Entry}
    (hNested : Nested tree done (current :: above)) :
    place? done.reverse tree = some current := by
  generalize hStack : current :: above = stack at hNested
  induction hNested generalizing current above with
  | outermost =>
      rw [List.cons.inj hStack |>.1]
      rfl
  | inner hAbove hChild ih =>
      rw [List.reverse_cons, place?_snoc (ih rfl), hChild,
        (List.cons.inj hStack).1]

/- The names that are left after following some more. -/
def namesAfter
    (done names : List Text) :
    List Text :=
  names.foldl
    (fun done name =>
      if name == ['.', '.'] then done.tail else name :: done)
    done

/-
  The entries that a name leads to: one deeper, or those
  around.
-/
def enter
    (name : Text) :
    List Entry → Except Obstacle (List Entry)
  | [] => .error .missing
  | .file _ :: _ => .error .notDirectory
  | .directory entries :: above =>
      if name == ['.', '.'] then
        .ok
          (if above.isEmpty then [.directory entries]
          else above)
      else if isLongName name then
        .error .nameTooLong
      else
        match Pairs.get? name entries with
        | none => .error .missing
        | some child =>
            .ok (child :: .directory entries :: above)

theorem follow_cons
    (stack : List Entry)
    (name : Text)
    (names : List Text) :
    follow stack (name :: names) =
      (enter name stack).bind (follow · names) := by
  cases stack with
  | nil => rfl
  | cons current above =>
      cases current with
      | file content => rfl
      | directory entries =>
          rw [enter]
          by_cases hDots : (name == ['.', '.']) = true
          · cases above with
            | nil =>
                rw [follow, if_pos hDots, if_pos hDots]
                rfl
            | cons outer above =>
                rw [follow, if_pos hDots, if_pos hDots]
                rfl
          · rw [follow.eq_def, if_neg hDots]
            simp only [if_neg hDots]
            by_cases hLong : isLongName name = true
            · simp only [if_pos hLong]
              rfl
            · simp only [if_neg hLong]
              cases Pairs.get? name entries with
              | none => rfl
              | some child => rfl

theorem namesAfter_dots
    (done : List Text) :
    namesAfter done [['.', '.']] = done.tail := by
  rfl

theorem namesAfter_plain
    {name : Text}
    (hPlain : (name == ['.', '.']) ≠ true)
    (done : List Text) :
    namesAfter done [name] = name :: done := by
  unfold namesAfter
  rw [List.foldl_cons, if_neg hPlain]
  rfl

/- Only a directory can be entered from. -/
theorem exists_of_enter
    {name : Text}
    {stack next : List Entry}
    (hEnter : enter name stack = .ok next) :
    ∃ entries above, stack = .directory entries :: above := by
  cases stack with
  | nil => cases hEnter
  | cons current above =>
      cases current with
      | file content => cases hEnter
      | directory entries => exact ⟨entries, above, rfl⟩

theorem Nested.enter
    {tree : Entry}
    {done : List Text}
    {stack next : List Entry}
    {name : Text}
    (hNested : Nested tree done stack)
    (hEnter : enter name stack = .ok next) :
    Nested tree (namesAfter done [name]) next := by
  rcases exists_of_enter hEnter with ⟨entries, above, rfl⟩
  rw [Entry.enter] at hEnter
  by_cases hDots : (name == ['.', '.']) = true
  · rw [if_pos hDots] at hEnter
    rw [beq_iff_eq.mp hDots, namesAfter_dots]
    cases hNested with
    | outermost =>
        rw [← Except.ok.inj hEnter]
        exact .outermost
    | inner hAbove hChild =>
        rw [← Except.ok.inj hEnter]
        exact hAbove
  · rw [if_neg hDots] at hEnter
    rw [namesAfter_plain hDots]
    split at hEnter
    · cases hEnter
    · split at hEnter
      next => cases hEnter
      next child hChild =>
        rw [← Except.ok.inj hEnter]
        exact .inner hNested hChild

/- The entry that is followed to stands where it should. -/
theorem nested_of_follow
    {tree entry : Entry}
    {done names : List Text}
    {stack : List Entry}
    (hNested : Nested tree done stack)
    (hFollow : follow stack names = .ok entry) :
    ∃ above,
      Nested tree (namesAfter done names) (entry :: above) := by
  induction names generalizing done stack with
  | nil =>
      cases stack with
      | nil => cases hFollow
      | cons current above =>
          rw [follow, Except.ok.injEq] at hFollow
          subst hFollow
          exact ⟨above, hNested⟩
  | cons name names ih =>
      rw [follow_cons] at hFollow
      rcases exists_of_bind_eq_ok hFollow with
        ⟨next, hEnter, hRest⟩
      exact ih (hNested.enter hEnter) hRest

theorem place?_of_follow
    {tree entry : Entry}
    {names : List Text}
    (hFollow : follow [tree] names = .ok entry) :
    place? (namesAfter [] names).reverse tree = some entry := by
  rcases nested_of_follow .outermost hFollow with
    ⟨above, hNested⟩
  exact hNested.place?_eq

------------------------------------------------------------
-- Following in a Changed Tree
------------------------------------------------------------

section Changed

variable {tree changed : Entry}
variable {done : List Text}
variable {stack stack' : List Entry}

/- Where there was a directory, there still is one. -/
theorem Nested.keeps
    {entries : List (Text × Entry)}
    {above : List Entry}
    (hKeeps : KeepsDirectories tree changed)
    (hNested : Nested tree done (.directory entries :: above))
    (hNested' : Nested changed done stack') :
    ∃ entries' above', stack' = .directory entries' :: above' := by
  rcases hKeeps _ _ hNested.place?_eq with ⟨entries', hPlace⟩
  cases hNested' with
  | outermost =>
      rw [List.reverse_nil, place?, Option.some.injEq] at hPlace
      exact ⟨entries', [], by rw [hPlace]⟩
  | inner hAbove hChild =>
      have hSame :=
        (Nested.inner hAbove hChild).place?_eq.symm.trans
          hPlace
      rw [Option.some.inj hSame]
      exact ⟨entries', _, rfl⟩

/-
  A name leads on in the changed tree if there is something
  at the place that it leads to.
-/
theorem enter_of_keeps
    {name : Text}
    {next : List Entry}
    {entry' : Entry}
    (hKeeps : KeepsDirectories tree changed)
    (hNested : Nested tree done stack)
    (hNested' : Nested changed done stack')
    (hEnter : enter name stack = .ok next)
    (hPlace :
      place? (namesAfter done [name]).reverse changed =
        some entry') :
    ∃ next', enter name stack' = .ok next' := by
  rcases exists_of_enter hEnter with ⟨entries, above, rfl⟩
  rcases hNested.keeps hKeeps hNested' with
    ⟨entries', above', rfl⟩
  rw [enter] at hEnter ⊢
  by_cases hDots : (name == ['.', '.']) = true
  · rw [if_pos hDots]
    exact ⟨_, rfl⟩
  · rw [if_neg hDots] at hEnter ⊢
    rw [namesAfter_plain hDots, List.reverse_cons,
      place?_snoc hNested'.place?_eq] at hPlace
    by_cases hLong : isLongName name = true
    · rw [if_pos hLong] at hEnter
      cases hEnter
    · rw [if_neg hLong]
      simp only [hPlace]
      exact ⟨_, rfl⟩

/-
  By induction on the names: as long as more of them follow,
  each leads to a directory, and directories stay.
-/
theorem follow_of_keepsDirectories
    {entry entry' : Entry}
    {names : List Text}
    (hKeeps : KeepsDirectories tree changed)
    (hNested : Nested tree done stack)
    (hNested' : Nested changed done stack')
    (hFollow : follow stack names = .ok entry)
    (hPlace :
      place? (namesAfter done names).reverse changed =
        some entry') :
    follow stack' names = .ok entry' := by
  induction names generalizing done stack stack' with
  | nil =>
      cases hNested' with
      | outermost =>
          rw [namesAfter, List.foldl_nil, List.reverse_nil,
            place?, Option.some.injEq] at hPlace
          rw [follow, hPlace]
      | inner hAbove hChild =>
          have hSame :=
            (Nested.inner hAbove hChild).place?_eq.symm.trans
              hPlace
          rw [follow, Option.some.inj hSame]
  | cons name names ih =>
      rw [follow_cons] at hFollow ⊢
      rcases exists_of_bind_eq_ok hFollow with
        ⟨next, hEnter, hRest⟩
      have hNext := hNested.enter hEnter
      have hThere :
          ∃ found,
            place? (namesAfter done [name]).reverse changed =
              some found := by
        cases names with
        | nil => exact ⟨entry', hPlace⟩
        | cons other names =>
            rw [follow_cons] at hRest
            rcases exists_of_bind_eq_ok hRest with
              ⟨behind, hOther, -⟩
            rcases exists_of_enter hOther with
              ⟨entries, above, rfl⟩
            rcases hKeeps _ _ hNext.place?_eq with
              ⟨entries', hPlace'⟩
            exact ⟨_, hPlace'⟩
      rcases hThere with ⟨found, hFound⟩
      rcases enter_of_keeps hKeeps hNested hNested' hEnter
        hFound with ⟨next', hEnter'⟩
      rw [hEnter']
      exact ih hNext (hNested'.enter hEnter') hRest hPlace

end Changed

------------------------------------------------------------
-- The Last Name
------------------------------------------------------------

/- One plain name behind names that lead to a directory. -/
theorem follow_snoc
    {stack : List Entry}
    {names : List Text}
    {entries : List (Text × Entry)}
    {name : Text}
    (hFollow : follow stack names = .ok (.directory entries))
    (hPlain : (name == ['.', '.']) ≠ true) :
    follow stack (names ++ [name]) =
      if isLongName name then
        .error .nameTooLong
      else
        match Pairs.get? name entries with
        | none => .error .missing
        | some child => .ok child := by
  induction names generalizing stack with
  | nil =>
      cases stack with
      | nil => cases hFollow
      | cons current above =>
          rw [follow, Except.ok.injEq] at hFollow
          subst hFollow
          rw [List.nil_append, follow_cons, enter,
            if_neg hPlain]
          by_cases hLong : isLongName name = true
          · rw [if_pos hLong, if_pos hLong]
            rfl
          · rw [if_neg hLong, if_neg hLong]
            cases Pairs.get? name entries with
            | none => rfl
            | some child => rfl
  | cons other names ih =>
      rw [follow_cons] at hFollow
      rcases exists_of_bind_eq_ok hFollow with
        ⟨next, hEnter, hRest⟩
      rw [List.cons_append, follow_cons, hEnter]
      exact ih hRest

/- Two dots behind a directory lead to a directory. -/
theorem follow_snoc_dots
    {tree : Entry}
    {done : List Text}
    {stack : List Entry}
    {names : List Text}
    {entries : List (Text × Entry)}
    (hNested : Nested tree done stack)
    (hFollow : follow stack names = .ok (.directory entries)) :
    ∃ entries',
      follow stack (names ++ [['.', '.']]) =
        .ok (.directory entries') := by
  induction names generalizing done stack with
  | nil =>
      cases hNested with
      | outermost =>
          rw [follow, Except.ok.injEq] at hFollow
          subst hFollow
          exact ⟨entries, rfl⟩
      | inner hAbove hChild =>
          rw [follow, Except.ok.injEq] at hFollow
          subst hFollow
          exact ⟨_, rfl⟩
  | cons other names ih =>
      rw [follow_cons] at hFollow
      rcases exists_of_bind_eq_ok hFollow with
        ⟨next, hEnter, hRest⟩
      rw [List.cons_append, follow_cons, hEnter]
      exact ih (hNested.enter hEnter) hRest

end Entry

end RouteAtlas
