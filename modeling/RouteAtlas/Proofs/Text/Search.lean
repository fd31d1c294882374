import Mathlib
import RouteAtlas.Text.Search

/-
  Where a search succeeds.

  What a search finds was read at a position of the text, by
  a reader that was shown the character before the position.
  Conversely a search passes every stretch at which its
  reader fails, and stops at the first success.

  Main statements:
    * `find?_located`
    * `find?_isSome`
    * `findFrom_append`
    * `findFrom_pass`
    * `mem_findAll`
    * `Passes.append`
    * `findAllFrom_pass`
    * `findAllFrom_of_readsOnce`
    * `findAllFrom_append`
    * `lastClosing?_passed`
    * `lastClosing?_accepted`
-/

------------------------------------------------------------
-- Positions
------------------------------------------------------------

namespace RouteAtlas

namespace Text

/-
  The character before the position behind `passed`, when
  `previous` precedes the whole.
-/
def charBefore
    (previous : Option Char)
    (passed : Text) :
    Option Char :=
  passed.getLast?.or previous

@[simp] theorem charBefore_nil
    (previous : Option Char) :
    charBefore previous [] = previous := by
  rfl

@[simp] theorem charBefore_cons
    (previous : Option Char)
    (c : Char)
    (passed : Text) :
    charBefore previous (c :: passed) =
      charBefore (some c) passed := by
  cases passed with
  | nil => rfl
  | cons d passed =>
      unfold charBefore
      rw [List.getLast?_cons_cons]
      cases hLast : (d :: passed).getLast? with
      | none => simp at hLast
      | some last => rfl

theorem charBefore_append
    (previous : Option Char)
    (passed later : Text) :
    charBefore previous (passed ++ later) =
      charBefore (charBefore previous passed) later := by
  unfold charBefore
  rw [List.getLast?_append, Option.or_assoc]

/-
  Whether `found` is the column of a position with the given
  property, in a text whose first column is `column`.
-/
def StandsAt
    (property : Option Char → Text → Prop)
    (previous : Option Char)
    (column : Nat)
    (t : Text)
    (found : Nat) :
    Prop :=
  ∃ before rest,
    t = before ++ rest ∧
      found = column + before.length ∧
      property (charBefore previous before) rest

section Positions

variable {property : Option Char → Text → Prop}
variable {previous : Option Char} {column found : Nat}

theorem standsAt_here
    {t : Text}
    (hHere : property previous t) :
    StandsAt property previous column t column :=
  ⟨[], t, rfl, rfl, hHere⟩

theorem standsAt_later
    {c : Char}
    {rest : Text}
    (hLater :
      StandsAt property (some c) (column + 1) rest found) :
    StandsAt property previous column (c :: rest) found := by
  rcases hLater with
    ⟨before, tail, hText, hColumn, hProperty⟩
  refine
    ⟨c :: before, tail, by rw [hText]; rfl, ?_,
      by simpa using hProperty⟩
  rw [hColumn, List.length_cons]
  omega

end Positions

------------------------------------------------------------
-- The First Position
------------------------------------------------------------

variable {α : Type}

section First

variable {read : Option Char → Text → Option α}
variable {previous : Option Char} {column : Nat}

/- What is found was read at the column given. -/
theorem findFrom_located
    {t : Text}
    {found : Nat}
    {a : α}
    (hFound :
      findFrom read previous column t = some (found, a)) :
    StandsAt (fun c rest => read c rest = some a)
      previous column t found := by
  induction t generalizing previous column with
  | nil =>
      rw [findFrom] at hFound
      cases hRead : read previous [] with
      | none => simp [hRead] at hFound
      | some value =>
          simp only [hRead, Option.some.injEq,
            Prod.mk.injEq] at hFound
          rcases hFound with ⟨rfl, rfl⟩
          exact standsAt_here hRead
  | cons c rest ih =>
      rw [findFrom] at hFound
      cases hRead : read previous (c :: rest) with
      | some value =>
          simp only [hRead, Option.some.injEq,
            Prod.mk.injEq] at hFound
          rcases hFound with ⟨rfl, rfl⟩
          exact standsAt_here hRead
      | none =>
          simp only [hRead] at hFound
          exact standsAt_later (ih hFound)

/- A search succeeds when its reader does somewhere. -/
theorem findFrom_isSome
    (before rest : Text)
    (hRead :
      (read (charBefore previous before) rest).isSome) :
    (findFrom read previous column
      (before ++ rest)).isSome := by
  induction before generalizing previous column with
  | nil =>
      rw [charBefore_nil] at hRead
      rcases Option.isSome_iff_exists.mp hRead with
        ⟨a, hRead⟩
      cases rest <;> simp [findFrom, hRead]
  | cons c before ih =>
      rw [charBefore_cons] at hRead
      rw [List.cons_append, findFrom]
      split
      · rfl
      · exact ih hRead

/- A search stops where its reader succeeds. -/
theorem findFrom_read
    {t : Text}
    {a : α}
    (hRead : read previous t = some a) :
    findFrom read previous column t = some (column, a) := by
  cases t <;> simp [findFrom, hRead]

/- What is found in a text was read at its column. -/
theorem find?_located
    {t : Text}
    {found : Nat}
    {a : α}
    (hFound : find? read t = some (found, a)) :
    ∃ before rest,
      t = before ++ rest ∧
        found = before.length ∧
        read before.getLast? rest = some a := by
  rcases findFrom_located hFound with
    ⟨before, rest, hText, hColumn, hRead⟩
  refine ⟨before, rest, hText, by simpa using hColumn, ?_⟩
  simpa [charBefore] using hRead

/- A search of a text succeeds when its reader does. -/
theorem find?_isSome
    (before rest : Text)
    (hRead : (read before.getLast? rest).isSome) :
    (find? read (before ++ rest)).isSome :=
  findFrom_isSome before rest (by
    simpa [charBefore] using hRead)

/- A search fails when its reader fails everywhere. -/
theorem find?_eq_none
    {t : Text}
    (hFails :
      ∀ before rest,
        t = before ++ rest →
        read before.getLast? rest = none) :
    find? read t = none := by
  cases hFound : find? read t with
  | none => rfl
  | some found =>
      rcases find?_located hFound with
        ⟨before, rest, hText, -, hRead⟩
      rw [hFails before rest hText] at hRead
      exact absurd hRead (by simp)

/-
  A search finds nothing new in a text that goes on, if its
  reader reads alike before the end and not behind it.
-/
theorem findFrom_append
    (change : α → α)
    {front back : Text}
    (hFront :
      ∀ passed rest,
        front = passed ++ rest →
        read (charBefore previous passed) (rest ++ back) =
          (read (charBefore previous passed) rest).map
            change)
    (hBack :
      ∀ column,
        findFrom read (charBefore previous front) column
          back = none) :
    findFrom read previous column (front ++ back) =
      (findFrom read previous column front).map
        fun (found, a) => (found, change a) := by
  induction front generalizing previous column with
  | nil =>
      have hHere := hFront [] [] rfl
      have hNone := hBack column
      rw [charBefore_nil, List.nil_append] at hHere
      rw [charBefore_nil] at hNone
      rw [List.nil_append, hNone, findFrom]
      cases hRead : read previous [] with
      | none => rfl
      | some a =>
          rw [hRead] at hHere
          rw [findFrom_read hHere] at hNone
          exact absurd hNone (by simp)
  | cons c front ih =>
      have hHere :
          read previous (c :: front ++ back) =
            (read previous (c :: front)).map change :=
        hFront [] (c :: front) rfl
      rw [List.cons_append] at hHere ⊢
      rw [findFrom, findFrom, hHere]
      cases read previous (c :: front) with
      | some a => rfl
      | none =>
          apply ih
          · intro passed rest hText
            have hLater :=
              hFront (c :: passed) rest (by rw [hText]; rfl)
            rwa [charBefore_cons] at hLater
          · intro column
            have hLater := hBack column
            rwa [charBefore_cons] at hLater

end First

------------------------------------------------------------
-- Stretches Passed
------------------------------------------------------------

/-
  Whether a reader reads nothing from any position of a
  stretch, with a given text behind it.
-/
def Passes
    (read : Option Char → Text → Option α)
    (previous : Option Char)
    (stretch rest : Text) :
    Prop :=
  ∀ front c back,
    stretch = front ++ c :: back →
      read (charBefore previous front) (c :: back ++ rest) =
        none

section Passes

variable {read : Option Char → Text → Option α}
variable {previous : Option Char}
variable {front back rest : Text}

theorem passes_nil :
    Passes read previous [] rest := by
  intro front c back hText
  exact absurd hText.symm (by simp)

/- Two stretches are passed one after the other. -/
theorem Passes.append
    (hFront : Passes read previous front (back ++ rest))
    (hBack :
      Passes read (charBefore previous front) back rest) :
    Passes read previous (front ++ back) rest := by
  intro passed c later hText
  rcases List.append_eq_append_iff.mp hText with
    ⟨middle, hPassed, hLater⟩ | ⟨middle, hFirst, hLater⟩
  · have hRead := hBack middle c later hLater
    rwa [hPassed, charBefore_append]
  · cases middle with
    | nil =>
        rw [List.append_nil] at hFirst
        rw [List.nil_append] at hLater
        have hRead := hBack [] c later hLater.symm
        rwa [charBefore_nil, hFirst] at hRead
    | cons d middle =>
        rw [List.cons_append, List.cons.injEq] at hLater
        rcases hLater with ⟨rfl, rfl⟩
        have hRead := hFront passed c middle hFirst
        simpa using hRead

/- The second of two stretches is passed too. -/
theorem Passes.behind
    (hBoth : Passes read previous (front ++ back) rest) :
    Passes read (charBefore previous front) back rest := by
  intro passed c later hText
  have hRead :=
    hBoth (front ++ passed) c later (by simp [hText])
  rwa [charBefore_append] at hRead

/- Each character is passed whatever stands around it. -/
theorem passes_of_forall
    {stretch : Text}
    (hFails :
      ∀ c ∈ stretch, ∀ previous rest,
        read previous (c :: rest) = none)
    (previous : Option Char)
    (rest : Text) :
    Passes read previous stretch rest := by
  intro front c back hText
  exact hFails c (by simp [hText]) _ (back ++ rest)

/- A search goes on behind a stretch that is passed. -/
theorem findFrom_pass
    {column : Nat}
    (hPasses : Passes read previous front rest) :
    findFrom read previous column (front ++ rest) =
      findFrom read (charBefore previous front)
        (column + front.length) rest := by
  induction front generalizing previous column with
  | nil => rfl
  | cons c front ih =>
      have hHere : read previous (c :: (front ++ rest)) = none :=
        hPasses [] c front rfl
      have hLater : Passes read (some c) front rest := by
        intro passed d later hText
        have hRead := hPasses (c :: passed) d later
          (by rw [hText]; rfl)
        rwa [charBefore_cons] at hRead
      rw [List.cons_append, findFrom, hHere, charBefore_cons,
        List.length_cons]
      simp only
      rw [ih hLater]
      congr 1
      omega

end Passes

------------------------------------------------------------
-- All Positions
------------------------------------------------------------

section All

variable {read : Option Char → Text → Option (α × Nat)}
variable {previous : Option Char} {column : Nat}

/- Every value found was read at the column given. -/
theorem mem_findAllFrom
    {t : Text}
    {skip found : Nat}
    {a : α}
    (hFound :
      (found, a) ∈ findAllFrom read previous skip column t) :
    StandsAt
      (fun c rest => ∃ length, read c rest = some (a, length))
      previous column t found := by
  induction t generalizing previous skip column with
  | nil => simp [findAllFrom] at hFound
  | cons c rest ih =>
      cases skip with
      | succ skip =>
          rw [findAllFrom] at hFound
          exact standsAt_later (ih hFound)
      | zero =>
          rw [findAllFrom] at hFound
          cases hRead : read previous (c :: rest) with
          | none =>
              simp only [hRead] at hFound
              exact standsAt_later (ih hFound)
          | some value =>
              rcases value with ⟨value, length⟩
              simp only [hRead, List.mem_cons,
                Prod.mk.injEq] at hFound
              rcases hFound with ⟨rfl, rfl⟩ | hFound
              · exact standsAt_here ⟨length, hRead⟩
              · exact standsAt_later (ih hFound)

/- What has been read already is skipped. -/
theorem findAllFrom_skip
    (skipped rest : Text) :
    findAllFrom read previous skipped.length column
        (skipped ++ rest) =
      findAllFrom read (charBefore previous skipped) 0
        (column + skipped.length) rest := by
  induction skipped generalizing previous column with
  | nil => rfl
  | cons c skipped ih =>
      rw [List.cons_append, List.length_cons, findAllFrom,
        ih, charBefore_cons]
      congr 1
      omega

/- A search passes a stretch at which its reader fails. -/
theorem findAllFrom_pass
    (passed rest : Text)
    (hPasses : Passes read previous passed rest) :
    findAllFrom read previous 0 column (passed ++ rest) =
      findAllFrom read (charBefore previous passed) 0
        (column + passed.length) rest := by
  induction passed generalizing previous column with
  | nil => rfl
  | cons c passed ih =>
      have hHere :
          read previous (c :: (passed ++ rest)) = none :=
        hPasses [] c passed rfl
      have hLater :
          Passes read (charBefore previous [c]) passed rest :=
        Passes.behind hPasses
      rw [charBefore_cons, charBefore_nil] at hLater
      rw [List.cons_append, findAllFrom, hHere,
        charBefore_cons, List.length_cons]
      simp only
      rw [ih hLater]
      congr 1
      omega

/- A value is found where it is read, and read once. -/
theorem findAllFrom_read
    {stretch rest : Text}
    {a : α}
    (hStretch : stretch ≠ [])
    (hRead :
      read previous (stretch ++ rest) =
        some (a, stretch.length)) :
    findAllFrom read previous 0 column (stretch ++ rest) =
      (column, a) ::
        findAllFrom read (charBefore previous stretch) 0
          (column + stretch.length) rest := by
  cases stretch with
  | nil => exact absurd rfl hStretch
  | cons c stretch =>
      rw [List.cons_append] at hRead ⊢
      rw [findAllFrom, hRead, charBefore_cons]
      simp only [List.length_cons, Nat.add_sub_cancel]
      rw [findAllFrom_skip]
      congr 2
      omega

/-
  Whether a reader reads one value from a stretch, at its
  start, or none, with a given text behind it.
-/
def ReadsOnce
    (read : Option Char → Text → Option (α × Nat))
    (value? : Option α)
    (previous : Option Char)
    (stretch rest : Text) :
    Prop :=
  match value? with
  | none => Passes read previous stretch rest
  | some value =>
      ∃ front back,
        stretch = front ++ back ∧ front ≠ [] ∧
          read previous (stretch ++ rest) =
            some (value, front.length) ∧
          Passes read (charBefore previous front) back rest

/- A search finds what is read, and goes on behind it. -/
theorem findAllFrom_of_readsOnce
    {value? : Option α}
    {stretch rest : Text}
    (hOnce : ReadsOnce read value? previous stretch rest) :
    findAllFrom read previous 0 column (stretch ++ rest) =
      (value?.map fun value => (column, value)).toList ++
        findAllFrom read (charBefore previous stretch) 0
          (column + stretch.length) rest := by
  cases value? with
  | none => exact findAllFrom_pass stretch rest hOnce
  | some value =>
      rcases hOnce with
        ⟨front, back, rfl, hFront, hRead, hBack⟩
      rw [List.append_assoc] at hRead ⊢
      rw [findAllFrom_read hFront hRead,
        findAllFrom_pass back rest hBack, ← charBefore_append,
        List.length_append, Nat.add_assoc]
      rfl

/- Nothing is found where nothing can be read. -/
theorem findAllFrom_eq_nil
    {t : Text}
    (hFails :
      ∀ front c back,
        t = front ++ c :: back →
        read (charBefore previous front) (c :: back) =
          none) :
    findAllFrom read previous 0 column t = [] := by
  rw [← List.append_nil t, findAllFrom_pass, findAllFrom]
  intro front c back hText
  rw [List.append_nil]
  exact hFails front c back hText

/- Every value found in a text was read at its column. -/
theorem mem_findAll
    {t : Text}
    {found : Nat}
    {a : α}
    (hFound : (found, a) ∈ findAll read t) :
    ∃ before rest length,
      t = before ++ rest ∧
        found = before.length ∧
        read before.getLast? rest = some (a, length) := by
  rcases mem_findAllFrom hFound with
    ⟨before, rest, hText, hColumn, length, hRead⟩
  refine
    ⟨before, rest, length, hText, by simpa using hColumn,
      ?_⟩
  simpa [charBefore] using hRead

/- A search that reads nothing finds nothing. -/
theorem findAllFrom_silent
    {t : Text}
    (hFails :
      ∀ front rest,
        t = front ++ rest →
        read (charBefore previous front) rest = none)
    (skip : Nat) :
    findAllFrom read previous skip column t = [] := by
  rw [List.eq_nil_iff_forall_not_mem]
  rintro ⟨found, a⟩ hFound
  rcases mem_findAllFrom hFound with
    ⟨front, rest, hText, -, length, hRead⟩
  rw [hFails front rest hText] at hRead
  exact absurd hRead (by simp)

/-
  A search finds nothing new in a text that goes on, if its
  reader reads alike before the end and not behind it.
-/
theorem findAllFrom_append
    {front back : Text}
    (hFront :
      ∀ passed rest,
        front = passed ++ rest →
        read (charBefore previous passed) (rest ++ back) =
          read (charBefore previous passed) rest)
    (hBack :
      ∀ skip column,
        findAllFrom read (charBefore previous front) skip
          column back = [])
    (skip : Nat) :
    findAllFrom read previous skip column (front ++ back) =
      findAllFrom read previous skip column front := by
  induction front generalizing previous skip column with
  | nil =>
      rw [List.nil_append, findAllFrom]
      exact hBack skip column
  | cons c front ih =>
      have hLaterFront :
          ∀ passed rest,
            front = passed ++ rest →
            read (charBefore (some c) passed)
                (rest ++ back) =
              read (charBefore (some c) passed) rest := by
        intro passed rest hText
        have hLater :=
          hFront (c :: passed) rest (by rw [hText]; rfl)
        rwa [charBefore_cons] at hLater
      rw [charBefore_cons] at hBack
      cases skip with
      | succ skip =>
          rw [List.cons_append, findAllFrom, findAllFrom,
            ih hLaterFront hBack]
      | zero =>
          have hHere := hFront [] (c :: front) rfl
          rw [List.cons_append, charBefore_nil] at hHere
          rw [List.cons_append, findAllFrom, findAllFrom,
            hHere]
          cases read previous (c :: front) with
          | none => exact ih hLaterFront hBack 0
          | some value =>
              simp only [ih hLaterFront hBack]

end All

------------------------------------------------------------
-- Closing Marks
------------------------------------------------------------

section Closing

variable {stop : Char → Bool}
variable {accept : Text → Option α}

theorem lastClosing?_eq_none
    {t : Text}
    (hAngle : '>' ∉ t) :
    lastClosing? stop accept t = none := by
  induction t with
  | nil => rfl
  | cons c t ih =>
      rw [List.mem_cons, not_or] at hAngle
      rw [lastClosing?, ih hAngle.2]
      simp [Ne.symm hAngle.1]

/- What is no closing mark and does not stop is passed. -/
theorem lastClosing?_passed
    {passed : Text}
    (hPassed : ∀ c ∈ passed, c ≠ '>' ∧ stop c = false)
    (rest : Text) :
    lastClosing? stop accept (passed ++ rest) =
      lastClosing? stop accept rest := by
  induction passed with
  | nil => rfl
  | cons c passed ih =>
      rw [List.forall_mem_cons] at hPassed
      rcases hPassed with ⟨⟨hOther, hGoes⟩, hPassed⟩
      rw [List.cons_append, lastClosing?, hGoes, ih hPassed]
      simp [hOther]

/- A closing mark that is refused is passed too. -/
theorem lastClosing?_refused
    (hGoes : stop '>' = false)
    {rest : Text}
    (hRefused : accept rest = none) :
    lastClosing? stop accept ('>' :: rest) =
      lastClosing? stop accept rest := by
  simp [lastClosing?, hGoes, hRefused]

/- The last mark that is accepted is the one taken. -/
theorem lastClosing?_accepted
    (hGoes : stop '>' = false)
    {rest : Text}
    {a : α}
    (hLater : lastClosing? stop accept rest = none)
    (hAccept : accept rest = some a) :
    lastClosing? stop accept ('>' :: rest) = some a := by
  simp [lastClosing?, hGoes, hLater, hAccept]

/- Nothing is looked for behind a character that stops. -/
theorem lastClosing?_stopped
    {c : Char}
    (hStop : stop c = true)
    (rest : Text) :
    lastClosing? stop accept (c :: rest) = none := by
  rw [lastClosing?, if_pos hStop]

end Closing

end Text

end RouteAtlas
