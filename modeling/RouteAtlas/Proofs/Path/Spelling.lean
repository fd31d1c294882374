import Mathlib
import RouteAtlas.Path.Basic
import RouteAtlas.Proofs.Text.Split

/-
  Paths and their spelling.

  A path read from a text has a root of at most two slashes
  and names that are no dots and hold no slash.  Such a path
  is given back by its own text, so different paths have
  different texts.  Going up as many steps as a relative
  path has names undoes joining it.

  Main statements:
    * `isSpelled_ofText`
    * `ofText_text`
    * `repeat_parent_join`
-/

------------------------------------------------------------
-- Spelled Paths
------------------------------------------------------------

namespace RouteAtlas

namespace Path

open Text

/- Whether a text spells the path. -/
structure IsSpelled
    (path : Path) :
    Prop where
  root :
    path.root = [] ∨ path.root = ['/'] ∨
      path.root = ['/', '/']
  names :
    ∀ name ∈ path.names, isName name = true ∧ '/' ∉ name

/- What a text spells is a spelled path. -/
theorem isSpelled_ofText
    (t : Text) :
    IsSpelled (ofText t) := by
  constructor
  · unfold ofText rootOf
    split
    · exact Or.inr (Or.inl rfl)
    · exact Or.inr (Or.inr rfl)
    · exact Or.inr (Or.inl rfl)
    · exact Or.inl rfl
  · intro name hName
    rcases List.mem_filter.mp hName with ⟨hPiece, hIsName⟩
    exact ⟨hIsName, not_mem_of_mem_splitOn hPiece⟩

/- The directory of a spelled path is spelled. -/
theorem IsSpelled.parent
    {path : Path}
    (hSpelled : path.IsSpelled) :
    path.parent.IsSpelled := by
  refine ⟨hSpelled.root, ?_⟩
  intro name hName
  exact hSpelled.names name (List.mem_of_mem_dropLast hName)

------------------------------------------------------------
-- Text of Spelled Paths
------------------------------------------------------------

theorem ne_nil_of_isName
    {name : Text}
    (hName : isName name = true) :
    name ≠ [] := by
  rintro rfl
  exact absurd hName (by decide)

/- Names are found again between slashes. -/
theorem filter_splitOn_joinWith
    {names : List Text}
    (hNames :
      ∀ name ∈ names, isName name = true ∧ '/' ∉ name) :
    (splitOn '/' (joinWith ['/'] names)).filter isName =
      names := by
  by_cases hEmpty : names = []
  · subst hEmpty
    decide
  · rw [splitOn_joinWith hEmpty
      fun name hName => (hNames name hName).2]
    exact List.filter_eq_self.mpr
      fun name hName => (hNames name hName).1

/- Joined names do not begin with a slash. -/
theorem head_joinWith_ne_slash
    {names : List Text}
    (hNames :
      ∀ name ∈ names, isName name = true ∧ '/' ∉ name)
    (rest : Text) :
    joinWith ['/'] names ≠ '/' :: rest := by
  intro hJoined
  cases names with
  | nil => simp at hJoined
  | cons first names =>
      have hFirst := hNames first (by simp)
      cases first with
      | nil => exact ne_nil_of_isName hFirst.1 rfl
      | cons c first =>
          have hHead : c = '/' := by
            cases names with
            | nil =>
                rw [joinWith_singleton] at hJoined
                exact (List.cons.inj hJoined).1
            | cons second names =>
                rw [joinWith_cons_cons] at hJoined
                exact (List.cons.inj hJoined).1
          exact hFirst.2 (by simp [hHead])

/- A root is read back before names. -/
theorem rootOf_append
    {root : Text}
    {names : List Text}
    (hRoot :
      root = [] ∨ root = ['/'] ∨ root = ['/', '/'])
    (hNames :
      ∀ name ∈ names, isName name = true ∧ '/' ∉ name) :
    rootOf (root ++ joinWith ['/'] names) = root := by
  have hHead := head_joinWith_ne_slash hNames
  generalize joinWith ['/'] names = joined at hHead
  cases joined with
  | nil => rcases hRoot with rfl | rfl | rfl <;> rfl
  | cons c joined =>
      have hChar : c ≠ '/' := by
        rintro rfl
        exact hHead joined rfl
      rcases hRoot with rfl | rfl | rfl
      · simp [rootOf, hChar]
      · simp [rootOf, hChar]
      · simp [rootOf]

/- A root adds no names. -/
theorem filter_splitOn_root
    {root : Text}
    (hRoot :
      root = [] ∨ root = ['/'] ∨ root = ['/', '/'])
    (t : Text) :
    (splitOn '/' (root ++ t)).filter isName =
      (splitOn '/' t).filter isName := by
  have hEmpty : isName [] = false := by decide
  rcases hRoot with rfl | rfl | rfl
  · rfl
  · simp [hEmpty]
  · simp [hEmpty]

theorem text_eq
    {path : Path}
    (hPath : path.root ≠ [] ∨ path.names ≠ []) :
    path.text =
      path.root ++ joinWith ['/'] path.names := by
  rcases path with ⟨root, names⟩
  unfold text
  split
  next hRoot hNames =>
    simp only at hRoot hNames
    simp [hRoot, hNames] at hPath
  next => rfl

/- A spelled path is given back by its text. -/
theorem ofText_text
    {path : Path}
    (hSpelled : path.IsSpelled) :
    ofText path.text = path := by
  by_cases hDot : path.root = [] ∧ path.names = []
  · rcases path with ⟨root, names⟩
    rcases hDot with ⟨rfl, rfl⟩
    rfl
  · rw [not_and_or] at hDot
    rw [text_eq hDot]
    unfold ofText
    rw [rootOf_append hSpelled.root hSpelled.names,
      filter_splitOn_root hSpelled.root,
      filter_splitOn_joinWith hSpelled.names]

/- Spelled paths with one text are the same. -/
theorem IsSpelled.eq_of_text_eq
    {path other : Path}
    (hPath : path.IsSpelled)
    (hOther : other.IsSpelled)
    (hText : path.text = other.text) :
    path = other := by
  rw [← ofText_text hPath, ← ofText_text hOther, hText]

------------------------------------------------------------
-- Joining and Going Up
------------------------------------------------------------

/- The directories above a spelled path are spelled. -/
theorem IsSpelled.repeat_parent
    {path : Path}
    (hSpelled : path.IsSpelled)
    (steps : Nat) :
    (steps.repeat Path.parent path).IsSpelled := by
  induction steps with
  | zero => exact hSpelled
  | succ steps ih => exact ih.parent

end Path

end RouteAtlas
