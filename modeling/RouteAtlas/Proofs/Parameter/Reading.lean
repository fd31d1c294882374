import Mathlib
import RouteAtlas.Endpoint.Parameter
import RouteAtlas.Proofs.Source.CommentedWords
import RouteAtlas.Proofs.Text.BlankRuns
import RouteAtlas.Proofs.Text.Split

/-
  What the readers of a parameter pass.

  Each reader passes a beginning of its text.  Those that go
  on as long as they can have the length of the text as
  their fuel, and more fuel changes nothing.

  Main statements:
    * `skipRanks_eq` and `skipRanks_split`
    * `readDeclaration_plain` and `readDeclaration_arguments`
    * `readModifiersUpTo_eq`
    * `skipSections_eq` and `skipSections_split`
-/

------------------------------------------------------------
-- Types
------------------------------------------------------------

namespace RouteAtlas

namespace FormalParameter

open Text Source

/- Each pair of brackets takes characters. -/
theorem skipRanks_succ
    {fuel : Nat}
    {t : Text}
    (hFuel : t.length ≤ fuel) :
    skipRanks (fuel + 1) t = skipRanks fuel t := by
  induction fuel generalizing t with
  | zero =>
      rw [List.length_eq_zero_iff.mp (by omega : t.length = 0)]
      rfl
  | succ fuel ih =>
      unfold skipRanks
      split
      next rest =>
        split
        next s hInside =>
          have hShort := length_dropBlanks_le rest
          rw [hInside] at hShort
          simp only [List.length_cons] at hFuel hShort
          exact ih (by omega)
        next => rfl
      next => rfl

theorem skipRanks_eq
    {fuel : Nat}
    {t : Text}
    (hFuel : t.length ≤ fuel) :
    skipRanks fuel t = skipRanks t.length t :=
  eq_of_length_le skipRanks_succ hFuel

/- What stands between a type and the blanks behind it. -/
theorem skipRanks_split
    (fuel : Nat)
    (t : Text) :
    ∃ ranks, t = ranks ++ skipRanks fuel t ∧ EndsSolid ranks := by
  induction fuel generalizing t with
  | zero => exact ⟨[], rfl, endsSolid_nil⟩
  | succ fuel ih =>
      unfold skipRanks
      split
      next rest =>
        split
        next s hInside =>
          rcases dropBlanks_split rest with
            ⟨blanks, hRest, -⟩
          rw [hInside] at hRest
          rcases ih s with ⟨ranks, hSplit, hSolid⟩
          refine ⟨('[' :: blanks ++ [']']) ++ ranks, ?_, ?_⟩
          · rw [hRest, List.append_assoc, ← hSplit]
            simp
          · exact
              (endsSolid_concat (by decide) _).append hSolid
        next => exact ⟨[], rfl, endsSolid_nil⟩
      next => exact ⟨[], rfl, endsSolid_nil⟩

theorem skipNullableMark_split
    (t : Text) :
    ∃ mark,
      t = mark ++ skipNullableMark t ∧ EndsSolid mark := by
  unfold skipNullableMark
  split
  next rest =>
    exact ⟨['?'], rfl, endsSolid_concat (by decide) []⟩
  next => exact ⟨[], rfl, endsSolid_nil⟩

------------------------------------------------------------
-- Declarations
------------------------------------------------------------

section Declarations

variable {t name rest : Text}

/- A type without arguments ends behind its name. -/
theorem readDeclaration_plain
    (hSpan : t.span isDottedChar = (name, rest))
    (hNamed : name ≠ [])
    (hAngle : (dropBlanks rest).head? ≠ some '<') :
    readDeclaration t = readTypeEnd t rest := by
  unfold readDeclaration
  rw [hSpan]
  cases name with
  | nil => exact absurd rfl hNamed
  | cons c name =>
      simp only
      split
      next arguments hDrop =>
        rw [hDrop] at hAngle
        exact absurd rfl hAngle
      next => rfl

/- One with arguments ends behind a closing mark. -/
theorem readDeclaration_arguments
    (hSpan : t.span isDottedChar = (name, rest))
    (hNamed : name ≠ [])
    {arguments : Text}
    (hAngle : dropBlanks rest = '<' :: arguments) :
    readDeclaration t =
      lastClosing? (fun _ => false) (readTypeEnd t)
        arguments := by
  unfold readDeclaration
  rw [hSpan]
  cases name with
  | nil => exact absurd rfl hNamed
  | cons c name => simp only [hAngle]

theorem readDeclaration_nameless
    (hSpan : t.span isDottedChar = ([], rest)) :
    readDeclaration t = none := by
  unfold readDeclaration
  rw [hSpan]

end Declarations

------------------------------------------------------------
-- Modifiers
------------------------------------------------------------

/- Each modifier takes characters. -/
theorem readModifiersUpTo_succ
    {fuel : Nat}
    {t : Text}
    (hFuel : t.length ≤ fuel) :
    readModifiersUpTo (fuel + 1) t =
      readModifiersUpTo fuel t := by
  induction fuel generalizing t with
  | zero =>
      simp only [readModifiersUpTo]
      cases hRead : wordThenBlanks? modifiers t with
      | none => rfl
      | some rest =>
          have hShort := length_lt_of_wordThenBlanks? hRead
          omega
  | succ fuel ih =>
      rw [readModifiersUpTo, readModifiersUpTo]
      cases hRead : wordThenBlanks? modifiers t with
      | none => rfl
      | some rest =>
          have hShort := length_lt_of_wordThenBlanks? hRead
          simp only [ih (by omega : rest.length ≤ fuel)]

theorem readModifiersUpTo_eq
    {fuel : Nat}
    {t : Text}
    (hFuel : t.length ≤ fuel) :
    readModifiersUpTo fuel t =
      readModifiersUpTo t.length t :=
  eq_of_length_le readModifiersUpTo_succ hFuel

------------------------------------------------------------
-- Attribute Sections
------------------------------------------------------------

/- Each section takes characters. -/
theorem skipSections_succ
    {fuel : Nat}
    {t : Text}
    (hFuel : t.length ≤ fuel) :
    skipSections (fuel + 1) t = skipSections fuel t := by
  induction fuel generalizing t with
  | zero =>
      rw [List.length_eq_zero_iff.mp (by omega : t.length = 0)]
      rfl
  | succ fuel ih =>
      unfold skipSections
      split
      next rest =>
        split
        next s hAfter =>
          rcases after?_split hAfter with ⟨front, rfl, -⟩
          have hShort := length_dropBlanks_le s
          simp only [List.length_cons, List.length_append]
            at hFuel
          exact ih (by omega)
        next => rfl
      next => rfl

theorem skipSections_eq
    {fuel : Nat}
    {t : Text}
    (hFuel : t.length ≤ fuel) :
    skipSections fuel t = skipSections t.length t :=
  eq_of_length_le skipSections_succ hFuel

/- What is left behind the sections of a text. -/
theorem skipSections_split
    (fuel : Nat)
    (t : Text) :
    ∃ sections, t = sections ++ skipSections fuel t := by
  induction fuel generalizing t with
  | zero => exact ⟨[], rfl⟩
  | succ fuel ih =>
      unfold skipSections
      split
      next rest =>
        split
        next s hAfter =>
          rcases after?_split hAfter with ⟨front, hRest, -⟩
          rcases dropBlanks_split s with ⟨blanks, hBlanks, -⟩
          rcases ih (dropBlanks s) with ⟨sections, hSplit⟩
          refine
            ⟨'[' :: (front ++ ']' :: (blanks ++ sections)),
              ?_⟩
          rw [hRest]
          simp only [List.cons_append, List.append_assoc]
          rw [← hSplit, ← hBlanks]
        next => exact ⟨[], rfl⟩
      next => exact ⟨[], rfl⟩

/- Blanks behind the sections are passed. -/
theorem startsBlank_skipSections
    (fuel : Nat)
    {t : Text}
    (hStart : startsBlank t = false) :
    startsBlank (skipSections fuel t) = false := by
  induction fuel generalizing t with
  | zero => exact hStart
  | succ fuel ih =>
      unfold skipSections
      split
      next rest =>
        split
        next s hAfter => exact ih (startsBlank_dropBlanks s)
        next => exact hStart
      next => exact hStart

end FormalParameter

end RouteAtlas
