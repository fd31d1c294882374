import Mathlib
import RouteAtlas.Proofs.Text.Search
import RouteAtlas.Proofs.Text.Split
import RouteAtlas.Proofs.Text.Words
import RouteAtlas.Route.Template

/-
  Path parameters of a route.

  A route consists of literal text without braces and of
  placeholders: stars, a name and whatever else stands
  before the closing brace, as a constraint or a default.
  Each placeholder is read as a whole, so no brace within it
  opens another one, and nothing is read from literal text.

  Main definitions:
    * `Template.PathPiece`

  Main statements:
    * `readPathParameter_placeholder`
    * `pathParameters_path`
-/

------------------------------------------------------------
-- Routes
------------------------------------------------------------

namespace RouteAtlas

namespace Template

open Text

/-
  A placeholder: its stars, its name, and the options behind
  the name, which begin with no character of a word.
-/
structure Placeholder where
  stars : Nat
  name : Text
  nonempty : name ≠ []
  isWord : ∀ c ∈ name, isWordChar c = true
  options : Text
  apart : wordEndsAt options = true
  unclosed : '\x7d' ∉ options

/- The placeholder as it is written. -/
def Placeholder.text
    (placeholder : Placeholder) :
    Text :=
  '\x7b' ::
    (List.replicate placeholder.stars '*' ++
      (placeholder.name ++ (placeholder.options ++ ['\x7d'])))

/- A piece of a route. -/
inductive PathPiece where
  | literal (text : Text) (noBrace : '\x7b' ∉ text)
  | placeholder (content : Placeholder)

namespace PathPiece

/- The piece as it is written. -/
def text :
    PathPiece → Text
  | .literal text _ => text
  | .placeholder content => content.text

/- The name of a placeholder. -/
def name? :
    PathPiece → Option Text
  | .literal _ _ => none
  | .placeholder content => some content.name

end PathPiece

/- A route as it is written. -/
def path
    (pieces : List PathPiece) :
    Text :=
  pieces.flatMap (·.text)

/- The names of its placeholders, in order. -/
def names
    (pieces : List PathPiece) :
    List Text :=
  pieces.filterMap (·.name?)

------------------------------------------------------------
-- Readers
------------------------------------------------------------

/- The stars end where the name begins. -/
theorem Placeholder.dropWhile_stars
    (placeholder : Placeholder)
    (rest : Text) :
    (List.replicate placeholder.stars '*' ++
        (placeholder.name ++ rest)).dropWhile (· == '*') =
      placeholder.name ++ rest := by
  rw [List.dropWhile_append_of_pos (by simp)]
  cases hName : placeholder.name with
  | nil => exact absurd hName placeholder.nonempty
  | cons c name =>
      have hWord : isWordChar c = true :=
        placeholder.isWord c (by simp [hName])
      have hStar : c ≠ '*' := by
        rintro rfl
        exact absurd hWord (by decide)
      rw [List.cons_append,
        List.dropWhile_cons_of_neg (by simpa using hStar)]

/- A placeholder is read up to its closing brace. -/
theorem readPathParameter_placeholder
    (placeholder : Placeholder)
    (rest : Text) :
    readPathParameter (placeholder.text ++ rest) =
      some (placeholder.name, placeholder.text.length) := by
  have hText :
      placeholder.text ++ rest =
        '\x7b' ::
          (List.replicate placeholder.stars '*' ++
            (placeholder.name ++
              (placeholder.options ++ '\x7d' :: rest))) := by
    simp [Placeholder.text]
  have hEnds :
      wordEndsAt (placeholder.options ++ '\x7d' :: rest) =
        true := by
    have hApart := placeholder.apart
    have hBrace : isWordChar '\x7d' = false := by decide
    cases hOptions : placeholder.options with
    | nil => simp [wordEndsAt, hBrace]
    | cons c options =>
        rw [hOptions] at hApart
        exact hApart
  have hWord :
      word?
          (placeholder.name ++
            (placeholder.options ++ '\x7d' :: rest)) =
        some
          (placeholder.name,
            placeholder.options ++ '\x7d' :: rest) :=
    word?_append placeholder.nonempty placeholder.isWord hEnds
  have hClosed :
      after? '\x7d' (placeholder.options ++ '\x7d' :: rest) =
        some rest :=
    after?_append placeholder.unclosed rest
  have hLength :
      (placeholder.text ++ rest).length - rest.length =
        placeholder.text.length := by
    rw [List.length_append, Nat.add_sub_cancel]
  rw [← hLength, hText]
  unfold readPathParameter
  simp only [placeholder.dropWhile_stars, hWord, hClosed,
    Option.bind_eq_bind, Option.bind_some]
  rfl

/- Nothing is read where no brace is opened. -/
theorem readPathParameter_of_ne
    {c : Char}
    (hBrace : c ≠ '\x7b')
    (rest : Text) :
    readPathParameter (c :: rest) = none := by
  unfold readPathParameter
  split
  next heq => exact absurd (List.cons.inj heq).1 hBrace
  next => rfl

/- From each piece its own name is read, and no other one. -/
theorem PathPiece.readsOnce_text
    (piece : PathPiece)
    (previous : Option Char)
    (rest : Text) :
    ReadsOnce (fun _ => readPathParameter) piece.name? previous
      piece.text rest := by
  cases piece with
  | literal text noBrace =>
      have hPasses :
          Passes (fun _ => readPathParameter) previous text
            rest := by
        refine passes_of_forall ?_ previous rest
        intro c hChar _ later
        apply readPathParameter_of_ne
        rintro rfl
        exact noBrace hChar
      exact hPasses
  | placeholder content =>
      refine
        ⟨content.text, [], (List.append_nil _).symm,
          by simp [Placeholder.text],
          readPathParameter_placeholder content rest,
          passes_nil⟩

------------------------------------------------------------
-- Names
------------------------------------------------------------

/- By induction on the pieces, each adds its name. -/
theorem map_snd_findAllFrom_path
    (pieces : List PathPiece)
    (previous : Option Char)
    (column : Nat) :
    (findAllFrom (fun _ => readPathParameter) previous 0 column
        (path pieces)).map Prod.snd =
      names pieces := by
  induction pieces generalizing previous column with
  | nil => rfl
  | cons piece pieces ih =>
      rw [path, List.flatMap_cons,
        findAllFrom_of_readsOnce
          (piece.readsOnce_text previous _),
        List.map_append]
      change _ ++ (findAllFrom _ _ 0 _ (path pieces)).map _ = _
      rw [ih]
      unfold names
      rw [List.filterMap_cons]
      cases hName : piece.name? <;> rfl

/- The path parameters are the names of the placeholders. -/
theorem pathParameters_path
    (pieces : List PathPiece) :
    pathParameters (path pieces) = (names pieces).map lower := by
  unfold pathParameters findAll
  rw [← map_snd_findAllFrom_path pieces none 0, List.map_map]
  rfl

end Template

end RouteAtlas
