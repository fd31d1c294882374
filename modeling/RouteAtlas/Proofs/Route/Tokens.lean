import Mathlib
import RouteAtlas.Proofs.Text.Replacing
import RouteAtlas.Route.Template

/-
  Tokens of a controller route.

  A controller route consists of literal text and of tokens,
  each spelled in some letter case.  A token is replaced
  wherever it stands.  No literal text is taken for a token,
  and neither is the text put for the other token, since a
  token starts with a bracket and the names have none.

  Main definitions:
    * `Template.Spells`
    * `Template.Piece`

  Main statements:
    * `beginsWith_iff`
    * `substitute_written`
-/

------------------------------------------------------------
-- Spellings
------------------------------------------------------------

namespace RouteAtlas

namespace Template

open Text

/- Whether a text is a word up to the case of its letters. -/
def Spells
    (word t : Text) :
    Prop :=
  List.Forall₂ (fun letter c => sameLetter letter c = true)
    word t

theorem beginsWith_iff
    {word t : Text} :
    beginsWith word t = true ↔
      Spells word (t.take word.length) := by
  unfold Spells
  induction word generalizing t with
  | nil => simp [beginsWith]
  | cons letter word ih =>
      cases t with
      | nil => simp [beginsWith]
      | cons c t => simp [beginsWith, ih]

theorem Spells.length_eq
    {word t : Text}
    (hSpells : Spells word t) :
    t.length = word.length :=
  (List.Forall₂.length_eq hSpells).symm

theorem Spells.take_append
    {word t : Text}
    (hSpells : Spells word t)
    (rest : Text) :
    (t ++ rest).take word.length = t := by
  rw [← hSpells.length_eq]
  exact List.take_left

theorem spells_iff
    {word t : Text} :
    Spells word t ↔
      t.length = word.length ∧ beginsWith word t = true := by
  rw [beginsWith_iff]
  constructor
  · intro hSpells
    refine ⟨hSpells.length_eq, ?_⟩
    rwa [← hSpells.length_eq, List.take_length]
  · rintro ⟨hLength, hSpells⟩
    rwa [← hLength, List.take_length] at hSpells

instance
    (word t : Text) :
    Decidable (Spells word t) :=
  decidable_of_iff _ spells_iff.symm

/- An opening bracket has no other case. -/
theorem eq_of_sameLetter_bracket
    {c : Char}
    (hSame : sameLetter '[' c = true) :
    c = '[' := by
  have hUpper : '['.toUpper = '[' := by decide
  have hDotless : ('[' == 'i') = false := by decide
  have hLong : ('[' == 's') = false := by decide
  simpa [sameLetter, hUpper, hDotless, hLong] using hSame

------------------------------------------------------------
-- Parts of a Template
------------------------------------------------------------

/-
  Whether a part of a template becomes a text when a token
  is replaced, whatever stands behind it.
-/
def Becomes
    (token name part result : Text) :
    Prop :=
  ∀ rest,
    replaceToken token name (part ++ rest) =
      result ++ replaceToken token name rest

section Becomes

variable {token name : Text}

/- A spelling of the token becomes the name. -/
theorem becomes_name
    (hToken : token ≠ [])
    {spelling : Text}
    (hSpells : Spells token spelling) :
    Becomes token name spelling name := by
  have hSpelling : spelling ≠ [] := by
    intro hNone
    have hLength := hSpells.length_eq
    rw [hNone, List.length_nil] at hLength
    exact hToken (List.eq_nil_of_length_eq_zero hLength.symm)
  intro rest
  apply replaceFrom_measured hSpelling
  have hBegins :
      beginsWith token (spelling ++ rest) = true := by
    rw [beginsWith_iff, hSpells.take_append]
    exact hSpells
  rw [if_pos hBegins, hSpells.length_eq]

/- A text stays if the token begins nowhere in it. -/
theorem becomes_self
    {part : Text}
    (hNowhere :
      ∀ front c back,
        part = front ++ c :: back →
          ∀ rest, beginsWith token (c :: back ++ rest) = false) :
    Becomes token name part part := by
  intro rest
  apply replaceFrom_passed
  intro front c back hText
  rw [hNowhere front c back hText rest]
  rfl

/- A token begins with its bracket only. -/
theorem beginsWith_eq_false
    (hToken : token.head? = some '[')
    {c : Char}
    (hBracket : c ≠ '[')
    (t : Text) :
    beginsWith token (c :: t) = false := by
  rw [List.head?_eq_some_iff] at hToken
  rcases hToken with ⟨tail, rfl⟩
  have hLetter : sameLetter '[' c = false := by
    rw [Bool.eq_false_iff]
    exact fun hSame => hBracket (eq_of_sameLetter_bracket hSame)
  rw [beginsWith, hLetter, Bool.false_and]

/- So text without brackets stays. -/
theorem becomes_literal
    (hToken : token.head? = some '[')
    {literal : Text}
    (hBracket : '[' ∉ literal) :
    Becomes token name literal literal := by
  apply becomes_self
  rintro front c back rfl rest
  apply beginsWith_eq_false hToken
  rintro rfl
  exact hBracket (by simp)

end Becomes

------------------------------------------------------------
-- Two Tokens
------------------------------------------------------------

theorem controllerToken_eq :
    controllerToken = '[' :: 'c' :: "ontroller]".toList := by
  decide

theorem actionToken_eq :
    actionToken = '[' :: 'a' :: "ction]".toList := by
  decide

/- No character is both an a and a c. -/
theorem sameLetter_c_of_a
    {c : Char}
    (hSame : sameLetter 'a' c = true) :
    sameLetter 'c' c = false := by
  have hChar : c = 'a' ∨ c = 'A' := by
    have hUpper : 'a'.toUpper = 'A' := by decide
    have hDotless : ('a' == 'i') = false := by decide
    have hLong : ('a' == 's') = false := by decide
    simpa [sameLetter, hUpper, hDotless, hLong] using hSame
  rcases hChar with rfl | rfl <;> decide

/- A spelling holds no mark that the word does not hold. -/
theorem not_mem_of_spells
    {mark : Char}
    {word t : Text}
    (hWord : word.all (!sameLetter · mark) = true)
    (hSpells : Spells word t) :
    mark ∉ t := by
  induction hSpells with
  | nil => exact List.not_mem_nil
  | @cons letter c word t hLetter hRest ih =>
      rw [List.all_cons, Bool.and_eq_true] at hWord
      rw [List.mem_cons, not_or]
      refine ⟨?_, ih hWord.2⟩
      rintro rfl
      rw [hLetter] at hWord
      exact absurd hWord.1 (by simp)

/- The action's token is kept for the controller's one. -/
theorem becomes_actionToken
    {spelling : Text}
    (hSpells : Spells actionToken spelling)
    (name : Text) :
    Becomes controllerToken name spelling spelling := by
  rw [actionToken_eq] at hSpells
  rcases hSpells with
    _ | @⟨_, bracket, _, _, hBracket,
      _ | @⟨_, letter, _, rest, hLetter, hRest⟩⟩
  apply becomes_self
  intro front c back hText later
  cases front with
  | nil =>
      rw [List.nil_append, List.cons.injEq] at hText
      rcases hText with ⟨rfl, rfl⟩
      rw [controllerToken_eq, List.cons_append,
        List.cons_append, beginsWith, beginsWith,
        sameLetter_c_of_a hLetter, Bool.false_and,
        Bool.and_false]
  | cons d front =>
      rw [List.cons_append, List.cons.injEq] at hText
      apply beginsWith_eq_false (by decide)
      rintro rfl
      have hSpelled :
          Spells ('a' :: "ction]".toList) (letter :: rest) :=
        .cons hLetter hRest
      have hInside : '[' ∉ letter :: rest :=
        not_mem_of_spells (by decide) hSpelled
      exact hInside (by rw [hText.2]; simp)

------------------------------------------------------------
-- Controller Routes
------------------------------------------------------------

/-
  A piece of a controller route: literal text that opens no
  bracket, or one of the tokens in some letter case.
-/
inductive Piece where
  | literal (text : Text) (noBracket : '[' ∉ text)
  | controller (spelling : Text)
      (spells : Spells controllerToken spelling)
  | action (spelling : Text)
      (spells : Spells actionToken spelling)

namespace Piece

/- The piece as it is written. -/
def text :
    Piece → Text
  | .literal text _ => text
  | .controller spelling _ => spelling
  | .action spelling _ => spelling

/- What is put for the piece, given the two names. -/
def value
    (controller action : Text) :
    Piece → Text
  | .literal text _ => text
  | .controller _ _ => controller
  | .action _ _ => action

/- The piece once the controller's token is replaced. -/
def withController
    (controller : Text) :
    Piece → Text
  | .literal text _ => text
  | .controller _ _ => controller
  | .action spelling _ => spelling

theorem becomes_withController
    (controller : Text)
    (piece : Piece) :
    Becomes controllerToken controller piece.text
      (piece.withController controller) := by
  cases piece with
  | literal text noBracket =>
      exact becomes_literal (by decide) noBracket
  | controller spelling spells =>
      exact becomes_name (by decide) spells
  | action spelling spells =>
      exact becomes_actionToken spells controller

theorem becomes_value
    {controller : Text}
    (hController : '[' ∉ controller)
    (action : Text)
    (piece : Piece) :
    Becomes actionToken action
      (piece.withController controller)
      (piece.value controller action) := by
  cases piece with
  | literal text noBracket =>
      exact becomes_literal (by decide) noBracket
  | controller spelling spells =>
      exact becomes_literal (by decide) hController
  | action spelling spells =>
      exact becomes_name (by decide) spells

end Piece

/- A controller route as it is written. -/
def written
    (pieces : List Piece) :
    Text :=
  pieces.flatMap (·.text)

/- The route with the names in the place of the tokens. -/
def filled
    (controller action : Text)
    (pieces : List Piece) :
    Text :=
  pieces.flatMap (·.value controller action)

/-
  All tokens are replaced, and nothing else is.  The second
  replacement reads what the first one wrote, so the name of
  the controller must open no bracket.
-/
theorem substitute_written
    {controller suffix : Text}
    (hController : '[' ∉ controllerName controller suffix)
    (action : Text)
    (pieces : List Piece) :
    substitute (written pieces) controller action suffix =
      filled (controllerName controller suffix)
        (actionName action) pieces := by
  have hFirst :
      Becomes controllerToken (controllerName controller suffix)
        (written pieces)
        (pieces.flatMap
          (·.withController
            (controllerName controller suffix))) :=
    Text.Becomes.flatMap fun piece _ =>
      piece.becomes_withController _
  have hSecond :
      Becomes actionToken (actionName action)
        (pieces.flatMap
          (·.withController
            (controllerName controller suffix)))
        (filled (controllerName controller suffix)
          (actionName action) pieces) :=
    Text.Becomes.flatMap fun piece _ =>
      piece.becomes_value hController (actionName action)
  unfold substitute
  exact
    (congrArg (replaceToken actionToken (actionName action))
      (Text.Becomes.eq hFirst)).trans
      (Text.Becomes.eq hSecond)

end Template

end RouteAtlas
