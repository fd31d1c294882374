import RouteAtlas.Endpoint.Signature

/-
  Texts with string literals and groups.

  A string literal stands between quotes, and in it a
  backslash belongs to the character behind it.  Outside of
  literals the brackets of some kinds close as they were
  opened; every other character is a mark.

  Main definitions:
    * `Signature.Literal`
    * `Signature.Nested`
-/

------------------------------------------------------------
-- String Literals
------------------------------------------------------------

namespace RouteAtlas

namespace Signature

/- A character of a literal, or one behind a backslash. -/
inductive LiteralPiece where
  | plain (c : Char) (noQuote : c ≠ '"')
      (noEscape : c ≠ '\\')
  | escaped (c : Char)

/- The piece as it is written. -/
def LiteralPiece.text :
    LiteralPiece → Text
  | .plain c _ _ => [c]
  | .escaped c => ['\\', c]

/- A string literal by what stands between its quotes. -/
structure Literal where
  pieces : List LiteralPiece

namespace Literal

/- What stands between the quotes. -/
def inside
    (content : Literal) :
    Text :=
  content.pieces.flatMap (·.text)

/- The literal as it is written. -/
def text
    (content : Literal) :
    Text :=
  '"' :: (content.inside ++ ['"'])

/- The literal of a text that needs no escapes. -/
def ofText
    (t : Text)
    (noQuote : '"' ∉ t)
    (noEscape : '\\' ∉ t) :
    Literal where
  pieces :=
    t.attach.map fun c =>
      .plain c.val (ne_of_mem_of_not_mem c.property noQuote)
        (ne_of_mem_of_not_mem c.property noEscape)

end Literal

------------------------------------------------------------
-- Groups
------------------------------------------------------------

/- An opening and a closing bracket. -/
structure Brackets where
  opening : Char
  closing : Char
deriving DecidableEq, Repr

/- Whether a character is no quote and no bracket. -/
def IsMark
    (kinds : List Brackets)
    (c : Char) :
    Prop :=
  c ≠ '"' ∧
    ∀ kind ∈ kinds, c ≠ kind.opening ∧ c ≠ kind.closing

instance
    (kinds : List Brackets)
    (c : Char) :
    Decidable (IsMark kinds c) :=
  inferInstanceAs (Decidable (_ ∧ _))

/-
  A text of marks, literals and groups, from its first one
  on: each is followed by the rest of the text.
-/
inductive Nested (kinds : List Brackets) where
  | done
  | mark (c : Char) (isMark : IsMark kinds c)
      (rest : Nested kinds)
  | literal (content : Literal) (rest : Nested kinds)
  | group (kind : Brackets) (isKind : kind ∈ kinds)
      (inside rest : Nested kinds)

namespace Nested

variable {kinds : List Brackets}

/- The text as it is written. -/
def text :
    Nested kinds → Text
  | .done => []
  | .mark c _ rest => c :: rest.text
  | .literal content rest => content.text ++ rest.text
  | .group kind _ inside rest =>
      kind.opening ::
        (inside.text ++ kind.closing :: rest.text)

/- Its literals, those within groups included. -/
def literals :
    Nested kinds → List Literal
  | .done => []
  | .mark _ _ rest => rest.literals
  | .literal content rest => content :: rest.literals
  | .group _ _ inside rest =>
      inside.literals ++ rest.literals

/- Some marks, and then another text. -/
def marks
    (rest : Nested kinds) :
    (t : Text) → t.all (IsMark kinds ·) = true → Nested kinds
  | [], _ => rest
  | c :: t, areMarks =>
      have hMarks := (Bool.and_eq_true _ _).mp areMarks
      .mark c (of_decide_eq_true hMarks.1)
        (rest.marks t hMarks.2)

end Nested

end Signature

end RouteAtlas
