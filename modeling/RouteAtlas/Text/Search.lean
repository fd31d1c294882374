import RouteAtlas.Text.Basic

/-
  Looking for a pattern in a text, from left to right.

  A pattern is a reader: given the character before a
  position and the text from there on, it answers a value
  and the number of characters read, or nothing.  The
  character before is what decides whether a word starts.
-/

------------------------------------------------------------
-- Words
------------------------------------------------------------

namespace RouteAtlas

namespace Text

/- Whether a word may start after this character. -/
def wordMayStart :
    Option Char → Bool
  | none => true
  | some c => !isWordChar c

/- Whether a word that was just read ends here. -/
def wordEndsAt :
    Text → Bool
  | [] => true
  | c :: _ => !isWordChar c

/- Reads a longest non-empty run of word characters. -/
def word?
    (t : Text) :
    Option (Text × Text) :=
  match t.span isWordChar with
  | ([], _) => none
  | (word, rest) => some (word, rest)

/- Reads the first of the given texts that stands here. -/
def oneOf?
    (choices : List Text)
    (t : Text) :
    Option (Text × Text) :=
  choices.findSome? fun choice =>
    (choice.isPrefixOf? t).map fun rest => (choice, rest)

/- Reads at least one blank, and all that follow it. -/
def blanks?
    (t : Text) :
    Option Text :=
  match t with
  | [] => none
  | c :: rest =>
      if isBlank c then some (dropBlanks rest) else none

------------------------------------------------------------
-- Searching
------------------------------------------------------------

variable {α : Type}

/-
  The first position at which the reader succeeds, and what
  it reads there.  `column` is the position of the text's
  first character and `previous` the character before it.
-/
def findFrom
    (read : Option Char → Text → Option α)
    (previous : Option Char)
    (column : Nat)
    (t : Text) :
    Option (Nat × α) :=
  match read previous t with
  | some a => some (column, a)
  | none =>
      match t with
      | [] => none
      | c :: rest => findFrom read (some c) (column + 1) rest

/- The first position at which the reader succeeds. -/
def find?
    (read : Option Char → Text → Option α)
    (t : Text) :
    Option (Nat × α) :=
  findFrom read none 0 t

/-
  All values read, from left to right, each from the first
  position not read before.  The first `skip` characters
  belong to a stretch that has been read already.
-/
def findAllFrom
    (read : Option Char → Text → Option (α × Nat)) :
    Option Char → Nat → Nat → Text → List (Nat × α)
  | _, _, _, [] => []
  | _, skip + 1, column, c :: rest =>
      findAllFrom read (some c) skip (column + 1) rest
  | previous, 0, column, c :: rest =>
      match read previous (c :: rest) with
      | some (a, n) =>
          (column, a) ::
            findAllFrom read (some c) (n - 1)
              (column + 1) rest
      | none =>
          findAllFrom read (some c) 0 (column + 1) rest

/- All values read, with their columns. -/
def findAll
    (read : Option Char → Text → Option (α × Nat))
    (t : Text) :
    List (Nat × α) :=
  findAllFrom read none 0 0 t

------------------------------------------------------------
-- Closing Marks
------------------------------------------------------------

/-
  Tries what follows each `>`, the last one first, and
  answers the first acceptance.  No character for which
  `stop` holds is passed.
-/
def lastClosing?
    (stop : Char → Bool)
    (accept : Text → Option α) :
    Text → Option α
  | [] => none
  | c :: rest =>
      if stop c then
        none
      else
        (lastClosing? stop accept rest).orElse fun _ =>
          if c == '>' then accept rest else none

end Text

end RouteAtlas
