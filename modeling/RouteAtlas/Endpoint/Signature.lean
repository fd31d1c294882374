import RouteAtlas.Text.Search

/-
  Signatures of methods.

  The parameter list of a method may run over several lines.
  It is captured from its opening parenthesis to the one
  that closes it, and split at the commas that lie outside
  of groups and string literals.
-/

------------------------------------------------------------
-- Capture
------------------------------------------------------------

namespace RouteAtlas

namespace Signature

open Text

/- The depth of parentheses, and whether one was opened. -/
structure Parens where
  depth : Int
  opened : Bool
deriving DecidableEq, Repr

/- No parenthesis read yet. -/
def Parens.start : Parens :=
  ⟨0, false⟩

/- The state after a character that does not close all. -/
def Parens.step
    (state : Parens)
    (c : Char) :
    Parens :=
  if c == '(' then ⟨state.depth + 1, true⟩
  else if c == ')' then ⟨state.depth - 1, state.opened⟩
  else state

/- Whether the character closes the outermost group. -/
def Parens.closes
    (state : Parens)
    (c : Char) :
    Bool :=
  c == ')' && state.opened && state.depth == 1

/-
  The line up to the parenthesis that closes the outermost
  group, or the state at the end of the line.
-/
def closedPart
    (state : Parens) :
    Text → Except Parens Text
  | [] => .error state
  | c :: rest =>
      if state.closes c then
        .ok [c]
      else
        (closedPart (state.step c) rest).map (c :: ·)

/- The lines up to the closing parenthesis, cut off there. -/
def closedLines
    (state : Parens) :
    List Text → List Text
  | [] => []
  | line :: rest =>
      match closedPart state line with
      | .ok part => [part]
      | .error state => line :: closedLines state rest

/-
  The signature that starts in column `paren` of the first
  line and reads at most `window` lines below it; lines are
  joined by spaces.
-/
def captureFrom
    (line : Text)
    (below : List Text)
    (paren window : Nat) :
    Text :=
  joinWith [' ']
    (closedLines .start (line.drop paren :: below.take window))

/- The signature of the declaration on line `index`. -/
def capture
    (lines : List Text)
    (index paren window : Nat) :
    Text :=
  match lines.drop index with
  | [] => []
  | line :: below => captureFrom line below paren window

------------------------------------------------------------
-- Parameter Lists
------------------------------------------------------------

/-
  The text between the first opening and the last closing
  parenthesis; the rest of a signature that is not closed.
-/
def parameterList
    (signature : Text) :
    Text :=
  match after? '(' signature with
  | none => []
  | some inner =>
      match cutLast? ')' inner with
      | some (parameters, _) => parameters
      | none => inner

------------------------------------------------------------
-- Splitting
------------------------------------------------------------

/- Whether a character opens a group. -/
def isOpening
    (c : Char) :
    Bool :=
  c == '(' || c == '<' || c == '[' || c == '{'

/- The character that opens what this one closes. -/
def openingOf? :
    Char → Option Char
  | ')' => some '('
  | '>' => some '<'
  | ']' => some '['
  | '}' => some '{'
  | _ => none

/-
  What is open at a place in a parameter list: the groups,
  innermost first, and whether it lies in a string literal.
  A quote after a backslash closes no literal.
-/
structure Nesting where
  groups : List Char
  inString : Bool
  previous : Option Char
deriving DecidableEq, Repr

/- Nothing is open. -/
def Nesting.start : Nesting :=
  ⟨[], false, none⟩

/- What is open after another character. -/
def Nesting.step
    (nesting : Nesting)
    (c : Char) :
    Nesting :=
  if nesting.inString then
    ⟨nesting.groups,
      !(c == '"' && nesting.previous != some '\\'), some c⟩
  else if c == '"' then
    ⟨nesting.groups, true, some c⟩
  else if isOpening c then
    ⟨c :: nesting.groups, false, some c⟩
  else
    match openingOf? c with
    | none => ⟨nesting.groups, false, some c⟩
    | some opening =>
        if nesting.groups.head? == some opening then
          ⟨nesting.groups.tail, false, some c⟩
        else
          ⟨nesting.groups, false, some c⟩

/- Whether a comma here separates parameters. -/
def Nesting.isOutside
    (nesting : Nesting) :
    Bool :=
  nesting.groups.isEmpty && !nesting.inString

/- The pieces between the separating commas. -/
def splitFrom
    (nesting : Nesting) :
    Text → List Text
  | [] => [[]]
  | c :: rest =>
      match splitFrom (nesting.step c) rest with
      | [] => [[c]]
      | piece :: pieces =>
          if c == ',' && nesting.isOutside then
            [] :: piece :: pieces
          else
            (c :: piece) :: pieces

/- The parameters of a list, trimmed; blank ones are none. -/
def split
    (parameters : Text) :
    List Text :=
  ((splitFrom .start parameters).map strip).filter
    fun part => !part.isEmpty

end Signature

end RouteAtlas
