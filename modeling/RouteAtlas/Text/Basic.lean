import RouteAtlas.Unicode.Blank
import RouteAtlas.Unicode.WordChar
import RouteAtlas.Unicode.LowerCase
import RouteAtlas.Unicode.UpperCase

/-
  Texts as lists of characters.

  All offsets and columns of the library count characters,
  so a text is the list of its characters and a column is a
  position in that list.
-/

------------------------------------------------------------
-- Texts
------------------------------------------------------------

namespace RouteAtlas

/- A text, one list element for each character. -/
abbrev Text := List Char

namespace Text

export Unicode (isBlank isWordChar lower upper)

------------------------------------------------------------
-- Blanks at the Ends
------------------------------------------------------------

/- The text without its leading blanks. -/
def dropBlanks
    (t : Text) :
    Text :=
  t.dropWhile isBlank

/-
  The text without the longest end whose characters all
  satisfy the test.
-/
def dropEndWhile
    (test : Char → Bool) :
    Text → Text
  | [] => []
  | c :: rest =>
      match dropEndWhile test rest with
      | [] => if test c then [] else [c]
      | kept => c :: kept

/- The text without its trailing blanks. -/
def stripEnd
    (t : Text) :
    Text :=
  dropEndWhile isBlank t

/- The text without leading and trailing blanks. -/
def strip
    (t : Text) :
    Text :=
  stripEnd (dropBlanks t)

/- Whether the text holds nothing but blanks. -/
def isBlankText
    (t : Text) :
    Bool :=
  t.all isBlank

------------------------------------------------------------
-- Parts
------------------------------------------------------------

/- Whether the text begins with `start`. -/
def startsWith
    (start t : Text) :
    Bool :=
  start.isPrefixOf t

/- Whether the text ends with `ending`. -/
def endsWith
    (ending t : Text) :
    Bool :=
  ending.isSuffixOf t

/- Whether `needle` occurs in the text. -/
def contains
    (needle : Text) :
    Text → Bool
  | [] => needle.isEmpty
  | c :: rest =>
      needle.isPrefixOf (c :: rest) || contains needle rest

/- The text without `ending`, when it ends with it. -/
def dropEnding?
    (ending t : Text) :
    Option Text :=
  if ending.isSuffixOf t then
    some (t.take (t.length - ending.length))
  else
    none

/- What follows the first occurrence of a character. -/
def after?
    (mark : Char) :
    Text → Option Text
  | [] => none
  | c :: rest =>
      if c == mark then some rest else after? mark rest

/- What precedes the first occurrence of a character. -/
def before
    (mark : Char)
    (t : Text) :
    Text :=
  t.takeWhile (· != mark)

/- The pieces between the occurrences of a character. -/
def splitOn
    (mark : Char) :
    Text → List Text
  | [] => [[]]
  | c :: rest =>
      match splitOn mark rest with
      | [] => [[c]]
      | piece :: pieces =>
          if c == mark then
            [] :: piece :: pieces
          else
            (c :: piece) :: pieces

/-
  The parts around the first occurrence of `needle`, which
  is none of both, or `none`.
-/
def cut?
    (needle : Text) :
    Text → Option (Text × Text)
  | [] => if needle.isEmpty then some ([], []) else none
  | c :: rest =>
      match needle.isPrefixOf? (c :: rest) with
      | some tail => some ([], tail)
      | none =>
          (cut? needle rest).map fun (head, tail) =>
            (c :: head, tail)

/- The parts around the last occurrence of a character. -/
def cutLast?
    (mark : Char) :
    Text → Option (Text × Text)
  | [] => none
  | c :: rest =>
      match cutLast? mark rest with
      | some (head, tail) => some (c :: head, tail)
      | none => if c == mark then some ([], rest) else none

/- The texts one after the other, `separator` between. -/
def joinWith
    (separator : Text)
    (parts : List Text) :
    Text :=
  separator.intercalate parts

------------------------------------------------------------
-- Replacing
------------------------------------------------------------

/-
  Replaces, from left to right, every stretch that `measure`
  recognises by its length.  The first `skip` characters
  belong to a stretch that has been replaced already.
-/
def replaceFrom
    (measure : Text → Option Nat)
    (substitute : Text) :
    Nat → Text → Text
  | _, [] => []
  | skip + 1, _ :: rest =>
      replaceFrom measure substitute skip rest
  | 0, c :: rest =>
      match measure (c :: rest) with
      | some (n + 1) =>
          substitute ++ replaceFrom measure substitute n rest
      | _ => c :: replaceFrom measure substitute 0 rest

/- Replaces every occurrence of `needle`, left to right. -/
def replaceAll
    (needle substitute t : Text) :
    Text :=
  replaceFrom
    (fun s =>
      if needle.isPrefixOf s then some needle.length
      else none)
    substitute 0 t

/- Whether a blank stands here. -/
def startsBlank :
    Text → Bool
  | [] => false
  | c :: _ => isBlank c

/- Every run of blanks as one space. -/
def collapseBlanks :
    Text → Text
  | [] => []
  | c :: rest =>
      if isBlank c then
        if startsBlank rest then
          collapseBlanks rest
        else
          ' ' :: collapseBlanks rest
      else
        c :: collapseBlanks rest

------------------------------------------------------------
-- Order and Numbers
------------------------------------------------------------

/- Order by code point, a beginning before its extensions. -/
def le :
    Text → Text → Bool
  | [], _ => true
  | _ :: _, [] => false
  | a :: s, b :: t =>
      if a.toNat < b.toNat then
        true
      else if b.toNat < a.toNat then
        false
      else
        le s t

/- The decimal digits of a number. -/
def ofNat
    (n : Nat) :
    Text :=
  Nat.toDigits 10 n

/- An integer in decimal, a minus sign before negatives. -/
def ofInt :
    Int → Text
  | .ofNat n => ofNat n
  | .negSucc n => '-' :: ofNat (n + 1)

end Text

end RouteAtlas
