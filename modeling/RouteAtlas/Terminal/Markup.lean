import RouteAtlas.Failure

/-
  Marked-up text.

  A tag stands in square brackets and begins with a lower
  case letter or one of `#`, `/` and `@`.  Tags style what
  they enclose and are never shown; a backslash before a tag
  takes that meaning away, and two backslashes before a tag
  stand for one.  `Markup.escape` writes a text so that it
  is shown as it is, and `Markup.shown` is what a marked-up
  text shows.

  A tag with a slash closes the last open tag of its name,
  or the last one of all if it has no name.  A tag that
  finds nothing to close breaks the text down; tags that are
  never closed are fine.
-/

------------------------------------------------------------
-- Tags
------------------------------------------------------------

namespace RouteAtlas

namespace Markup

/- Whether a tag may begin with this character. -/
def beginsTag
    (c : Char) :
    Bool :=
  ('a' ≤ c && c ≤ 'z') || c == '#' || c == '/' || c == '@'

/- Whether a character may stand inside a tag. -/
def insideTag
    (c : Char) :
    Bool :=
  c != '[' && c != ']'

/- The tag that stands here, with its brackets. -/
def tag? :
    Text → Option Text
  | '[' :: c :: rest =>
      if beginsTag c then
        match rest.span insideTag with
        | (inside, ']' :: _) =>
            some ('[' :: c :: inside ++ [']'])
        | _ => none
      else
        none
  | _ => none

/-
  The number of backslashes here and the tag behind them, if
  there is one.
-/
def marked? :
    Text → Option (Nat × Text)
  | '\\' :: rest =>
      (marked? rest).map fun (n, tag) => (n + 1, tag)
  | t => (tag? t).map fun tag => (0, tag)

------------------------------------------------------------
-- Escaping
------------------------------------------------------------

/- Doubles what stands before a tag, and disarms the tag. -/
def escapeTags :
    Text → Text
  | [] => []
  | c :: rest =>
      if (marked? (c :: rest)).isSome then
        '\\' :: c :: escapeTags rest
      else
        c :: escapeTags rest

/- Whether a text ends with exactly one backslash. -/
def endsInBackslash
    (t : Text) :
    Bool :=
  Text.endsWith ['\\'] t && !Text.endsWith ['\\', '\\'] t

/-
  A text without tags of its own.  A lone backslash at the
  end is doubled, as a tag may follow it.
-/
def escape
    (t : Text) :
    Text :=
  let escaped := escapeTags t
  if endsInBackslash escaped then escaped ++ ['\\']
  else escaped

------------------------------------------------------------
-- Open Tags
------------------------------------------------------------

/- Attributes of styles, in the order they are named in. -/
def attributes : List Text :=
  ["bold".toList, "dim".toList, "italic".toList,
   "underline".toList, "blink".toList, "blink2".toList,
   "reverse".toList, "conceal".toList, "strike".toList,
   "underline2".toList, "frame".toList, "encircle".toList,
   "overline".toList]

/- Short names of attributes. -/
def abbreviations : List (Text × Text) :=
  [("b".toList, "bold".toList),
   ("d".toList, "dim".toList),
   ("i".toList, "italic".toList),
   ("u".toList, "underline".toList),
   ("r".toList, "reverse".toList),
   ("c".toList, "conceal".toList),
   ("s".toList, "strike".toList),
   ("uu".toList, "underline2".toList),
   ("o".toList, "overline".toList)]

/- The attribute that a word names, in any letter case. -/
def attribute?
    (word : Text) :
    Option Text :=
  let word := Text.lower word
  let name := (abbreviations.lookup word).getD word
  if attributes.contains name then some name else none

/-
  The name that a style has among open tags.  Attributes may
  be given in any order, by short names and repeatedly.
-/
def styleName
    (t : Text) :
    Text :=
  let words :=
    Text.splitOn ' ' (Text.strip (Text.collapseBlanks t))
  match words.mapM attribute? with
  | some names =>
      Text.joinWith [' '] (attributes.filter names.contains)
  | none => Text.lower (Text.strip t)

/- The name in a tag; a value may follow an equals sign. -/
def tagName
    (tag : Text) :
    Text :=
  Text.before '=' ((tag.drop 1).dropLast)

/- The open tags behind a tag, the last one first. -/
def openBehind
    (tag : Text)
    (opened : List Text) :
    Except Breakdown (List Text) :=
  match tagName tag with
  | '/' :: name =>
      if Text.isBlankText name then
        match opened with
        | [] => .error (.unmatchedTag tag)
        | _ :: opened => .ok opened
      else if opened.contains (styleName name) then
        .ok (opened.erase (styleName name))
      else
        .error (.unmatchedTag tag)
  | name => .ok (styleName name :: opened)

------------------------------------------------------------
-- Showing
------------------------------------------------------------

/-
  What is shown of a text that some tags are open in.  The
  first `skip` characters belong to a tag, or to the
  backslashes before it, that has been dealt with already.
-/
def shownFrom
    (opened : List Text) :
    Nat → Text → Except Breakdown Text
  | _, [] => .ok []
  | skip + 1, _ :: rest => shownFrom opened skip rest
  | 0, c :: rest =>
      match marked? (c :: rest) with
      | some (n, tag) => do
          let skip := n + tag.length - 1
          let lead := List.replicate (n / 2) '\\'
          if n % 2 == 1 then
            return lead ++ tag ++ (← shownFrom opened skip rest)
          else
            let opened ← openBehind tag opened
            return lead ++ (← shownFrom opened skip rest)
      | none => do
          let shown ← shownFrom opened 0 rest
          if c == '\\' && Text.startsWith ['['] rest then
            return shown
          else
            return c :: shown

/- What is shown of a marked-up text. -/
def shown
    (t : Text) :
    Except Breakdown Text :=
  shownFrom [] 0 t

------------------------------------------------------------
-- Styles
------------------------------------------------------------

/- Marked-up text in a style. -/
def styled
    (style t : Text) :
    Text :=
  '[' :: style ++ ']' :: t ++ '[' :: '/' :: style ++ [']']

/- Marked-up text in bold. -/
def bold
    (t : Text) :
    Text :=
  styled "bold".toList t

/- Marked-up text that stands back. -/
def dim
    (t : Text) :
    Text :=
  styled "dim".toList t

end Markup

end RouteAtlas
