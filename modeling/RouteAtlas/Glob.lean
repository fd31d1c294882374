import RouteAtlas.Text.Basic

/-
  Glob patterns.

  A star matches any run of characters, slashes included, a
  question mark any one character, and a set in brackets one
  of its members.  The whole text has to match.

  `Glob.excludes` is the test of exclude patterns: a pattern
  that starts with `**/` also matches without that start, so
  it reaches the workspace root.
-/

------------------------------------------------------------
-- Patterns
------------------------------------------------------------

namespace RouteAtlas

namespace Glob

/- A member of a set, or a range of members. -/
inductive Member where
  | char (c : Char)
  | range (first last : Char)
deriving DecidableEq, Repr

/- Whether the member covers a character. -/
def Member.covers
    (c : Char) :
    Member → Bool
  | .char d => c == d
  | .range first last =>
      first.toNat ≤ c.toNat && c.toNat ≤ last.toNat

/- A part of a pattern. -/
inductive Token where
  | anyRun
  | anyChar
  | char (c : Char)
  | set (negated : Bool) (members : List Member)
deriving DecidableEq, Repr

/- Whether a part matches a single character. -/
def Token.matchesChar
    (c : Char) :
    Token → Bool
  | .anyRun => false
  | .anyChar => true
  | .char d => c == d
  | .set negated members =>
      members.any (·.covers c) != negated

------------------------------------------------------------
-- Sets
------------------------------------------------------------

/-
  The members of a set.  A hyphen between two characters
  makes a range; at either end of the set, or right after a
  range, it is a member itself.
-/
def members :
    Text → List Member
  | [] => []
  | first :: '-' :: last :: rest =>
      .range first last :: members rest
  | c :: rest => .char c :: members rest

/- Whether a range runs backwards and so is empty. -/
def Member.isReversed :
    Member → Bool
  | .char _ => false
  | .range first last => last.toNat < first.toNat

/-
  The set between two brackets.  Reversed ranges are dropped
  first; an exclamation mark that is then in front negates
  the set, also one that began a range.
-/
def setToken
    (body : Text) :
    Token :=
  let keep := fun members : List Member =>
    members.filter (!·.isReversed)
  match body with
  | '!' :: rest => .set true (keep (members rest))
  | _ =>
      match keep (members body) with
      | .char '!' :: rest => .set true rest
      | .range '!' last :: rest =>
          .set true (.char '-' :: .char last :: rest)
      | kept => .set false kept

/-
  The text of a set whose opening bracket has been read, and
  what follows its closing bracket.  A closing bracket in
  front, also behind an exclamation mark, is a member.
-/
def setBody?
    (t : Text) :
    Option (Text × Text) :=
  let (mark, t) : Text × Text :=
    match t with
    | '!' :: rest => (['!'], rest)
    | _ => ([], t)
  let (bracket, t) : Text × Text :=
    match t with
    | ']' :: rest => ([']'], rest)
    | _ => ([], t)
  (Text.after? ']' t).map fun rest =>
    (mark ++ bracket ++ Text.before ']' t, rest)

------------------------------------------------------------
-- Reading Patterns
------------------------------------------------------------

/-
  The parts of a pattern, of which the first `skip`
  characters belong to a part that has been read already.  A
  bracket that is never closed stands for itself.
-/
def tokensFrom :
    Nat → Text → List Token
  | _, [] => []
  | skip + 1, _ :: rest => tokensFrom skip rest
  | 0, '*' :: rest => .anyRun :: tokensFrom 0 rest
  | 0, '?' :: rest => .anyChar :: tokensFrom 0 rest
  | 0, '[' :: rest =>
      match setBody? rest with
      | some (body, _) =>
          setToken body :: tokensFrom (body.length + 1) rest
      | none => .char '[' :: tokensFrom 0 rest
  | 0, c :: rest => .char c :: tokensFrom 0 rest

/- The parts of a pattern. -/
def tokens
    (pattern : Text) :
    List Token :=
  tokensFrom 0 pattern

------------------------------------------------------------
-- Matching
------------------------------------------------------------

/- Whether each entry or a later one is true. -/
def anyLater :
    List Bool → List Bool
  | [] => []
  | b :: rest =>
      match anyLater rest with
      | [] => [b]
      | later :: more => (b || later) :: later :: more

/-
  For each end of the text, the longest first and the empty
  one last, whether the parts match it.
-/
def matchEnds :
    List Token → Text → List Bool
  | [], t => t.map (fun _ => false) ++ [true]
  | .anyRun :: rest, t => anyLater (matchEnds rest t)
  | token :: rest, t =>
      (t.zip (matchEnds rest t).tail).map
        (fun (c, later) => token.matchesChar c && later) ++
        [false]

/- Whether the pattern matches the whole text. -/
def accepts
    (pattern t : Text) :
    Bool :=
  (matchEnds (tokens pattern) t).headD false

------------------------------------------------------------
-- Exclude Patterns
------------------------------------------------------------

/- What makes a pattern match at any depth. -/
def anyDepth : Text :=
  "**/".toList

/- Whether a pattern excludes a path. -/
def excludesBy
    (path pattern : Text) :
    Bool :=
  accepts pattern path ||
    (anyDepth.isPrefixOf? pattern).any (accepts · path)

/- Whether one of the patterns excludes a path. -/
def excludes
    (patterns : List Text)
    (path : Text) :
    Bool :=
  patterns.any (excludesBy path)

/- Whether one of the patterns excludes a directory. -/
def excludesDirectory
    (patterns : List Text)
    (directory : Text) :
    Bool :=
  excludes patterns
    (Text.dropEndWhile (· == '/') directory ++ ['/'])

end Glob

end RouteAtlas
