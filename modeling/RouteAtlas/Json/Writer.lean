import RouteAtlas.Json.Value

/-
  Writing JSON.

  A string escapes quotes, backslashes and the characters
  below U+0020, and nothing else.  `Json.indented` puts each
  item and member on a line of its own, two spaces deeper
  than its parent; `Json.oneLine` writes no blanks at all.
-/

------------------------------------------------------------
-- Strings
------------------------------------------------------------

namespace RouteAtlas

namespace Json

/- A hexadecimal digit, letters in lower case. -/
def hexDigit
    (n : Nat) :
    Char :=
  if n < 10 then Char.ofNat (48 + n) else Char.ofNat (87 + n)

/- A character as it is written inside a string. -/
def escapeChar
    (c : Char) :
    Text :=
  if c == '"' then ['\\', '"']
  else if c == '\\' then ['\\', '\\']
  else if c == '\n' then ['\\', 'n']
  else if c == '\r' then ['\\', 'r']
  else if c == '\t' then ['\\', 't']
  else if c == '\x08' then ['\\', 'b']
  else if c == '\x0c' then ['\\', 'f']
  else if c.toNat < 0x20 then
    ['\\', 'u', '0', '0', hexDigit (c.toNat / 16),
      hexDigit (c.toNat % 16)]
  else [c]

/- A string in quotes. -/
def quoted
    (t : Text) :
    Text :=
  '"' :: t.flatMap escapeChar ++ ['"']

------------------------------------------------------------
-- Scalars
------------------------------------------------------------

/- A number that need not be finite. -/
def realText :
    Binary64 → Text
  | .notANumber => "NaN".toList
  | .infinite negative =>
      if negative then "-Infinity".toList
      else "Infinity".toList
  | x => x.text

------------------------------------------------------------
-- Layouts
------------------------------------------------------------

/- A line feed and the indentation of a depth. -/
def newline
    (depth : Nat) :
    Text :=
  '\n' :: List.replicate (2 * depth) ' '

/-
  What a layout puts at the start of each entry of a
  container, before its end, and after the colon of a
  member.
-/
structure Layout where
  entry : Nat → Text
  colon : Text

/- Entries on lines of their own. -/
def Layout.indented : Layout :=
  ⟨newline, [':', ' ']⟩

/- Everything on one line, without blanks. -/
def Layout.oneLine : Layout :=
  ⟨fun _ => [], [':']⟩

mutual

/- A value at a depth, without a line end after it. -/
def writeAt
    (layout : Layout)
    (depth : Nat) :
    Json → Text
  | .null => "null".toList
  | .bool true => "true".toList
  | .bool false => "false".toList
  | .integer n => Text.ofInt n
  | .real x => realText x
  | .string t => quoted t
  | .array [] => "[]".toList
  | .array (item :: items) =>
      '[' :: layout.entry (depth + 1) ++
        writeAt layout (depth + 1) item ++
        writeItems layout (depth + 1) items ++
        layout.entry depth ++ [']']
  | .object [] => ['{', '}']
  | .object (member :: members) =>
      '{' :: layout.entry (depth + 1) ++
        writeMember layout (depth + 1) member ++
        writeMembers layout (depth + 1) members ++
        layout.entry depth ++ ['}']

/- The items behind the first, each after a comma. -/
def writeItems
    (layout : Layout)
    (depth : Nat) :
    List Json → Text
  | [] => []
  | item :: items =>
      ',' :: layout.entry depth ++
        writeAt layout depth item ++
        writeItems layout depth items

/- A key and its value. -/
def writeMember
    (layout : Layout)
    (depth : Nat) :
    Text × Json → Text
  | (key, value) =>
      quoted key ++ layout.colon ++
        writeAt layout depth value

/- The members behind the first, each after a comma. -/
def writeMembers
    (layout : Layout)
    (depth : Nat) :
    List (Text × Json) → Text
  | [] => []
  | member :: members =>
      ',' :: layout.entry depth ++
        writeMember layout depth member ++
        writeMembers layout depth members

end

/- The value with each entry on a line of its own. -/
def indented
    (value : Json) :
    Text :=
  writeAt .indented 0 value

/- The value on one line. -/
def oneLine
    (value : Json) :
    Text :=
  writeAt .oneLine 0 value

end Json

end RouteAtlas
