import RouteAtlas.Json.Value

/-
  Reading JSON.

  Space is only the space, the tab, the line feed and the
  carriage return.  Besides the standard's values the words
  `NaN`, `Infinity` and `-Infinity` are numbers.  A control
  character in a string is an error, and so is anything but
  space after the value.  When a key is repeated its last
  value counts, in the place of the first.

  Arrays and objects may stand in one another up to a fixed
  depth.  A text that goes deeper is told from one that is
  malformed, whatever follows.
-/

------------------------------------------------------------
-- Space
------------------------------------------------------------

namespace RouteAtlas

namespace Json

/- The four characters that may stand between tokens. -/
def isSpace
    (c : Char) :
    Bool :=
  c == ' ' || c == '\t' || c == '\n' || c == '\r'

/- The text without leading space. -/
def skipSpace
    (t : Text) :
    Text :=
  t.dropWhile isSpace

------------------------------------------------------------
-- Strings
------------------------------------------------------------

/- The value of a hexadecimal digit. -/
def hexValue?
    (c : Char) :
    Option Nat :=
  if c.isDigit then some (c.toNat - 48)
  else if 'a' ≤ c && c ≤ 'f' then some (c.toNat - 87)
  else if 'A' ≤ c && c ≤ 'F' then some (c.toNat - 55)
  else none

/- The code unit written by four hexadecimal digits. -/
def codeUnit?
    (a b c d : Char) :
    Option Nat := do
  let a ← hexValue? a
  let b ← hexValue? b
  let c ← hexValue? c
  let d ← hexValue? d
  return ((a * 16 + b) * 16 + c) * 16 + d

/- The character that a backslash and a letter stand for. -/
def escaped? :
    Char → Option Char
  | '"' => some '"'
  | '\\' => some '\\'
  | '/' => some '/'
  | 'b' => some '\x08'
  | 'f' => some '\x0c'
  | 'n' => some '\n'
  | 'r' => some '\r'
  | 't' => some '\t'
  | _ => none

/-
  Reads a string up to its closing quote.  The result is a
  list of code units: an escaped character above U+FFFF
  still is a pair of surrogates.
-/
def readUnits :
    Text → Option (List Nat × Text)
  | [] => none
  | '"' :: rest => some ([], rest)
  | '\\' :: 'u' :: a :: b :: c :: d :: rest => do
      let unit ← codeUnit? a b c d
      let (units, rest) ← readUnits rest
      return (unit :: units, rest)
  | '\\' :: c :: rest => do
      let char ← escaped? c
      let (units, rest) ← readUnits rest
      return (char.toNat :: units, rest)
  | c :: rest =>
      if c.toNat < 0x20 || c == '\\' then
        none
      else
        (readUnits rest).map fun (units, rest) =>
          (c.toNat :: units, rest)

/-
  A code unit as a character.  A text holds characters only,
  so U+FFFD stands for a lone surrogate, which a document can
  write as an escape.  A reader whose strings hold code units
  keeps it; its string then has no UTF-8 form, so it cannot
  be written to a file again.
-/
def unitChar
    (unit : Nat) :
    Char :=
  if 0xD800 ≤ unit && unit ≤ 0xDFFF then '\uFFFD'
  else Char.ofNat unit

/- The characters of code units, surrogate pairs joined. -/
def joinUnits :
    List Nat → Text
  | [] => []
  | [unit] => [unitChar unit]
  | high :: low :: rest =>
      if 0xD800 ≤ high && high ≤ 0xDBFF &&
          0xDC00 ≤ low && low ≤ 0xDFFF then
        Char.ofNat
          (0x10000 + (high - 0xD800) * 0x400 +
            (low - 0xDC00)) :: joinUnits rest
      else
        unitChar high :: joinUnits (low :: rest)

/- Reads a string whose opening quote has been read. -/
def readString
    (t : Text) :
    Option (Text × Text) :=
  (readUnits t).map fun (units, rest) =>
    (joinUnits units, rest)

------------------------------------------------------------
-- Numbers
------------------------------------------------------------

/- The number that decimal digits write. -/
def digitsValue
    (digits : Text) :
    Nat :=
  digits.foldl (fun n c => n * 10 + (c.toNat - 48)) 0

/- Reads at least one digit. -/
def digits?
    (t : Text) :
    Option (Text × Text) :=
  match t.span Char.isDigit with
  | ([], _) => none
  | (digits, rest) => some (digits, rest)

/- Reads a whole number, which has no leading zero. -/
def wholeDigits?
    (t : Text) :
    Option (Text × Text) :=
  match t with
  | '0' :: rest => some (['0'], rest)
  | _ => digits? t

/- Reads a minus sign, if there is one. -/
def readSign :
    Text → Bool × Text
  | '-' :: rest => (true, rest)
  | t => (false, t)

/- Reads a fraction, if there is one. -/
def fraction?
    (t : Text) :
    Option (Text × Text) :=
  match t with
  | '.' :: rest => digits? rest
  | _ => none

/- Reads an exponent, if there is one. -/
def exponent?
    (t : Text) :
    Option (Int × Text) :=
  match t with
  | c :: rest =>
      if c == 'e' || c == 'E' then
        let (negative, rest) :=
          match rest with
          | '+' :: rest => (false, rest)
          | '-' :: rest => (true, rest)
          | _ => (false, rest)
        (digits? rest).map fun (digits, rest) =>
          let n : Int := digitsValue digits
          (if negative then -n else n, rest)
      else
        none
  | [] => none

/- The most digits that an integer may have. -/
def maxIntegerDigits : Nat := 4300

/- Reads a number written in digits. -/
def readNumber
    (t : Text) :
    Option (Json × Text) := do
  let (negative, t) := readSign t
  let (whole, t) ← wholeDigits? t
  let fraction := fraction? t
  let t := (fraction.map (·.2)).getD t
  let exponent := exponent? t
  let t := (exponent.map (·.2)).getD t
  if fraction.isNone && exponent.isNone then
    if maxIntegerDigits < whole.length then
      none
    else
      let n : Int := digitsValue whole
      some (.integer (if negative then -n else n), t)
  else
    let places := (fraction.map (·.1)).getD []
    let power := (exponent.map (·.1)).getD 0
    some
      (.real
        (.ofDecimal negative (digitsValue (whole ++ places))
          (power - places.length)), t)

------------------------------------------------------------
-- Words
------------------------------------------------------------

/- The values that are written as words. -/
def words : List (Text × Json) :=
  [("null".toList, .null),
   ("true".toList, .bool true),
   ("false".toList, .bool false),
   ("NaN".toList, .real .notANumber),
   ("Infinity".toList, .real (.infinite false)),
   ("-Infinity".toList, .real (.infinite true))]

/- Reads a word. -/
def readWord
    (t : Text) :
    Option (Json × Text) :=
  words.findSome? fun (word, value) =>
    (word.isPrefixOf? t).map fun rest => (value, rest)

------------------------------------------------------------
-- Faults
------------------------------------------------------------

/- Why a text cannot be read. -/
inductive Fault where
  | malformed
  | tooDeep
deriving DecidableEq, Repr

/- What was read, malformed if there is nothing. -/
def orMalformed
    {α : Type} :
    Option α → Except Fault α
  | some a => .ok a
  | none => .error .malformed

/-
  The most arrays and objects that stand in one another.

  A reader calls itself for each of them, and 1000 calls may
  be open at a time.  This is what is left of them when
  eleven are open as reading begins.  Under another limit,
  or begun from deeper down, reading gets further or less
  far before it breaks down.
-/
def maxDepth : Nat := 989

------------------------------------------------------------
-- Values
------------------------------------------------------------

mutual

/-
  Reads a value in which arrays and objects may nest `room`
  deep.  Reading a value or a list of entries takes one unit
  of fuel, and no character is reached by more than two of
  them.
-/
def readValue :
    Nat → Nat → Text → Except Fault (Json × Text)
  | 0, _, _ => .error .malformed
  | fuel + 1, room, t =>
      match t, room with
      | '"' :: rest, _ => do
          let (text, rest) ← orMalformed (readString rest)
          return (.string text, rest)
      | '[' :: _, 0 | '{' :: _, 0 => .error .tooDeep
      | '[' :: rest, room + 1 =>
          match skipSpace rest with
          | ']' :: rest => .ok (.array [], rest)
          | rest => do
              let (items, rest) ← readItems fuel room rest
              return (.array items, rest)
      | '{' :: rest, room + 1 =>
          match skipSpace rest with
          | '}' :: rest => .ok (.object [], rest)
          | rest => do
              let (members, rest) ←
                readMembers fuel room rest
              return (.object (Pairs.putAll members []), rest)
      | _, _ =>
          orMalformed
            ((readWord t).orElse fun _ => readNumber t)

/- Reads the items of an array and its closing bracket. -/
def readItems :
    Nat → Nat → Text → Except Fault (List Json × Text)
  | 0, _, _ => .error .malformed
  | fuel + 1, room, t => do
      let (item, rest) ← readValue fuel room t
      match skipSpace rest with
      | ',' :: rest =>
          let (items, rest) ←
            readItems fuel room (skipSpace rest)
          return (item :: items, rest)
      | ']' :: rest => return ([item], rest)
      | _ => throw .malformed

/- Reads the members of an object and its closing brace. -/
def readMembers :
    Nat → Nat → Text →
      Except Fault (List (Text × Json) × Text)
  | 0, _, _ => .error .malformed
  | fuel + 1, room, t =>
      match t with
      | '"' :: rest => do
          let (key, rest) ← orMalformed (readString rest)
          match skipSpace rest with
          | ':' :: rest =>
              let (value, rest) ←
                readValue fuel room (skipSpace rest)
              match skipSpace rest with
              | ',' :: rest =>
                  let (members, rest) ←
                    readMembers fuel room (skipSpace rest)
                  return ((key, value) :: members, rest)
              | '}' :: rest => return ([(key, value)], rest)
              | _ => throw .malformed
          | _ => throw .malformed
      | _ => .error .malformed

end

/- The value that a whole text writes. -/
def read
    (t : Text) :
    Except Fault Json := do
  let (value, rest) ←
    readValue (2 * t.length + 2) maxDepth (skipSpace t)
  if (skipSpace rest).isEmpty then
    return value
  else
    throw .malformed

/- The value that a whole text writes, if there is one. -/
def read?
    (t : Text) :
    Option Json :=
  (read t).toOption

end Json

end RouteAtlas
