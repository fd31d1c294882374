import RouteAtlas.Json.Reader
import RouteAtlas.Validation.Checked

/-
  Conversions of JSON values to the types of fields.

  Texts, lists and choices are taken as they are.  Integers
  may also be given as whole floating point numbers, truth
  values and decimal texts; truth values also as zero and
  one and by the usual words.

  A decimal text is cleaned before it is read: blanks around
  it, a plus sign, leading zeros, a fraction of zeros and
  single underscores are dropped.  What is left has to be a
  numeral in its shortest form.
-/

------------------------------------------------------------
-- Texts and Lists
------------------------------------------------------------

namespace RouteAtlas

namespace Conversion

variable {α : Type}

/- A text. -/
def text :
    Json → Checked Text
  | .string t => .valid t
  | _ => .invalid [[]]

/- A text or `null`. -/
def textOrNull :
    Json → Checked (Option Text)
  | .null => .valid none
  | value => some <$> text value

/- A list of values of one type. -/
def list
    (check : Json → Checked α) :
    Json → Checked (List α)
  | .array values => Checked.items check 0 values
  | _ => .invalid [[]]

/- One of the texts that `choose` knows. -/
def choice
    (choose : Text → Option α) :
    Json → Checked α
  | .string t => .ofOption (choose t)
  | _ => .invalid [[]]

------------------------------------------------------------
-- Integers
------------------------------------------------------------

/- White space, control separators excluded. -/
def isTrimmed
    (c : Char) :
    Bool :=
  Text.isBlank c && !(0x1C ≤ c.toNat && c.toNat ≤ 0x1F)

/-
  A text whose first zeros are dropped, together with the
  underscores among them; `last` is the last one dropped.
  It comes back where nothing or a fraction follows.
-/
def dropZeros
    (last : Char) :
    Text → Option Text
  | [] => some [last]
  | c :: rest =>
      if c == '0' || c == '_' then dropZeros c rest
      else if c.isDigit || c == '-' then some (c :: rest)
      else if c == '.' then some (last :: c :: rest)
      else none

/- A text without leading zeros, if a number begins it. -/
def withoutLeadingZeros? :
    Text → Option Text
  | [] => none
  | c :: rest =>
      if c == '0' then dropZeros c rest
      else if c.isDigit || c == '-' then some (c :: rest)
      else none

/- A text without a fraction that has nothing but zeros. -/
def withoutZeroFraction
    (t : Text) :
    Text :=
  match Text.after? '.' t with
  | some (c :: rest) =>
      if (c :: rest).all (· == '0') then Text.before '.' t
      else t
  | _ => t

/- A text without underscores, all of them between others. -/
def withoutUnderscores?
    (t : Text) :
    Option Text :=
  let pieces := Text.splitOn '_' t
  if pieces.any (·.isEmpty) then none else some pieces.flatten

/- The most digits of a numeral, a sign not counted. -/
def maxNumeralDigits : Nat := 4300

/- The number of digits without a leading zero. -/
def natOfDigits?
    (t : Text) :
    Option Nat :=
  match t with
  | [] => none
  | ['0'] => some 0
  | '0' :: _ => none
  | _ =>
      if t.all Char.isDigit &&
          t.length ≤ maxNumeralDigits then
        some (Json.digitsValue t)
      else
        none

/- The number of a numeral in its shortest form. -/
def intOfNumeral? :
    Text → Option Int
  | '-' :: rest => (natOfDigits? rest).map fun n => -(n : Int)
  | t => (natOfDigits? t).map Int.ofNat

/- A text in which only the numeral is left. -/
def cleaned?
    (t : Text) :
    Option Text := do
  let (sign, digits) :=
    match t with
    | '-' :: rest => (['-'], rest)
    | '+' :: '-' :: _ => ([], [])
    | '+' :: rest => ([], rest)
    | _ => ([], t)
  let digits ← withoutLeadingZeros? digits
  withoutUnderscores? (withoutZeroFraction (sign ++ digits))

/- The integer that a decimal text writes. -/
def intOfText?
    (t : Text) :
    Option Int :=
  (cleaned?
    (Text.dropEndWhile isTrimmed
      (t.dropWhile isTrimmed))).bind intOfNumeral?

/- Two to the power of 63. -/
def wholeBound : Int := 9223372036854775808

/- Whether a floating point number is taken as an integer. -/
def fitsInteger
    (n : Int) :
    Bool :=
  -wholeBound < n && n < wholeBound

/- An integer. -/
def integer :
    Json → Checked Int
  | .integer n => .valid n
  | .bool b => .valid (if b then 1 else 0)
  | .real x => .ofOption (x.toInt?.filter fitsInteger)
  | .string t => .ofOption (intOfText? t)
  | _ => .invalid [[]]

/- An integer that is at least one. -/
def positive
    (value : Json) :
    Checked Nat :=
  match integer value with
  | .valid n =>
      if 1 ≤ n then .valid n.toNat else .invalid [[]]
  | .invalid locations => .invalid locations

------------------------------------------------------------
-- Truth Values
------------------------------------------------------------

/- The words for true, in lower case. -/
def trueWords : List Text :=
  ["1".toList, "on".toList, "t".toList, "true".toList,
   "y".toList, "yes".toList]

/- The words for false, in lower case. -/
def falseWords : List Text :=
  ["0".toList, "off".toList, "f".toList, "false".toList,
   "n".toList, "no".toList]

/- The truth value that a word stands for, in any case. -/
def boolOfText?
    (t : Text) :
    Option Bool :=
  let word := t.map Char.toLower
  if trueWords.contains word then some true
  else if falseWords.contains word then some false
  else none

/- The truth value that a number stands for. -/
def boolOfInt?
    (n : Int) :
    Option Bool :=
  if n = 0 then some false
  else if n = 1 then some true
  else none

/- A truth value. -/
def truth :
    Json → Checked Bool
  | .bool b => .valid b
  | .integer n => .ofOption (boolOfInt? n)
  | .real x => .ofOption (x.toInt?.bind boolOfInt?)
  | .string t => .ofOption (boolOfText? t)
  | _ => .invalid [[]]

------------------------------------------------------------
-- Fields
------------------------------------------------------------

/- A member that has to be present. -/
def required
    (name : Text)
    (check : Json → Checked α)
    (members : List (Text × Json)) :
    Checked α :=
  match Pairs.get? name members with
  | some value => (check value).inside name
  | none => .invalid [name]

/- A member that has a default. -/
def optional
    (name : Text)
    (check : Json → Checked α)
    (otherwise : α)
    (members : List (Text × Json)) :
    Checked α :=
  match Pairs.get? name members with
  | some value => (check value).inside name
  | none => .valid otherwise

/- An object; its members are checked one by one. -/
def object
    (check : List (Text × Json) → Checked α) :
    Json → Checked α
  | .object members => check members
  | _ => .invalid [[]]

end Conversion

end RouteAtlas
