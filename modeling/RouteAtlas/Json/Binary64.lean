import RouteAtlas.Text.Basic

/-
  Binary floating point numbers of 64 bits, in exact
  arithmetic on natural numbers.

  A finite number is `mantissa * 2 ^ exponent` with a sign;
  mantissas have at most 53 bits and exponents are at least
  -1074.  A decimal is read by rounding to nearest, ties to
  even.  A number is written with the fewest digits that
  read back as it.
-/

------------------------------------------------------------
-- Numbers
------------------------------------------------------------

namespace RouteAtlas

/- A number of the binary64 format. -/
inductive Binary64 where
  | finite
      (negative : Bool)
      (mantissa : Nat)
      (exponent : Int)
  | infinite (negative : Bool)
  | notANumber
deriving DecidableEq, Repr

namespace Binary64

------------------------------------------------------------
-- Reading Decimals
------------------------------------------------------------

/- The quotient rounded to nearest, ties to even. -/
def roundDiv
    (num den : Nat) :
    Nat :=
  let quotient := num / den
  let twice := 2 * (num % den)
  if twice < den then
    quotient
  else if den < twice then
    quotient + 1
  else
    quotient + quotient % 2

/- The quotient of two numbers divided by a power of two. -/
def roundScaled
    (num den : Nat)
    (exponent : Int) :
    Nat :=
  match exponent with
  | .ofNat n => roundDiv num (den * Nat.pow 2 n)
  | .negSucc n => roundDiv (num * Nat.pow 2 (n + 1)) den

/-
  The exponent of the positive quotient: with it the
  mantissa has 53 bits, or fewer at the least exponent.
-/
def exponentOf
    (num den : Nat) :
    Int :=
  let guess : Int := (num.log2 : Int) - den.log2 - 52
  let small : Bool :=
    match guess with
    | .ofNat n => num < den * Nat.pow 2 (n + 52)
    | .negSucc n =>
        num * Nat.pow 2 (n + 1) < den * Nat.pow 2 52
  max (if small then guess - 1 else guess) (-1074)

/- The number nearest to a positive quotient. -/
def ofQuotient
    (negative : Bool)
    (num den : Nat) :
    Binary64 :=
  let exponent := exponentOf num den
  let mantissa := roundScaled num den exponent
  let (mantissa, exponent) :=
    if mantissa = Nat.pow 2 53 then (Nat.pow 2 52, exponent + 1)
    else (mantissa, exponent)
  if 971 < exponent then
    .infinite negative
  else
    .finite negative mantissa exponent

/-
  The number nearest to `digits * 10 ^ power`.  Decimals far
  out of range are decided by their number of digits.
-/
def ofDecimal
    (negative : Bool)
    (digits : Nat)
    (power : Int) :
    Binary64 :=
  let magnitude : Int := (Text.ofNat digits).length + power
  if digits = 0 || magnitude < -400 then
    .finite negative 0 (-1074)
  else if 400 < magnitude then
    .infinite negative
  else
    match power with
    | .ofNat n => ofQuotient negative (digits * Nat.pow 10 n) 1
    | .negSucc n =>
        ofQuotient negative digits (Nat.pow 10 (n + 1))

------------------------------------------------------------
-- Integers
------------------------------------------------------------

/- The integer that the number is, when it is one. -/
def toInt? :
    Binary64 → Option Int
  | .finite negative mantissa exponent =>
      let magnitude : Option Nat :=
        match exponent with
        | .ofNat n => some (mantissa * Nat.pow 2 n)
        | .negSucc n =>
            if mantissa % Nat.pow 2 (n + 1) = 0 then
              some (mantissa / Nat.pow 2 (n + 1))
            else
              none
      magnitude.map fun m =>
        if negative then -(m : Int) else (m : Int)
  | _ => none

------------------------------------------------------------
-- Shortest Digits
------------------------------------------------------------

/-
  A positive number between the ends of the interval of all
  reals that round to it, over one denominator.
-/
structure Interval where
  low : Nat
  value : Nat
  high : Nat
  den : Nat
  closed : Bool

/- The interval of a number `mantissa * 2 ^ exponent`. -/
def interval
    (mantissa : Nat)
    (exponent : Int) :
    Interval :=
  let below :=
    if mantissa = Nat.pow 2 52 && -1074 < exponent then 1 else 2
  let (scale, den) : Nat × Nat :=
    match exponent - 2 with
    | .ofNat n => (Nat.pow 2 n, 1)
    | .negSucc n => (1, Nat.pow 2 (n + 1))
  { low := (4 * mantissa - below) * scale
    value := 4 * mantissa * scale
    high := (4 * mantissa + 2) * scale
    den
    closed := mantissa % 2 = 0 }

/- The interval with everything but `den` times a factor. -/
def Interval.times
    (i : Interval)
    (factor : Nat) :
    Interval :=
  { i with
    low := i.low * factor
    value := i.value * factor
    high := i.high * factor }

/- The interval in units of a power of ten. -/
def Interval.inUnits
    (i : Interval) :
    Int → Interval
  | .ofNat n => { i with den := i.den * Nat.pow 10 n }
  | .negSucc n => i.times (Nat.pow 10 (n + 1))

/- Whether a whole number of units rounds to the number. -/
def Interval.holds
    (i : Interval)
    (n : Nat) :
    Bool :=
  if i.closed then
    i.low ≤ n * i.den && n * i.den ≤ i.high
  else
    i.low < n * i.den && n * i.den < i.high

/-
  The whole number of units that rounds to the number and
  lies nearest to it, if there is one; a tie goes to even.
-/
def Interval.nearest?
    (i : Interval) :
    Option Nat :=
  let n := i.value / i.den
  let nearer := roundDiv i.value i.den
  let other := if nearer = n then n + 1 else n
  if i.holds nearer then some nearer
  else if i.holds other then some other
  else none

/-
  How many times a value below one has to be multiplied by
  ten to reach one, at most `fuel` times.
-/
def leadingZeros :
    Nat → Nat → Nat → Nat
  | 0, _, _ => 0
  | fuel + 1, value, den =>
      if value * 10 < den then
        leadingZeros fuel (value * 10) den + 1
      else
        0

/-
  The number of digits before the decimal point, negative
  when zeros follow the point.
-/
def Interval.pointPosition
    (i : Interval) :
    Int :=
  if i.den ≤ i.value then
    (Text.ofNat (i.value / i.den)).length
  else
    -(leadingZeros 400 i.value i.den : Int)

/-
  The first grid of `count`, `count + 1`, … digits that has
  a point in the interval: that point and its unit's power.
-/
def Interval.shortestFrom
    (i : Interval)
    (point : Int) :
    Nat → Nat → Nat × Int
  | 0, count =>
      (roundDiv (i.inUnits (point - count)).value
        (i.inUnits (point - count)).den, point - count)
  | fuel + 1, count =>
      match (i.inUnits (point - count)).nearest? with
      | some n => (n, point - count)
      | none => i.shortestFrom point fuel (count + 1)

/-
  The fewest decimal digits of a positive number, and the
  position of the decimal point behind the first of them.
-/
def shortestDigits
    (mantissa : Nat)
    (exponent : Int) :
    Text × Int :=
  let i := interval mantissa exponent
  let (n, power) := i.shortestFrom i.pointPosition 17 1
  let digits := Text.ofNat n
  (Text.dropEndWhile (· == '0') digits,
    digits.length + power)

------------------------------------------------------------
-- Writing
------------------------------------------------------------

/- An exponent with its sign and at least two digits. -/
def exponentText
    (n : Int) :
    Text :=
  let digits := Text.ofNat n.natAbs
  (if n < 0 then '-' else '+') ::
    (if digits.length < 2 then '0' :: digits else digits)

/-
  Digits with the decimal point in its position: written out
  from 0.0001 to below 10^16, with an exponent otherwise.
-/
def layout
    (digits : Text)
    (point : Int) :
    Text :=
  if -4 < point && point ≤ 16 then
    if point ≤ 0 then
      "0.".toList ++
        List.replicate (-point).toNat '0' ++ digits
    else
      let whole := point.toNat
      if digits.length ≤ whole then
        digits ++
          List.replicate (whole - digits.length) '0' ++
          ".0".toList
      else
        digits.take whole ++ '.' :: digits.drop whole
  else
    let lead := digits.take 1
    let rest := digits.drop 1
    lead ++ (if rest.isEmpty then [] else '.' :: rest) ++
      'e' :: exponentText (point - 1)

/- The number in decimal, with the fewest digits. -/
def text :
    Binary64 → Text
  | .notANumber => "nan".toList
  | .infinite negative =>
      if negative then "-inf".toList else "inf".toList
  | .finite negative mantissa exponent =>
      let magnitude :=
        if mantissa = 0 then
          "0.0".toList
        else
          let (digits, point) :=
            shortestDigits mantissa exponent
          layout digits point
      if negative then '-' :: magnitude else magnitude

end Binary64

end RouteAtlas
