import RouteAtlas.Text.Basic

/-
  Addresses in brackets.  The host of a URL may be written
  in brackets when it is an IPv6 address, with an optional
  zone, or an address of a future version.
-/

------------------------------------------------------------
-- IPv4 Addresses
------------------------------------------------------------

namespace RouteAtlas

namespace Url

/- A decimal number below 256 without leading zeros. -/
def isOctet
    (t : Text) :
    Bool :=
  t.all Char.isDigit &&
    match t with
    | [] => false
    | [_] => true
    | ['0', _] => false
    | [_, _] => true
    | [a, b, c] =>
        a == '1' ||
          (a == '2' &&
            (b < '5' || (b == '5' && c ≤ '5')))
    | _ => false

/- Four octets with dots between them. -/
def isIPv4
    (t : Text) :
    Bool :=
  let octets := Text.splitOn '.' t
  octets.length == 4 && octets.all isOctet

------------------------------------------------------------
-- IPv6 Addresses
------------------------------------------------------------

/- A hexadecimal digit. -/
def isHexDigit
    (c : Char) :
    Bool :=
  c.isDigit || ('a' ≤ c && c ≤ 'f') || ('A' ≤ c && c ≤ 'F')

/- One to four hexadecimal digits. -/
def isGroup
    (t : Text) :
    Bool :=
  !t.isEmpty && t.length ≤ 4 && t.all isHexDigit

/-
  The number of groups that texts stand for, the last of
  which may be an IPv4 address and then stands for two.
-/
def groupCount? :
    List Text → Option Nat
  | [] => some 0
  | [last] =>
      if isGroup last then some 1
      else if isIPv4 last then some 2
      else none
  | group :: rest =>
      if isGroup group then (groupCount? rest).map (· + 1)
      else none

/- The groups of a text, none for the empty text. -/
def groups
    (t : Text) :
    List Text :=
  if t.isEmpty then [] else Text.splitOn ':' t

/-
  Eight groups with colons between them, or fewer with one
  double colon for those left out.
-/
def isIPv6
    (t : Text) :
    Bool :=
  match Text.cut? "::".toList t with
  | none => groupCount? (groups t) == some 8
  | some (head, tail) =>
      (groups head).all isGroup &&
        match groupCount? (groups tail) with
        | some n => (groups head).length + n ≤ 7
        | none => false

/- An address with an optional zone after a percent sign. -/
def isZonedIPv6
    (t : Text) :
    Bool :=
  match Text.cut? ['%'] t with
  | none => isIPv6 t
  | some (address, zone) =>
      !zone.isEmpty && !zone.any (· == '%') &&
        isIPv6 address

------------------------------------------------------------
-- Brackets
------------------------------------------------------------

/- A `v`, hexadecimal digits, a dot and anything behind. -/
def isFutureAddress
    (t : Text) :
    Bool :=
  match t with
  | 'v' :: rest =>
      match rest.span isHexDigit with
      | (_ :: _, '.' :: _ :: _) => true
      | _ => false
  | _ => false

/- Whether a text may stand in brackets. -/
def isBracketed
    (t : Text) :
    Bool :=
  if Text.startsWith ['v'] t then isFutureAddress t
  else isZonedIPv6 t

end Url

end RouteAtlas
