import RouteAtlas.Url.Host

/-
  URLs split into scheme, authority, path, query and
  fragment, and put together again.

  Leading controls and spaces are dropped, tabs and line
  ends are dropped anywhere, and the scheme is lower-cased.
  Brackets that do not enclose an address make the authority
  invalid, and so does a character whose compatibility form
  holds a delimiter.
-/

------------------------------------------------------------
-- Parts
------------------------------------------------------------

namespace RouteAtlas

/- The parts of a URL, without their delimiters. -/
structure Url where
  scheme : Text
  authority : Text
  path : Text
  query : Text
  fragment : Text
deriving DecidableEq, Repr

namespace Url

/- The characters of a scheme. -/
def isSchemeChar
    (c : Char) :
    Bool :=
  c.isAlphanum || c == '+' || c == '-' || c == '.'

/- The scheme and what follows its colon, if there is one. -/
def cutScheme
    (t : Text) :
    Text × Text :=
  match Text.cut? [':'] t with
  | some (c :: rest, tail) =>
      if c.isAlpha && (c :: rest).all isSchemeChar then
        ((c :: rest).map Char.toLower, tail)
      else
        ([], t)
  | _ => ([], t)

/- The characters that end an authority. -/
def endsAuthority
    (c : Char) :
    Bool :=
  c == '/' || c == '?' || c == '#'

/- The authority, if two slashes open one, and the rest. -/
def cutAuthority :
    Text → Text × Text
  | '/' :: '/' :: rest => rest.span (!endsAuthority ·)
  | t => ([], t)

/- The parts around the first occurrence of a character. -/
def cutAt
    (mark : Char)
    (t : Text) :
    Text × Text :=
  (Text.cut? [mark] t).getD (t, [])

------------------------------------------------------------
-- Authorities
------------------------------------------------------------

/-
  Characters whose compatibility form holds one of the
  delimiters `/`, `?`, `#`, `@` and `:`.
-/
def disguisedDelimiters : List Char :=
  ['\u2047', '\u2048', '\u2049', '\u2100', '\u2101',
   '\u2105', '\u2106', '\u2a74', '\ufe13', '\ufe16',
   '\ufe55', '\ufe56', '\ufe5f', '\ufe6b', '\uff03',
   '\uff0f', '\uff1a', '\uff1f', '\uff20']

/- The host and port of an authority, without user info. -/
def hostAndPort
    (authority : Text) :
    Text :=
  match Text.cutLast? '@' authority with
  | some (_, host) => host
  | none => authority

/-
  Whether the brackets of an authority enclose its host,
  with at most a port behind them.

  This is the check of the standard library from release
  3.11.12 on.  Earlier releases of 3.11 look at most at the
  address between the brackets, so they accept an authority
  such as that of `http://a[::]:80`.
-/
def bracketsAreValid
    (authority : Text) :
    Bool :=
  match authority.any (· == '['), authority.any (· == ']') with
  | false, false => true
  | true, true =>
      let host := hostAndPort authority
      match Text.cut? ['['] host with
      | some (lead, bracketed) =>
          let (address, port) := cutAt ']' bracketed
          lead.isEmpty &&
            (port.isEmpty || Text.startsWith [':'] port) &&
            isBracketed address
      | none => isBracketed (cutAt ':' host).1
  | _, _ => false

/- Whether an authority can be taken apart. -/
def authorityIsValid
    (authority : Text) :
    Bool :=
  bracketsAreValid authority &&
    !authority.any disguisedDelimiters.contains

/- The host and the port as written; either may be empty. -/
def hostPort
    (url : Url) :
    Text × Text :=
  let host := hostAndPort url.authority
  match Text.cut? ['['] host with
  | some (_, bracketed) =>
      let (address, rest) := cutAt ']' bracketed
      (address, (cutAt ':' rest).2)
  | none => cutAt ':' host

/-
  The host, lower-cased up to the zone of an address, or
  `none` when it is empty.
-/
def hostName?
    (url : Url) :
    Option Text :=
  match url.hostPort.1 with
  | [] => none
  | host =>
      match Text.cut? ['%'] host with
      | some (address, zone) =>
          some (Text.lower address ++ '%' :: zone)
      | none => some (Text.lower host)

/- The number that decimal digits write. -/
def portNumber
    (digits : Text) :
    Nat :=
  digits.foldl (fun n c => n * 10 + (c.toNat - 48)) 0

/- The most digits that a port is written in. -/
def maxPortDigits : Nat := 4300

/- Whether the port is absent or a number up to 65535. -/
def portIsValid
    (url : Url) :
    Bool :=
  let port := url.hostPort.2
  port.all Char.isDigit && port.length ≤ maxPortDigits &&
    portNumber port ≤ 65535

------------------------------------------------------------
-- Reading
------------------------------------------------------------

/- The text without what a URL never keeps. -/
def cleaned
    (t : Text) :
    Text :=
  (t.dropWhile (·.toNat ≤ 0x20)).filter fun c =>
    !(c == '\t' || c == '\r' || c == '\n')

/- The parts of a URL whose authority is valid. -/
def ofText?
    (t : Text) :
    Option Url :=
  let (scheme, t) := cutScheme (cleaned t)
  let (authority, t) := cutAuthority t
  let (t, fragment) := cutAt '#' t
  let (path, query) := cutAt '?' t
  if authorityIsValid authority then
    some ⟨scheme, authority, path, query, fragment⟩
  else
    none

------------------------------------------------------------
-- Writing
------------------------------------------------------------

/- A part behind its delimiter; an empty part is dropped. -/
def delimited
    (mark part : Text) :
    Text :=
  if part.isEmpty then [] else mark ++ part

/-
  The URL as text, for a URL with an authority, behind which
  a path is empty or starts with a slash.  Without one, two
  slashes may still be due behind a scheme that has hosts;
  no such URL is written, since a base URL needs a host.
-/
def text
    (url : Url) :
    Text :=
  (if url.scheme.isEmpty then [] else url.scheme ++ [':']) ++
    delimited ['/', '/'] url.authority ++ url.path ++
    delimited ['?'] url.query ++
    delimited ['#'] url.fragment

end Url

end RouteAtlas
