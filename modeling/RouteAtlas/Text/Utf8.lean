import RouteAtlas.Text.Lines

/-
  UTF-8.

  Decoding reads one character, or the longest beginning of
  a character that is then broken off, and goes on behind
  it.  The lossy decoder drops what is broken off; the
  strict one refuses the bytes.
-/

------------------------------------------------------------
-- Single Characters
------------------------------------------------------------

namespace RouteAtlas

namespace Utf8

/- A sequence of bytes. -/
abbrev Bytes := List UInt8

/- Whether a byte continues a character. -/
def isTail
    (b : UInt8) :
    Bool :=
  0x80 ≤ b && b ≤ 0xBF

/-
  Whether a byte may stand second, after the first byte of a
  character of three or four bytes.  It excludes forms that
  are too long, surrogates and what lies above U+10FFFF.
-/
def maySecond
    (first second : UInt8) :
    Bool :=
  isTail second &&
    (if first == 0xE0 then 0xA0 ≤ second
    else if first == 0xED then second ≤ 0x9F
    else if first == 0xF0 then 0x90 ≤ second
    else if first == 0xF4 then second ≤ 0x8F
    else true)

/- The bits that a tail byte adds to a code point. -/
def addTail
    (n : Nat)
    (b : UInt8) :
    Nat :=
  n * 0x40 + (b.toNat - 0x80)

/-
  The character at the start of the bytes, if there is one,
  and how many further bytes belong to what was read.
-/
def step
    (first : UInt8)
    (rest : Bytes) :
    Option Char × Nat :=
  if first < 0x80 then
    (some (Char.ofNat first.toNat), 0)
  else if 0xC2 ≤ first && first ≤ 0xDF then
    match rest with
    | b :: _ =>
        if isTail b then
          (some (Char.ofNat
            (addTail (first.toNat - 0xC0) b)), 1)
        else
          (none, 0)
    | [] => (none, 0)
  else if 0xE0 ≤ first && first ≤ 0xEF then
    match rest with
    | b :: tail =>
        if maySecond first b then
          match tail with
          | c :: _ =>
              if isTail c then
                (some (Char.ofNat
                  (addTail (addTail
                    (first.toNat - 0xE0) b) c)), 2)
              else
                (none, 1)
          | [] => (none, 1)
        else
          (none, 0)
    | [] => (none, 0)
  else if 0xF0 ≤ first && first ≤ 0xF4 then
    match rest with
    | b :: tail =>
        if maySecond first b then
          match tail with
          | c :: tail =>
              if isTail c then
                match tail with
                | d :: _ =>
                    if isTail d then
                      (some (Char.ofNat
                        (addTail (addTail (addTail
                          (first.toNat - 0xF0) b) c) d)), 3)
                    else
                      (none, 2)
                | [] => (none, 2)
              else
                (none, 1)
          | [] => (none, 1)
        else
          (none, 0)
    | [] => (none, 0)
  else
    (none, 0)

------------------------------------------------------------
-- Decoding
------------------------------------------------------------

/-
  What is read at each step, `none` for bytes that are no
  character.  The first `skip` bytes have been read already.
-/
def stepsFrom :
    Nat → Bytes → List (Option Char)
  | _, [] => []
  | skip + 1, _ :: rest => stepsFrom skip rest
  | 0, b :: rest =>
      let (char, skip) := step b rest
      char :: stepsFrom skip rest

/- The text of the bytes, undecodable ones dropped. -/
def decodeLossy
    (bytes : Bytes) :
    Text :=
  (stepsFrom 0 bytes).filterMap id

/- All the characters, or nothing if one of them is absent. -/
def allPresent :
    List (Option Char) → Option Text
  | [] => some []
  | none :: _ => none
  | some c :: rest => (allPresent rest).map (c :: ·)

/- The text of the bytes, when all can be decoded. -/
def decode?
    (bytes : Bytes) :
    Option Text :=
  allPresent (stepsFrom 0 bytes)

/- The bytes without a leading byte order mark. -/
def dropMark :
    Bytes → Bytes
  | 0xEF :: 0xBB :: 0xBF :: rest => rest
  | bytes => bytes

------------------------------------------------------------
-- Encoding
------------------------------------------------------------

/- A tail byte with the six low bits of a number. -/
def tailByte
    (n : Nat) :
    UInt8 :=
  UInt8.ofNat (0x80 + n % 0x40)

/- The bytes of a character. -/
def encodeChar
    (c : Char) :
    Bytes :=
  let n := c.toNat
  if n < 0x80 then
    [UInt8.ofNat n]
  else if n < 0x800 then
    [UInt8.ofNat (0xC0 + n / 0x40), tailByte n]
  else if n < 0x10000 then
    [UInt8.ofNat (0xE0 + n / 0x1000),
      tailByte (n / 0x40), tailByte n]
  else
    [UInt8.ofNat (0xF0 + n / 0x40000),
      tailByte (n / 0x1000), tailByte (n / 0x40),
      tailByte n]

/- The bytes of a text. -/
def encode
    (t : Text) :
    Bytes :=
  t.flatMap encodeChar

end Utf8

end RouteAtlas
