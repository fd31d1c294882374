import Mathlib
import RouteAtlas.Proofs.Url.Web

/-
  URLs without user names, brackets, queries and fragments.

  A URL that is written plainly, a scheme, a host, perhaps a
  port and a path behind them, is read part by part as it is
  written, and its port is valid if it is a number in range.

  Main definitions:
    * `Url.portText`
    * `Url.IsHostName`
    * `Url.IsPlainPath`

  Main statements:
    * `ofText?_plain`
    * `text_plain`
    * `hostPort_plain`
    * `hostName?_plain`
    * `portIsValid_plain`
-/

------------------------------------------------------------
-- Characters
------------------------------------------------------------

namespace RouteAtlas

namespace Url

/- The characters that stand in the names of hosts. -/
def isNameChar
    (c : Char) :
    Bool :=
  c.isAlphanum || c == '-' || c == '.'

/- Whether a text is the name of a host. -/
structure IsHostName
    (host : Text) :
    Prop where
  some : host ≠ []
  chars : ∀ c ∈ host, isNameChar c = true

/- A port as it is written behind its host. -/
def portText
    (port : Option Text) :
    Text :=
  port.elim [] (':' :: ·)

/- Whether a path follows its authority, and nothing it. -/
structure IsPlainPath
    (path : Text) :
    Prop where
  rooted : ∀ c ∈ path.head?, c = '/'
  solid : ∀ c ∈ path, Text.isBlank c = false
  noQuery : '?' ∉ path
  noFragment : '#' ∉ path

/- The characters of plain authorities. -/
def isPlainChar
    (c : Char) :
    Bool :=
  isNameChar c || c == ':'

theorem isBlank_of_isPlainChar
    {c : Char}
    (hPlain : isPlainChar c = true) :
    Text.isBlank c = false := by
  simp only [isPlainChar, isNameChar, Bool.or_eq_true,
    beq_iff_eq] at hPlain
  rcases hPlain with ((hLetter | rfl) | rfl) | rfl
  · exact
      Text.isBlank_of_isWordChar
        (Text.isWordChar_of_isAlphanum hLetter)
  · decide
  · decide
  · decide

section Authority

variable {host : Text}
variable {port : Option Text}

theorem isPlainChar_of_mem_portText
    (hPort :
      ∀ digits ∈ port, ∀ c ∈ digits, c.isDigit = true)
    {c : Char}
    (hMember : c ∈ portText port) :
    isPlainChar c = true := by
  cases port with
  | none => cases hMember
  | some digits =>
      rcases List.mem_cons.mp hMember with rfl | hIn
      · decide
      · have hChar := hPort digits rfl c hIn
        simp [isPlainChar, isNameChar, Char.isAlphanum, hChar]

theorem isPlainChar_of_mem_authority
    (hHost : IsHostName host)
    (hPort :
      ∀ digits ∈ port, ∀ c ∈ digits, c.isDigit = true)
    {c : Char}
    (hMember : c ∈ host ++ portText port) :
    isPlainChar c = true := by
  rcases List.mem_append.mp hMember with hName | hDigit
  · simp [isPlainChar, hHost.chars c hName]
  · exact isPlainChar_of_mem_portText hPort hDigit

/- Nothing in a plain authority needs to be looked into. -/
theorem authorityIsValid_of_plain
    {authority : Text}
    (hPlain : ∀ c ∈ authority, isPlainChar c = true) :
    authorityIsValid authority = true := by
  have hAbsent :
      ∀ mark, isPlainChar mark = false →
        authority.any (· == mark) = false := by
    intro mark hMark
    rw [List.any_eq_false]
    rintro c hMember hSame
    rw [beq_iff_eq] at hSame
    exact
      not_mem_of_forall hPlain hMark (hSame ▸ hMember)
  have hDisguised :
      authority.any disguisedDelimiters.contains = false := by
    have hMarks :
        disguisedDelimiters.any isPlainChar = false := by
      decide +kernel
    rw [List.any_eq_false]
    intro c hMember hIn
    exact
      not_mem_of_forall hPlain
        (eq_false_of_any_eq_false hMarks
          (List.contains_iff_mem.mp hIn))
        hMember
  unfold authorityIsValid bracketsAreValid
  rw [hAbsent '[' (by decide), hAbsent ']' (by decide),
    hDisguised]
  rfl

theorem cutAt_of_not_mem
    {mark : Char}
    {t : Text}
    (hMark : mark ∉ t) :
    cutAt mark t = (t, []) := by
  rw [cutAt, Text.cut?_eq_none hMark]
  rfl

/- The colon in front of the port is the only one. -/
theorem cutAt_portText
    (hHost : ':' ∉ host) :
    cutAt ':' (host ++ portText port) =
      (host, port.getD []) := by
  cases port with
  | none =>
      change cutAt ':' (host ++ []) = (host, [])
      rw [List.append_nil, cutAt_of_not_mem hHost]
  | some digits =>
      have hCut :
          Text.cut? [':'] (host ++ ':' :: digits) =
            some (host, digits) :=
        Text.cut?_append hHost digits
      change
        (Text.cut? [':'] (host ++ ':' :: digits)).getD _ = _
      rw [hCut]
      rfl

end Authority

------------------------------------------------------------
-- Reading
------------------------------------------------------------

theorem isKept_of_isPlainChar
    {c : Char}
    (hPlain : isPlainChar c = true) :
    isKept c = true := by
  have hEnds : ∀ mark, isPlainChar mark = false → c ≠ mark := by
    rintro _ hMark rfl
    rw [hPlain] at hMark
    cases hMark
  simp [isKept, isBreak, endsAuthority,
    hEnds '\t' (by decide), hEnds '\r' (by decide),
    hEnds '\n' (by decide), hEnds '/' (by decide),
    hEnds '?' (by decide), hEnds '#' (by decide)]

theorem IsPlainPath.follows
    {path : Text}
    (hPath : IsPlainPath path) :
    Follows path where
  head := by
    intro c hHead
    rw [hPath.rooted c hHead]
    rfl
  whole := by
    intro c hMember
    rw [Bool.eq_false_iff]
    intro hBreak
    have hSolid := hPath.solid c hMember
    simp only [isBreak, Bool.or_eq_true, beq_iff_eq]
      at hBreak
    rcases hBreak with (rfl | rfl) | rfl <;> cases hSolid

/- A plain URL is read as it is written. -/
theorem ofText?_plain
    {scheme authority path : Text}
    (hSome : scheme ≠ [])
    (hLetters : ∀ c ∈ scheme, c.isAlpha = true)
    (hAuthority : ∀ c ∈ authority, isPlainChar c = true)
    (hPath : IsPlainPath path) :
    ofText? (scheme ++ "://".toList ++ (authority ++ path)) =
      some
        ⟨scheme.map Char.toLower, authority, path, [], []⟩ := by
  have hKept : ∀ c ∈ authority, isKept c = true :=
    fun c hMember =>
      isKept_of_isPlainChar (hAuthority c hMember)
  have hParts :
      ofParts (scheme.map Char.toLower) authority path =
        ⟨scheme.map Char.toLower, authority, path, [], []⟩ := by
    rw [ofParts, cutAt_of_not_mem hPath.noFragment]
    dsimp only
    rw [cutAt_of_not_mem hPath.noQuery]
  rw [ofText?_web hSome hLetters,
    authorityIn_append_follows hKept hPath.follows,
    restIn_append_follows hKept hPath.follows, hParts,
    if_pos (authorityIsValid_of_plain hAuthority)]

/- Written again, its parts stand where they stood. -/
theorem text_plain
    {scheme authority : Text}
    (hScheme : scheme ≠ [])
    (hAuthority : authority ≠ [])
    (path : Text) :
    text ⟨scheme, authority, path, [], []⟩ =
      scheme ++ "://".toList ++ (authority ++ path) := by
  simp [text, delimited, hScheme, hAuthority]

------------------------------------------------------------
-- Host and Port
------------------------------------------------------------

theorem hostAndPort_of_not_mem
    {authority : Text}
    (hUser : '@' ∉ authority) :
    hostAndPort authority = authority := by
  rw [hostAndPort, Text.cutLast?_eq_none hUser]

/- Without user info and brackets a colon ends the host. -/
theorem hostPort_of_not_mem
    {url : Url}
    {host : Text}
    {port : Option Text}
    (hAuthority : url.authority = host ++ portText port)
    (hUser : '@' ∉ host ++ portText port)
    (hBracket : '[' ∉ host ++ portText port)
    (hColon : ':' ∉ host) :
    url.hostPort = (host, port.getD []) := by
  rw [hostPort, hAuthority, hostAndPort_of_not_mem hUser]
  dsimp only
  rw [Text.cut?_eq_none hBracket]
  exact cutAt_portText hColon

section HostAndPort

variable {scheme host path : Text}
variable {port : Option Text}
variable (hHost : IsHostName host)
variable
  (hPort : ∀ digits ∈ port, ∀ c ∈ digits, c.isDigit = true)

include hHost hPort

theorem hostPort_plain :
    hostPort
        ⟨scheme, host ++ portText port, path, [], []⟩ =
      (host, port.getD []) := by
  have hPlain :
      ∀ c ∈ host ++ portText port, isPlainChar c = true :=
    fun c => isPlainChar_of_mem_authority hHost hPort
  have hNoUser : '@' ∉ host ++ portText port :=
    not_mem_of_forall hPlain (by decide)
  have hNoBracket : '[' ∉ host ++ portText port :=
    not_mem_of_forall hPlain (by decide)
  have hColon : ':' ∉ host :=
    not_mem_of_forall hHost.chars (by decide)
  exact hostPort_of_not_mem rfl hNoUser hNoBracket hColon

theorem hostName?_plain :
    hostName?
        ⟨scheme, host ++ portText port, path, [], []⟩ =
      some (Text.lower host) := by
  have hNoZone : '%' ∉ host :=
    not_mem_of_forall hHost.chars (by decide)
  rw [hostName?, hostPort_plain hHost hPort]
  cases host with
  | nil => exact absurd rfl hHost.some
  | cons c host =>
      dsimp only
      rw [Text.cut?_eq_none hNoZone]

/- A port is a number in range, and not overlong. -/
theorem portIsValid_plain :
    portIsValid
        ⟨scheme, host ++ portText port, path, [], []⟩ =
      port.all fun digits =>
        digits.length ≤ maxPortDigits &&
          portNumber digits ≤ 65535 := by
  rw [portIsValid, hostPort_plain hHost hPort]
  cases port with
  | none => rfl
  | some digits =>
      have hDigits : digits.all Char.isDigit = true :=
        List.all_eq_true.mpr (hPort digits rfl)
      dsimp only [Option.getD_some, Option.all_some]
      rw [hDigits, Bool.true_and]

end HostAndPort

end Url

end RouteAtlas
