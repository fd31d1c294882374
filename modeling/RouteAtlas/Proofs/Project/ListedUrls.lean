import Mathlib
import RouteAtlas.Project.LaunchSettings
import RouteAtlas.Proofs.Text.BlankRuns
import RouteAtlas.Proofs.Unicode.Boundaries
import RouteAtlas.Proofs.Url.Plain

/-
  The base URL of a URL that launch settings list.

  It is the URL with its scheme in lower case, with
  `localhost` for a host that stands for every address, and
  without one final slash; all else stays as it is written.
  There is none just if the port is out of range, or is
  written in more digits than are read.

  The URL is taken apart twice, once for its host and once
  for all of its parts, and both times in the same places.

  Main definitions:
    * `LaunchSettings.ListedUrl`
    * `LaunchSettings.ListedUrl.base`

  Main statements:
    * `splitAuthority_authority`
    * `withReachableHost?_text`
    * `normalize?_text`
-/

------------------------------------------------------------
-- Listed URLs
------------------------------------------------------------

namespace RouteAtlas

namespace LaunchSettings

/- The hosts of a list that stand for every address. -/
def anyHosts : List Text :=
  ["0.0.0.0".toList, "*".toList, "+".toList,
   "[::]".toList]

/- The schemes of a list, in lower case. -/
def webSchemes : List Text :=
  ["http".toList, "https".toList]

section WebScheme

variable {scheme : Text}
variable (hWeb : scheme.map Char.toLower ∈ webSchemes)

include hWeb

theorem isAlpha_of_webScheme
    {c : Char}
    (hMember : c ∈ scheme) :
    c.isAlpha = true := by
  have hLower : c.toLower ∈ scheme.map Char.toLower :=
    List.mem_map_of_mem hMember
  have hLetters :
      webSchemes.all (·.all Char.isAlpha) = true := by
    decide
  rw [List.all_eq_true] at hLetters
  have hLetter : c.toLower.isAlpha = true :=
    List.all_eq_true.mp (hLetters _ hWeb) _ hLower
  rwa [Char.isAlpha_toLower_eq_isAlpha] at hLetter

theorem ne_nil_of_webScheme :
    scheme ≠ [] := by
  rintro rfl
  exact absurd hWeb (by decide)

end WebScheme

/- The characters of the paths of a list. -/
def isPathChar
    (c : Char) :
    Bool :=
  !(Text.isBlank c || c == ';' || c == '?' || c == '#')

/- A URL of a list, in the parts that it is written in. -/
structure ListedUrl where
  scheme : Text
  host : Text
  port : Option Text
  path : Text
  schemeIsWeb : scheme.map Char.toLower ∈ webSchemes
  hostIsListed : host ∈ anyHosts ∨ Url.IsHostName host
  portIsWritten :
    ∀ digits ∈ port,
      digits ≠ [] ∧ ∀ c ∈ digits, c.isDigit = true
  pathIsRooted : ∀ c ∈ path.head?, c = '/'
  pathIsPlain : ∀ c ∈ path, isPathChar c = true

namespace ListedUrl

variable (url : ListedUrl)

def lowerScheme : Text :=
  url.scheme.map Char.toLower

def authority : Text :=
  url.host ++ Url.portText url.port

/- The URL as it is written. -/
def text : Text :=
  url.scheme ++ "://".toList ++ (url.authority ++ url.path)

/- The host that a request goes to. -/
def shownHost : Text :=
  if url.host ∈ anyHosts then "localhost".toList
  else url.host

/- The path without its last character if it is a slash. -/
def shownPath : Text :=
  if url.path.getLast? = some '/' then url.path.dropLast
  else url.path

/- The URL as the base of requests. -/
def base : Text :=
  url.lowerScheme ++ "://".toList ++
    (url.shownHost ++ Url.portText url.port ++
      url.shownPath)

/-
  Whether the port is absent, or up to 65535 and in no more
  digits than are read.
-/
def portIsRead : Bool :=
  url.port.all fun digits =>
    digits.length ≤ Url.maxPortDigits &&
      Url.portNumber digits ≤ 65535

------------------------------------------------------------
-- Characters of a URL
------------------------------------------------------------

theorem isAlpha_of_mem_scheme
    {c : Char}
    (hMember : c ∈ url.scheme) :
    c.isAlpha = true :=
  isAlpha_of_webScheme url.schemeIsWeb hMember

theorem scheme_ne_nil :
    url.scheme ≠ [] :=
  ne_nil_of_webScheme url.schemeIsWeb

theorem isDigit_of_mem_port :
    ∀ digits ∈ url.port, ∀ c ∈ digits, c.isDigit = true :=
  fun digits hPort => (url.portIsWritten digits hPort).2

theorem isPlainPath :
    Url.IsPlainPath url.path where
  rooted := url.pathIsRooted
  solid := by
    intro c hMember
    have hChar := url.pathIsPlain c hMember
    simp only [isPathChar, Bool.not_eq_true',
      Bool.or_eq_false_iff] at hChar
    exact hChar.1.1.1
  noQuery := Url.not_mem_of_forall url.pathIsPlain (by decide)
  noFragment :=
    Url.not_mem_of_forall url.pathIsPlain (by decide)

/- The characters of the hosts and ports of a list. -/
def isListedChar
    (c : Char) :
    Bool :=
  Url.isPlainChar c || ['*', '+', '[', ']'].contains c

theorem isListedChar_of_mem_host
    {c : Char}
    (hMember : c ∈ url.host) :
    isListedChar c = true := by
  rcases url.hostIsListed with hAny | hName
  · have hChars :
        anyHosts.all (·.all isListedChar) = true := by
      decide
    rw [List.all_eq_true] at hChars
    exact List.all_eq_true.mp (hChars _ hAny) c hMember
  · simp [isListedChar, Url.isPlainChar,
      hName.chars c hMember]

theorem isListedChar_of_mem_authority
    {c : Char}
    (hMember : c ∈ url.authority) :
    isListedChar c = true := by
  rcases List.mem_append.mp hMember with hHost | hPort
  · exact url.isListedChar_of_mem_host hHost
  · have hPlain :=
      Url.isPlainChar_of_mem_portText
        url.isDigit_of_mem_port hPort
    rw [isListedChar, hPlain, Bool.true_or]

theorem isBlank_of_isListedChar
    {c : Char}
    (hListed : isListedChar c = true) :
    Text.isBlank c = false := by
  rw [isListedChar, Bool.or_eq_true] at hListed
  rcases hListed with hPlain | hOther
  · exact Url.isBlank_of_isPlainChar hPlain
  · exact
      Url.eq_false_of_any_eq_false (by decide)
        (List.contains_iff_mem.mp hOther)

/- No piece of a list is cut short, or stripped of a part. -/
theorem isSolid_of_mem_text
    {c : Char}
    (hMember : c ∈ url.text) :
    Text.isBlank c = false ∧ c ≠ ';' := by
  simp only [text, List.mem_append] at hMember
  rcases hMember with (hLetter | hMark) | hIn | hPath
  · have hAlpha := url.isAlpha_of_mem_scheme hLetter
    constructor
    · apply Url.isBlank_of_isPlainChar
      simp [Url.isPlainChar, Url.isNameChar,
        Char.isAlphanum, hAlpha]
    · rintro rfl
      cases hAlpha
  · refine
      ⟨Url.eq_false_of_any_eq_false (by decide) hMark, ?_⟩
    rintro rfl
    exact absurd hMark (by decide)
  · have hListed := url.isListedChar_of_mem_authority hIn
    refine ⟨isBlank_of_isListedChar hListed, ?_⟩
    rintro rfl
    cases hListed
  · refine ⟨url.isPlainPath.solid c hPath, ?_⟩
    rintro rfl
    cases url.pathIsPlain ';' hPath

end ListedUrl

------------------------------------------------------------
-- Hosts to Request
------------------------------------------------------------

section WebScheme

variable {scheme : Text}
variable (hWeb : scheme.map Char.toLower ∈ webSchemes)

include hWeb

theorem cut?_web
    (rest : Text) :
    Text.cut? "://".toList (scheme ++ "://".toList ++ rest) =
      some (scheme, rest) := by
  have hColon : ':' ∉ scheme :=
    Url.not_mem_of_forall (fun _ => isAlpha_of_webScheme hWeb)
      (by decide)
  rw [List.append_assoc]
  exact Text.cut?_append hColon rest

/- Only the authority is changed, up to the first slash. -/
theorem withReachableHost?_web
    (rest : Text) :
    withReachableHost? (scheme ++ "://".toList ++ rest) =
      some
        (scheme ++ "://".toList ++
          (reachable (rest.takeWhile (· != '/')) ++
            rest.dropWhile (· != '/'))) := by
  rw [withReachableHost?, cut?_web hWeb, Option.map_some]
  dsimp only
  rw [List.span_eq_takeWhile_dropWhile, List.append_assoc]

end WebScheme

/- An address in brackets is read up to the closing one. -/
theorem splitAuthority_bracketed
    {address : Text}
    (hClosing : ']' ∉ '[' :: address)
    (port : Option Text) :
    splitAuthority
        ('[' :: address ++ [']'] ++ Url.portText port) =
      ('[' :: address ++ [']'], port.getD []) := by
  have hCut :
      Url.cutAt ']'
          ('[' :: (address ++ ']' :: Url.portText port)) =
        ('[' :: address, Url.portText port) := by
    have hFound :
        Text.cut? [']']
            ('[' :: address ++ ']' :: Url.portText port) =
          some ('[' :: address, Url.portText port) :=
      Text.cut?_append hClosing (Url.portText port)
    rw [List.cons_append] at hFound
    rw [Url.cutAt, hFound]
    rfl
  rw [List.append_assoc, List.singleton_append,
    List.cons_append, splitAuthority, hCut]
  cases port with
  | none => rfl
  | some digits => rfl

theorem splitAuthority_of_not_bracket
    {authority : Text}
    (hStart : ∀ t, authority ≠ '[' :: t) :
    splitAuthority authority =
      (Text.cutLast? ':' authority).getD (authority, []) := by
  rw [splitAuthority]
  exact hStart

/- Without brackets, the port stands behind the last colon. -/
theorem splitAuthority_of_not_mem
    {host : Text}
    {port : Option Text}
    (hBracket : '[' ∉ host)
    (hColon : ':' ∉ host)
    (hPort :
      ∀ digits ∈ port, ∀ c ∈ digits, c.isDigit = true) :
    splitAuthority (host ++ Url.portText port) =
      (host, port.getD []) := by
  have hStart : ∀ t, host ++ Url.portText port ≠ '[' :: t := by
    intro t hSame
    have hMember : '[' ∈ host ++ Url.portText port := by
      rw [hSame]
      exact List.mem_cons_self
    rcases List.mem_append.mp hMember with hHost | hMark
    · exact hBracket hHost
    · cases Url.isPlainChar_of_mem_portText hPort hMark
  rw [splitAuthority_of_not_bracket hStart]
  cases port with
  | none =>
      change
        (Text.cutLast? ':' (host ++ [])).getD (host ++ [], []) =
          (host, [])
      rw [List.append_nil, Text.cutLast?_eq_none hColon]
      rfl
  | some digits =>
      have hDigits : ':' ∉ digits :=
        Url.not_mem_of_forall (hPort digits rfl) (by decide)
      change
        (Text.cutLast? ':' (host ++ ':' :: digits)).getD _ = _
      rw [Text.cutLast?_append hDigits]
      rfl

namespace ListedUrl

variable (url : ListedUrl)

/- Only the address in brackets needs them read. -/
theorem host_cases :
    url.host = "[::]".toList ∨
      '[' ∉ url.host ∧ ':' ∉ url.host := by
  rcases url.hostIsListed with hAny | hName
  · have hHosts :
        ∀ host ∈ anyHosts,
          host = "[::]".toList ∨ '[' ∉ host ∧ ':' ∉ host := by
      decide
    exact hHosts url.host hAny
  · exact
      .inr
        ⟨Url.not_mem_of_forall hName.chars (by decide),
          Url.not_mem_of_forall hName.chars (by decide)⟩

theorem splitAuthority_authority :
    splitAuthority url.authority =
      (url.host, url.port.getD []) := by
  rw [authority]
  rcases url.host_cases with hHost | ⟨hBracket, hColon⟩
  · have hClosing : ']' ∉ '[' :: "::".toList := by
      decide
    rw [hHost]
    exact splitAuthority_bracketed hClosing url.port
  · exact
      splitAuthority_of_not_mem hBracket hColon
        url.isDigit_of_mem_port

/- The address without brackets does not stand in a list. -/
theorem mem_wildcardHosts_iff :
    url.host ∈ wildcardHosts ↔ url.host ∈ anyHosts := by
  have hNone : url.host ≠ "::".toList := by
    intro hSame
    rcases url.host_cases with hHost | ⟨-, hColon⟩
    · rw [hSame] at hHost
      exact absurd hHost (by decide)
    · rw [hSame] at hColon
      exact hColon (by decide)
  simp only [wildcardHosts, anyHosts, List.mem_cons, hNone,
    List.not_mem_nil, or_false, false_or]

theorem delimited_port :
    Url.delimited [':'] (url.port.getD []) =
      Url.portText url.port := by
  cases hPort : url.port with
  | none => rfl
  | some digits =>
      have hSome := (url.portIsWritten digits hPort).1
      simp [Url.delimited, Url.portText, hSome]

theorem reachable_authority :
    reachable url.authority =
      url.shownHost ++ Url.portText url.port := by
  rw [reachable, splitAuthority_authority]
  simp only [List.contains_iff_mem, mem_wildcardHosts_iff,
    delimited_port, shownHost]
  split
  · rfl
  · rfl

theorem isHostName_shownHost :
    Url.IsHostName url.shownHost := by
  rw [shownHost]
  split
  next => exact ⟨by decide, List.all_eq_true.mp (by decide)⟩
  next hOther => exact url.hostIsListed.resolve_left hOther

/- Nothing else of a URL is changed for its host. -/
theorem withReachableHost?_text :
    withReachableHost? url.text =
      some
        (url.scheme ++ "://".toList ++
          (url.shownHost ++ Url.portText url.port ++
            url.path)) := by
  have hSpan :
      (url.authority ++ url.path).span (· != '/') =
        (url.authority, url.path) := by
    apply Text.span_append
    · intro c hMember
      rw [bne_iff_ne]
      rintro rfl
      cases url.isListedChar_of_mem_authority hMember
    · intro c hHead
      rw [url.pathIsRooted c hHead]
      rfl
  rw [List.span_eq_takeWhile_dropWhile, Prod.mk.injEq]
    at hSpan
  rcases hSpan with ⟨hFront, hBehind⟩
  rw [text, withReachableHost?_web url.schemeIsWeb, hFront,
    hBehind, reachable_authority]

end ListedUrl

------------------------------------------------------------
-- Base URLs
------------------------------------------------------------

theorem dropFinalSlash_eq
    (t : Text) :
    dropFinalSlash t =
      if t.getLast? = some '/' then t.dropLast else t := by
  have hSlash :
      ['/'].isSuffixOf t = true ↔ t.getLast? = some '/' := by
    rw [List.isSuffixOf_iff_suffix]
    exact List.singleton_suffix_iff_getLast?_eq_some
  rw [dropFinalSlash, Text.dropEnding?, List.dropLast_eq_take]
  by_cases hLast : t.getLast? = some '/'
  · rw [if_pos (hSlash.mpr hLast), if_pos hLast]
    rfl
  · rw [if_neg (mt hSlash.mp hLast), if_neg hLast]
    rfl

/- What stands in front of the path is kept. -/
theorem dropFinalSlash_append
    {front : Text}
    (hFront : front.getLast? ≠ some '/')
    (path : Text) :
    dropFinalSlash (front ++ path) =
      front ++
        if path.getLast? = some '/' then path.dropLast
        else path := by
  rw [dropFinalSlash_eq]
  by_cases hPath : path = []
  · rw [hPath, List.append_nil, if_neg hFront]
    simp
  · rw [List.getLast?_append_of_ne_nil _ hPath]
    split
    next => exact List.dropLast_append_of_ne_nil hPath
    next => rfl

namespace ListedUrl

variable (url : ListedUrl)

theorem isPlainChar_of_mem_shownAuthority
    {c : Char}
    (hMember : c ∈ url.shownHost ++ Url.portText url.port) :
    Url.isPlainChar c = true :=
  Url.isPlainChar_of_mem_authority url.isHostName_shownHost
    url.isDigit_of_mem_port hMember

theorem shownAuthority_ne_nil :
    url.shownHost ++ Url.portText url.port ≠ [] :=
  List.append_ne_nil_of_left_ne_nil
    url.isHostName_shownHost.some _

/- Only the path may end with the slash that is dropped. -/
theorem dropFinalSlash_rewritten :
    dropFinalSlash
        (url.lowerScheme ++ "://".toList ++
          (url.shownHost ++ Url.portText url.port ++
            url.path)) =
      url.base := by
  have hFront :
      (url.lowerScheme ++ "://".toList ++
          (url.shownHost ++ Url.portText url.port)).getLast? ≠
        some '/' := by
    rw [List.getLast?_append_of_ne_nil _
      url.shownAuthority_ne_nil]
    intro hLast
    cases url.isPlainChar_of_mem_shownAuthority
      (List.mem_of_getLast? hLast)
  rw [← List.append_assoc _ _ url.path]
  exact
    (dropFinalSlash_append hFront url.path).trans
      (List.append_assoc _ _ _)

/-
  The base URL of a listed URL, with every part that is not
  changed as it is written.
-/
theorem normalize?_text :
    normalize? url.text =
      if url.portIsRead then some url.base else none := by
  have hHost := url.isHostName_shownHost
  have hPort := url.isDigit_of_mem_port
  have hRead :=
    Url.ofText?_plain url.scheme_ne_nil
      (fun _ => url.isAlpha_of_mem_scheme)
      (fun _ => url.isPlainChar_of_mem_shownAuthority)
      url.isPlainPath
  have hScheme : url.scheme.map Char.toLower ≠ [] :=
    mt List.map_eq_nil_iff.mp url.scheme_ne_nil
  have hBase :
      dropFinalSlash
          (Url.text
            ⟨url.scheme.map Char.toLower,
              url.shownHost ++ Url.portText url.port,
              url.path, [], []⟩) =
        url.base := by
    rw [Url.text_plain hScheme url.shownAuthority_ne_nil]
    exact url.dropFinalSlash_rewritten
  rw [normalize?, withReachableHost?_text]
  simp only [Option.bind_eq_bind, Option.bind_some, hRead,
    Url.hostName?_plain hHost hPort,
    Url.portIsValid_plain hHost hPort, hBase]
  rfl

end ListedUrl

end LaunchSettings

end RouteAtlas
