import Mathlib
import RouteAtlas.Proofs.Project.ListedUrls
import RouteAtlas.Proofs.Url.Rereading

/-
  Hosts that stand for every address, and where they hide.

  An authority is taken apart as it is written, in search of
  a host that cannot be requested; the URL is read without
  its tabs and line ends, up to a query or a fragment, and
  its host is looked for behind user info.  Where the two
  disagree an open host may stay.

  Main definitions:
    * `LaunchSettings.openHosts`
    * `LaunchSettings.HidesOpenHost`
    * `LaunchSettings.hidingMarks`

  Main statements:
    * `mem_openHosts_of_hostName?`
    * `hostIn_reachable_iff`
    * `not_hidesOpenHost_of_plain`
-/

------------------------------------------------------------
-- Open Hosts
------------------------------------------------------------

namespace RouteAtlas

namespace LaunchSettings

open Url (authorityIn hostIn authorityIsValid)

/- The hosts that stand for every address, as URLs name them. -/
def openHosts : List Text :=
  ["0.0.0.0".toList, "*".toList, "+".toList, "::".toList]

/-
  Whether an authority names an open host where it is not
  looked for: not as its host, or behind a user info that
  begins with one.
-/
structure HidesOpenHost
    (authority : Text) :
    Prop where
  isOpen : hostIn (authorityIn authority) ∈ openHosts
  isMissed :
    (splitAuthority authority).1 ∉ wildcardHosts ∨
      '@' ∈ authorityIn (splitAuthority authority).2

theorem caseless_of_mem_openHosts
    {host : Text}
    (hOpen : host ∈ openHosts) :
    ∀ c ∈ host, c.toNat < 0x80 ∧ c.isAlpha = false := by
  have hTable :
      openHosts.all fun other =>
        other.all fun c =>
          decide (c.toNat < 0x80) && !c.isAlpha := by
    decide
  rw [List.all_eq_true] at hTable
  intro c hMember
  simpa using
    List.all_eq_true.mp (hTable host hOpen) c hMember

/- Open hosts have no letters, so their case is no matter. -/
theorem lower_mem_openHosts_iff
    {host : Text} :
    Text.lower host ∈ openHosts ↔ host ∈ openHosts := by
  constructor
  · intro hOpen
    have hSame : host = Text.lower host :=
      (Unicode.lower_eq_iff_of_caseless
        (caseless_of_mem_openHosts hOpen)).mp rfl
    rwa [hSame]
  · intro hOpen
    have hSame : Text.lower host = host :=
      (Unicode.lower_eq_iff_of_caseless
        (caseless_of_mem_openHosts hOpen)).mpr rfl
    rwa [hSame]

/- The name of a host is open if the host is that is read. -/
theorem mem_openHosts_of_hostName?
    {url : Url}
    {host : Text}
    (hHost : url.hostName? = some host) :
    host ∈ openHosts ↔ hostIn url.authority ∈ openHosts := by
  have hPercent : ∀ other ∈ openHosts, '%' ∉ other := by
    decide
  change host ∈ openHosts ↔ url.hostPort.1 ∈ openHosts
  rw [Url.hostName?] at hHost
  generalize url.hostPort.1 = written at hHost ⊢
  cases written with
  | nil => cases hHost
  | cons c rest =>
      dsimp only at hHost
      by_cases hZone : '%' ∈ c :: rest
      · rcases Text.exists_cut? hZone with
          ⟨address, zone, hCut, -⟩
        rw [hCut] at hHost
        have hName : '%' ∈ host := by
          rw [← Option.some.inj hHost]
          simp
        exact
          iff_of_false (fun hOpen => hPercent _ hOpen hName)
            (fun hOpen => hPercent _ hOpen hZone)
      · rw [Text.cut?_eq_none hZone] at hHost
        rw [← Option.some.inj hHost]
        exact lower_mem_openHosts_iff

------------------------------------------------------------
-- Taking Authorities Apart
------------------------------------------------------------

/- A port that is found stands behind its host and a colon. -/
theorem splitAuthority_split
    {authority host port : Text}
    (hSplit : splitAuthority authority = (host, port))
    (hPort : port ≠ []) :
    authority = host ++ ':' :: port := by
  by_cases hStart : ∃ t, authority = '[' :: t
  · rcases hStart with ⟨t, rfl⟩
    by_cases hClosing : ']' ∈ '[' :: t
    · rcases Text.exists_cut? hClosing with
        ⟨front, rest, hCut, hText⟩
      rw [splitAuthority, Url.cutAt, hCut,
        Option.getD_some, Prod.mk.injEq] at hSplit
      rcases hSplit with ⟨rfl, rfl⟩
      cases rest with
      | nil => exact absurd rfl hPort
      | cons c rest =>
          by_cases hColon : ':' = c
          · subst hColon
            rw [hText, List.append_assoc]
            rfl
          · exact
              absurd (if_neg (by
                simpa [Text.startsWith] using hColon)) hPort
    · rw [splitAuthority, Url.cutAt_of_not_mem hClosing,
        Prod.mk.injEq] at hSplit
      exact absurd hSplit.2.symm hPort
  · rw [not_exists] at hStart
    rw [splitAuthority_of_not_bracket hStart] at hSplit
    by_cases hColon : ':' ∈ authority
    · rcases Text.exists_last_mark hColon with
        ⟨front, back, rfl, hBack⟩
      rw [Text.cutLast?_append hBack] at hSplit
      rcases Prod.mk.inj hSplit with ⟨rfl, rfl⟩
      rfl
    · rw [Text.cutLast?_eq_none hColon] at hSplit
      exact absurd (Prod.mk.inj hSplit).2.symm hPort

/- What stands in a port that was found. -/
theorem mem_of_mem_splitAuthority
    {authority : Text}
    {c : Char}
    (hMember : c ∈ (splitAuthority authority).2) :
    c ∈ authority := by
  rcases hSplit : splitAuthority authority with ⟨host, port⟩
  rw [hSplit] at hMember
  rw [splitAuthority_split hSplit
    (List.ne_nil_of_mem hMember)]
  exact
    List.mem_append_right host
      (List.mem_cons_of_mem ':' hMember)

------------------------------------------------------------
-- Rewritten Hosts
------------------------------------------------------------

/- The hosts that are looked for are read as they stand. -/
theorem isKept_of_mem_wildcardHosts
    {host : Text}
    (hHost : host ∈ wildcardHosts) :
    ∀ c ∈ host, Url.isKept c = true := by
  have hTable :
      wildcardHosts.all (·.all Url.isKept) = true := by
    decide
  rw [List.all_eq_true] at hTable
  exact List.all_eq_true.mp (hTable host hHost)

section Rewritten

variable {authority host port : Text}
variable (hSplit : splitAuthority authority = (host, port))
variable (hHost : host ∈ wildcardHosts)

include hSplit hHost

theorem reachable_of_mem :
    reachable authority =
      "localhost".toList ++ Url.delimited [':'] port := by
  rw [reachable, hSplit]
  exact if_pos (List.contains_iff_mem.mpr hHost)

/- A port is read behind the host that was put in. -/
theorem authorityIn_reachable :
    authorityIn (reachable authority) =
      "localhost".toList ++
        Url.portText
          (if port = [] then none
          else some (authorityIn port)) := by
  have hName :
      ∀ c ∈ "localhost".toList, Url.isKept c = true :=
    List.all_eq_true.mp (by decide)
  have hColon : ∀ c ∈ [':'], Url.isKept c = true :=
    List.all_eq_true.mp (by decide)
  rw [reachable_of_mem hSplit hHost,
    Url.authorityIn_append hName, Url.delimited]
  by_cases hPort : port = []
  · rw [hPort]
    rfl
  · rw [if_neg hPort, if_neg (by simpa using hPort),
      Url.authorityIn_append hColon]
    rfl

/- Without user info the host is the one that was put in. -/
theorem hostIn_reachable_of_not_mem
    (hUser : '@' ∉ authorityIn port)
    (hValid :
      authorityIsValid (authorityIn (reachable authority)) =
        true) :
    hostIn (authorityIn (reachable authority)) =
      "localhost".toList := by
  rw [authorityIn_reachable hSplit hHost] at hValid ⊢
  have hUser' :
      '@' ∉
        "localhost".toList ++
          Url.portText
            (if port = [] then none
            else some (authorityIn port)) := by
    split
    · decide
    · intro hMember
      rcases List.mem_append.mp hMember with hName | hPort
      · exact absurd hName (by decide)
      · rcases List.mem_cons.mp hPort with hColon | hIn
        · exact absurd hColon (by decide)
        · exact hUser hIn
  have hBracket :
      '[' ∉
        "localhost".toList ++
          Url.portText
            (if port = [] then none
            else some (authorityIn port)) := by
    intro hMember
    rcases Url.exists_brackets hValid hUser' hMember with
      ⟨address, rest, hText, -⟩
    exact absurd (List.cons.inj hText).1 (by decide)
  exact
    congrArg Prod.fst
      (Url.hostPort_of_not_mem rfl hUser' hBracket (by decide))

/- Behind user info the host is the one that was there. -/
theorem hostIn_reachable_of_mem
    (hUser : '@' ∈ authorityIn port) :
    hostIn (authorityIn (reachable authority)) =
      hostIn (authorityIn authority) := by
  have hPort : port ≠ [] := by
    rintro rfl
    cases hUser
  have hColon :
      ∀ c ∈ host ++ [':'], Url.isKept c = true :=
    List.forall_mem_append.mpr
      ⟨isKept_of_mem_wildcardHosts hHost,
        List.all_eq_true.mp (by decide)⟩
  have hWritten :
      authorityIn authority =
        (host ++ [':']) ++ authorityIn port := by
    rw [splitAuthority_split hSplit hPort, List.append_cons,
      Url.authorityIn_append hColon]
  have hPutIn :
      authorityIn (reachable authority) =
        ("localhost".toList ++ [':']) ++ authorityIn port := by
    rw [authorityIn_reachable hSplit hHost, if_neg hPort]
    rfl
  apply Url.hostIn_congr
  rw [hWritten, hPutIn, Url.hostAndPort_append hUser,
    Url.hostAndPort_append hUser]

end Rewritten

theorem reachable_of_not_mem
    {authority : Text}
    (hHost : (splitAuthority authority).1 ∉ wildcardHosts) :
    reachable authority = authority :=
  if_neg (mt List.contains_iff_mem.mp hHost)

/-
  The host of the authority that is put in is open just if
  the authority hides an open one.
-/
theorem hostIn_reachable_iff
    {authority : Text}
    (hValid :
      authorityIsValid (authorityIn (reachable authority)) =
        true) :
    hostIn (authorityIn (reachable authority)) ∈ openHosts ↔
      HidesOpenHost authority := by
  by_cases hHost : (splitAuthority authority).1 ∈ wildcardHosts
  · by_cases hUser :
      '@' ∈ authorityIn (splitAuthority authority).2
    · rw [hostIn_reachable_of_mem rfl hHost hUser]
      exact ⟨fun hOpen => ⟨hOpen, .inr hUser⟩, (·.isOpen)⟩
    · rw [hostIn_reachable_of_not_mem rfl hHost hUser hValid]
      refine iff_of_false (by decide) ?_
      rintro ⟨-, hMissed | hUser'⟩
      · exact hMissed hHost
      · exact hUser hUser'
  · rw [reachable_of_not_mem hHost]
    exact ⟨fun hOpen => ⟨hOpen, .inl hHost⟩, (·.isOpen)⟩

------------------------------------------------------------
-- Plain Authorities
------------------------------------------------------------

/- The characters that make the two readings differ. -/
def hidingMarks : List Char :=
  ['@', '?', '#', '\t', '\r', '\n']

section Plain

variable {authority : Text}
variable (hPlain : ∀ c ∈ authority, c ∉ hidingMarks)
variable (hSlash : '/' ∉ authority)

include hPlain hSlash

theorem authorityIn_of_plain :
    authorityIn authority = authority := by
  apply Url.authorityIn_eq_self
  intro c hMember
  have hMark := hPlain c hMember
  have hOther : c ≠ '/' := by
    rintro rfl
    exact hSlash hMember
  simp only [hidingMarks, List.mem_cons, List.not_mem_nil,
    or_false, not_or] at hMark
  simp [Url.isKept, Url.isBreak, Url.endsAuthority, hMark,
    hOther]

omit hSlash in
/-
  Without these marks an open host is found where it stands,
  if only the port is one.
-/
theorem mem_wildcardHosts_of_plain
    {url : Url}
    (hAuthority : url.authority = authority)
    (hValid : authorityIsValid authority = true)
    (hPort : url.portIsValid = true)
    (hOpen : hostIn authority ∈ openHosts) :
    (splitAuthority authority).1 ∈ wildcardHosts := by
  have hUser : '@' ∉ authority := fun hMember =>
    hPlain '@' hMember List.mem_cons_self
  by_cases hBracket : '[' ∈ authority
  · rcases Url.exists_brackets hValid hUser hBracket with
      ⟨address, port, rfl, hInside, hAddress⟩
    have hTable :
        ∀ other ∈ openHosts, Url.isBracketed other = true →
          other = "::".toList := by
      decide +kernel
    rw [Url.hostIn_brackets hUser hInside] at hOpen
    obtain rfl : address = "::".toList :=
      hTable address hOpen hAddress
    exact List.contains_iff_mem.mp rfl
  · rcases Url.exists_portText authority with
      ⟨host, port, rfl, hColon⟩
    have hRead :=
      Url.hostPort_of_not_mem hAuthority hUser hBracket hColon
    have hDigits :
        ∀ digits ∈ port, ∀ c ∈ digits, c.isDigit = true := by
      rintro digits rfl
      rw [Url.portIsValid, hRead, Bool.and_eq_true,
        Bool.and_eq_true] at hPort
      exact List.all_eq_true.mp hPort.1.1
    have hName : '[' ∉ host := fun hMember =>
      hBracket (List.mem_append_left _ hMember)
    have hHost : hostIn (host ++ Url.portText port) = host :=
      congrArg Prod.fst
        (Url.hostPort_of_not_mem rfl hUser hBracket hColon)
    have hTable :
        ∀ other ∈ openHosts, other ∈ wildcardHosts := by
      decide
    rw [hHost] at hOpen
    rw [splitAuthority_of_not_mem hName hColon hDigits]
    exact hTable host hOpen

/- A plain authority hides no host, if only it is read. -/
theorem not_hidesOpenHost_of_plain
    {url : Url}
    (hAuthority :
      url.authority = authorityIn (reachable authority))
    (hValid : authorityIsValid url.authority = true)
    (hPort : url.portIsValid = true) :
    ¬HidesOpenHost authority := by
  rintro ⟨hOpen, hMissed⟩
  have hUser :
      '@' ∉ authorityIn (splitAuthority authority).2 := by
    intro hMember
    exact
      hPlain '@'
        (mem_of_mem_splitAuthority
          (Url.mem_of_mem_authorityIn hMember))
        List.mem_cons_self
  have hHost := hMissed.resolve_right hUser
  rw [reachable_of_not_mem hHost,
    authorityIn_of_plain hPlain hSlash] at hAuthority
  rw [authorityIn_of_plain hPlain hSlash] at hOpen
  rw [hAuthority] at hValid
  exact
    hHost
      (mem_wildcardHosts_of_plain hPlain hAuthority hValid
        hPort hOpen)

end Plain

end LaunchSettings

end RouteAtlas
