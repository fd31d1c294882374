import Mathlib
import RouteAtlas.Proofs.Json.RoundTrip
import RouteAtlas.Proofs.Project.HiddenHosts

/-
  Whether base URLs can be requested.

  The base URL of launch settings is read with the host that
  their application URL names, or with the one that was put
  in for it.  It stands for every address just if the
  authority of the application URL hides such a host, behind
  user info, by a query or a fragment, or by tabs and line
  ends.

  Main definitions:
    * `LaunchSettings.applicationUrl?`
    * `LaunchSettings.writtenAuthority`
    * `LaunchSettings.namedHost?`

  Main statements:
    * `chooseUrl?_split`
    * `normalize?_web`
    * `openHost_of_baseUrl_iff`
-/

------------------------------------------------------------
-- Application URLs
------------------------------------------------------------

namespace RouteAtlas

namespace LaunchSettings

open Url (authorityIn hostIn authorityIsValid)

/- The URL that launch settings choose from their list. -/
def applicationUrl?
    (settings : Json) :
    Option Text := do
  let profile ← projectProfile? settings
  match profile.member? "applicationUrl".toList with
  | some (.string raw) => chooseUrl? raw
  | _ => none

theorem baseUrlIn?_eq
    (settings : Json) :
    baseUrlIn? settings =
      (applicationUrl? settings).bind normalize? := by
  unfold baseUrlIn? applicationUrl?
  cases projectProfile? settings with
  | none => rfl
  | some profile =>
      simp only [Option.bind_eq_bind, Option.bind_some]
      cases profile.member? "applicationUrl".toList with
      | none => rfl
      | some value => cases value <;> rfl

/- The base URL of settings is that of their application URL. -/
theorem baseUrl_eq_some
    {t base : Text}
    (hBase : baseUrl t = .ok (some base)) :
    ∃ settings url,
      Json.document (dropByteOrderMark t) =
          .ok (some settings) ∧
        applicationUrl? settings = some url ∧
          normalize? url = some base := by
  unfold baseUrl at hBase
  cases hDocument : Json.document (dropByteOrderMark t) with
  | error fault =>
      rw [hDocument] at hBase
      cases hBase
  | ok found =>
      rw [hDocument] at hBase
      have hFound : found.bind baseUrlIn? = some base :=
        Except.ok.inj hBase
      rcases Option.bind_eq_some_iff.mp hFound with
        ⟨settings, rfl, hSettings⟩
      rw [baseUrlIn?_eq] at hSettings
      rcases Option.bind_eq_some_iff.mp hSettings with
        ⟨url, hUrl, hNormal⟩
      exact ⟨settings, url, rfl, hUrl, hNormal⟩

------------------------------------------------------------
-- Web Addresses
------------------------------------------------------------

theorem chars_of_mem_webSchemes
    {scheme : Text}
    (hScheme : scheme ∈ webSchemes) :
    ∀ c ∈ scheme ++ [':'], c.toNat < 0x80 ∧ c ≠ 'k' := by
  have hTable :
      webSchemes.all fun other =>
        (other ++ [':']).all fun c =>
          decide (c.toNat < 0x80) && c != 'k' := by
    decide
  rw [List.all_eq_true] at hTable
  intro c hMember
  simpa using
    List.all_eq_true.mp (hTable scheme hScheme) c hMember

/-
  A text that is lower-cased to a web address is one: the
  slashes divide it, and what stands before them is ASCII.
-/
theorem exists_of_lower_eq_web
    {scheme behind url : Text}
    (hScheme : scheme ∈ webSchemes)
    (hLower :
      scheme ++ "://".toList ++ behind = Text.lower url) :
    ∃ written rest,
      written.map Char.toLower = scheme ∧
        url = written ++ "://".toList ++ rest := by
  have hFirst :
      Text.lower url =
        (scheme ++ [':']) ++ '/' :: '/' :: behind := by
    rw [← hLower]
    simp
  rcases Unicode.exists_of_lower_eq_append
      Unicode.isBoundary_slash hFirst with
    ⟨front, back, rfl, hFront, hBack⟩
  rcases Unicode.exists_of_lower_eq_append
      Unicode.isBoundary_slash
      (show Text.lower back = [] ++ '/' :: behind from hBack)
    with ⟨between, rest, rfl, hBetween, -⟩
  obtain rfl : between = [] :=
    Unicode.lower_eq_nil_iff.mp hBetween
  have hAscii : ∀ c ∈ front, c.toNat < 0x80 := by
    apply Unicode.ascii_of_lower
    rw [hFront]
    exact chars_of_mem_webSchemes hScheme
  rw [Unicode.lower_of_ascii hAscii,
    List.map_eq_append_iff] at hFront
  rcases hFront with ⟨written, mark, rfl, hWritten, hMark⟩
  rcases List.map_eq_singleton_iff.mp hMark with
    ⟨c, rfl, hColon⟩
  have hCaseless : c.toLower.isAlpha = false := by
    rw [hColon]
    rfl
  obtain rfl : c = ':' :=
    (Unicode.toLower_eq_self hCaseless).symm.trans hColon
  exact ⟨written, rest, hWritten, by simp⟩

/- The URL that is chosen of a list is a web address. -/
theorem chooseUrl?_split
    {raw url : Text}
    (hUrl : chooseUrl? raw = some url) :
    ∃ scheme rest,
      scheme.map Char.toLower ∈ webSchemes ∧
        url = scheme ++ "://".toList ++ rest := by
  have hFirst :
      ∀ scheme ∈ webSchemes,
        firstWithScheme? (scheme ++ "://".toList)
            (listedUrls raw) =
          some url →
        ∃ scheme rest,
          scheme.map Char.toLower ∈ webSchemes ∧
            url = scheme ++ "://".toList ++ rest := by
    intro scheme hScheme hFirst
    have hStart := List.find?_some hFirst
    rw [Text.startsWith, List.isPrefixOf_iff_prefix] at hStart
    rcases hStart with ⟨behind, hLower⟩
    rcases exists_of_lower_eq_web hScheme hLower with
      ⟨written, rest, rfl, hSplit⟩
    exact ⟨written, rest, hScheme, hSplit⟩
  change
    (firstWithScheme? "http://".toList (listedUrls raw)).orElse
        (fun _ =>
          firstWithScheme? "https://".toList
            (listedUrls raw)) =
      some url at hUrl
  cases hPlain :
      firstWithScheme? "http://".toList (listedUrls raw) with
  | some first =>
      rw [hPlain] at hUrl
      obtain rfl : first = url := Option.some.inj hUrl
      exact hFirst "http".toList (by decide) hPlain
  | none =>
      rw [hPlain] at hUrl
      exact hFirst "https".toList (by decide) hUrl

theorem applicationUrl?_split
    {settings : Json}
    {url : Text}
    (hUrl : applicationUrl? settings = some url) :
    ∃ scheme rest,
      scheme.map Char.toLower ∈ webSchemes ∧
        url = scheme ++ "://".toList ++ rest := by
  rcases Option.bind_eq_some_iff.mp hUrl with
    ⟨profile, -, hRaw⟩
  split at hRaw
  next => exact chooseUrl?_split hRaw
  next => cases hRaw

------------------------------------------------------------
-- Base URLs
------------------------------------------------------------

/- The authority of a URL, up to a slash, as it is written. -/
def writtenAuthority
    (url : Text) :
    Text :=
  match Text.cut? "://".toList url with
  | some (_, rest) => rest.takeWhile (· != '/')
  | none => []

/- The host of a text that is a URL. -/
def namedHost?
    (t : Text) :
    Option Text :=
  (Url.ofText? t).bind Url.hostName?

/- What is left behind an authority begins with a slash. -/
theorem head_dropWhile_slash
    (t : Text) :
    ∀ c ∈ (t.dropWhile (· != '/')).head?, c = '/' := by
  intro c hHead
  have hStop := List.head?_dropWhile_not (· != '/') t
  rw [hHead] at hStop
  simpa using hStop

/- A slash that is dropped stands behind the authority. -/
theorem dropFinalSlash_behind
    {authority : Text}
    (hSome : authority ≠ [])
    (hSlash : '/' ∉ authority)
    (front rest : Text) :
    ∃ shown,
      shown <+: rest ∧
        dropFinalSlash (front ++ (authority ++ rest)) =
          front ++ (authority ++ shown) := by
  have hFront : (front ++ authority).getLast? ≠ some '/' := by
    rw [List.getLast?_append_of_ne_nil _ hSome]
    exact fun hLast => hSlash (List.mem_of_getLast? hLast)
  have hShown :=
    (dropFinalSlash_append hFront rest).trans
      (List.append_assoc front authority _)
  rw [List.append_assoc] at hShown
  refine ⟨_, ?_, hShown⟩
  split
  · exact List.dropLast_prefix rest
  · exact List.prefix_rfl

/-
  What is written of a URL is read with its host again, also
  without a final slash.
-/
theorem namedHost?_written
    {scheme t rest host : Text}
    (hSome : scheme ≠ [])
    (hLetters : ∀ c ∈ scheme, c.isAlpha = true)
    (hValid : authorityIsValid (authorityIn t) = true)
    (hRest : Url.Follows rest)
    (hHost :
      (Url.ofParts scheme (authorityIn t) rest).hostName? =
        some host) :
    namedHost?
        (dropFinalSlash
          (Url.ofParts scheme (authorityIn t) rest).text) =
      some host := by
  have hAuthority : authorityIn t ≠ [] :=
    Url.authority_ne_nil_of_hostName? hHost
  have hSlash : '/' ∉ authorityIn t := fun hMember =>
    nomatch Url.isKept_of_mem_authorityIn hMember
  rcases dropFinalSlash_behind hAuthority hSlash
      (scheme ++ "://".toList)
      (Url.behind (Url.ofParts scheme (authorityIn t) rest))
    with ⟨shown, hShown, hText⟩
  have hFollows : Url.Follows shown :=
    (Url.follows_behind hRest).beginning hShown
  rcases Url.ofText?_again hSome hLetters hFollows hValid with
    ⟨again, hAgain, hSame⟩
  rw [Url.text_ofParts hSome hAuthority, hText, namedHost?,
    hAgain, Option.bind_some, ← hHost]
  exact Url.hostName?_congr hSame

section Web

variable {scheme : Text}
variable (hWeb : scheme.map Char.toLower ∈ webSchemes)

include hWeb

theorem writtenAuthority_web
    (rest : Text) :
    writtenAuthority (scheme ++ "://".toList ++ rest) =
      rest.takeWhile (· != '/') := by
  rw [writtenAuthority, cut?_web hWeb]

/-
  The base URL is read with the authority that was put in,
  whose port is valid.
-/
theorem normalize?_web
    {rest base : Text}
    (hBase :
      normalize? (scheme ++ "://".toList ++ rest) =
        some base) :
    ∃ (url : Url) (host : Text),
      url.authority =
          authorityIn
            (reachable (rest.takeWhile (· != '/'))) ∧
        authorityIsValid url.authority = true ∧
        url.portIsValid = true ∧
        url.hostName? = some host ∧
        namedHost? base = some host := by
  have hLetters : ∀ c ∈ scheme, c.isAlpha = true :=
    fun _ => isAlpha_of_webScheme hWeb
  have hLowered :
      ∀ c ∈ scheme.map Char.toLower, c.isAlpha = true := by
    intro c hMember
    rcases List.mem_map.mp hMember with ⟨d, hLetter, rfl⟩
    rw [Char.isAlpha_toLower_eq_isAlpha]
    exact hLetters d hLetter
  have hSome : scheme ≠ [] := ne_nil_of_webScheme hWeb
  have hLoweredSome : scheme.map Char.toLower ≠ [] :=
    mt List.map_eq_nil_iff.mp hSome
  rw [normalize?, withReachableHost?_web hWeb] at hBase
  rcases Option.bind_eq_some_iff.mp hBase with
    ⟨_, ⟨⟩, hRead⟩
  rcases Option.bind_eq_some_iff.mp hRead with
    ⟨url, hUrl, hNamed⟩
  rcases Option.bind_eq_some_iff.mp hNamed with
    ⟨host, hHost, hPort⟩
  rw [Url.ofText?_web hSome hLetters,
    Url.authorityIn_append_path (head_dropWhile_slash rest)]
    at hUrl
  split at hUrl
  next hValid =>
    obtain rfl := Option.some.inj hUrl
    split at hPort
    next hPortIsValid =>
      refine ⟨_, host, rfl, hValid, hPortIsValid, hHost, ?_⟩
      rw [← Option.some.inj hPort]
      exact
        namedHost?_written hLoweredSome hLowered hValid
          (Url.follows_restIn _) hHost
    next => cases hPort
  next => cases hUrl

end Web

/-
  The base URL names a host that stands for every address
  just if the application URL hides one.  It does so behind
  an `@`, a `?` or a `#`, or with tabs and line ends only.
-/
theorem openHost_of_baseUrl_iff
    {t base : Text}
    (hBase : baseUrl t = .ok (some base)) :
    ∃ settings url host,
      Json.document (dropByteOrderMark t) =
          .ok (some settings) ∧
        applicationUrl? settings = some url ∧
        namedHost? base = some host ∧
        (host ∈ openHosts ↔
          HidesOpenHost (writtenAuthority url)) ∧
        ((∀ c ∈ writtenAuthority url, c ∉ hidingMarks) →
          host ∉ openHosts) := by
  rcases baseUrl_eq_some hBase with
    ⟨settings, url, hSettings, hUrl, hNormal⟩
  rcases applicationUrl?_split hUrl with
    ⟨scheme, rest, hWeb, rfl⟩
  rcases normalize?_web hWeb hNormal with
    ⟨found, host, hAuthority, hValid, hPort, hFound, hHost⟩
  have hIff :
      host ∈ openHosts ↔
        HidesOpenHost (rest.takeWhile (· != '/')) := by
    rw [mem_openHosts_of_hostName? hFound, hAuthority]
    rw [hAuthority] at hValid
    exact hostIn_reachable_iff hValid
  refine ⟨settings, _, host, hSettings, hUrl, hHost, ?_⟩
  rw [writtenAuthority_web hWeb]
  refine ⟨hIff, fun hPlain hOpen => ?_⟩
  have hSlash : '/' ∉ rest.takeWhile (· != '/') :=
    fun hMember => nomatch List.mem_takeWhile_imp hMember
  exact
    not_hidesOpenHost_of_plain hPlain hSlash hAuthority
      hValid hPort (hIff.mp hOpen)

------------------------------------------------------------
-- Settings with One Profile
------------------------------------------------------------

/- Settings whose one profile runs the project at a URL. -/
def settingsOf
    (url : Text) :
    Json :=
  .object
    [("profiles".toList,
      .object
        [("App".toList,
          .object
            [("commandName".toList, .string projectCommand),
             ("applicationUrl".toList, .string url)])])]

theorem isTextual_settingsOf
    (url : Text) :
    Json.IsTextual Json.maxDepth (settingsOf url) := by
  have hDepth :
      ∀ room, Json.IsTextual (room + 3) (settingsOf url) := by
    intro room
    simp [settingsOf, Json.IsTextual, Json.isTextual_string]
  exact hDepth 986

theorem document_settingsOf
    (url : Text) :
    Json.document
        (dropByteOrderMark (settingsOf url).indented) =
      .ok (some (settingsOf url)) := by
  have hMark :
      dropByteOrderMark (settingsOf url).indented =
        (settingsOf url).indented := by
    rcases Json.startsSolid_writeAt (isTextual_settingsOf url)
        .indented 0 with
      ⟨c, tail, hWritten, -, -, hAscii⟩
    unfold Json.indented
    rw [hWritten]
    apply if_neg
    rw [beq_iff_eq]
    rintro rfl
    exact absurd hAscii (by decide)
  rw [hMark]
  exact Json.document_indented (isTextual_settingsOf url)

theorem baseUrl_settingsOf
    (url : Text) :
    baseUrl (settingsOf url).indented =
      .ok ((chooseUrl? url).bind normalize?) := by
  rw [baseUrl, document_settingsOf]
  rfl

/- The host that was put in is the one that is read. -/
theorem openHost_of_allAddresses :
    ∃ host,
      baseUrl (settingsOf "http://0.0.0.0:80".toList).indented =
          .ok (some "http://localhost:80".toList) ∧
        namedHost? "http://localhost:80".toList = some host ∧
          host ∉ openHosts := by
  have hBase :
      baseUrl (settingsOf "http://0.0.0.0:80".toList).indented =
        .ok (some "http://localhost:80".toList) := by
    rw [baseUrl_settingsOf]
    decide +kernel
  have hUrl :
      applicationUrl? (settingsOf "http://0.0.0.0:80".toList) =
        some "http://0.0.0.0:80".toList := by
    decide +kernel
  have hPlainUrl :
      writtenAuthority "http://0.0.0.0:80".toList =
        "0.0.0.0:80".toList := by
    decide +kernel
  rcases openHost_of_baseUrl_iff hBase with
    ⟨settings, url, host, hSettings, hFound, hHost, -, hPlain⟩
  rw [document_settingsOf] at hSettings
  obtain rfl := Option.some.inj (Except.ok.inj hSettings)
  obtain rfl := Option.some.inj (hUrl.symm.trans hFound)
  rw [hPlainUrl] at hPlain
  exact
    ⟨host, hBase, hHost, hPlain (by simp [hidingMarks])⟩

/- Three hosts that stay, each hidden in another way. -/
theorem openHosts_stay :
    (baseUrl (settingsOf "http://me@*:80".toList).indented =
        .ok (some "http://me@*:80".toList) ∧
      namedHost? "http://me@*:80".toList =
        some "*".toList) ∧
    (baseUrl (settingsOf "http://*?x".toList).indented =
        .ok (some "http://*?x".toList) ∧
      namedHost? "http://*?x".toList = some "*".toList) ∧
    (baseUrl
          (settingsOf "http://0.0.0\t.0:80".toList).indented =
        .ok (some "http://0.0.0.0:80".toList) ∧
      namedHost? "http://0.0.0.0:80".toList =
        some "0.0.0.0".toList) ∧
    "*".toList ∈ openHosts ∧ "0.0.0.0".toList ∈ openHosts := by
  simp only [baseUrl_settingsOf]
  refine ⟨?_, ?_, ?_, by decide, by decide⟩
  · decide +kernel
  · decide +kernel
  · decide +kernel

end LaunchSettings

end RouteAtlas
