import Mathlib
import RouteAtlas.Proofs.Project.ListedUrls

/-
  The base URL that a list of URLs gives.

  A list holds URLs between semicolons, with blanks around
  them, and pieces of blanks only.  Its first `http` URL is
  chosen, or else its first `https` URL, in any letter case,
  and the base URL is that of the chosen one.

  Main definitions:
    * `LaunchSettings.ListPiece`
    * `LaunchSettings.preferred?`

  Main statements:
    * `listedUrls_listText`
    * `chooseUrl?_listText`
    * `baseUrl_of_listText`
-/

------------------------------------------------------------
-- Pieces
------------------------------------------------------------

namespace RouteAtlas

namespace LaunchSettings

/- A piece of a list: blanks, and perhaps a URL in them. -/
structure ListPiece where
  front : Text
  url : Option ListedUrl
  back : Text
  frontIsGap : Text.IsGap front
  backIsGap : Text.IsGap back

def ListPiece.text
    (piece : ListPiece) :
    Text :=
  piece.front ++
    (piece.url.elim [] ListedUrl.text ++ piece.back)

/- The list as it is written. -/
def listText
    (pieces : List ListPiece) :
    Text :=
  Text.joinWith [';'] (pieces.map ListPiece.text)

/- The URLs of a list in their order. -/
def urlsOf
    (pieces : List ListPiece) :
    List ListedUrl :=
  pieces.filterMap ListPiece.url

/- The first `http` URL, else the first `https` URL. -/
def preferred?
    (urls : List ListedUrl) :
    Option ListedUrl :=
  (urls.find? (·.lowerScheme == "http".toList)).orElse
    fun _ => urls.find? (·.lowerScheme == "https".toList)

/- One is chosen, since every URL has one of the schemes. -/
theorem exists_preferred?
    {urls : List ListedUrl}
    (hSome : urls ≠ []) :
    ∃ url, preferred? urls = some url := by
  cases hFirst :
      urls.find? (·.lowerScheme == "http".toList) with
  | some url => exact ⟨url, by rw [preferred?, hFirst]; rfl⟩
  | none =>
      rcases List.exists_mem_of_ne_nil urls hSome with
        ⟨url, hUrl⟩
      have hOther :
          ¬(url.lowerScheme == "http".toList) = true :=
        List.find?_eq_none.mp hFirst url hUrl
      have hSecure :
          (url.lowerScheme == "https".toList) = true := by
        have hWeb := url.schemeIsWeb
        rw [webSchemes, List.mem_pair] at hWeb
        rw [beq_iff_eq] at hOther ⊢
        exact hWeb.resolve_left hOther
      have hFound :
          (urls.find?
            (·.lowerScheme == "https".toList)).isSome = true :=
        List.find?_isSome.mpr ⟨url, hUrl, hSecure⟩
      rcases Option.isSome_iff_exists.mp hFound with
        ⟨chosen, hChosen⟩
      exact
        ⟨chosen, by rw [preferred?, hFirst]; exact hChosen⟩

------------------------------------------------------------
-- Reading a List
------------------------------------------------------------

theorem strip_pieceText
    (piece : ListPiece) :
    Text.strip piece.text =
      piece.url.elim [] ListedUrl.text := by
  rw [ListPiece.text, Text.strip_gap_append piece.frontIsGap,
    Text.strip_append_gap piece.backIsGap]
  cases piece.url with
  | none => rfl
  | some url =>
      have hSolid :
          ∀ c ∈ url.text, Text.isBlank c = false :=
        fun c hMember => (url.isSolid_of_mem_text hMember).1
      apply Text.strip_of_solid
      · change Text.startsBlank url.text = false
        cases hText : url.text with
        | nil => rfl
        | cons c rest =>
            rw [hText] at hSolid
            exact hSolid c List.mem_cons_self
      · exact Text.endsSolid_of_forall hSolid

theorem not_mem_pieceText
    (piece : ListPiece) :
    ';' ∉ piece.text := by
  have hGap :
      ∀ {gap : Text}, Text.IsGap gap → ';' ∉ gap :=
    fun hGap => Url.not_mem_of_forall hGap (by decide)
  simp only [ListPiece.text, List.mem_append, not_or]
  refine
    ⟨hGap piece.frontIsGap, ?_, hGap piece.backIsGap⟩
  cases piece.url with
  | none => exact List.not_mem_nil
  | some url =>
      exact fun hMember =>
        (url.isSolid_of_mem_text hMember).2 rfl

/- The pieces without blanks are the URLs. -/
theorem filter_strip_pieces
    (pieces : List ListPiece) :
    ((pieces.map ListPiece.text).map Text.strip).filter
        (fun url => !url.isEmpty) =
      (urlsOf pieces).map ListedUrl.text := by
  induction pieces with
  | nil => rfl
  | cons piece pieces ih =>
      have hStrip := strip_pieceText piece
      rw [urlsOf] at ih ⊢
      cases hUrl : piece.url with
      | none =>
          rw [hUrl, Option.elim_none] at hStrip
          simp only [List.map_cons, hStrip,
            List.filterMap_cons, hUrl]
          exact ih
      | some url =>
          have hSome : url.text.isEmpty = false := by
            simp [ListedUrl.text, url.scheme_ne_nil]
          rw [hUrl, Option.elim_some] at hStrip
          simp only [List.map_cons, hStrip,
            List.filterMap_cons, hUrl, List.filter_cons,
            hSome, Bool.not_false, if_true, ih]

/- The URLs of a list are found as they are written. -/
theorem listedUrls_listText
    (pieces : List ListPiece) :
    listedUrls (listText pieces) =
      (urlsOf pieces).map ListedUrl.text := by
  cases pieces with
  | nil => rfl
  | cons first pieces =>
      have hMark :
          ∀ t ∈ (first :: pieces).map ListPiece.text,
            ';' ∉ t := by
        intro t hText
        rcases List.mem_map.mp hText with ⟨piece, -, rfl⟩
        exact not_mem_pieceText piece
      have hSome :
          (first :: pieces).map ListPiece.text ≠ [] :=
        List.cons_ne_nil _ _
      rw [listedUrls, listText,
        Text.splitOn_joinWith hSome hMark]
      exact filter_strip_pieces (first :: pieces)

------------------------------------------------------------
-- Choosing a URL
------------------------------------------------------------

/- A scheme in any letter case is found in lower case. -/
theorem lower_text
    (url : ListedUrl) :
    ∃ rest,
      Text.lower url.text =
        url.lowerScheme ++ "://".toList ++ rest := by
  have hAscii :
      ∀ c ∈ url.scheme ++ [':'], c.toNat < 0x80 := by
    intro c hMember
    rcases List.mem_append.mp hMember with hLetter | hColon
    · apply Text.toNat_lt_of_isAlphanum
      rw [Char.isAlphanum, url.isAlpha_of_mem_scheme hLetter,
        Bool.true_or]
    · rw [List.mem_singleton.mp hColon]
      decide
  have hText :
      url.text =
        (url.scheme ++ [':']) ++
          '/' :: ([] ++ '/' :: (url.authority ++ url.path)) := by
    simp [ListedUrl.text]
  refine ⟨Text.lower (url.authority ++ url.path), ?_⟩
  rw [hText,
    Unicode.lower_append_boundary Unicode.isBoundary_slash,
    Unicode.lower_append_boundary Unicode.isBoundary_slash,
    Unicode.lower_of_ascii hAscii]
  simp [ListedUrl.lowerScheme, Unicode.lower,
    Unicode.lowerAfter]

theorem startsWith_lower_text
    (url : ListedUrl)
    {scheme : Text}
    (hScheme : scheme ∈ webSchemes) :
    Text.startsWith (scheme ++ "://".toList)
        (Text.lower url.text) =
      (url.lowerScheme == scheme) := by
  rcases lower_text url with ⟨rest, hLower⟩
  have hUrl : url.lowerScheme ∈ webSchemes :=
    url.schemeIsWeb
  rw [hLower]
  rw [webSchemes, List.mem_pair] at hScheme hUrl
  rcases hScheme with rfl | rfl
  · rcases hUrl with hSame | hSame
    · rw [hSame]
      rfl
    · rw [hSame]
      rfl
  · rcases hUrl with hSame | hSame
    · rw [hSame]
      rfl
    · rw [hSame]
      rfl

theorem firstWithScheme?_text
    {scheme : Text}
    (hScheme : scheme ∈ webSchemes)
    (urls : List ListedUrl) :
    firstWithScheme? (scheme ++ "://".toList)
        (urls.map ListedUrl.text) =
      (urls.find? (·.lowerScheme == scheme)).map
        ListedUrl.text := by
  rw [firstWithScheme?, List.find?_map]
  congr 1
  congr 1
  funext url
  exact startsWith_lower_text url hScheme

/- The preferred URL of a list is chosen as it is written. -/
theorem chooseUrl?_listText
    (pieces : List ListPiece) :
    chooseUrl? (listText pieces) =
      (preferred? (urlsOf pieces)).map ListedUrl.text := by
  have hHttp : "http".toList ∈ webSchemes := by decide
  have hHttps : "https".toList ∈ webSchemes := by decide
  have hPlain :
      firstWithScheme? "http://".toList
          ((urlsOf pieces).map ListedUrl.text) =
        ((urlsOf pieces).find?
            (·.lowerScheme == "http".toList)).map
          ListedUrl.text :=
    firstWithScheme?_text hHttp (urlsOf pieces)
  have hSecure :
      firstWithScheme? "https://".toList
          ((urlsOf pieces).map ListedUrl.text) =
        ((urlsOf pieces).find?
            (·.lowerScheme == "https".toList)).map
          ListedUrl.text :=
    firstWithScheme?_text hHttps (urlsOf pieces)
  rw [chooseUrl?, listedUrls_listText, preferred?, hPlain,
    hSecure]
  cases (urlsOf pieces).find?
      (·.lowerScheme == "http".toList) with
  | none => rfl
  | some url => rfl

/-
  The base URL of a list with a URL in it: that of the first
  `http` URL, else of the first `https` URL, and none just if
  its port cannot be read.
-/
theorem baseUrl_of_listText
    {pieces : List ListPiece}
    (hUrls : urlsOf pieces ≠ []) :
    ∃ url,
      preferred? (urlsOf pieces) = some url ∧
        (chooseUrl? (listText pieces)).bind normalize? =
          if url.portIsRead then some url.base else none := by
  rcases exists_preferred? hUrls with ⟨url, hUrl⟩
  refine ⟨url, hUrl, ?_⟩
  rw [chooseUrl?_listText, hUrl, Option.map_some,
    Option.bind_some, url.normalize?_text]

/- All addresses, without a secure scheme. -/
def everyAddress : ListedUrl where
  scheme := "HTTP".toList
  host := "0.0.0.0".toList
  port := some "5000".toList
  path := "/".toList
  schemeIsWeb := by decide
  hostIsListed := .inl (by decide)
  portIsWritten := by
    rintro _ ⟨⟩
    exact ⟨by decide, List.all_eq_true.mp (by decide)⟩
  pathIsRooted := by
    rintro _ ⟨⟩
    rfl
  pathIsPlain := List.all_eq_true.mp (by decide)

/- All addresses, with a secure scheme. -/
def everyAddressSecure : ListedUrl where
  scheme := "https".toList
  host := "+".toList
  port := none
  path := []
  schemeIsWeb := by decide
  hostIsListed := .inl (by decide)
  portIsWritten := nofun
  pathIsRooted := nofun
  pathIsPlain := nofun

/- A list that has both, and ends with a semicolon. -/
def bothSchemes : List ListPiece :=
  [⟨[], some everyAddressSecure, [], nofun, nofun⟩,
   ⟨" ".toList, some everyAddress, " ".toList,
    List.all_eq_true.mp (by decide),
    List.all_eq_true.mp (by decide)⟩,
   ⟨[], none, [], nofun, nofun⟩]

/- The later URL is chosen, since it is no secure one. -/
theorem baseUrl_of_bothSchemes :
    listText bothSchemes =
        "https://+; HTTP://0.0.0.0:5000/ ;".toList ∧
      (chooseUrl? (listText bothSchemes)).bind normalize? =
        some "http://localhost:5000".toList := by
  have hUrls : urlsOf bothSchemes ≠ [] :=
    List.cons_ne_nil everyAddressSecure [everyAddress]
  have hPreferred :
      preferred? (urlsOf bothSchemes) = some everyAddress := by
    rfl
  rcases baseUrl_of_listText hUrls with ⟨url, hUrl, hBase⟩
  obtain rfl : everyAddress = url :=
    Option.some.inj (hPreferred.symm.trans hUrl)
  refine ⟨by decide +kernel, hBase.trans ?_⟩
  decide +kernel

------------------------------------------------------------
-- Overlong Ports
------------------------------------------------------------

theorem portNumber_replicate_zero
    (n : Nat) :
    Url.portNumber (List.replicate n '0') = 0 := by
  rw [Url.portNumber]
  induction n with
  | zero => rfl
  | succ n ih =>
      rw [List.replicate_succ, List.foldl_cons]
      exact ih

/- The port 0, with some more zeros. -/
def zeroPort
    (n : Nat) :
    ListedUrl where
  scheme := "http".toList
  host := "h".toList
  port := some (List.replicate (n + 1) '0')
  path := []
  schemeIsWeb := by decide
  hostIsListed :=
    .inr ⟨by decide, List.all_eq_true.mp (by decide)⟩
  portIsWritten := by
    rintro _ ⟨⟩
    refine ⟨by simp, fun c hMember => ?_⟩
    rw [List.eq_of_mem_replicate hMember]
    rfl
  pathIsRooted := nofun
  pathIsPlain := nofun

theorem text_zeroPort
    (n : Nat) :
    (zeroPort n).text =
      "http://h:".toList ++ List.replicate (n + 1) '0' := by
  change
    "http://".toList ++
        (("h".toList ++ ':' :: List.replicate (n + 1) '0') ++
          []) =
      _
  rw [List.append_nil]
  rfl

theorem portIsRead_zeroPort
    (n : Nat) :
    (zeroPort n).portIsRead = decide (n < 4300) := by
  rw [ListedUrl.portIsRead, zeroPort, Option.all_some,
    portNumber_replicate_zero, List.length_replicate]
  exact Bool.and_true _

/- It is in range, and yet too many zeros are not read. -/
theorem baseUrl_of_overlongPort :
    (zeroPort 4300).text =
        "http://h:".toList ++ List.replicate 4301 '0' ∧
      (∀ digits ∈ (zeroPort 4300).port,
        Url.portNumber digits ≤ 65535) ∧
        (chooseUrl? (zeroPort 4300).text).bind normalize? =
          none := by
  refine ⟨text_zeroPort 4300, ?_, ?_⟩
  · rintro _ ⟨⟩
    rw [portNumber_replicate_zero]
    exact Nat.zero_le 65535
  · have hChosen :
        chooseUrl? (zeroPort 4300).text =
          some (zeroPort 4300).text := by
      have hList :=
        chooseUrl?_listText
          [⟨[], some (zeroPort 4300), [], nofun, nofun⟩]
      rw [listText, List.map_singleton,
        Text.joinWith_singleton, ListPiece.text,
        List.nil_append, Option.elim_some,
        List.append_nil] at hList
      exact hList
    have hUnread : (zeroPort 4300).portIsRead = false :=
      portIsRead_zeroPort 4300
    rw [hChosen, Option.bind_some,
      (zeroPort 4300).normalize?_text, hUnread]
    rfl

end LaunchSettings

end RouteAtlas
