import Mathlib
import RouteAtlas.Proofs.Text.Split
import RouteAtlas.Url.Basic

/-
  Web addresses with any authority.

  Behind a scheme of letters and two slashes the authority
  goes up to a slash, a query or a fragment, and no tab or
  line end is kept in it or behind it.

  Main definitions:
    * `Url.unbroken`
    * `Url.authorityIn`
    * `Url.restIn`
    * `Url.Follows`

  Main statements:
    * `authorityIn_append_follows`
    * `restIn_append_follows`
    * `ofText?_web`
-/

------------------------------------------------------------
-- Characters
------------------------------------------------------------

namespace RouteAtlas

namespace Url

/- A character that fails a test is not in what passes it. -/
theorem not_mem_of_forall
    {test : Char → Bool}
    {t : Text}
    (hPasses : ∀ c ∈ t, test c = true)
    {c : Char}
    (hFails : test c = false) :
    c ∉ t := by
  intro hMember
  rw [hPasses c hMember] at hFails
  cases hFails

theorem eq_false_of_any_eq_false
    {test : Char → Bool}
    {t : Text}
    (hNone : t.any test = false)
    {c : Char}
    (hMember : c ∈ t) :
    test c = false :=
  Bool.eq_false_iff.mpr (List.any_eq_false.mp hNone c hMember)

theorem lt_toNat_of_isAlpha
    {c : Char}
    (hLetter : c.isAlpha = true) :
    0x20 < c.toNat := by
  simp only [Char.isAlpha, Char.isUpper, Char.isLower,
    Bool.or_eq_true, Bool.and_eq_true, decide_eq_true_eq,
    ge_iff_le, UInt32.le_iff_toNat_le] at hLetter
  change 0x20 < c.val.toNat
  rcases hLetter with ⟨hUpper, -⟩ | ⟨hLower, -⟩
  · exact Nat.lt_of_lt_of_le (by decide) hUpper
  · exact Nat.lt_of_lt_of_le (by decide) hLower

------------------------------------------------------------
-- Authorities
------------------------------------------------------------

/- A tab or a line end. -/
def isBreak
    (c : Char) :
    Bool :=
  c == '\t' || c == '\r' || c == '\n'

/- The text without its tabs and line ends. -/
def unbroken
    (t : Text) :
    Text :=
  t.filter fun c => !isBreak c

/- The authority that is read of a text behind two slashes. -/
def authorityIn
    (t : Text) :
    Text :=
  (unbroken t).takeWhile (!endsAuthority ·)

/- What is read behind the authority. -/
def restIn
    (t : Text) :
    Text :=
  (unbroken t).dropWhile (!endsAuthority ·)

/- A character that is read in an authority as it stands. -/
def isKept
    (c : Char) :
    Bool :=
  !(isBreak c || endsAuthority c)

theorem unbroken_append
    (front back : Text) :
    unbroken (front ++ back) =
      unbroken front ++ unbroken back :=
  List.filter_append front back

theorem unbroken_eq_self
    {t : Text}
    (hWhole : ∀ c ∈ t, isBreak c = false) :
    unbroken t = t := by
  rw [unbroken, List.filter_eq_self]
  intro c hMember
  rw [hWhole c hMember]
  rfl

theorem isBreak_of_mem_unbroken
    {t : Text}
    {c : Char}
    (hMember : c ∈ unbroken t) :
    isBreak c = false :=
  (Bool.not_eq_true' _).mp (List.mem_filter.mp hMember).2

theorem mem_of_mem_authorityIn
    {t : Text}
    {c : Char}
    (hMember : c ∈ authorityIn t) :
    c ∈ t :=
  List.mem_of_mem_filter
    ((List.takeWhile_sublist _).subset hMember)

theorem isKept_iff
    {c : Char} :
    isKept c = true ↔
      isBreak c = false ∧ endsAuthority c = false := by
  rw [isKept, Bool.not_eq_true', Bool.or_eq_false_iff]

theorem isKept_of_mem_authorityIn
    {t : Text}
    {c : Char}
    (hMember : c ∈ authorityIn t) :
    isKept c = true := by
  have hEnds := List.mem_takeWhile_imp hMember
  have hWhole : c ∈ unbroken t :=
    (List.takeWhile_sublist _).subset hMember
  exact
    isKept_iff.mpr
      ⟨isBreak_of_mem_unbroken hWhole,
        (Bool.not_eq_true' _).mp hEnds⟩

/- What an authority may begin with is read as it stands. -/
theorem authorityIn_append
    {front : Text}
    (hFront : ∀ c ∈ front, isKept c = true)
    (back : Text) :
    authorityIn (front ++ back) =
      front ++ authorityIn back := by
  have hWhole : ∀ c ∈ front, isBreak c = false :=
    fun c hMember => (isKept_iff.mp (hFront c hMember)).1
  rw [authorityIn, unbroken_append, unbroken_eq_self hWhole,
    List.takeWhile_append_of_pos]
  · rfl
  · intro c hMember
    rw [(isKept_iff.mp (hFront c hMember)).2]
    rfl

theorem authorityIn_eq_self
    {t : Text}
    (hKept : ∀ c ∈ t, isKept c = true) :
    authorityIn t = t := by
  have hAll := authorityIn_append hKept []
  rw [List.append_nil] at hAll
  exact hAll.trans (List.append_nil t)

/- A text that may follow an authority without joining it. -/
structure Follows
    (rest : Text) :
    Prop where
  head : ∀ c ∈ rest.head?, endsAuthority c = true
  whole : ∀ c ∈ rest, isBreak c = false

theorem follows_nil :
    Follows [] where
  head := by simp
  whole := by simp

theorem Follows.append
    {front back : Text}
    (hFront : Follows front)
    (hBack : Follows back) :
    Follows (front ++ back) where
  head := by
    intro c hHead
    cases front with
    | nil => exact hBack.head c hHead
    | cons d front => exact hFront.head c hHead
  whole :=
    List.forall_mem_append.mpr ⟨hFront.whole, hBack.whole⟩

/- So may every beginning of it. -/
theorem Follows.beginning
    {front rest : Text}
    (hRest : Follows rest)
    (hFront : front <+: rest) :
    Follows front where
  head := by
    rcases hFront with ⟨back, rfl⟩
    intro c hHead
    cases front with
    | nil => cases hHead
    | cons d front => exact hRest.head c hHead
  whole := fun c hMember =>
    hRest.whole c (hFront.sublist.subset hMember)

theorem follows_delimited
    {mark : Char}
    {part : Text}
    (hMark :
      endsAuthority mark = true ∧ isBreak mark = false)
    (hPart : ∀ c ∈ part, isBreak c = false) :
    Follows (delimited [mark] part) := by
  unfold delimited
  split
  · exact follows_nil
  · refine ⟨?_, ?_⟩
    · rintro c ⟨⟩
      exact hMark.1
    · exact List.forall_mem_cons.mpr ⟨hMark.2, hPart⟩

/- An authority is read up to the path behind it. -/
theorem authorityIn_append_path
    {path : Text}
    (hPath : ∀ c ∈ path.head?, c = '/')
    (t : Text) :
    authorityIn (t ++ path) = authorityIn t := by
  rw [authorityIn, unbroken_append]
  apply Text.takeWhile_append_of_head
  cases path with
  | nil => exact nofun
  | cons d path =>
      obtain rfl : d = '/' := hPath d rfl
      rintro c ⟨⟩
      rfl

section Followed

variable {authority rest : Text}
variable (hKept : ∀ c ∈ authority, isKept c = true)
variable (hRest : Follows rest)

include hKept hRest

theorem span_unbroken_append :
    (unbroken (authority ++ rest)).span (!endsAuthority ·) =
      (authority, rest) := by
  have hWhole : ∀ c ∈ authority, isBreak c = false :=
    fun c hMember => (isKept_iff.mp (hKept c hMember)).1
  rw [unbroken_append, unbroken_eq_self hWhole,
    unbroken_eq_self hRest.whole]
  apply Text.span_append
  · intro c hMember
    rw [(isKept_iff.mp (hKept c hMember)).2]
    rfl
  · intro c hHead
    rw [hRest.head c hHead]
    rfl

/- An authority is read up to what follows it. -/
theorem authorityIn_append_follows :
    authorityIn (authority ++ rest) = authority := by
  have hSpan := span_unbroken_append hKept hRest
  rw [List.span_eq_takeWhile_dropWhile] at hSpan
  exact congrArg Prod.fst hSpan

theorem restIn_append_follows :
    restIn (authority ++ rest) = rest := by
  have hSpan := span_unbroken_append hKept hRest
  rw [List.span_eq_takeWhile_dropWhile] at hSpan
  exact congrArg Prod.snd hSpan

end Followed

/- What is read behind an authority may follow it. -/
theorem follows_restIn
    (t : Text) :
    Follows (restIn t) where
  head := by
    intro c hHead
    have hStop := List.head?_dropWhile_not
      (!endsAuthority ·) (unbroken t)
    rw [restIn] at hHead
    rw [hHead] at hStop
    simpa using hStop
  whole := fun _ hMember =>
    isBreak_of_mem_unbroken
      ((List.dropWhile_sublist _).subset hMember)

------------------------------------------------------------
-- Reading
------------------------------------------------------------

/- A URL with path, query and fragment still in one. -/
def ofParts
    (scheme authority rest : Text) :
    Url :=
  let (front, fragment) := cutAt '#' rest
  let (path, query) := cutAt '?' front
  ⟨scheme, authority, path, query, fragment⟩

/- Nothing is dropped in front of a printed character. -/
theorem dropWhile_of_head
    {t : Text}
    (hHead : ∀ c ∈ t.head?, 0x20 < c.toNat) :
    t.dropWhile (·.toNat ≤ 0x20) = t := by
  cases t with
  | nil => rfl
  | cons c t =>
      have hChar : 0x20 < c.toNat := hHead c rfl
      rw [List.dropWhile_cons_of_neg]
      simpa using hChar

/- A scheme of letters is read up to its colon. -/
theorem cutScheme_letters
    {scheme : Text}
    (hSome : scheme ≠ [])
    (hLetters : ∀ c ∈ scheme, c.isAlpha = true)
    (rest : Text) :
    cutScheme (scheme ++ ':' :: rest) =
      (scheme.map Char.toLower, rest) := by
  have hColon : ':' ∉ scheme :=
    not_mem_of_forall hLetters (by decide)
  have hCut :
      Text.cut? [':'] (scheme ++ ':' :: rest) =
        some (scheme, rest) :=
    Text.cut?_append hColon rest
  have hChars : scheme.all isSchemeChar = true := by
    rw [List.all_eq_true]
    intro c hMember
    simp [isSchemeChar, Char.isAlphanum,
      hLetters c hMember]
  rw [cutScheme, hCut]
  cases scheme with
  | nil => exact absurd rfl hSome
  | cons c scheme =>
      have hFirst : c.isAlpha = true :=
        hLetters c List.mem_cons_self
      dsimp only
      rw [hFirst, hChars]
      rfl

section Web

variable {scheme : Text}
variable (hSome : scheme ≠ [])
variable (hLetters : ∀ c ∈ scheme, c.isAlpha = true)

include hSome hLetters

theorem cleaned_web
    (t : Text) :
    cleaned (scheme ++ "://".toList ++ t) =
      scheme ++ ':' :: '/' :: '/' :: unbroken t := by
  have hScheme : ∀ c ∈ scheme, isBreak c = false := by
    intro c hMember
    rw [Bool.eq_false_iff]
    intro hBreak
    have hBelow := lt_toNat_of_isAlpha (hLetters c hMember)
    simp only [isBreak, Bool.or_eq_true, beq_iff_eq]
      at hBreak
    rcases hBreak with (rfl | rfl) | rfl <;>
      exact absurd hBelow (by decide)
  have hHead :
      ∀ c ∈ (scheme ++ "://".toList ++ t).head?,
        0x20 < c.toNat := by
    cases scheme with
    | nil => exact absurd rfl hSome
    | cons d scheme =>
        rintro c ⟨⟩
        exact
          lt_toNat_of_isAlpha (hLetters d List.mem_cons_self)
  have hClean :
      cleaned (scheme ++ "://".toList ++ t) =
        unbroken (scheme ++ "://".toList ++ t) := by
    rw [cleaned, dropWhile_of_head hHead]
    rfl
  rw [hClean, unbroken_append, unbroken_append,
    unbroken_eq_self hScheme, List.append_assoc]
  rfl

/- A web address is read part by part. -/
theorem ofText?_web
    (t : Text) :
    ofText? (scheme ++ "://".toList ++ t) =
      if authorityIsValid (authorityIn t) then
        some
          (ofParts (scheme.map Char.toLower) (authorityIn t)
            (restIn t))
      else
        none := by
  have hSpan :
      cutAuthority ('/' :: '/' :: unbroken t) =
        (authorityIn t, restIn t) :=
    List.span_eq_takeWhile_dropWhile _ _
  rw [ofText?, cleaned_web hSome hLetters,
    cutScheme_letters hSome hLetters]
  dsimp only
  rw [hSpan]
  rfl

end Web

end Url

end RouteAtlas
