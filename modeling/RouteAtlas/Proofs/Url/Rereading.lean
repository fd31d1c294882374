import Mathlib
import RouteAtlas.Proofs.Url.Plain

/-
  Web addresses that are written and read again.

  What is written from the parts of a URL is read with the
  same authority, hence with the same host, also if
  something behind the authority was taken away.

  Main definitions:
    * `Url.behind`
    * `Url.hostIn`

  Main statements:
    * `text_ofParts`
    * `exists_brackets`
    * `ofText?_again`
-/

------------------------------------------------------------
-- Writing
------------------------------------------------------------

namespace RouteAtlas

namespace Url

/- What is written behind the authority of a URL. -/
def behind
    (url : Url) :
    Text :=
  url.path ++ delimited ['?'] url.query ++
    delimited ['#'] url.fragment

theorem cutAt_fst_prefix
    (mark : Char)
    (t : Text) :
    (cutAt mark t).1 <+: t := by
  by_cases hMark : mark ∈ t
  · rcases Text.exists_cut? hMark with
      ⟨head, tail, hCut, hText⟩
    rw [cutAt, hCut]
    exact ⟨mark :: tail, hText.symm⟩
  · rw [cutAt_of_not_mem hMark]

theorem cutAt_snd_suffix
    (mark : Char)
    (t : Text) :
    (cutAt mark t).2 <:+ t := by
  by_cases hMark : mark ∈ t
  · rcases Text.exists_cut? hMark with
      ⟨head, tail, hCut, hText⟩
    rw [cutAt, hCut]
    exact ⟨head ++ [mark], by simp [hText]⟩
  · rw [cutAt_of_not_mem hMark]
    exact List.nil_suffix

section Written

variable {scheme authority rest : Text}

theorem text_ofParts
    (hScheme : scheme ≠ [])
    (hAuthority : authority ≠ []) :
    (ofParts scheme authority rest).text =
      scheme ++ "://".toList ++
        (authority ++
          behind (ofParts scheme authority rest)) := by
  simp [ofParts, text, behind, delimited, hScheme,
    hAuthority]

/- The rest of a URL is written as one that may follow. -/
theorem follows_behind
    (hRest : Follows rest) :
    Follows (behind (ofParts scheme authority rest)) := by
  have hFront := cutAt_fst_prefix '#' rest
  have hPath := cutAt_fst_prefix '?' (cutAt '#' rest).1
  have hQuery := cutAt_snd_suffix '?' (cutAt '#' rest).1
  have hFragment := cutAt_snd_suffix '#' rest
  apply Follows.append
  · apply Follows.append
    · exact hRest.beginning (hPath.trans hFront)
    · apply follows_delimited (by decide)
      intro c hMember
      exact
        hRest.whole c
          (hFront.sublist.subset
            (hQuery.sublist.subset hMember))
  · apply follows_delimited (by decide)
    intro c hMember
    exact hRest.whole c (hFragment.sublist.subset hMember)

end Written

------------------------------------------------------------
-- Hosts without User Info
------------------------------------------------------------

/- The host that a URL with the authority names. -/
def hostIn
    (authority : Text) :
    Text :=
  (hostPort ⟨[], authority, [], [], []⟩).1

section Host

variable {authority : Text}

/- User info ends at its last mark, whatever it begins with. -/
theorem hostAndPort_append
    (hUser : '@' ∈ authority)
    (front : Text) :
    hostAndPort (front ++ authority) =
      hostAndPort authority := by
  rcases Text.exists_last_mark hUser with
    ⟨user, host, rfl, hHost⟩
  unfold hostAndPort
  rw [← List.append_assoc, Text.cutLast?_append hHost,
    Text.cutLast?_append hHost]

theorem hostIn_congr
    {other : Text}
    (hSame : hostAndPort authority = hostAndPort other) :
    hostIn authority = hostIn other := by
  unfold hostIn hostPort
  rw [hSame]

/- Brackets are valid only around the whole of a host. -/
theorem exists_brackets
    (hValid : authorityIsValid authority = true)
    (hUser : '@' ∉ authority)
    (hBracket : '[' ∈ authority) :
    ∃ address port,
      authority = '[' :: address ++ ']' :: port ∧
        ']' ∉ address ∧ isBracketed address = true := by
  have hOpening : authority.any (· == '[') = true :=
    List.any_eq_true.mpr ⟨'[', hBracket, rfl⟩
  rw [authorityIsValid, Bool.and_eq_true,
    bracketsAreValid, hOpening] at hValid
  cases hClosing : authority.any (· == ']') with
  | false =>
      rw [hClosing] at hValid
      cases hValid.1
  | true =>
      rcases List.eq_append_cons_of_mem hBracket with
        ⟨lead, bracketed, rfl, hLead⟩
      rw [hClosing, hostAndPort_of_not_mem hUser] at hValid
      dsimp only at hValid
      have hCut :
          Text.cut? ['['] (lead ++ '[' :: bracketed) =
            some (lead, bracketed) :=
        Text.cut?_append hLead bracketed
      simp only [hCut, Bool.and_eq_true,
        List.isEmpty_iff] at hValid
      rcases hValid.1 with ⟨⟨rfl, -⟩, hAddress⟩
      have hMark : ']' ∈ bracketed := by
        rcases List.any_eq_true.mp hClosing with
          ⟨c, hMember, hSame⟩
        obtain rfl : c = ']' := beq_iff_eq.mp hSame
        exact
          (List.mem_cons.mp hMember).resolve_left (by decide)
      rcases List.eq_append_cons_of_mem hMark with
        ⟨address, port, rfl, hInside⟩
      have hEnd :
          Text.cut? [']'] (address ++ ']' :: port) =
            some (address, port) :=
        Text.cut?_append hInside port
      rw [cutAt, hEnd] at hAddress
      exact ⟨address, port, rfl, hInside, hAddress⟩

theorem hostIn_brackets
    {address port : Text}
    (hUser : '@' ∉ '[' :: address ++ ']' :: port)
    (hInside : ']' ∉ address) :
    hostIn ('[' :: address ++ ']' :: port) = address := by
  have hOpening :
      Text.cut? ['['] ('[' :: address ++ ']' :: port) =
        some ([], address ++ ']' :: port) :=
    rfl
  have hClosing :
      Text.cut? [']'] (address ++ ']' :: port) =
        some (address, port) :=
    Text.cut?_append hInside port
  rw [hostIn, hostPort, hostAndPort_of_not_mem hUser]
  dsimp only
  rw [hOpening]
  dsimp only
  rw [cutAt, hClosing]
  rfl

/- Without brackets the first colon ends a host. -/
theorem exists_portText
    (t : Text) :
    ∃ host port, t = host ++ portText port ∧ ':' ∉ host := by
  by_cases hColon : ':' ∈ t
  · rcases List.eq_append_cons_of_mem hColon with
      ⟨host, port, rfl, hHost⟩
    exact ⟨host, some port, rfl, hHost⟩
  · exact ⟨t, none, (List.append_nil t).symm, hColon⟩

end Host

------------------------------------------------------------
-- Reading Again
------------------------------------------------------------

theorem hostName?_congr
    {url other : Url}
    (hSame : url.authority = other.authority) :
    url.hostName? = other.hostName? := by
  unfold hostName? hostPort
  rw [hSame]

/- Only a URL with an authority names a host. -/
theorem authority_ne_nil_of_hostName?
    {url : Url}
    {host : Text}
    (hHost : url.hostName? = some host) :
    url.authority ≠ [] := by
  intro hEmpty
  have hSame :
      url.hostName? = hostName? ⟨[], [], [], [], []⟩ :=
    hostName?_congr hEmpty
  rw [hHost] at hSame
  cases hSame

/-
  The authority that a web address was read with is read
  again, whatever follows it then.
-/
theorem ofText?_again
    {scheme rest : Text}
    (hSome : scheme ≠ [])
    (hLetters : ∀ c ∈ scheme, c.isAlpha = true)
    (hRest : Follows rest)
    {t : Text}
    (hValid : authorityIsValid (authorityIn t) = true) :
    ∃ url,
      ofText?
          (scheme ++ "://".toList ++ (authorityIn t ++ rest)) =
        some url ∧ url.authority = authorityIn t := by
  have hKept : ∀ c ∈ authorityIn t, isKept c = true :=
    fun _ => isKept_of_mem_authorityIn
  rw [ofText?_web hSome hLetters,
    authorityIn_append_follows hKept hRest, if_pos hValid]
  exact ⟨_, rfl, rfl⟩

end Url

end RouteAtlas
