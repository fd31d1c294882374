import Mathlib
import RouteAtlas.Json.Document
import RouteAtlas.Proofs.Json.Strings
import RouteAtlas.Proofs.Json.Written
import RouteAtlas.Proofs.Pairs
import RouteAtlas.Proofs.Text.Lines
import RouteAtlas.Proofs.Text.Utf8

/-
  Documents read back as they were written.

  A value of texts, words, arrays and objects is read as it
  was written, provided that it is not nested too deep and
  that no object repeats a key.  Space between the entries
  makes no difference.

  Main statements:
    * `readValue_writeAt`
    * `read_writeAt`
    * `document_indented`
    * `decode_indented`
-/

------------------------------------------------------------
-- Reading Entries
------------------------------------------------------------

namespace RouteAtlas

namespace Json

variable {fuel room : Nat}
variable {t behind more rest : Text}

theorem readItems_last
    {item : Json}
    (hItem : readValue fuel room t = .ok (item, behind))
    (hClosing : skipSpace behind = ']' :: rest) :
    readItems (fuel + 1) room t = .ok ([item], rest) := by
  rw [readItems, hItem]
  simp only [bind, Except.bind, hClosing]
  rfl

theorem readItems_more
    {item : Json}
    {items : List Json}
    (hItem : readValue fuel room t = .ok (item, behind))
    (hComma : skipSpace behind = ',' :: more)
    (hItems :
      readItems fuel room (skipSpace more) =
        .ok (items, rest)) :
    readItems (fuel + 1) room t =
      .ok (item :: items, rest) := by
  rw [readItems, hItem]
  simp only [bind, Except.bind, hComma, hItems]
  rfl

/- A member is read up to what stands behind its value. -/
def ReadsMember
    (fuel room : Nat)
    (t : Text)
    (member : Text × Json)
    (behind : Text) :
    Prop :=
  ∃ key keyBehind value,
    t = '"' :: key ∧
      readString key = some (member.1, keyBehind) ∧
        skipSpace keyBehind = ':' :: value ∧
          readValue fuel room (skipSpace value) =
            .ok (member.2, behind)

theorem readMembers_last
    {member : Text × Json}
    (hMember : ReadsMember fuel room t member behind)
    (hClosing : skipSpace behind = '}' :: rest) :
    readMembers (fuel + 1) room t = .ok ([member], rest) := by
  rcases hMember with
    ⟨key, keyBehind, value, rfl, hKey, hColon, hValue⟩
  rw [readMembers, hKey]
  simp only [orMalformed, bind, Except.bind, hColon, hValue,
    hClosing]
  rfl

theorem readMembers_more
    {member : Text × Json}
    {members : List (Text × Json)}
    (hMember : ReadsMember fuel room t member behind)
    (hComma : skipSpace behind = ',' :: more)
    (hMembers :
      readMembers fuel room (skipSpace more) =
        .ok (members, rest)) :
    readMembers (fuel + 1) room t =
      .ok (member :: members, rest) := by
  rcases hMember with
    ⟨key, keyBehind, value, rfl, hKey, hColon, hValue⟩
  rw [readMembers, hKey]
  simp only [orMalformed, bind, Except.bind, hColon, hValue,
    hComma, hMembers]
  rfl

------------------------------------------------------------
-- Entries
------------------------------------------------------------

/-
  Whether every value that fits into the room is read as it
  is written, at any depth and before any other text.
-/
def ReadsBack
    (layout : Layout)
    (room : Nat) :
    Prop :=
  ∀ (value : Json) (depth fuel : Nat) (rest : Text),
    IsTextual room value →
      2 * (writeAt layout depth value).length ≤ fuel →
        readValue fuel room
            (writeAt layout depth value ++ rest) =
          .ok (value, rest)

/-
  Items are read up to the closing bracket.  By induction on
  the items behind the first: what stands behind an item is
  either the bracket or a comma and the next item.
-/
theorem readItems_writeItems
    {layout : Layout}
    (hSpaced : layout.IsSpaced)
    (hReads : ReadsBack layout room)
    (depth : Nat)
    {space : Text}
    (hSpace : ∀ c ∈ space, isSpace c = true)
    (rest : Text)
    (item : Json)
    (items : List Json)
    (hTextual : ∀ other ∈ item :: items, IsTextual room other)
    (hFuel :
      2 * ((writeAt layout depth item).length +
        (writeItems layout depth items).length) ≤ fuel) :
    readItems (fuel + 1) room
        (writeAt layout depth item ++
          (writeItems layout depth items ++
            (space ++ ']' :: rest))) =
      .ok (item :: items, rest) := by
  have hItem :=
    hReads item depth fuel
      (writeItems layout depth items ++ (space ++ ']' :: rest))
      (hTextual item List.mem_cons_self) (by omega)
  induction items generalizing item fuel with
  | nil =>
      refine readItems_last hItem ?_
      rw [writeItems, List.nil_append, skipSpace_append hSpace]
      rfl
  | cons next items ih =>
      have hOthers :
          ∀ other ∈ next :: items, IsTextual room other :=
        fun other hOther =>
          hTextual other (List.mem_cons_of_mem item hOther)
      have hStart :=
        startsSolid_writeAt
          (hOthers next List.mem_cons_self) layout depth
      have hComma :
          writeItems layout depth (next :: items) ++
              (space ++ ']' :: rest) =
            ',' :: (layout.entry depth ++
              (writeAt layout depth next ++
                (writeItems layout depth items ++
                  (space ++ ']' :: rest)))) := by
        rw [writeItems]
        simp only [List.cons_append, List.append_assoc]
      simp only [writeItems, List.length_cons,
        List.length_append] at hFuel
      cases fuel with
      | zero => omega
      | succ fuel =>
          have hItems :=
            ih next hOthers (by omega)
              (hReads next depth fuel _
                (hOthers next List.mem_cons_self) (by omega))
          refine readItems_more hItem
            (by rw [hComma]; exact skipSpace_cons rfl _) ?_
          rw [skipSpace_append (hSpaced.entry depth),
            hStart.skipSpace_append]
          exact hItems

/- A member is read as it is written. -/
theorem readsMember_writeMember
    {layout : Layout}
    (hSpaced : layout.IsSpaced)
    (hReads : ReadsBack layout room)
    (depth : Nat)
    (rest : Text)
    (member : Text × Json)
    (hTextual : IsTextual room member.2)
    (hFuel :
      2 * (writeMember layout depth member).length ≤ fuel) :
    ReadsMember fuel room
      (writeMember layout depth member ++ rest) member rest := by
  rcases member with ⟨key, value⟩
  rcases hSpaced.colon with ⟨space, hColon, hSpace⟩
  have hStart := startsSolid_writeAt hTextual layout depth
  simp only [writeMember, List.length_append] at hFuel
  refine ⟨_, _, space ++ (writeAt layout depth value ++ rest),
    ?_, readString_quoted key
      (layout.colon ++ (writeAt layout depth value ++ rest)),
    ?_, ?_⟩
  · simp [writeMember, quoted]
  · rw [hColon]
    exact skipSpace_cons rfl _
  · rw [skipSpace_append hSpace, hStart.skipSpace_append]
    exact hReads value depth fuel rest hTextual (by omega)

/- Members are read up to the closing brace. -/
theorem readMembers_writeMembers
    {layout : Layout}
    (hSpaced : layout.IsSpaced)
    (hReads : ReadsBack layout room)
    (depth : Nat)
    {space : Text}
    (hSpace : ∀ c ∈ space, isSpace c = true)
    (rest : Text)
    (member : Text × Json)
    (members : List (Text × Json))
    (hTextual :
      ∀ other ∈ member :: members, IsTextual room other.2)
    (hFuel :
      2 * ((writeMember layout depth member).length +
        (writeMembers layout depth members).length) ≤ fuel) :
    readMembers (fuel + 1) room
        (writeMember layout depth member ++
          (writeMembers layout depth members ++
            (space ++ '}' :: rest))) =
      .ok (member :: members, rest) := by
  have hMember :=
    readsMember_writeMember hSpaced hReads depth
      (writeMembers layout depth members ++
        (space ++ '}' :: rest))
      member (hTextual member List.mem_cons_self)
      (by omega : _ ≤ fuel)
  induction members generalizing member fuel with
  | nil =>
      refine readMembers_last hMember ?_
      rw [writeMembers, List.nil_append,
        skipSpace_append hSpace]
      rfl
  | cons next members ih =>
      have hOthers :
          ∀ other ∈ next :: members,
            IsTextual room other.2 :=
        fun other hOther =>
          hTextual other (List.mem_cons_of_mem member hOther)
      have hComma :
          writeMembers layout depth (next :: members) ++
              (space ++ '}' :: rest) =
            ',' :: (layout.entry depth ++
              (writeMember layout depth next ++
                (writeMembers layout depth members ++
                  (space ++ '}' :: rest)))) := by
        rw [writeMembers]
        simp only [List.cons_append, List.append_assoc]
      have hStart := startsSolid_writeMember layout depth next
      simp only [writeMembers, List.length_cons,
        List.length_append] at hFuel
      cases fuel with
      | zero => omega
      | succ fuel =>
          have hEnough :
              2 * (writeMember layout depth next).length ≤
                fuel := by
            omega
          have hMembers :=
            ih next hOthers (by omega)
              (readsMember_writeMember hSpaced hReads depth _
                next (hOthers next List.mem_cons_self) hEnough)
          refine readMembers_more hMember
            (by rw [hComma]; exact skipSpace_cons rfl _) ?_
          rw [skipSpace_append (hSpaced.entry depth),
            hStart.skipSpace_append]
          exact hMembers

------------------------------------------------------------
-- Values
------------------------------------------------------------

theorem readValue_items
    {items : List Json}
    {space : Text}
    (hSpace : ∀ c ∈ space, isSpace c = true)
    (hSolid : StartsSolid t)
    (hItems : readItems fuel room t = .ok (items, rest)) :
    readValue (fuel + 1) (room + 1) ('[' :: (space ++ t)) =
      .ok (.array items, rest) := by
  rcases hSolid with ⟨c, tail, rfl, hChar, ⟨hBracket, -⟩, -⟩
  rw [readValue, skipSpace_append hSpace,
    skipSpace_cons hChar]
  split
  next hClosing =>
    exact absurd (List.cons.inj hClosing).1 hBracket
  next =>
    rw [hItems]
    rfl

theorem readValue_members
    {members : List (Text × Json)}
    {space : Text}
    (hSpace : ∀ c ∈ space, isSpace c = true)
    (hSolid : StartsSolid t)
    (hMembers : readMembers fuel room t = .ok (members, rest)) :
    readValue (fuel + 1) (room + 1) ('{' :: (space ++ t)) =
      .ok (.object (Pairs.putAll members []), rest) := by
  rcases hSolid with ⟨c, tail, rfl, hChar, ⟨-, hBrace⟩, -⟩
  rw [readValue, skipSpace_append hSpace,
    skipSpace_cons hChar]
  split
  next hClosing =>
    exact absurd (List.cons.inj hClosing).1 hBrace
  next =>
    rw [hMembers]
    rfl

/-
  By induction on the room: the entries of an array or an
  object have less of it.
-/
theorem readValue_writeAt
    {layout : Layout}
    (hSpaced : layout.IsSpaced)
    (room : Nat) :
    ReadsBack layout room := by
  induction room using Nat.strongRecOn with
  | ind room ih =>
      intro value depth fuel rest hTextual hFuel
      have hSome :=
        (startsSolid_writeAt hTextual layout depth).length_pos
      rcases Nat.exists_eq_add_of_lt
        (Nat.lt_of_lt_of_le (Nat.mul_pos two_pos hSome) hFuel)
        with ⟨less, hLess⟩
      rw [Nat.zero_add] at hLess
      subst hLess
      cases value with
      | null =>
          rw [writeAt]
          rfl
      | bool b =>
          cases b with
          | true =>
              rw [writeAt]
              rfl
          | false =>
              rw [writeAt]
              rfl
      | integer n => cases room <;> exact hTextual.elim
      | real x => cases room <;> exact hTextual.elim
      | string t =>
          rw [writeAt, quoted, List.cons_append,
            List.cons_append, List.append_assoc, readValue,
            List.singleton_append, readString_quoted]
          rfl
      | array items =>
          cases room with
          | zero => exact hTextual.elim
          | succ room =>
              cases items with
              | nil => 
                rw [writeAt]
                rfl
              | cons item items =>
                  have hSolid :=
                    startsSolid_writeAt
                      (hTextual item List.mem_cons_self)
                      layout (depth + 1)
                  simp only [writeAt, List.length_cons,
                    List.length_append] at hFuel
                  cases less with
                  | zero => omega
                  | succ less =>
                      have hItems :=
                        readItems_writeItems hSpaced
                          (ih room (Nat.lt_succ_self room))
                          (depth + 1) (hSpaced.entry depth)
                          rest item items hTextual
                          (by omega : _ ≤ less)
                      have hRead :=
                        readValue_items
                          (hSpaced.entry (depth + 1))
                          (hSolid.append _) hItems
                      simpa only [writeAt, List.cons_append,
                        List.append_assoc, List.nil_append]
                        using hRead
      | object members =>
          cases room with
          | zero => exact hTextual.elim
          | succ room =>
              cases members with
              | nil =>
                rw [writeAt]
                rfl
              | cons member members =>
                  have hSolid :=
                    startsSolid_writeMember layout (depth + 1)
                      member
                  simp only [writeAt, List.length_cons,
                    List.length_append] at hFuel
                  cases less with
                  | zero => omega
                  | succ less =>
                      have hMembers :=
                        readMembers_writeMembers hSpaced
                          (ih room (Nat.lt_succ_self room))
                          (depth + 1) (hSpaced.entry depth)
                          rest member members hTextual.2
                          (by omega : _ ≤ less)
                      have hRead :=
                        readValue_members
                          (hSpaced.entry (depth + 1))
                          (hSolid.append _) hMembers
                      rw [Pairs.putAll_of_nodup hTextual.1]
                        at hRead
                      simpa only [writeAt, List.cons_append,
                        List.append_assoc, List.nil_append]
                        using hRead

------------------------------------------------------------
-- Documents
------------------------------------------------------------

/- A value is the document that it is written as. -/
theorem read_writeAt
    {layout : Layout}
    (hSpaced : layout.IsSpaced)
    {value : Json}
    (hTextual : IsTextual maxDepth value) :
    read (writeAt layout 0 value) = .ok value := by
  have hStart :
      skipSpace (writeAt layout 0 value) =
        writeAt layout 0 value := by
    have hSkip :=
      (startsSolid_writeAt hTextual layout 0).skipSpace_append
        []
    rwa [List.append_nil] at hSkip
  have hValue :=
    readValue_writeAt hSpaced maxDepth value 0
      (2 * (writeAt layout 0 value).length + 2) [] hTextual
      (by omega)
  rw [List.append_nil] at hValue
  unfold read
  rw [hStart, hValue]
  rfl

theorem document_indented
    {value : Json}
    (hTextual : IsTextual maxDepth value) :
    document value.indented = .ok (some value) := by
  unfold document indented
  rw [read_writeAt isSpaced_indented hTextual]

/-
  Reading a text file does not change a document: it has no
  byte order mark, and its lines end in line feeds.
-/
theorem decode_indented
    {value : Json}
    (hTextual : IsTextual maxDepth value) :
    (Utf8.decode?
        (Utf8.dropMark (Utf8.encode value.indented))).map
      Text.unifyNewlines =
      some value.indented := by
  have hMark :
      Utf8.dropMark (Utf8.encode value.indented) =
        Utf8.encode value.indented := by
    rcases startsSolid_writeAt hTextual .indented 0 with
      ⟨c, tail, hWritten, -, -, hAscii⟩
    unfold indented
    rw [hWritten]
    exact Utf8.dropMark_encode hAscii tail
  have hReturn : '\r' ∉ value.indented :=
    return_not_mem_writeAt isReturnless_indented hTextual 0
  rw [hMark, Utf8.decode?_encode, Option.map_some,
    Text.unifyNewlines_of_not_mem hReturn]

end Json

end RouteAtlas
