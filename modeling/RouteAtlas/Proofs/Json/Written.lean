import Mathlib
import RouteAtlas.Json.Reader
import RouteAtlas.Json.Writer

/-
  What values are written as.

  A value of texts, words, arrays and objects begins with a
  character that no reader skips, and holds no carriage
  return.

  Main statements:
    * `startsSolid_writeAt`
    * `return_not_mem_writeAt`
-/

------------------------------------------------------------
-- Values
------------------------------------------------------------

namespace RouteAtlas

namespace Json

/-
  Whether a value holds no number, repeats no key in an
  object, and nests no deeper than there is room for.
-/
def IsTextual :
    Nat → Json → Prop
  | _, .null => True
  | _, .bool _ => True
  | _, .integer _ => False
  | _, .real _ => False
  | _, .string _ => True
  | 0, .array _ => False
  | room + 1, .array items =>
      ∀ item ∈ items, IsTextual room item
  | 0, .object _ => False
  | room + 1, .object members =>
      (members.map (·.1)).Nodup ∧
        ∀ member ∈ members, IsTextual room member.2

theorem isTextual_string
    (room : Nat)
    (t : Text) :
    IsTextual room (.string t) := by
  cases room with
  | zero => trivial
  | succ room => trivial

------------------------------------------------------------
-- Space
------------------------------------------------------------

/- Whether a layout puts only space between entries. -/
structure Layout.IsSpaced
    (layout : Layout) :
    Prop where
  entry : ∀ depth, ∀ c ∈ layout.entry depth, isSpace c = true
  colon :
    ∃ space,
      layout.colon = ':' :: space ∧
        ∀ c ∈ space, isSpace c = true

theorem isSpaced_indented :
    Layout.indented.IsSpaced := by
  constructor
  · intro depth c hChar
    rcases List.mem_cons.mp hChar with rfl | hSpace
    · rfl
    · rw [List.eq_of_mem_replicate hSpace]
      rfl
  · refine ⟨[' '], rfl, ?_⟩
    intro c hChar
    rw [List.mem_singleton.mp hChar]
    rfl

theorem skipSpace_append
    {space : Text}
    (hSpace : ∀ c ∈ space, isSpace c = true)
    (t : Text) :
    skipSpace (space ++ t) = skipSpace t :=
  List.dropWhile_append_of_pos hSpace

theorem skipSpace_cons
    {c : Char}
    (hSolid : isSpace c = false)
    (t : Text) :
    skipSpace (c :: t) = c :: t := by
  simp [skipSpace, hSolid]

/-
  Whether a text begins with an ASCII character that neither
  is space nor closes an array or an object.
-/
def StartsSolid
    (t : Text) :
    Prop :=
  ∃ c tail,
    t = c :: tail ∧ isSpace c = false ∧
      (c ≠ ']' ∧ c ≠ '}') ∧ c.toNat < 0x80

theorem StartsSolid.skipSpace_append
    {t : Text}
    (hSolid : StartsSolid t)
    (rest : Text) :
    skipSpace (t ++ rest) = t ++ rest := by
  rcases hSolid with ⟨c, tail, rfl, hChar, -⟩
  exact skipSpace_cons hChar (tail ++ rest)

theorem StartsSolid.append
    {t : Text}
    (hSolid : StartsSolid t)
    (rest : Text) :
    StartsSolid (t ++ rest) := by
  rcases hSolid with ⟨c, tail, rfl, hChar⟩
  exact ⟨c, tail ++ rest, rfl, hChar⟩

/- What is written is not empty. -/
theorem StartsSolid.length_pos
    {t : Text}
    (hSolid : StartsSolid t) :
    0 < t.length := by
  rcases hSolid with ⟨c, tail, rfl, -⟩
  exact Nat.succ_pos tail.length

theorem StartsSolid.of_cons
    {c : Char}
    (hSolid : isSpace c = false)
    (hClosing : c ≠ ']' ∧ c ≠ '}')
    (hAscii : c.toNat < 0x80)
    (tail : Text) :
    StartsSolid (c :: tail) :=
  ⟨c, tail, rfl, hSolid, hClosing, hAscii⟩

/- What a value is written with begins with no space. -/
theorem startsSolid_writeAt
    {room : Nat}
    {value : Json}
    (hTextual : IsTextual room value)
    (layout : Layout)
    (depth : Nat) :
    StartsSolid (writeAt layout depth value) := by
  cases value with
  | null =>
      rw [writeAt]
      exact .of_cons rfl (by decide) (by decide) _
  | bool b =>
      cases b with
      | true =>
          rw [writeAt]
          exact .of_cons rfl (by decide) (by decide) _
      | false =>
          rw [writeAt]
          exact .of_cons rfl (by decide) (by decide) _
  | integer n => cases room <;> exact hTextual.elim
  | real x => cases room <;> exact hTextual.elim
  | string t =>
      rw [writeAt]
      exact .of_cons rfl (by decide) (by decide) _
  | array items =>
      cases items with
      | nil =>
          rw [writeAt]
          exact .of_cons rfl (by decide) (by decide) _
      | cons item items =>
          rw [writeAt]
          exact .of_cons rfl (by decide) (by decide) _
  | object members =>
      cases members with
      | nil =>
          rw [writeAt]
          exact .of_cons rfl (by decide) (by decide) _
      | cons member members =>
          rw [writeAt]
          exact .of_cons rfl (by decide) (by decide) _

theorem startsSolid_writeMember
    (layout : Layout)
    (depth : Nat)
    (member : Text × Json) :
    StartsSolid (writeMember layout depth member) := by
  rcases member with ⟨key, value⟩
  rw [writeMember]
  exact .of_cons rfl (by decide) (by decide) _

------------------------------------------------------------
-- Line Ends
------------------------------------------------------------

theorem ne_return_hexDigit
    {n : Nat}
    (hDigit : n < 16) :
    hexDigit n ≠ '\r' := by
  have hTable : ∀ n < 16, hexDigit n ≠ '\r' := by decide
  exact hTable n hDigit

theorem return_not_mem_escapeChar
    (c : Char) :
    '\r' ∉ escapeChar c := by
  unfold escapeChar
  split_ifs with hQuote hSlash hFeed hReturn hTab hBack hForm
    hControl
  · decide
  · decide
  · decide
  · decide
  · decide
  · decide
  · decide
  · have hHigh :=
      ne_return_hexDigit (by omega : c.toNat / 16 < 16)
    have hLow :=
      ne_return_hexDigit (by omega : c.toNat % 16 < 16)
    simp [Ne.symm hHigh, Ne.symm hLow]
  · rw [List.mem_singleton]
    intro hSame
    exact hReturn (beq_iff_eq.mpr hSame.symm)

theorem return_not_mem_quoted
    (t : Text) :
    '\r' ∉ quoted t := by
  have hEscaped : '\r' ∉ t.flatMap escapeChar := by
    rw [List.mem_flatMap]
    rintro ⟨c, -, hChar⟩
    exact return_not_mem_escapeChar c hChar
  simpa [quoted] using hEscaped

/- A layout without carriage returns. -/
structure Layout.IsReturnless
    (layout : Layout) :
    Prop where
  entry : ∀ depth, '\r' ∉ layout.entry depth
  colon : '\r' ∉ layout.colon

theorem isReturnless_indented :
    Layout.indented.IsReturnless := by
  constructor
  · intro depth hReturn
    rcases List.mem_cons.mp hReturn with hFeed | hSpace
    · exact absurd hFeed (by decide)
    · exact absurd (List.eq_of_mem_replicate hSpace)
        (by decide)
  · decide

theorem return_not_mem_writeItems
    {layout : Layout}
    (hLayout : layout.IsReturnless)
    {depth : Nat}
    {items : List Json}
    (hItems :
      ∀ item ∈ items, '\r' ∉ writeAt layout depth item) :
    '\r' ∉ writeItems layout depth items := by
  induction items with
  | nil => simp [writeItems]
  | cons item items ih =>
      have hItem := hItems item List.mem_cons_self
      have hOthers :=
        ih fun other hOther =>
          hItems other (List.mem_cons_of_mem item hOther)
      simp [writeItems, hLayout.entry depth, hItem, hOthers]

theorem return_not_mem_writeMember
    {layout : Layout}
    (hLayout : layout.IsReturnless)
    {depth : Nat}
    {member : Text × Json}
    (hValue : '\r' ∉ writeAt layout depth member.2) :
    '\r' ∉ writeMember layout depth member := by
  rcases member with ⟨key, value⟩
  simp [writeMember, return_not_mem_quoted key,
    hLayout.colon, hValue]

theorem return_not_mem_writeMembers
    {layout : Layout}
    (hLayout : layout.IsReturnless)
    {depth : Nat}
    {members : List (Text × Json)}
    (hMembers :
      ∀ member ∈ members,
        '\r' ∉ writeAt layout depth member.2) :
    '\r' ∉ writeMembers layout depth members := by
  induction members with
  | nil => simp [writeMembers]
  | cons member members ih =>
      have hMember :=
        return_not_mem_writeMember hLayout
          (hMembers member List.mem_cons_self)
      have hOthers :=
        ih fun other hOther =>
          hMembers other (List.mem_cons_of_mem member hOther)
      simp [writeMembers, hLayout.entry depth, hMember,
        hOthers]

/- No carriage return is written but as an escape. -/
theorem return_not_mem_writeAt
    {layout : Layout}
    (hLayout : layout.IsReturnless)
    {room : Nat}
    {value : Json}
    (hTextual : IsTextual room value)
    (depth : Nat) :
    '\r' ∉ writeAt layout depth value := by
  induction room using Nat.strongRecOn
    generalizing value depth with
  | ind room ih =>
      cases value with
      | null =>
          rw [writeAt]
          decide
      | bool b =>
          cases b with
          | true =>
              rw [writeAt]
              decide
          | false =>
              rw [writeAt]
              decide
      | integer n => cases room <;> exact hTextual.elim
      | real x => cases room <;> exact hTextual.elim
      | string t =>
          rw [writeAt]
          exact return_not_mem_quoted t
      | array items =>
          cases room with
          | zero => exact hTextual.elim
          | succ room =>
              have hItems :
                  ∀ item ∈ items,
                    '\r' ∉ writeAt layout (depth + 1) item :=
                fun item hItem =>
                  ih room (Nat.lt_succ_self room)
                    (hTextual item hItem) (depth + 1)
              cases items with
              | nil =>
                  rw [writeAt]
                  decide
              | cons item items =>
                  have hItem := hItems item List.mem_cons_self
                  have hOthers :=
                    return_not_mem_writeItems hLayout
                      fun other hOther =>
                        hItems other
                          (List.mem_cons_of_mem item hOther)
                  simp [writeAt, hLayout.entry, hItem, hOthers]
      | object members =>
          cases room with
          | zero => exact hTextual.elim
          | succ room =>
              have hMembers :
                  ∀ member ∈ members,
                    '\r' ∉
                      writeAt layout (depth + 1) member.2 :=
                fun member hMember =>
                  ih room (Nat.lt_succ_self room)
                    (hTextual.2 member hMember) (depth + 1)
              cases members with
              | nil =>
                  rw [writeAt]
                  decide
              | cons member members =>
                  have hMember :=
                    return_not_mem_writeMember hLayout
                      (hMembers member List.mem_cons_self)
                  have hOthers :=
                    return_not_mem_writeMembers hLayout
                      fun other hOther =>
                        hMembers other
                          (List.mem_cons_of_mem member hOther)
                  simp [writeAt, hLayout.entry, hMember,
                    hOthers]

end Json

end RouteAtlas
