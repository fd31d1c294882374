import Mathlib
import RouteAtlas.Proofs.Pairs
import RouteAtlas.Text.Basic
import RouteAtlas.Workspace.Sources

/-
  The order of texts, and what is sorted by it.

  Texts are in a total order.  A stable sort by a total
  order keeps values that may precede each other as they
  came, and values may be chosen before it or after.  Keyed
  values with distinct keys have one sorted form, whatever
  order they came in.

  Main statements:
    * `le_total`
    * `le_trans`
    * `le_antisymm`
    * `mergeSort_filter`
    * `byName_congr`
-/

------------------------------------------------------------
-- Order
------------------------------------------------------------

namespace RouteAtlas

namespace Text

theorem le_cons_cons
    (a b : Char)
    (s t : Text) :
    le (a :: s) (b :: t) = true ↔
      a.toNat < b.toNat ∨ a = b ∧ le s t = true := by
  rw [le]
  by_cases hLess : a.toNat < b.toNat
  · rw [if_pos hLess]
    exact iff_of_true rfl (Or.inl hLess)
  · rw [if_neg hLess]
    by_cases hMore : b.toNat < a.toNat
    · rw [if_pos hMore]
      refine iff_of_false Bool.false_ne_true ?_
      rintro (hLess' | ⟨rfl, -⟩)
      · exact hLess hLess'
      · exact Nat.lt_irrefl _ hMore
    · rw [if_neg hMore]
      have hSame : a = b := by
        apply Char.toNat_inj.mp
        omega
      simp [hSame]

theorem le_total
    (s t : Text) :
    (le s t || le t s) = true := by
  rw [Bool.or_eq_true]
  induction s generalizing t with
  | nil => exact Or.inl rfl
  | cons a s ih =>
      cases t with
      | nil => exact Or.inr rfl
      | cons b t =>
          rw [le_cons_cons, le_cons_cons]
          rcases Nat.lt_trichotomy a.toNat b.toNat with
            hLess | hSame | hMore
          · exact Or.inl (Or.inl hLess)
          · have hChar : a = b := Char.toNat_inj.mp hSame
            rcases ih t with hFirst | hSecond
            · exact Or.inl (Or.inr ⟨hChar, hFirst⟩)
            · exact Or.inr (Or.inr ⟨hChar.symm, hSecond⟩)
          · exact Or.inr (Or.inl hMore)

theorem le_refl
    (t : Text) :
    le t t = true := by
  have hTotal := le_total t t
  rwa [Bool.or_self] at hTotal

theorem le_trans
    (s t u : Text)
    (hFirst : le s t = true)
    (hSecond : le t u = true) :
    le s u = true := by
  induction s generalizing t u with
  | nil => rfl
  | cons a s ih =>
      cases t with
      | nil => cases hFirst
      | cons b t =>
          cases u with
          | nil => cases hSecond
          | cons c u =>
              rw [le_cons_cons] at hFirst hSecond ⊢
              rcases hFirst with hLess | ⟨rfl, hRest⟩
              · rcases hSecond with hLess' | ⟨rfl, -⟩
                · exact Or.inl (Nat.lt_trans hLess hLess')
                · exact Or.inl hLess
              · rcases hSecond with hLess | ⟨rfl, hRest'⟩
                · exact Or.inl hLess
                · exact Or.inr ⟨rfl, ih t u hRest hRest'⟩

theorem le_antisymm
    {s t : Text}
    (hFirst : le s t = true)
    (hSecond : le t s = true) :
    s = t := by
  induction s generalizing t with
  | nil =>
      cases t with
      | nil => rfl
      | cons b t => cases hSecond
  | cons a s ih =>
      cases t with
      | nil => cases hFirst
      | cons b t =>
          rw [le_cons_cons] at hFirst hSecond
          rcases hFirst with hLess | ⟨rfl, hRest⟩
          · rcases hSecond with hMore | ⟨rfl, -⟩
            · exact absurd hLess (Nat.lt_asymm hMore)
            · exact absurd hLess (Nat.lt_irrefl _)
          · rcases hSecond with hLess | ⟨-, hRest'⟩
            · exact absurd hLess (Nat.lt_irrefl _)
            · rw [ih hRest hRest']

/- Whether one text comes strictly before another. -/
def IsBefore
    (s t : Text) :
    Prop :=
  le s t = true ∧ s ≠ t

theorem IsBefore.asymm
    {s t : Text}
    (hBefore : IsBefore s t) :
    ¬IsBefore t s :=
  fun hBehind =>
    hBefore.2 (le_antisymm hBefore.1 hBehind.1)

end Text

------------------------------------------------------------
-- Stable Sorting
------------------------------------------------------------

section StableSorting

variable {α : Type}
variable {le : α → α → Bool}
variable
  (hTrans :
    ∀ a b c, le a b = true → le b c = true → le a c = true)
variable (hTotal : ∀ a b, (le a b || le b a) = true)

include hTrans hTotal

/-
  The first value is put in front of those it may precede,
  and behind all others.
-/
theorem mergeSort_cons_eq
    (a : α)
    (values : List α) :
    (a :: values).mergeSort le =
      (values.mergeSort le).filter (fun b => !le a b) ++
        a :: (values.mergeSort le).filter (le a) := by
  rcases List.mergeSort_cons hTrans hTotal a values with
    ⟨front, back, hSorted, hRest, hFront⟩
  have hBack : ∀ b ∈ back, le a b = true := by
    have hPairwise :=
      List.pairwise_mergeSort hTrans hTotal (a :: values)
    rw [hSorted, List.pairwise_append,
      List.pairwise_cons] at hPairwise
    exact hPairwise.2.1.1
  have hFront' : ∀ b ∈ front, le a b = false := by
    intro b hMember
    rw [← Bool.not_eq_true']
    exact hFront b hMember
  have hBefore :
      (front ++ back).filter (fun b => !le a b) = front := by
    rw [List.filter_append, List.filter_eq_self.mpr hFront,
      List.filter_eq_nil_iff.mpr, List.append_nil]
    intro b hMember
    rw [hBack b hMember]
    exact Bool.false_ne_true
  have hBehind : (front ++ back).filter (le a) = back := by
    rw [List.filter_append, List.filter_eq_self.mpr hBack,
      List.filter_eq_nil_iff.mpr, List.nil_append]
    intro b hMember
    rw [hFront' b hMember]
    exact Bool.false_ne_true
  rw [hSorted, hRest, hBefore, hBehind]

/- Whether sorted or chosen first, the same is left. -/
theorem mergeSort_filter
    (keeps : α → Bool)
    (values : List α) :
    (values.filter keeps).mergeSort le =
      (values.mergeSort le).filter keeps := by
  induction values with
  | nil =>
      rw [List.filter_nil, List.mergeSort_nil,
        List.filter_nil]
  | cons a values ih =>
      cases hKeeps : keeps a with
      | true =>
          rw [List.filter_cons_of_pos hKeeps,
            mergeSort_cons_eq hTrans hTotal,
            mergeSort_cons_eq hTrans hTotal, ih,
            List.filter_append,
            List.filter_cons_of_pos hKeeps]
          simp only [List.filter_filter, Bool.and_comm]
      | false =>
          rcases List.mergeSort_cons hTrans hTotal a values
            with ⟨front, back, hSorted, hRest, -⟩
          have hDropped : ¬keeps a = true := by
            rw [hKeeps]
            exact Bool.false_ne_true
          rw [List.filter_cons_of_neg hDropped, ih, hSorted,
            hRest, List.filter_append, List.filter_append,
            List.filter_cons_of_neg hDropped]

/- Values that may all precede each other are not moved. -/
theorem filter_mergeSort_eq
    {keeps : α → Bool}
    (hAlike :
      ∀ a b, keeps a = true → keeps b = true →
        le a b = true)
    (values : List α) :
    (values.mergeSort le).filter keeps =
      values.filter keeps := by
  rw [← mergeSort_filter hTrans hTotal]
  apply List.mergeSort_of_pairwise
  refine List.pairwise_of_forall_mem_list ?_
  intro a hFirst b hSecond
  exact
    hAlike a b (List.mem_filter.mp hFirst).2
      (List.mem_filter.mp hSecond).2

end StableSorting

------------------------------------------------------------
-- Sorting by Keys
------------------------------------------------------------

namespace Workspace

variable {α β : Type}

theorem perm_byName
    (named : List (Text × α)) :
    (byName named).Perm named :=
  List.mergeSort_perm named _

theorem pairwise_byName
    (named : List (Text × α)) :
    (byName named).Pairwise
      fun a b => Text.le a.1 b.1 = true :=
  List.pairwise_mergeSort
    (fun a b c => Text.le_trans a.1 b.1 c.1)
    (fun a b => Text.le_total a.1 b.1) named

theorem mem_byName_iff
    {named : List (Text × α)}
    (hDistinct : (named.map (·.1)).Nodup)
    {name : Text}
    {value : α} :
    (name, value) ∈ byName named ↔
      Pairs.get? name named = some value := by
  rw [(perm_byName named).mem_iff,
    Pairs.get?_eq_some_iff hDistinct]

/- Distinct keys are sorted strictly. -/
theorem pairwise_isBefore_byName
    {named : List (Text × α)}
    (hDistinct : (named.map (·.1)).Nodup) :
    (byName named).Pairwise
      fun a b => Text.IsBefore a.1 b.1 := by
  have hKeys :
      (byName named).Pairwise fun a b => a.1 ≠ b.1 := by
    rw [← List.pairwise_map]
    exact
      ((perm_byName named).map _).nodup_iff.mpr hDistinct
  exact (pairwise_byName named).and hKeys

/- There is one strict order of the same values. -/
theorem eq_of_pairwise_isBefore
    {first second : List (Text × α)}
    (hPerm : first.Perm second)
    (hFirst :
      first.Pairwise fun a b => Text.IsBefore a.1 b.1)
    (hSecond :
      second.Pairwise fun a b => Text.IsBefore a.1 b.1) :
    first = second :=
  hPerm.eq_of_pairwise
    (fun _ _ _ _ hBefore hBehind =>
      absurd hBehind hBefore.asymm)
    hFirst hSecond

/-
  Keyed values with distinct keys and the same values are
  the same when they are sorted.
-/
theorem byName_congr
    {first second : List (Text × α)}
    (hFirst : (first.map (·.1)).Nodup)
    (hSecond : (second.map (·.1)).Nodup)
    (hSame :
      ∀ name,
        Pairs.get? name first = Pairs.get? name second) :
    byName first = byName second := by
  have hMember :
      ∀ pair, pair ∈ first ↔ pair ∈ second := by
    rintro ⟨name, value⟩
    rw [← Pairs.get?_eq_some_iff hFirst,
      ← Pairs.get?_eq_some_iff hSecond, hSame]
  have hPerm : first.Perm second :=
    (List.perm_ext_iff_of_nodup (hFirst.of_map _)
      (hSecond.of_map _)).mpr hMember
  exact
    eq_of_pairwise_isBefore
      ((perm_byName first).trans
        (hPerm.trans (perm_byName second).symm))
      (pairwise_isBefore_byName hFirst)
      (pairwise_isBefore_byName hSecond)

theorem byName_filter
    (named : List (Text × α))
    (keeps : Text × α → Bool) :
    byName (named.filter keeps) =
      (byName named).filter keeps :=
  mergeSort_filter
    (fun a b c => Text.le_trans a.1 b.1 c.1)
    (fun a b => Text.le_total a.1 b.1) keeps named

/- Sorting looks at the keys only. -/
theorem map_byName
    (f : Text × α → β)
    (named : List (Text × α)) :
    (byName named).map (fun pair => (pair.1, f pair)) =
      byName (named.map fun pair => (pair.1, f pair)) :=
  List.map_mergeSort fun _ _ _ _ => rfl

end Workspace

end RouteAtlas
