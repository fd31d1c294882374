import Mathlib
import RouteAtlas.Pairs

/-
  Keyed values read back after a change.

  Main statements:
    * `get?_put`
    * `get?_erase`
    * `putAll_of_nodup`
    * `get?_eq_some_iff`
-/

------------------------------------------------------------
-- Pairs
------------------------------------------------------------

namespace RouteAtlas

namespace Pairs

variable {κ ν : Type}
variable [BEq κ]

/- A value that a key has already changes nothing. -/
theorem put_of_get?
    {key : κ}
    {value : ν}
    {pairs : List (κ × ν)}
    (hValue : get? key pairs = some value) :
    put key value pairs = pairs := by
  induction pairs with
  | nil => cases hValue
  | cons pair pairs ih =>
      rcases pair with ⟨k, v⟩
      rw [get?] at hValue
      rw [put]
      by_cases hKey : (k == key) = true
      · rw [if_pos hKey] at hValue ⊢
        rw [Option.some.inj hValue]
      · rw [if_neg hKey] at hValue ⊢
        rw [ih hValue]

/- Taking away a key that is not there changes nothing. -/
theorem erase_of_get?
    {key : κ}
    {pairs : List (κ × ν)}
    (hNone : get? key pairs = none) :
    erase key pairs = pairs := by
  unfold erase
  induction pairs with
  | nil => rfl
  | cons pair pairs ih =>
      rcases pair with ⟨k, v⟩
      rw [get?] at hNone
      split at hNone
      next => cases hNone
      next hOther =>
        rw [List.filter_cons, if_pos (by simpa using hOther),
          ih hNone]

/- A key is the one that was written or was there before. -/
theorem mem_map_fst_put
    {key other : κ}
    {value : ν}
    {pairs : List (κ × ν)}
    (hOther : other ∈ (put key value pairs).map (·.1)) :
    other = key ∨ other ∈ pairs.map (·.1) := by
  induction pairs with
  | nil =>
      exact .inl (List.mem_singleton.mp hOther)
  | cons pair pairs ih =>
      rcases pair with ⟨k, v⟩
      rw [put] at hOther
      split at hOther
      · exact .inr hOther
      · rcases List.mem_cons.mp hOther with hFirst | hRest
        · exact .inr (List.mem_cons.mpr (.inl hFirst))
        · rcases ih hRest with hKey | hOld
          · exact .inl hKey
          · exact .inr (List.mem_cons_of_mem _ hOld)

/- Taking a key away keeps the keys distinct. -/
theorem nodup_erase
    {pairs : List (κ × ν)}
    (hDistinct : (pairs.map (·.1)).Nodup)
    (key : κ) :
    ((erase key pairs).map (·.1)).Nodup :=
  hDistinct.sublist (List.filter_sublist.map _)

variable [LawfulBEq κ]

theorem get?_put
    (key other : κ)
    (value : ν)
    (pairs : List (κ × ν)) :
    get? other (put key value pairs) =
      if key == other then some value
      else get? other pairs := by
  induction pairs with
  | nil => simp [put, get?]
  | cons pair pairs ih =>
      rcases pair with ⟨k, v⟩
      rw [put]
      by_cases hKey : k = key
      · subst hKey
        by_cases hOther : k = other
        · simp [get?, hOther]
        · simp [get?, hOther]
      · by_cases hOther : k = other
        · subst hOther
          simp [get?, hKey, Ne.symm hKey]
        · simp [get?, hKey, hOther, ih]

theorem get?_erase
    (key other : κ)
    (pairs : List (κ × ν)) :
    get? other (erase key pairs) =
      if key == other then none
      else get? other pairs := by
  unfold erase
  induction pairs with
  | nil => simp [get?]
  | cons pair pairs ih =>
      rcases pair with ⟨k, v⟩
      rw [List.filter_cons]
      by_cases hKey : k = key
      · subst hKey
        by_cases hOther : k = other
        · simp [hOther] at ih ⊢
          exact ih
        · simp [get?, hOther] at ih ⊢
          exact ih
      · by_cases hOther : k = other
        · subst hOther
          simp [get?, hKey, Ne.symm hKey]
        · simp [get?, hKey, hOther, ih]

/- A key that is not there yet comes last. -/
theorem put_of_not_mem
    {key : κ}
    {pairs : List (κ × ν)}
    (hAbsent : key ∉ pairs.map (·.1))
    (value : ν) :
    put key value pairs = pairs ++ [(key, value)] := by
  induction pairs with
  | nil => rfl
  | cons pair pairs ih =>
      rcases pair with ⟨k, v⟩
      simp only [List.map_cons, List.mem_cons, not_or]
        at hAbsent
      have hOther : (k == key) = false :=
        beq_eq_false_iff_ne.mpr (Ne.symm hAbsent.1)
      rw [put, hOther, if_neg Bool.false_ne_true,
        ih hAbsent.2, List.cons_append]

/- Pairs without repeated keys are written as they stand. -/
theorem putAll_append_of_nodup
    {pairs collection : List (κ × ν)}
    (hDistinct : ((collection ++ pairs).map (·.1)).Nodup) :
    putAll pairs collection = collection ++ pairs := by
  unfold putAll
  induction pairs generalizing collection with
  | nil => exact (List.append_nil collection).symm
  | cons pair pairs ih =>
      rcases pair with ⟨key, value⟩
      have hSplit :
          collection ++ (key, value) :: pairs =
            collection ++ [(key, value)] ++ pairs := by
        simp
      have hAbsent : key ∉ collection.map (·.1) := by
        rw [List.map_append, List.map_cons] at hDistinct
        intro hKey
        exact (List.nodup_append.mp hDistinct).2.2 key hKey
          key List.mem_cons_self rfl
      rw [hSplit] at hDistinct ⊢
      rw [List.foldl_cons]
      simp only [put_of_not_mem hAbsent]
      exact ih hDistinct

theorem putAll_of_nodup
    {pairs : List (κ × ν)}
    (hDistinct : (pairs.map (·.1)).Nodup) :
    putAll pairs [] = pairs :=
  putAll_append_of_nodup hDistinct

/- A key that is there already keeps its place. -/
theorem map_fst_put_of_mem
    {key : κ}
    {pairs : List (κ × ν)}
    (hKey : key ∈ pairs.map (·.1))
    (value : ν) :
    (put key value pairs).map (·.1) = pairs.map (·.1) := by
  induction pairs with
  | nil => cases hKey
  | cons pair pairs ih =>
      rcases pair with ⟨k, v⟩
      rw [put]
      by_cases hSame : k = key
      · rw [if_pos (beq_iff_eq.mpr hSame)]
        rfl
      · rw [if_neg (mt beq_iff_eq.mp hSame), List.map_cons,
          ih ((List.mem_cons.mp hKey).resolve_left
            (Ne.symm hSame))]
        rfl

/- Writing to a key keeps the keys distinct. -/
theorem nodup_put
    {pairs : List (κ × ν)}
    (hDistinct : (pairs.map (·.1)).Nodup)
    (key : κ)
    (value : ν) :
    ((put key value pairs).map (·.1)).Nodup := by
  by_cases hKey : key ∈ pairs.map (·.1)
  · rw [map_fst_put_of_mem hKey]
    exact hDistinct
  · rw [put_of_not_mem hKey, List.map_append]
    exact hDistinct.append (List.nodup_singleton key)
      (List.disjoint_singleton.mpr hKey)

/- However pairs are written, the keys stay distinct. -/
theorem nodup_putAll
    (pairs : List (κ × ν))
    {collection : List (κ × ν)}
    (hDistinct : (collection.map (·.1)).Nodup) :
    ((putAll pairs collection).map (·.1)).Nodup := by
  unfold putAll
  induction pairs generalizing collection with
  | nil => exact hDistinct
  | cons pair pairs ih =>
      rw [List.foldl_cons]
      exact ih (nodup_put hDistinct _ _)

------------------------------------------------------------
-- Distinct Keys
------------------------------------------------------------

theorem get?_eq_none_iff
    {key : κ}
    {pairs : List (κ × ν)} :
    get? key pairs = none ↔ key ∉ pairs.map (·.1) := by
  induction pairs with
  | nil => simp [get?]
  | cons pair pairs ih =>
      rcases pair with ⟨k, v⟩
      rw [get?]
      by_cases hKey : k = key
      · subst hKey
        simp
      · rw [if_neg (mt beq_iff_eq.mp hKey), ih]
        simp [Ne.symm hKey]

/- What is found for a key stands beside it. -/
theorem mem_of_get?
    {key : κ}
    {value : ν}
    {pairs : List (κ × ν)}
    (hValue : get? key pairs = some value) :
    (key, value) ∈ pairs := by
  induction pairs with
  | nil => cases hValue
  | cons pair pairs ih =>
      rcases pair with ⟨other, found⟩
      rw [get?] at hValue
      split at hValue
      next hSame =>
        rw [← eq_of_beq hSame, ← Option.some.inj hValue]
        exact List.mem_cons_self
      next => exact List.mem_cons_of_mem _ (ih hValue)

/- With distinct keys a key has the value beside it. -/
theorem get?_eq_some_iff
    {key : κ}
    {value : ν}
    {pairs : List (κ × ν)}
    (hDistinct : (pairs.map (·.1)).Nodup) :
    get? key pairs = some value ↔ (key, value) ∈ pairs := by
  induction pairs with
  | nil => simp [get?]
  | cons pair pairs ih =>
      rcases pair with ⟨k, v⟩
      rw [List.map_cons, List.nodup_cons] at hDistinct
      rw [get?]
      by_cases hKey : k = key
      · subst hKey
        rw [if_pos (beq_self_eq_true k), Option.some.injEq,
          List.mem_cons, Prod.mk.injEq]
        constructor
        · rintro rfl
          exact Or.inl ⟨rfl, rfl⟩
        · rintro (⟨-, rfl⟩ | hLater)
          · rfl
          · exact
              absurd (List.mem_map_of_mem hLater)
                hDistinct.1
      · rw [if_neg (mt beq_iff_eq.mp hKey), ih hDistinct.2]
        simp [Ne.symm hKey]

omit [LawfulBEq κ] in
theorem get?_map
    {μ : Type}
    (f : ν → μ)
    (key : κ)
    (pairs : List (κ × ν)) :
    get? key (pairs.map fun pair => (pair.1, f pair.2)) =
      (get? key pairs).map f := by
  induction pairs with
  | nil => rfl
  | cons pair pairs ih =>
      rcases pair with ⟨k, v⟩
      rw [List.map_cons, get?, get?, ih]
      split <;> rfl

/- With distinct keys a key is kept if its value is. -/
theorem get?_filter
    (keeps : ν → Bool)
    (key : κ)
    {pairs : List (κ × ν)}
    (hDistinct : (pairs.map (·.1)).Nodup) :
    get? key (pairs.filter fun pair => keeps pair.2) =
      (get? key pairs).filter keeps := by
  have hKept :
      ((pairs.filter fun pair => keeps pair.2).map
        (·.1)).Nodup :=
    hDistinct.sublist (List.filter_sublist.map _)
  ext value
  rw [Option.filter_eq_some_iff, get?_eq_some_iff hKept,
    get?_eq_some_iff hDistinct, List.mem_filter]

end Pairs

end RouteAtlas
