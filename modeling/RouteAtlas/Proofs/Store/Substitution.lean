import Mathlib
import RouteAtlas.Proofs.Store.Placeholders
import RouteAtlas.Proofs.Store.UnsavedChanges
import RouteAtlas.Proofs.Store.Variables

/-
  Showing a route with the values of its variables.

  Variables are put into a route one after the other, each
  into what the ones before it left.  If neither keys nor
  values have braces, and the braces of the route are paired
  and not nested, this is as good as one pass over the
  route: a value brings no placeholder, and no placeholder
  goes but for its own value.  So the order of the variables
  does not matter, and a second time changes nothing.

  Main definitions:
    * `Variables.IsPlain`
    * `Variables.onePass`

  Main statements:
    * `replace_written`
    * `replace_of_paired`
    * `replace_eq_onePass_and_settled`
-/

------------------------------------------------------------
-- Variables without Braces
------------------------------------------------------------

namespace RouteAtlas

namespace Variables

open Text

/- Whether neither keys nor values have braces. -/
def IsPlain
    (values : Variables) :
    Prop :=
  ∀ pair ∈ values, pair.1.IsPlain ∧ pair.2.IsPlain

instance (values : Variables) : Decidable values.IsPlain :=
  inferInstanceAs
    (Decidable
      (∀ pair ∈ values, pair.1.IsPlain ∧ pair.2.IsPlain))

theorem isPlain_cons
    {key value : Text}
    {values : Variables} :
    IsPlain ((key, value) :: values) ↔
      (key.IsPlain ∧ value.IsPlain) ∧ values.IsPlain :=
  List.forall_mem_cons

theorem IsPlain.of_get?
    {values : Variables}
    (hPlain : values.IsPlain)
    {key value : Text}
    (hValue : Pairs.get? key values = some value) :
    value.IsPlain :=
  (hPlain _ (Pairs.mem_of_get? hValue)).2

------------------------------------------------------------
-- One Pass
------------------------------------------------------------

/-
  The rest of a route, read once from left to right.  Each
  placeholder of a variable becomes its value and any other
  one is kept.  Within braces `opened` is the text behind
  the opening one.
-/
def onePassFrom
    (values : Variables) :
    Option Text → Text → Text
  | none, [] => []
  | some opened, [] => '{' :: opened
  | none, c :: rest =>
      if c == '{' then
        onePassFrom values (some []) rest
      else
        c :: onePassFrom values none rest
  | some opened, c :: rest =>
      if c == '}' then
        (Pairs.get? opened values).getD (placeholder opened) ++
          onePassFrom values none rest
      else
        onePassFrom values (some (opened ++ [c])) rest

/- A route, read once from left to right. -/
def onePass
    (values : Variables)
    (route : Text) :
    Text :=
  onePassFrom values none route

section OnePass

variable {values : Variables}

theorem onePassFrom_plain
    {front : Text}
    (hFront : front.IsPlain)
    (rest : Text) :
    onePassFrom values none (front ++ rest) =
      front ++ onePassFrom values none rest := by
  induction front with
  | nil => rfl
  | cons c front ih =>
      rw [Text.isPlain_cons] at hFront
      have hChar : (c == '{') = false :=
        (Bool.or_eq_false_iff.mp hFront.1).1
      rw [List.cons_append, onePassFrom, hChar, ih hFront.2]
      rfl

theorem onePassFrom_closed
    {key : Text}
    (hKey : key.IsPlain)
    (opened rest : Text) :
    onePassFrom values (some opened) (key ++ '}' :: rest) =
      (Pairs.get? (opened ++ key) values).getD
          (placeholder (opened ++ key)) ++
        onePassFrom values none rest := by
  induction key generalizing opened with
  | nil =>
      rw [List.nil_append, List.append_nil, onePassFrom]
      rfl
  | cons c key ih =>
      rw [Text.isPlain_cons] at hKey
      have hChar : (c == '}') = false :=
        (Bool.or_eq_false_iff.mp hKey.1).2
      rw [List.cons_append, onePassFrom, hChar]
      simp only [Bool.false_eq_true, if_false]
      rw [ih hKey.2, List.append_assoc, List.singleton_append]

end OnePass

------------------------------------------------------------
-- Parts
------------------------------------------------------------

namespace Part

/- What a part is shown as. -/
def shown
    (values : Variables) :
    Part → Text
  | .literal text _ => text
  | .placeholder key _ =>
      (Pairs.get? key values).getD (Variables.placeholder key)

/- The part with the value of its variable, if it has one. -/
def filled
    {values : Variables}
    (hPlain : values.IsPlain) :
    Part → Part
  | .literal text plain => .literal text plain
  | .placeholder key plain =>
      match hValue : Pairs.get? key values with
      | some value => .literal value (hPlain.of_get? hValue)
      | none => .placeholder key plain

variable {values : Variables}
variable (hPlain : values.IsPlain)

theorem text_filled
    (part : Part) :
    (part.filled hPlain).text = part.shown values := by
  cases part with
  | literal text plain => rfl
  | placeholder key plain =>
      rw [filled, shown]
      split
      next value hValue => simp [hValue, Part.text]
      next hNone => simp [hNone, Part.text]

/- A part that is filled stays as it is. -/
theorem shown_filled
    (part : Part) :
    (part.filled hPlain).shown values =
      (part.filled hPlain).text := by
  cases part with
  | literal text plain => rfl
  | placeholder key plain =>
      rw [filled]
      split
      next value hValue => rfl
      next hNone =>
        rw [shown, hNone]
        rfl

/- A placeholder is left if there is no value for it. -/
theorem filled_eq_placeholder_iff
    {key : Text}
    (hKey : key.IsPlain)
    (part : Part) :
    part.filled hPlain = .placeholder key hKey ↔
      part = .placeholder key hKey ∧
        Pairs.get? key values = none := by
  cases part with
  | literal text plain => simp [filled]
  | placeholder other plain =>
      rw [filled, Part.placeholder.injEq]
      split
      next value hValue =>
        constructor
        · intro hSame
          cases hSame
        · rintro ⟨rfl, hNone⟩
          rw [hValue] at hNone
          cases hNone
      next hNone =>
        rw [Part.placeholder.injEq]
        refine ⟨?_, And.left⟩
        rintro rfl
        exact ⟨rfl, hNone⟩

end Part

/- One pass shows each part of a route. -/
theorem onePass_written
    (values : Variables)
    (parts : List Part) :
    onePass values (written parts) =
      parts.flatMap (·.shown values) := by
  unfold onePass
  induction parts with
  | nil => rfl
  | cons part parts ih =>
      rw [written_cons, List.flatMap_cons, ← ih]
      cases part with
      | literal text plain => exact onePassFrom_plain plain _
      | placeholder key plain =>
          rw [Part.text, placeholder_append, onePassFrom]
          exact onePassFrom_closed plain [] _

/-
  By induction on the variables: each fills its parts of the
  route, and the later ones find the others as they were.
-/
theorem replace_written
    {values : Variables}
    (hPlain : values.IsPlain)
    (parts : List Part) :
    values.replace (written parts) =
      parts.flatMap (·.shown values) := by
  induction values generalizing parts with
  | nil =>
      have hShown :
          (fun part : Part => part.shown []) = Part.text := by
        funext part
        cases part <;> rfl
      rw [hShown]
      rfl
  | cons pair values ih =>
      rcases pair with ⟨key, value⟩
      rw [isPlain_cons] at hPlain
      rcases hPlain with ⟨⟨hKey, hValue⟩, hRest⟩
      have hStep :
          replace ((key, value) :: values) (written parts) =
            replace values
              (written (parts.map (·.fill key hValue))) := by
        rw [← replaceAll_written hKey hValue]
        rfl
      rw [hStep, ih hRest, List.flatMap_map]
      congr 1
      funext part
      cases part with
      | literal text plain => rfl
      | placeholder other plain =>
          rw [Part.fill, Part.shown, Pairs.get?]
          by_cases hSame : other = key
          · rw [if_pos hSame, hSame,
              if_pos (beq_self_eq_true key)]
            rfl
          · have hOther : ¬(key == other) = true :=
              mt beq_iff_eq.mp (Ne.symm hSame)
            rw [if_neg hSame, if_neg hOther]
            rfl

------------------------------------------------------------
-- Routes
------------------------------------------------------------

section Routes

variable {values : Variables}
variable {route : Text}

/- A route that is shown consists of its filled parts. -/
theorem replace_eq_written
    (hPlain : values.IsPlain)
    (parts : List Part) :
    values.replace (written parts) =
      written (parts.map (·.filled hPlain)) := by
  rw [replace_written hPlain, written, List.flatMap_map]
  congr 1
  funext part
  exact (part.text_filled hPlain).symm

theorem replace_of_paired
    (hPlain : values.IsPlain)
    (hPaired : hasPairedBraces route = true) :
    values.replace route = onePass values route := by
  rcases exists_parts_of_paired hPaired with ⟨parts, rfl⟩
  rw [replace_written hPlain, onePass_written]

/- What is shown has no variable left. -/
theorem replace_replace
    (hPlain : values.IsPlain)
    (hPaired : hasPairedBraces route = true) :
    values.replace (values.replace route) =
      values.replace route := by
  rcases exists_parts_of_paired hPaired with ⟨parts, rfl⟩
  rw [replace_eq_written hPlain, replace_written hPlain,
    written, List.flatMap_map, List.flatMap_map]
  congr 1
  funext part
  exact part.shown_filled hPlain

/- Only the value of each key matters. -/
theorem onePass_congr
    {other : Variables}
    (hSame :
      ∀ key, Pairs.get? key other = Pairs.get? key values)
    (parts : List Part) :
    onePass other (written parts) =
      onePass values (written parts) := by
  rw [onePass_written, onePass_written]
  congr 1
  funext part
  cases part with
  | literal text plain => rfl
  | placeholder key plain =>
      rw [Part.shown, Part.shown, hSame]

theorem IsPlain.of_same
    {other : Variables}
    (hPlain : values.IsPlain)
    (hDistinct : other.AreDistinct)
    (hSame :
      ∀ key, Pairs.get? key other = Pairs.get? key values) :
    other.IsPlain := by
  rintro ⟨key, value⟩ hMember
  rw [← Pairs.get?_eq_some_iff hDistinct, hSame] at hMember
  exact hPlain _ (Pairs.mem_of_get? hMember)

end Routes

end Variables

------------------------------------------------------------
-- Stores That Changed
------------------------------------------------------------

namespace StoreChange

/- What the stores know once some changes were made. -/
def appliedAll
    (changes : List StoreChange)
    (stores : Stores) :
    Stores :=
  changes.foldl (fun stores change => change.applied stores)
    stores

/- No change gives a key a second value. -/
theorem areDistinct_applied
    {stores : Stores}
    (hDistinct : stores.values.AreDistinct)
    (change : StoreChange) :
    (change.applied stores).values.AreDistinct := by
  cases change with
  | nameRoute route verb aliasName => exact hDistinct
  | unnameRoute route verb => exact hDistinct
  | setVariable key value => exact hDistinct.set key value
  | removeVariable key => exact hDistinct.remove key
  | ensureVariables =>
      have hTemplate :
          (Variables.template.map (·.1)).Nodup := by
        decide
      exact hTemplate

theorem areDistinct_appliedAll
    {stores : Stores}
    (hDistinct : stores.values.AreDistinct)
    (changes : List StoreChange) :
    (appliedAll changes stores).values.AreDistinct := by
  unfold appliedAll
  induction changes generalizing stores with
  | nil => exact hDistinct
  | cons change changes ih =>
      rw [List.foldl_cons]
      exact ih (areDistinct_applied hDistinct change)

end StoreChange

------------------------------------------------------------
-- Substitution
------------------------------------------------------------

namespace Variables

open Text

/-
  Replacing variable after variable is one pass over the
  route.  A store that came to the same variables by other
  changes shows it alike, and what is shown stays.
-/
theorem replace_eq_onePass_and_settled
    {values : Variables}
    (hPlain : values.IsPlain)
    {route : Text}
    (hPaired : hasPairedBraces route = true) :
    values.replace route = values.onePass route ∧
      (∀ (start : Stores) (changes : List StoreChange),
        start.values.AreDistinct →
          (∀ key,
            Pairs.get? key
                (StoreChange.appliedAll changes start).values =
              Pairs.get? key values) →
            (StoreChange.appliedAll changes start).values.replace
                route =
              values.replace route) ∧
      values.replace (values.replace route) =
        values.replace route := by
  refine
    ⟨replace_of_paired hPlain hPaired, ?_,
      replace_replace hPlain hPaired⟩
  intro start changes hStart hSame
  have hDistinct :=
    StoreChange.areDistinct_appliedAll hStart changes
  rw [replace_of_paired (hPlain.of_same hDistinct hSame)
      hPaired,
    replace_of_paired hPlain hPaired]
  rcases exists_parts_of_paired hPaired with ⟨parts, rfl⟩
  exact onePass_congr hSame parts

/- Variables of which one begins another, and empty texts. -/
def itemValues : Variables :=
  [("id".toList, "7".toList), ("id:int".toList, []),
   ([], "all".toList)]

/- A route with their placeholders, and with another one. -/
def itemRoute : Text :=
  "/\x7bid:int\x7d/\x7bid\x7d\x7b\x7d/\x7bkind\x7d/\x7bid\x7d".toList

/- The same variables, set in another order. -/
def itemChanges : List StoreChange :=
  [.setVariable "id:int".toList "9".toList,
   .setVariable [] "all".toList,
   .removeVariable "id:int".toList,
   .setVariable "id".toList "7".toList,
   .setVariable "id:int".toList []]

theorem replace_itemRoute :
    itemValues.IsPlain ∧
      hasPairedBraces itemRoute = true ∧
      itemValues.replace itemRoute =
        itemValues.onePass itemRoute ∧
      itemValues.onePass itemRoute =
        "//7all/\x7bkind\x7d/7".toList ∧
      (StoreChange.appliedAll itemChanges
            ⟨[], []⟩).values.replace itemRoute =
        itemValues.replace itemRoute ∧
      itemValues.replace (itemValues.replace itemRoute) =
        itemValues.replace itemRoute := by
  have hPlain : itemValues.IsPlain := by decide
  have hPaired : hasPairedBraces itemRoute = true := by
    decide +kernel
  rcases replace_eq_onePass_and_settled hPlain hPaired with
    ⟨hOnePass, hOrder, hSettled⟩
  refine
    ⟨hPlain, hPaired, hOnePass, by decide +kernel,
      hOrder ⟨[], []⟩ itemChanges areDistinct_nil ?_,
      hSettled⟩
  have hValues :
      (StoreChange.appliedAll itemChanges ⟨[], []⟩).values =
        [([], "all".toList), ("id".toList, "7".toList),
         ("id:int".toList, [])] :=
    rfl
  intro key
  rw [hValues, itemValues]
  simp only [Pairs.get?, beq_iff_eq]
  split_ifs <;> simp_all

end Variables

end RouteAtlas
