import Mathlib
import RouteAtlas.Proofs.Route.Tokens
import RouteAtlas.Proofs.Text.Words
import RouteAtlas.Proofs.Unicode.Lowering

/-
  The full route of an action.

  It is the controller route with the short names of the
  controller and the action in the place of its tokens, and
  behind it the action's fragment, a slash between them if
  there is something on both sides.  It always starts with
  exactly one slash.

  Main definitions:
    * `Template.fullRoute`

  Main statements:
    * `withoutAsync_eq`
    * `rooted_startsOnce`
    * `compose_written`
-/

------------------------------------------------------------
-- Short Names
------------------------------------------------------------

namespace RouteAtlas

namespace Template

open Text

/- A name without the suffix that it may end with. -/
def withoutSuffix
    (suffix name : Text) :
    Text :=
  if suffix <:+ name then
    name.take (name.length - suffix.length)
  else
    name

/- A name without a word that it may end with, in any case. -/
def withoutSpelled
    (word name : Text) :
    Text :=
  if Spells word (name.drop (name.length - word.length)) then
    name.take (name.length - word.length)
  else
    name

theorem controllerName_eq
    (name suffix : Text) :
    controllerName name suffix =
      lower (withoutSuffix suffix name) := by
  unfold controllerName withoutSuffix dropEnding?
  cases suffix with
  | nil => simp
  | cons c suffix =>
      by_cases hEnds : c :: suffix <:+ name <;>
        simp [hEnds, List.isSuffixOf_iff_suffix]

/- Only the last characters of a name can be dropped. -/
theorem withoutSpelled_cons
    {word : Text}
    {c : Char}
    {rest : Text}
    (hOther : ¬Spells word (c :: rest)) :
    withoutSpelled word (c :: rest) =
      c :: withoutSpelled word rest := by
  unfold withoutSpelled
  by_cases hLong : word.length ≤ rest.length
  · have hLength :
        (c :: rest).length - word.length =
          rest.length - word.length + 1 := by
      rw [List.length_cons]
      omega
    rw [hLength, List.drop_succ_cons, List.take_succ_cons]
    split <;> rfl
  · have hWhole :
        (c :: rest).length - word.length = 0 ∧
          rest.length - word.length = 0 := by
      rw [List.length_cons]
      omega
    have hShort : ¬Spells word rest := by
      intro hSpells
      rw [hSpells.length_eq] at hLong
      exact hLong le_rfl
    rw [hWhole.1, hWhole.2, List.drop_zero, List.drop_zero,
      if_neg hOther, if_neg hShort]

/- A name that is all `Async` loses all its characters. -/
theorem withoutAsync_of_spells
    {name : Text}
    (hSpells : Spells "async".toList name) :
    withoutAsync name = [] := by
  have hBegins := (spells_iff.mp hSpells).2
  have hNone : name.drop 5 = [] :=
    List.drop_eq_nil_of_le (by rw [hSpells.length_eq]; decide)
  cases name with
  | nil => rfl
  | cons c rest => rw [withoutAsync, if_pos hBegins, hNone]

/-
  On one line an `Async` is dropped only where nothing
  follows it, so any other character is kept.
-/
theorem withoutAsync_cons
    {c : Char}
    {rest : Text}
    (hLine : '\n' ∉ c :: rest)
    (hOther : ¬Spells "async".toList (c :: rest)) :
    withoutAsync (c :: rest) = c :: withoutAsync rest := by
  rw [withoutAsync]
  split
  next hBegins =>
    split
    next hNone =>
      have hLength : "async".toList.length = 5 := by
        decide
      rw [beginsWith_iff, hLength,
        List.take_of_length_le
          (List.drop_eq_nil_iff.mp hNone)] at hBegins
      exact absurd hBegins hOther
    next hFeed =>
      have hMember : '\n' ∈ (c :: rest).drop 5 := by
        rw [hFeed]
        exact List.mem_cons_self
      exact absurd (List.mem_of_mem_drop hMember) hLine
    next => rfl
  next => rfl

/-
  So the scan drops `Async` where five characters are left:
  by induction on the name, whose first character is kept
  unless the whole name spells the word.
-/
theorem withoutAsync_eq
    {name : Text}
    (hLine : '\n' ∉ name) :
    withoutAsync name = withoutSpelled "async".toList name := by
  induction name with
  | nil => decide
  | cons c rest ih =>
      by_cases hSpells : Spells "async".toList (c :: rest)
      · have hStart :
            (c :: rest).length - "async".toList.length = 0 := by
          rw [hSpells.length_eq, Nat.sub_self]
        rw [withoutAsync_of_spells hSpells, withoutSpelled,
          hStart, List.drop_zero, if_pos hSpells,
          List.take_zero]
      · have hRest : '\n' ∉ rest := fun hMember =>
          hLine (List.mem_cons_of_mem c hMember)
        rw [withoutSpelled_cons hSpells,
          withoutAsync_cons hLine hSpells, ih hRest]

/- Lower-casing brings no mark into a part of a word. -/
theorem not_mem_lower_of_word
    {mark : Char}
    (hAscii : mark.toNat < 0x80)
    (hMark : isWordChar mark = false)
    {name part : Text}
    (hName : ∀ c ∈ name, isWordChar c = true)
    (hPart : ∀ c ∈ part, c ∈ name) :
    mark ∉ lower part := by
  have hLetter : mark.isLower = false := by
    cases hLower : mark.isLower with
    | false => rfl
    | true =>
        have hAlphanum : mark.isAlphanum = true := by
          simp [Char.isAlphanum, Char.isAlpha, hLower]
        rw [isWordChar_of_isAlphanum hAlphanum] at hMark
        exact absurd hMark (by simp)
  intro hMember
  have hChar :=
    hName mark
      (hPart mark
        (Unicode.mem_of_mem_lower hAscii hLetter hMember))
  rw [hMark] at hChar
  exact absurd hChar (by simp)

/- Short names of words hold no marks. -/
theorem not_mem_controllerName
    {mark : Char}
    (hAscii : mark.toNat < 0x80)
    (hMark : isWordChar mark = false)
    {name : Text}
    (hName : ∀ c ∈ name, isWordChar c = true)
    (suffix : Text) :
    mark ∉ controllerName name suffix := by
  rw [controllerName_eq]
  apply not_mem_lower_of_word hAscii hMark hName
  intro c hChar
  unfold withoutSuffix at hChar
  split at hChar
  · exact List.mem_of_mem_take hChar
  · exact hChar

theorem not_mem_actionName
    {mark : Char}
    (hAscii : mark.toNat < 0x80)
    (hMark : isWordChar mark = false)
    {name : Text}
    (hName : ∀ c ∈ name, isWordChar c = true) :
    mark ∉ actionName name := by
  have hLine : '\n' ∉ name := fun hFeed =>
    absurd (hName '\n' hFeed) (by decide)
  rw [actionName, withoutAsync_eq hLine]
  apply not_mem_lower_of_word hAscii hMark hName
  intro c hChar
  unfold withoutSpelled at hChar
  split at hChar
  · exact List.mem_of_mem_take hChar
  · exact hChar

------------------------------------------------------------
-- Leading Slash
------------------------------------------------------------

/- A route starts with a slash, and with no other one. -/
def StartsOnce
    (route : Text) :
    Prop :=
  ∃ rest, route = '/' :: rest ∧ rest.head? ≠ some '/'

theorem rooted_startsOnce
    (route : Text) :
    StartsOnce (rooted route) := by
  refine ⟨route.dropWhile (· == '/'), rfl, ?_⟩
  intro hSlash
  have hHead := List.head?_dropWhile_not (· == '/') route
  rw [hSlash] at hHead
  exact absurd hHead (by simp)

/- A route that starts so is kept as it is. -/
theorem StartsOnce.rooted
    {route : Text}
    (hStarts : StartsOnce route) :
    Template.rooted route = route := by
  rcases hStarts with ⟨rest, rfl, hHead⟩
  unfold Template.rooted
  rw [List.dropWhile_cons_of_pos (by decide)]
  cases rest with
  | nil => rfl
  | cons c rest =>
      have hOther : c ≠ '/' := by
        simpa using hHead
      rw [List.dropWhile_cons_of_neg (by simpa using hOther)]

------------------------------------------------------------
-- Composition
------------------------------------------------------------

/- The slash between two parts, if neither is empty. -/
def slashBetween
    (route fragment : Text) :
    Text :=
  if route = [] ∨ fragment = [] then [] else ['/']

theorem appendFragment_eq
    (route fragment : Text) :
    appendFragment route fragment =
      route ++ (slashBetween route fragment ++ fragment) := by
  unfold appendFragment slashBetween
  cases fragment with
  | nil => simp
  | cons c fragment => cases route <;> simp

/-
  The full route of an action, put together from the pieces
  of the controller route and the fragment: the lower-cased
  short names stand in the place of the tokens, the fragment
  follows behind a slash of its own, and the slashes in front
  become one.
-/
def fullRoute
    (pieces : List Piece)
    (fragment controller action suffix : Text) :
    Text :=
  let route :=
    filled (lower (withoutSuffix suffix controller))
      (lower (withoutSpelled "async".toList action)) pieces
  '/' ::
    (route ++
      (slashBetween route fragment ++ fragment)).dropWhile
        (· == '/')

theorem rooted_appendFragment
    (pieces : List Piece)
    (fragment controller action suffix : Text) :
    rooted
        (appendFragment
          (filled (lower (withoutSuffix suffix controller))
            (lower (withoutSpelled "async".toList action))
            pieces)
          fragment) =
      fullRoute pieces fragment controller action suffix := by
  rw [appendFragment_eq]
  rfl

/-
  Composition puts the full route together, whatever of the
  controller route and the fragment is absent.  The result
  starts with exactly one slash, so making it start with one
  once more changes nothing.
-/
theorem compose_written
    (pieces? : Option (List Piece))
    (fragment? : Option Text)
    {controller action : Text}
    (hController : ∀ c ∈ controller, isWordChar c = true)
    (hAction : ∀ c ∈ action, isWordChar c = true)
    (suffix : Text) :
    let composed :=
      compose (pieces?.map written) fragment? controller action
        suffix
    composed =
        fullRoute (pieces?.getD []) (fragment?.getD [])
          controller action suffix ∧
      StartsOnce composed ∧ rooted composed = composed := by
  intro composed
  have hLine : '\n' ∉ action := fun hFeed =>
    absurd (hAction '\n' hFeed) (by decide)
  have hAsync :
      actionName action =
        lower (withoutSpelled "async".toList action) := by
    rw [actionName, withoutAsync_eq hLine]
  have hRoute :
      ((pieces?.map written).map
          (substitute · controller action suffix)).getD [] =
        filled (lower (withoutSuffix suffix controller))
          (lower (withoutSpelled "async".toList action))
          (pieces?.getD []) := by
    cases pieces? with
    | none => rfl
    | some pieces =>
        rw [← controllerName_eq, ← hAsync]
        exact
          substitute_written
            (not_mem_controllerName (by decide) (by decide)
              hController suffix)
            action pieces
  have hComposed :
      composed =
        fullRoute (pieces?.getD []) (fragment?.getD [])
          controller action suffix := by
    rw [← rooted_appendFragment, ← hRoute]
    rfl
  have hStarts : StartsOnce composed := by
    rw [hComposed, ← rooted_appendFragment]
    exact rooted_startsOnce _
  exact ⟨hComposed, hStarts, hStarts.rooted⟩

/- A route with both tokens, each in its own letter case. -/
def orderPieces : List Piece :=
  [.literal "/api/".toList (by decide),
   .controller "[Controller]".toList (by decide),
   .literal "/".toList (by decide),
   .action "[ACTION]".toList (by decide)]

/- The names lose their suffixes, the route its first slash. -/
theorem compose_orderPieces :
    (∀ c ∈ "OrdersController".toList, isWordChar c = true) ∧
      (∀ c ∈ "FindASYNC".toList, isWordChar c = true) ∧
      written orderPieces =
        "/api/[Controller]/[ACTION]".toList ∧
      compose (some (written orderPieces))
          (some "{id}".toList) "OrdersController".toList
          "FindASYNC".toList "Controller".toList =
        "/api/orders/find/{id}".toList := by
  have hController :
      ∀ c ∈ "OrdersController".toList, isWordChar c = true :=
    List.all_eq_true.mp (by decide)
  have hAction :
      ∀ c ∈ "FindASYNC".toList, isWordChar c = true :=
    List.all_eq_true.mp (by decide)
  have hComposed :=
    compose_written (some orderPieces) (some "{id}".toList)
      hController hAction "Controller".toList
  refine ⟨hController, hAction, by decide, ?_⟩
  exact hComposed.1.trans (by decide +kernel)

end Template

end RouteAtlas
