import Mathlib
import RouteAtlas.Proofs.Route.Composition

/-
  Empty segments of a route.

  Two slashes side by side enclose an empty segment.  The
  names put for the tokens are not empty and hold no slash,
  so a controller route keeps its slashes where they were
  written.  An empty segment can only arise where the slash
  between the two parts of a route meets one of their own:
  one that the controller route ends with, or one that the
  fragment begins with.

  Main definitions:
    * `Template.HasEmptySegment`
    * `Template.outline`
    * `Template.SlashesMeet`

  Main statements:
    * `outline_substitute`
    * `substitute_slash`
    * `compose_hasEmptySegment_iff`
-/

------------------------------------------------------------
-- Neighbouring Slashes
------------------------------------------------------------

namespace RouteAtlas

namespace Template

open Text

/- Whether two slashes stand side by side in a route. -/
def HasEmptySegment
    (route : Text) :
    Prop :=
  "//".toList <:+: route

instance
    (route : Text) :
    Decidable (HasEmptySegment route) :=
  inferInstanceAs (Decidable (_ <:+: _))

/- Whether not both of two characters are slashes. -/
def Apart
    (a b : Char) :
    Prop :=
  ¬(a = '/' ∧ b = '/')

theorem isChain_apart_iff
    {t : Text} :
    t.IsChain Apart ↔ ¬HasEmptySegment t := by
  have hSlashes : "//".toList = ['/', '/'] := by
    decide
  unfold HasEmptySegment
  rw [List.isChain_iff_forall_rel_of_append_cons_cons,
    hSlashes]
  constructor
  · rintro hApart ⟨front, back, hText⟩
    have hPair := hApart (by simpa using hText.symm)
    exact hPair ⟨rfl, rfl⟩
  · rintro hNone a b front back hText ⟨rfl, rfl⟩
    exact hNone ⟨front, back, by simp [hText]⟩

/- A character that is no slash encloses nothing. -/
theorem isChain_apart_cons
    {c : Char}
    (hOther : c ≠ '/')
    {t : Text} :
    (c :: t).IsChain Apart ↔ t.IsChain Apart := by
  simp [List.isChain_cons, Apart, hOther]

theorem isChain_apart_slash
    {t : Text} :
    ('/' :: t).IsChain Apart ↔
      t.head? ≠ some '/' ∧ t.IsChain Apart := by
  cases t with
  | nil => simp
  | cons c t => simp [Apart]

/- Before a slash, a text may not end with one. -/
theorem isChain_apart_append
    {front back : Text} :
    (front ++ '/' :: back).IsChain Apart ↔
      front.getLast? ≠ some '/' ∧ front.IsChain Apart ∧
        ('/' :: back).IsChain Apart := by
  have hMeet :
      (∀ x ∈ front.getLast?, ∀ y ∈ ('/' :: back).head?,
          Apart x y) ↔
        front.getLast? ≠ some '/' := by
    cases front.getLast? with
    | none => simp
    | some last => simp [Apart]
  rw [List.isChain_append, hMeet]
  tauto

------------------------------------------------------------
-- Outlines
------------------------------------------------------------

/- A mark in front of a text, unless it begins with one. -/
def marked :
    Text → Text
  | '-' :: rest => '-' :: rest
  | t => '-' :: t

/- A text with a mark for every stretch between slashes. -/
def outline :
    Text → Text
  | [] => []
  | c :: rest =>
      if c == '/' then
        '/' :: outline rest
      else
        marked (outline rest)

theorem exists_marked
    (t : Text) :
    ∃ rest, marked t = '-' :: rest := by
  unfold marked
  split
  · exact ⟨_, rfl⟩
  · exact ⟨_, rfl⟩

theorem marked_marked
    (t : Text) :
    marked (marked t) = marked t := by
  rcases exists_marked t with ⟨rest, hMarked⟩
  rw [hMarked, marked]

theorem outline_slash
    (rest : Text) :
    outline ('/' :: rest) = '/' :: outline rest := by
  simp [outline]

theorem outline_cons
    {c : Char}
    (hOther : c ≠ '/')
    (rest : Text) :
    outline (c :: rest) = marked (outline rest) := by
  simp [outline, hOther]

/- A whole stretch leaves one mark. -/
theorem outline_stretch
    {stretch : Text}
    (hStretch : stretch ≠ [])
    (hSlash : '/' ∉ stretch)
    (rest : Text) :
    outline (stretch ++ rest) = marked (outline rest) := by
  induction stretch with
  | nil => exact absurd rfl hStretch
  | cons c stretch ih =>
      rw [List.mem_cons, not_or] at hSlash
      rw [List.cons_append, outline_cons (Ne.symm hSlash.1)]
      by_cases hLast : stretch = []
      · rw [hLast, List.nil_append]
      · rw [ih hLast hSlash.2, marked_marked]

theorem outline_eq_nil_iff
    {t : Text} :
    outline t = [] ↔ t = [] := by
  cases t with
  | nil => exact iff_of_true rfl rfl
  | cons c t =>
      by_cases hSlash : c = '/'
      · rw [hSlash, outline_slash]
        simp
      · rcases exists_marked (outline t) with ⟨rest, hMarked⟩
        rw [outline_cons hSlash, hMarked]
        simp

theorem outline_eq_slash_iff
    {t : Text} :
    outline t = ['/'] ↔ t = ['/'] := by
  cases t with
  | nil => simp [outline]
  | cons c t =>
      by_cases hSlash : c = '/'
      · rw [hSlash, outline_slash]
        simp [outline_eq_nil_iff]
      · rcases exists_marked (outline t) with ⟨rest, hMarked⟩
        rw [outline_cons hSlash, hMarked]
        simp [hSlash]

theorem head?_outline
    {t : Text} :
    (outline t).head? = some '/' ↔ t.head? = some '/' := by
  cases t with
  | nil => exact Iff.rfl
  | cons c t =>
      by_cases hSlash : c = '/'
      · rw [hSlash, outline_slash]
        simp
      · rcases exists_marked (outline t) with ⟨rest, hMarked⟩
        rw [outline_cons hSlash, hMarked]
        simp [hSlash]

theorem isChain_apart_marked
    {t : Text} :
    (marked t).IsChain Apart ↔ t.IsChain Apart := by
  unfold marked
  split
  · exact Iff.rfl
  · exact isChain_apart_cons (by decide)

/- An outline keeps the slashes that stand side by side. -/
theorem isChain_apart_outline
    {t : Text} :
    (outline t).IsChain Apart ↔ t.IsChain Apart := by
  induction t with
  | nil => exact Iff.rfl
  | cons c t ih =>
      by_cases hSlash : c = '/'
      · rw [hSlash, outline_slash, isChain_apart_slash,
          isChain_apart_slash, ne_eq, head?_outline, ih]
      · rw [outline_cons hSlash, isChain_apart_marked,
          isChain_apart_cons hSlash, ih]

------------------------------------------------------------
-- Tokens Replaced
------------------------------------------------------------

/-
  A stretch put for stretches leaves the outline as it is:
  by induction on the text, whose first characters may have
  been replaced already.
-/
theorem outline_replaceFrom
    {measure : Text → Option Nat}
    {name : Text}
    (hName : name ≠ [])
    (hSlash : '/' ∉ name)
    (hMeasure :
      ∀ t n, measure t = some n → '/' ∉ t.take n)
    (skip : Nat)
    (t : Text) :
    outline (replaceFrom measure name skip t) =
      outline (t.drop skip) := by
  induction t generalizing skip with
  | nil => rw [replaceFrom, List.drop_nil]
  | cons c t ih =>
      cases skip with
      | succ skip => exact ih skip
      | zero =>
          rw [replaceFrom, List.drop_zero]
          split
          next n hMeasured =>
            have hTaken := hMeasure _ _ hMeasured
            have hText :
                c :: t = (c :: t).take (n + 1) ++ t.drop n :=
              (List.take_append_drop (n + 1) (c :: t)).symm
            rw [outline_stretch hName hSlash, ih n, hText,
              outline_stretch (by simp) hTaken]
          next =>
            have hRest := ih 0
            rw [List.drop_zero] at hRest
            rw [outline, outline, hRest]

section Tokens

variable {token name : Text}
variable (hToken : token.all (!sameLetter · '/') = true)

include hToken

theorem outline_replaceToken
    (hName : name ≠ [])
    (hSlash : '/' ∉ name)
    (t : Text) :
    outline (replaceToken token name t) = outline t := by
  apply outline_replaceFrom hName hSlash
  intro t n hMeasure
  split at hMeasure
  next hBegins =>
    rw [Option.some.injEq] at hMeasure
    rw [← hMeasure]
    exact not_mem_of_spells hToken (beginsWith_iff.mp hBegins)
  next => simp at hMeasure

/- No spelling of a token goes beyond a slash. -/
theorem beginsWith_slash
    (t rest : Text) :
    beginsWith token (t ++ '/' :: rest) =
      beginsWith token t := by
  induction token generalizing t with
  | nil => rfl
  | cons letter token ih =>
      rw [List.all_cons, Bool.and_eq_true,
        Bool.not_eq_true'] at hToken
      cases t with
      | nil =>
          rw [List.nil_append, beginsWith, beginsWith,
            hToken.1, Bool.false_and]
      | cons c t =>
          rw [List.cons_append, beginsWith, beginsWith,
            ih hToken.2]

/- So a token is replaced on each side of a slash. -/
theorem replaceToken_slash
    (t rest : Text) :
    replaceToken token name (t ++ '/' :: rest) =
      replaceToken token name t ++
        '/' :: replaceToken token name rest := by
  apply replaceFrom_divided _ _ (Nat.zero_le _)
  · intro t
    rw [beginsWith_slash hToken]
  · intro t n hMeasure
    split at hMeasure
    next hBegins =>
      have hLength := (beginsWith_iff.mp hBegins).length_eq
      rw [Option.some.injEq] at hMeasure
      rw [List.length_take] at hLength
      omega
    next => simp at hMeasure

end Tokens

section Substitution

variable {controller action suffix : Text}

/- The slashes of a controller route stay where they are. -/
theorem outline_substitute
    (hController : controllerName controller suffix ≠ [])
    (hControllerSlash :
      '/' ∉ controllerName controller suffix)
    (hAction : actionName action ≠ [])
    (hActionSlash : '/' ∉ actionName action)
    (route : Text) :
    outline (substitute route controller action suffix) =
      outline route := by
  unfold substitute
  rw [outline_replaceToken (by decide) hAction hActionSlash,
    outline_replaceToken (by decide) hController
      hControllerSlash]

/- A slash behind a controller route stays behind it. -/
theorem substitute_slash
    (route : Text) :
    substitute (route ++ ['/']) controller action suffix =
      substitute route controller action suffix ++ ['/'] := by
  unfold substitute
  rw [replaceToken_slash (by decide),
    replaceToken_slash (by decide)]
  rfl

end Substitution

------------------------------------------------------------
-- Parts Joined
------------------------------------------------------------

/-
  Whether the slash between a controller route and a
  fragment meets another one.  A controller route that is a
  single slash is one of the leading slashes, which become
  one.
-/
def SlashesMeet
    (route fragment : Text) :
    Prop :=
  route ≠ [] ∧ fragment ≠ [] ∧ route ≠ ['/'] ∧
    (route.getLast? = some '/' ∨ fragment.head? = some '/')

instance
    (route fragment : Text) :
    Decidable (SlashesMeet route fragment) :=
  inferInstanceAs (Decidable (_ ∧ _ ∧ _ ∧ _))

theorem isChain_apart_rooted
    {route : Text}
    (hApart : route.IsChain Apart) :
    (rooted route).IsChain Apart := by
  rcases rooted_startsOnce route with ⟨rest, hRooted, hHead⟩
  rw [hRooted, isChain_apart_slash]
  refine ⟨hHead, ?_⟩
  have hRest : rest <:+ route := by
    rw [← (List.cons.inj hRooted).2]
    exact List.dropWhile_suffix _
  exact hApart.suffix hRest

/-
  A route that is more than a slash goes on, behind the one
  slash it gets, with its own first character that is none.
-/
theorem exists_rooted_append
    {route : Text}
    (hApart : route.IsChain Apart)
    (hSome : route ≠ [])
    (hMore : route ≠ ['/']) :
    ∃ c rest,
      c ≠ '/' ∧ (c :: rest).IsChain Apart ∧
        (c :: rest).getLast? = route.getLast? ∧
        ∀ back,
          rooted (route ++ back) =
            '/' :: (c :: rest ++ back) := by
  unfold rooted
  cases route with
  | nil => exact absurd rfl hSome
  | cons c rest =>
      by_cases hSlash : c = '/'
      · subst hSlash
        rw [isChain_apart_slash] at hApart
        cases rest with
        | nil => exact absurd rfl hMore
        | cons d rest =>
            have hOther : d ≠ '/' := by
              simpa using hApart.1
            refine ⟨d, rest, hOther, hApart.2, ?_, ?_⟩
            · rw [List.getLast?_cons_cons]
            · intro back
              simp [hOther]
      · refine ⟨c, rest, hSlash, hApart, rfl, ?_⟩
        intro back
        simp [hSlash]

theorem appendFragment_nil
    (fragment : Text) :
    appendFragment [] fragment = fragment := by
  simp [appendFragment_eq, slashBetween]

/- A single slash is one of the leading slashes. -/
theorem rooted_appendFragment_slash
    {fragment : Text}
    (hFragment : fragment ≠ []) :
    rooted (appendFragment ['/'] fragment) =
      rooted (appendFragment [] fragment) := by
  rw [appendFragment_nil, appendFragment_eq, slashBetween,
    if_neg (by simp [hFragment])]
  simp [rooted]

/- Only slashes that meet enclose an empty segment. -/
theorem rooted_hasEmptySegment_iff
    {route fragment : Text}
    (hRoute : ¬HasEmptySegment route)
    (hFragment : ¬HasEmptySegment fragment) :
    HasEmptySegment (rooted (appendFragment route fragment)) ↔
      SlashesMeet route fragment := by
  rw [← isChain_apart_iff] at hRoute hFragment
  rw [← not_iff_not, ← isChain_apart_iff]
  by_cases hNone : route = [] ∨ fragment = []
  · have hAlone :
        (appendFragment route fragment).IsChain Apart := by
      rw [appendFragment_eq, slashBetween, if_pos hNone]
      rcases hNone with rfl | rfl
      · exact hFragment
      · simpa using hRoute
    refine iff_of_true (isChain_apart_rooted hAlone) ?_
    rintro ⟨hSome, hPart, -, -⟩
    exact hNone.elim hSome hPart
  have hParts := not_or.mp hNone
  by_cases hSlash : route = ['/']
  · rw [hSlash, rooted_appendFragment_slash hParts.2,
      appendFragment_nil]
    refine iff_of_true (isChain_apart_rooted hFragment) ?_
    rintro ⟨-, -, hMore, -⟩
    exact hMore rfl
  rcases exists_rooted_append hRoute hParts.1 hSlash with
    ⟨c, rest, hOther, hRest, hLast, hRooted⟩
  rw [appendFragment_eq, slashBetween, if_neg hNone, hRooted,
    isChain_apart_slash, List.singleton_append,
    isChain_apart_append, hLast, isChain_apart_slash]
  simp [SlashesMeet, hParts, hSlash, hOther, hRest, hFragment]

/- A slash behind a route makes another one of it. -/
theorem rooted_slash_ne
    {route fragment : Text}
    (hRoute : ¬HasEmptySegment (route ++ ['/']))
    (hSome : route ≠ [])
    (hFragment : fragment ≠ []) :
    rooted (appendFragment (route ++ ['/']) fragment) ≠
      rooted (appendFragment route fragment) := by
  rw [← isChain_apart_iff, isChain_apart_append] at hRoute
  rcases hRoute with ⟨hLast, hApart, -⟩
  have hMore : route ≠ ['/'] := by
    rintro rfl
    exact hLast rfl
  rcases exists_rooted_append hApart hSome hMore with
    ⟨c, rest, -, -, -, hRooted⟩
  rw [appendFragment_eq, appendFragment_eq, slashBetween,
    slashBetween, if_neg (by simp [hFragment]),
    if_neg (by simp [hSome, hFragment]), List.append_assoc,
    hRooted, hRooted]
  intro hSame
  have hLength := congrArg List.length hSame
  simp at hLength

------------------------------------------------------------
-- Composition
------------------------------------------------------------

theorem compose_eq
    (route? fragment? : Option Text)
    (controller action suffix : Text) :
    compose route? fragment? controller action suffix =
      rooted
        (appendFragment
          (substitute (route?.getD []) controller action
            suffix)
          (fragment?.getD [])) := by
  cases route? with
  | none => rfl
  | some route => rfl

section Written

variable {controller action suffix route : Text}
variable
    (hOutline :
      ∀ route,
        outline (substitute route controller action suffix) =
          outline route)

include hOutline

/- No token encloses an empty segment. -/
theorem substitute_hasEmptySegment_iff :
    HasEmptySegment
        (substitute route controller action suffix) ↔
      HasEmptySegment route := by
  rw [← not_iff_not, ← isChain_apart_iff,
    ← isChain_apart_iff, ← isChain_apart_outline, hOutline,
    isChain_apart_outline]

/- The parts meet as they are written. -/
theorem slashesMeet_substitute_iff
    (hRoute : ¬HasEmptySegment route)
    (fragment : Text) :
    SlashesMeet (substitute route controller action suffix)
        fragment ↔
      SlashesMeet route fragment := by
  have hFilled := hRoute
  rw [← substitute_hasEmptySegment_iff hOutline] at hFilled
  have hBehind :
      HasEmptySegment
          (substitute route controller action suffix ++
            ['/']) ↔
        HasEmptySegment (route ++ ['/']) := by
    rw [← substitute_slash,
      substitute_hasEmptySegment_iff hOutline]
  have hLast :
      (substitute route controller action suffix).getLast? =
          some '/' ↔
        route.getLast? = some '/' := by
    rw [← isChain_apart_iff] at hRoute hFilled
    rw [← not_iff_not, ← isChain_apart_iff,
      ← isChain_apart_iff, isChain_apart_append,
      isChain_apart_append] at hBehind
    simpa [hRoute, hFilled, not_iff_not] using hBehind
  have hNone :
      substitute route controller action suffix = [] ↔
        route = [] := by
    rw [← outline_eq_nil_iff, hOutline, outline_eq_nil_iff]
  have hSlash :
      substitute route controller action suffix = ['/'] ↔
        route = ['/'] := by
    rw [← outline_eq_slash_iff, hOutline,
      outline_eq_slash_iff]
  unfold SlashesMeet
  rw [ne_eq, hNone, ne_eq _ ['/'], hSlash, hLast]

end Written

/-
  A full route has an empty segment exactly when the slash
  between its parts meets another one, as the parts are
  written.  In particular, a slash at the end of a controller
  route is not merged with the one between the parts: it
  changes every full route with a fragment, unless it is the
  whole controller route.
-/
theorem compose_hasEmptySegment_iff
    {route? fragment? : Option Text}
    {controller action suffix : Text}
    (hRoute : ¬HasEmptySegment (route?.getD []))
    (hFragment : ¬HasEmptySegment (fragment?.getD []))
    (hController : ∀ c ∈ controller, isWordChar c = true)
    (hAction : ∀ c ∈ action, isWordChar c = true)
    (hControllerName : controllerName controller suffix ≠ [])
    (hActionName : actionName action ≠ []) :
    (HasEmptySegment
        (compose route? fragment? controller action suffix) ↔
      SlashesMeet (route?.getD []) (fragment?.getD [])) ∧
      ∀ base,
        route? = some (base ++ ['/']) →
        fragment?.getD [] ≠ [] →
        (compose route? fragment? controller action suffix =
            compose (some base) fragment? controller action
              suffix ↔
          base = []) := by
  have hOutline :
      ∀ route,
        outline (substitute route controller action suffix) =
          outline route :=
    outline_substitute hControllerName
      (not_mem_controllerName (by decide) (by decide)
        hController suffix)
      hActionName
      (not_mem_actionName (by decide) (by decide) hAction)
  constructor
  · have hFilled :
        ¬HasEmptySegment
            (substitute (route?.getD []) controller action
              suffix) := by
      rw [substitute_hasEmptySegment_iff hOutline]
      exact hRoute
    rw [compose_eq,
      rooted_hasEmptySegment_iff hFilled hFragment,
      slashesMeet_substitute_iff hOutline hRoute]
  · rintro base rfl hPart
    rw [compose_eq, compose_eq]
    simp only [Option.getD_some] at hRoute ⊢
    rw [substitute_slash]
    constructor
    · intro hSame
      by_contra hBase
      have hSlash :
          ¬HasEmptySegment
              (substitute base controller action suffix ++
                ['/']) := by
        rw [← substitute_slash,
          substitute_hasEmptySegment_iff hOutline]
        exact hRoute
      have hSome :
          substitute base controller action suffix ≠ [] := by
        rw [ne_eq, ← outline_eq_nil_iff, hOutline,
          outline_eq_nil_iff]
        exact hBase
      exact rooted_slash_ne hSlash hSome hPart hSame
    · rintro rfl
      exact rooted_appendFragment_slash hPart

/- The slash behind a token meets the one of the fragment. -/
theorem compose_slashBehindToken :
    (∀ c ∈ "OrdersController".toList, isWordChar c = true) ∧
      (∀ c ∈ "FindAsync".toList, isWordChar c = true) ∧
      HasEmptySegment
        (compose (some "/api/[Controller]/".toList)
          (some "{id}/lines".toList)
          "OrdersController".toList "FindAsync".toList
          "Controller".toList) ∧
      compose (some "/api/[Controller]/".toList)
          (some "{id}/lines".toList)
          "OrdersController".toList "FindAsync".toList
          "Controller".toList ≠
        compose (some "/api/[Controller]".toList)
          (some "{id}/lines".toList)
          "OrdersController".toList "FindAsync".toList
          "Controller".toList := by
  have hController :
      ∀ c ∈ "OrdersController".toList, isWordChar c = true :=
    List.all_eq_true.mp (by decide)
  have hAction :
      ∀ c ∈ "FindAsync".toList, isWordChar c = true :=
    List.all_eq_true.mp (by decide)
  have hRoute :
      ¬HasEmptySegment
          ((some "/api/[Controller]/".toList).getD []) := by
    decide
  have hFragment :
      ¬HasEmptySegment
          ((some "{id}/lines".toList).getD []) := by
    decide
  have hControllerName :
      controllerName "OrdersController".toList
          "Controller".toList ≠ [] := by
    decide +kernel
  have hActionName : actionName "FindAsync".toList ≠ [] := by
    decide +kernel
  have hComposed :=
    compose_hasEmptySegment_iff hRoute hFragment hController
      hAction hControllerName hActionName
  refine
    ⟨hController, hAction, hComposed.1.mpr (by decide), ?_⟩
  intro hSame
  have hBase :=
    (hComposed.2 "/api/[Controller]".toList (by decide)
      (by decide)).mp hSame
  exact absurd hBase (by decide)

/-
  A controller route that ends with a slash, and a fragment
  that begins with one, each get another slash between them.
-/
theorem compose_ordersRoute_doubled :
    ¬HasEmptySegment "orders/".toList ∧
      ¬HasEmptySegment "/{id}".toList ∧
      ("OrdersController".toList.all isWordChar = true ∧
        "Get".toList.all isWordChar = true) ∧
      controllerName "OrdersController".toList
          "Controller".toList ≠ [] ∧
      actionName "Get".toList ≠ [] ∧
      compose (some "orders/".toList) (some "{id}".toList)
          "OrdersController".toList "Get".toList
          "Controller".toList =
        "/orders//{id}".toList ∧
      compose (some "orders".toList) (some "{id}".toList)
          "OrdersController".toList "Get".toList
          "Controller".toList =
        "/orders/{id}".toList ∧
      compose (some "orders".toList) (some "/{id}".toList)
          "OrdersController".toList "Get".toList
          "Controller".toList =
        "/orders//{id}".toList ∧
      HasEmptySegment "/orders//{id}".toList := by
  decide +kernel

end Template

end RouteAtlas
