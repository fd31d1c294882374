import Mathlib
import RouteAtlas.Proofs.Text.Replacing
import RouteAtlas.Proofs.Text.Split
import RouteAtlas.Store.Variables

/-
  Routes made of placeholders and of text without braces.

  The braces of a route are paired and not nested if, from
  left to right, every opening brace is closed before the
  next one opens.  Such a route consists of plain text and
  of placeholders with plain text between their braces.

  Replacing the placeholder of one key by a plain value
  replaces those parts, and leaves all others whole: no
  placeholder begins within plain text, and none has a
  beginning of another one for its text.

  Main definitions:
    * `Text.hasPairedBraces`
    * `Variables.Part`

  Main statements:
    * `exists_parts_of_paired`
    * `replaceAll_written`
    * `infix_written_iff`
-/

------------------------------------------------------------
-- Braces
------------------------------------------------------------

namespace RouteAtlas

namespace Text

/- Whether a character is a brace. -/
def isBrace
    (c : Char) :
    Bool :=
  c == '{' || c == '}'

/- Whether a text has no braces. -/
def IsPlain
    (t : Text) :
    Prop :=
  ∀ c ∈ t, isBrace c = false

instance (t : Text) : Decidable t.IsPlain :=
  List.decidableBAll _ t

/-
  Whether the braces of a text are paired and not nested, if
  one is open before it or none is.
-/
def pairsBraces :
    Bool → Text → Bool
  | isOpen, [] => !isOpen
  | isOpen, c :: rest =>
      if c == '{' then
        !isOpen && pairsBraces true rest
      else if c == '}' then
        isOpen && pairsBraces false rest
      else
        pairsBraces isOpen rest

/- Whether the braces of a text are paired and not nested. -/
def hasPairedBraces
    (t : Text) :
    Bool :=
  pairsBraces false t

theorem isPlain_nil :
    IsPlain [] :=
  fun _ hChar => nomatch hChar

theorem isPlain_cons
    {c : Char}
    {t : Text} :
    IsPlain (c :: t) ↔ isBrace c = false ∧ IsPlain t :=
  List.forall_mem_cons

theorem IsPlain.opening_not_mem
    {t : Text}
    (hPlain : t.IsPlain) :
    '{' ∉ t :=
  fun hChar => absurd (hPlain _ hChar) (by decide)

theorem IsPlain.closing_not_mem
    {t : Text}
    (hPlain : t.IsPlain) :
    '}' ∉ t :=
  fun hChar => absurd (hPlain _ hChar) (by decide)

theorem isPlain_iff
    {t : Text} :
    IsPlain t ↔ '{' ∉ t ∧ '}' ∉ t := by
  constructor
  · exact fun hPlain =>
      ⟨hPlain.opening_not_mem, hPlain.closing_not_mem⟩
  · rintro ⟨hOpening, hClosing⟩ c hChar
    unfold isBrace
    rw [Bool.or_eq_false_iff, beq_eq_false_iff_ne,
      beq_eq_false_iff_ne]
    constructor
    · rintro rfl
      exact hOpening hChar
    · rintro rfl
      exact hClosing hChar

/- A text that is not plain has a first brace. -/
theorem exists_brace_of_not_isPlain
    {t : Text}
    (hBraces : ¬ t.IsPlain) :
    ∃ (front : Text) (c : Char) (back : Text),
      t = front ++ c :: back ∧ front.IsPlain ∧
        (c = '{' ∨ c = '}') := by
  induction t with
  | nil => exact absurd isPlain_nil hBraces
  | cons c t ih =>
      by_cases hChar : isBrace c = true
      · unfold isBrace at hChar
        rw [Bool.or_eq_true, beq_iff_eq, beq_iff_eq] at hChar
        exact ⟨[], c, t, rfl, isPlain_nil, hChar⟩
      · rw [Bool.not_eq_true] at hChar
        rw [isPlain_cons, not_and] at hBraces
        rcases ih (hBraces hChar) with
          ⟨front, d, back, rfl, hFront, hBrace⟩
        exact
          ⟨c :: front, d, back, rfl,
            isPlain_cons.mpr ⟨hChar, hFront⟩, hBrace⟩

theorem pairsBraces_cons_of_not_brace
    {c : Char}
    (hChar : isBrace c = false)
    (isOpen : Bool)
    (t : Text) :
    pairsBraces isOpen (c :: t) = pairsBraces isOpen t := by
  unfold isBrace at hChar
  rw [Bool.or_eq_false_iff] at hChar
  rw [pairsBraces, hChar.1, hChar.2]
  rfl

/- Plain text leaves open what was open before it. -/
theorem pairsBraces_append
    {front : Text}
    (hFront : front.IsPlain)
    (isOpen : Bool)
    (t : Text) :
    pairsBraces isOpen (front ++ t) = pairsBraces isOpen t := by
  induction front with
  | nil => rfl
  | cons c front ih =>
      rw [isPlain_cons] at hFront
      rw [List.cons_append,
        pairsBraces_cons_of_not_brace hFront.1, ih hFront.2]

end Text

------------------------------------------------------------
-- Parts of a Route
------------------------------------------------------------

namespace Variables

open Text

theorem placeholder_eq
    (key : Text) :
    placeholder key = '{' :: (key ++ ['}']) :=
  rfl

theorem placeholder_append
    (key rest : Text) :
    placeholder key ++ rest = '{' :: (key ++ '}' :: rest) := by
  simp [placeholder]

/-
  A part of a route: text without braces, or a placeholder
  with such a text between its braces.
-/
inductive Part where
  | literal (text : Text) (plain : text.IsPlain)
  | placeholder (key : Text) (plain : key.IsPlain)

namespace Part

/- The part as it is written. -/
def text :
    Part → Text
  | .literal text _ => text
  | .placeholder key _ => Variables.placeholder key

/- The part with a value put for the placeholder of a key. -/
def fill
    (key : Text)
    {value : Text}
    (hValue : value.IsPlain) :
    Part → Part
  | .literal text plain => .literal text plain
  | .placeholder other plain =>
      if other = key then
        .literal value hValue
      else
        .placeholder other plain

end Part

/- A route as it is written. -/
def written
    (parts : List Part) :
    Text :=
  parts.flatMap (·.text)

theorem written_cons
    (part : Part)
    (parts : List Part) :
    written (part :: parts) = part.text ++ written parts :=
  List.flatMap_cons

------------------------------------------------------------
-- Paired Braces
------------------------------------------------------------

/-
  Text up to the brace that closes an open one, and what
  stands behind it.
-/
theorem exists_closing_of_pairsBraces
    {t : Text}
    (hPaired : pairsBraces true t = true) :
    ∃ key rest,
      t = key ++ '}' :: rest ∧ key.IsPlain ∧
        hasPairedBraces rest = true := by
  induction t with
  | nil => cases hPaired
  | cons c t ih =>
      by_cases hOpening : c = '{'
      · subst hOpening
        cases hPaired
      · by_cases hClosing : c = '}'
        · subst hClosing
          exact ⟨[], t, rfl, isPlain_nil, hPaired⟩
        · have hChar : isBrace c = false := by
            simp [isBrace, hOpening, hClosing]
          rw [pairsBraces_cons_of_not_brace hChar] at hPaired
          rcases ih hPaired with
            ⟨key, rest, rfl, hKey, hRest⟩
          exact
            ⟨c :: key, rest, rfl,
              isPlain_cons.mpr ⟨hChar, hKey⟩, hRest⟩

/-
  By induction on the length of the route: its first
  character is a part, or opens one.
-/
theorem exists_parts_of_paired
    {t : Text}
    (hPaired : hasPairedBraces t = true) :
    ∃ parts, t = written parts := by
  induction hLength : t.length using Nat.strong_induction_on
    generalizing t with
  | _ n ih =>
      cases t with
      | nil => exact ⟨[], rfl⟩
      | cons c t =>
          by_cases hOpening : c = '{'
          · subst hOpening
            rcases exists_closing_of_pairsBraces hPaired with
              ⟨key, rest, rfl, hKey, hRest⟩
            have hShorter : rest.length < n := by
              rw [← hLength]
              simp only [List.length_cons, List.length_append]
              omega
            rcases ih rest.length hShorter hRest rfl with
              ⟨parts, hParts⟩
            refine ⟨.placeholder key hKey :: parts, ?_⟩
            rw [written_cons, ← hParts, Part.text,
              placeholder_append]
          · have hChar : isBrace c = false := by
              have hClosing : c ≠ '}' := by
                rintro rfl
                cases hPaired
              simp [isBrace, hOpening, hClosing]
            have hRest : hasPairedBraces t = true := by
              unfold hasPairedBraces at hPaired ⊢
              rwa [pairsBraces_cons_of_not_brace hChar]
                at hPaired
            have hShorter : t.length < n := by
              rw [← hLength, List.length_cons]
              omega
            rcases ih t.length hShorter hRest rfl with
              ⟨parts, hParts⟩
            refine
              ⟨.literal [c]
                (isPlain_cons.mpr ⟨hChar, isPlain_nil⟩) ::
                  parts, ?_⟩
            rw [written_cons, ← hParts]
            rfl

------------------------------------------------------------
-- Placeholders
------------------------------------------------------------

section Placeholders

variable {key other : Text}

/-
  Where one placeholder stands, another one begins only if
  it is the same.
-/
theorem isPrefixOf_placeholder_iff
    (hKey : key.IsPlain)
    (hOther : other.IsPlain)
    (rest : Text) :
    (placeholder key).isPrefixOf (placeholder other ++ rest) =
        true ↔
      other = key := by
  rw [List.isPrefixOf_iff_prefix]
  constructor
  · rintro ⟨tail, hText⟩
    rw [placeholder_append, placeholder_append,
      List.cons.injEq] at hText
    have hBefore := congrArg (before '}') hText.2
    rw [before_append hKey.closing_not_mem,
      before_append hOther.closing_not_mem] at hBefore
    exact hBefore.symm
  · rintro rfl
    exact List.prefix_append _ _

/- A placeholder begins with its opening brace only. -/
theorem isPrefixOf_placeholder_eq_false
    {c : Char}
    (hChar : c ≠ '{')
    (t : Text) :
    (placeholder key).isPrefixOf (c :: t) = false := by
  simp [placeholder, List.isPrefixOf, Ne.symm hChar]

/- Behind its opening brace a part has no other one. -/
theorem Part.tail_text
    (part : Part) :
    '{' ∉ part.text.tail := by
  cases part with
  | literal text plain =>
      exact fun hChar =>
        plain.opening_not_mem (List.mem_of_mem_tail hChar)
  | placeholder key plain =>
      simp [Part.text, Variables.placeholder,
        plain.opening_not_mem]

end Placeholders

------------------------------------------------------------
-- Replacing
------------------------------------------------------------

section Replacing

variable {key value : Text}

/-
  A placeholder of another key, and plain text, are left as
  they are; that of the key itself becomes the value.
-/
theorem becomes_fill
    (hKey : key.IsPlain)
    (hValue : value.IsPlain)
    (part : Part) :
    Becomes
      (fun s =>
        if (placeholder key).isPrefixOf s then
          some (placeholder key).length
        else
          none)
      value part.text (part.fill key hValue).text := by
  intro rest
  cases part with
  | literal text plain =>
      apply replaceFrom_passed
      rintro front c back rfl
      have hChar : c ≠ '{' := by
        rintro rfl
        exact plain.opening_not_mem (by simp)
      rw [List.cons_append,
        isPrefixOf_placeholder_eq_false hChar]
      rfl
  | placeholder other plain =>
      have hHere :=
        isPrefixOf_placeholder_iff hKey plain rest
      by_cases hSame : other = key
      · rw [Part.fill, if_pos hSame]
        subst hSame
        exact
          replaceFrom_measured (List.cons_ne_nil _ _)
            (if_pos (hHere.mpr rfl))
      · rw [Part.fill, if_neg hSame]
        apply replaceFrom_passed
        intro front c back hText
        cases front with
        | nil =>
            rw [List.nil_append] at hText
            rw [← hText]
            exact if_neg (mt hHere.mp hSame)
        | cons d front =>
            have hTail : '{' ∉ front ++ c :: back := by
              have hPart :=
                (Part.placeholder other plain).tail_text
              rwa [hText] at hPart
            have hChar : c ≠ '{' := by
              rintro rfl
              exact hTail (by simp)
            rw [List.cons_append,
              isPrefixOf_placeholder_eq_false hChar]
            rfl

/- Replacing one key fills the parts of a route. -/
theorem replaceAll_written
    (hKey : key.IsPlain)
    (hValue : value.IsPlain)
    (parts : List Part) :
    replaceAll (placeholder key) value (written parts) =
      written (parts.map (·.fill key hValue)) := by
  have hParts :
      Becomes _ value (written parts)
        (parts.flatMap fun part =>
          (part.fill key hValue).text) :=
    Becomes.flatMap fun part _ =>
      becomes_fill hKey hValue part
  unfold replaceAll
  rw [hParts.eq]
  unfold written
  rw [List.flatMap_map]

end Replacing

------------------------------------------------------------
-- Searching
------------------------------------------------------------

/-
  The placeholders that stand in a route are its parts: a
  part that is plain holds no opening brace, and one that is
  a placeholder has its only one in front.
-/
theorem infix_written_iff
    {key : Text}
    (hKey : key.IsPlain)
    (parts : List Part) :
    placeholder key <:+: written parts ↔
      Part.placeholder key hKey ∈ parts := by
  induction parts with
  | nil => simp [written, placeholder]
  | cons part parts ih =>
      rw [written_cons, List.mem_cons, ← ih]
      cases part with
      | literal text plain =>
          rw [Part.text, placeholder_eq,
            infix_append_of_not_mem plain.opening_not_mem]
          simp
      | placeholder other plain =>
          have hHere :=
            isPrefixOf_placeholder_iff hKey plain
              (written parts)
          have hBehind : '{' ∉ other ++ ['}'] := by
            simpa using plain.opening_not_mem
          have hText :
              placeholder other ++ written parts =
                '{' :: ((other ++ ['}']) ++ written parts) :=
            List.cons_append
          rw [List.isPrefixOf_iff_prefix] at hHere
          rw [Part.text, hText, List.infix_cons_iff, ← hText,
            hHere, placeholder_eq key,
            infix_append_of_not_mem hBehind,
            Part.placeholder.injEq, eq_comm]

end Variables

end RouteAtlas
