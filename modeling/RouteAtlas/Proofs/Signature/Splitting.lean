import Mathlib
import RouteAtlas.Proofs.Signature.Grammar
import RouteAtlas.Proofs.Source.Code
import RouteAtlas.Proofs.Text.Search
import RouteAtlas.Proofs.Text.Split
import RouteAtlas.Proofs.Text.Words

/-
  Splitting what was joined by commas.

  A parameter list is scanned from left to right, and a text
  is kept whole if no comma of it separates.  Groups are kept
  whole, and so are literals, unless the last thing in them
  is a backslash behind a backslash: then their last quote
  closes nothing, and what follows is taken for a literal.

  Main statements:
    * `Nesting.KeepsWhole.append`
    * `keepsWhole_text_iff`
    * `Nested.keepsWhole`
    * `splitFrom_joinWith`
    * `split_joinWith_iff`
-/

------------------------------------------------------------
-- Texts Kept Whole
------------------------------------------------------------

namespace RouteAtlas

namespace Signature

open Text

/- There is always at least one piece. -/
theorem splitFrom_ne_nil
    (nesting : Nesting)
    (t : Text) :
    splitFrom nesting t ≠ [] := by
  cases t with
  | nil => simp [splitFrom]
  | cons c rest =>
      rw [splitFrom]
      split
      · simp
      · split <;> simp

/- A separating comma ends a piece. -/
theorem splitFrom_comma
    {nesting : Nesting}
    (hOutside : nesting.isOutside = true)
    (rest : Text) :
    splitFrom nesting (',' :: rest) =
      [] :: splitFrom (nesting.step ',') rest := by
  rw [splitFrom]
  cases hRest : splitFrom (nesting.step ',') rest with
  | nil => exact absurd hRest (splitFrom_ne_nil _ rest)
  | cons piece pieces => simp [hOutside]

/-
  Whether a text between two states goes to one piece, no
  matter what follows it.
-/
def Nesting.KeepsWhole
    (before : Nesting)
    (t : Text)
    (after : Nesting) :
    Prop :=
  ∀ rest,
    splitFrom before (t ++ rest) =
      (splitFrom after rest).modifyHead (t ++ ·)

namespace Nesting

theorem keepsWhole_nil
    (nesting : Nesting) :
    nesting.KeepsWhole [] nesting := by
  intro rest
  exact (congrFun List.modifyHead_id _).symm

/- Two texts kept whole are kept together. -/
theorem KeepsWhole.append
    {before between after : Nesting}
    {front back : Text}
    (hFront : before.KeepsWhole front between)
    (hBack : between.KeepsWhole back after) :
    before.KeepsWhole (front ++ back) after := by
  intro rest
  rw [List.append_assoc, hFront, hBack,
    List.modifyHead_modifyHead]
  congr 1
  funext piece
  simp

/- Every character but a separating comma is kept. -/
theorem keepsWhole_char
    {nesting : Nesting}
    {c : Char}
    (hKept : c = ',' → nesting.isOutside = false) :
    nesting.KeepsWhole [c] (nesting.step c) := by
  intro rest
  have hComma : (c == ',' && nesting.isOutside) = false := by
    by_cases hChar : c = ','
    · rw [hKept hChar, Bool.and_false]
    · simp [hChar]
  rw [List.singleton_append, splitFrom]
  cases hRest : splitFrom (nesting.step c) rest with
  | nil => exact absurd hRest (splitFrom_ne_nil _ rest)
  | cons piece pieces => simp [hComma]

theorem KeepsWhole.cons
    {before after : Nesting}
    {c : Char}
    {t : Text}
    (hKept : c = ',' → before.isOutside = false)
    (hRest : (before.step c).KeepsWhole t after) :
    before.KeepsWhole (c :: t) after :=
  (keepsWhole_char hKept).append hRest

/- Outside of literals the last character does not matter. -/
theorem splitFrom_outside
    (groups : List Char)
    (previous previous' : Option Char)
    (t : Text) :
    splitFrom ⟨groups, false, previous⟩ t =
      splitFrom ⟨groups, false, previous'⟩ t := by
  cases t <;> rfl

theorem KeepsWhole.congr
    {groups groups' : List Char}
    {previous previous' last : Option Char}
    {t : Text}
    (hKeeps :
      KeepsWhole ⟨groups, false, previous⟩ t
        ⟨groups', false, last⟩)
    (last' : Option Char) :
    KeepsWhole ⟨groups, false, previous'⟩ t
      ⟨groups', false, last'⟩ := by
  intro rest
  rw [splitFrom_outside groups previous' previous,
    splitFrom_outside groups' last' last]
  exact hKeeps rest

end Nesting

------------------------------------------------------------
-- Literals
------------------------------------------------------------

/-
  Whether a literal does not end with a backslash that is
  itself behind a backslash.
-/
def Literal.Closes
    (content : Literal) :
    Prop :=
  content.pieces.getLast? ≠ some (.escaped '\\')

/- A piece of a literal stays inside of it. -/
theorem LiteralPiece.keepsWhole
    (piece : LiteralPiece)
    (groups : List Char)
    (previous : Option Char) :
    Nesting.KeepsWhole ⟨groups, true, previous⟩ piece.text
      ⟨groups, true, charBefore previous piece.text⟩ := by
  have hInside :
      ∀ c before,
        c = ',' →
          Nesting.isOutside ⟨groups, true, before⟩ = false := by
    intro c before hComma
    simp [Nesting.isOutside]
  cases piece with
  | plain c noQuote noEscape =>
      have hStep :
          Nesting.step ⟨groups, true, previous⟩ c =
            ⟨groups, true, some c⟩ := by
        simp [Nesting.step, noQuote]
      have hChar :=
        Nesting.keepsWhole_char (hInside c previous)
      rw [hStep] at hChar
      exact hChar
  | escaped c =>
      have hEscape :
          Nesting.step ⟨groups, true, previous⟩ '\\' =
            ⟨groups, true, some '\\'⟩ := by
        simp [Nesting.step]
      have hStep :
          Nesting.step ⟨groups, true, some '\\'⟩ c =
            ⟨groups, true, some c⟩ := by
        simp [Nesting.step]
      have hChar :=
        Nesting.keepsWhole_char (hInside c (some '\\'))
      rw [hStep] at hChar
      apply Nesting.KeepsWhole.cons (hInside '\\' previous)
      rw [hEscape]
      exact hChar

/- So do all pieces: by induction on them. -/
theorem keepsWhole_pieces
    (pieces : List LiteralPiece)
    (groups : List Char)
    (previous : Option Char) :
    Nesting.KeepsWhole ⟨groups, true, previous⟩
      (pieces.flatMap (·.text))
      ⟨groups, true,
        charBefore previous (pieces.flatMap (·.text))⟩ := by
  induction pieces generalizing previous with
  | nil => exact Nesting.keepsWhole_nil _
  | cons piece pieces ih =>
      rw [List.flatMap_cons, charBefore_append]
      exact (piece.keepsWhole groups previous).append (ih _)

/- The last character of a literal that closes. -/
theorem Literal.closes_iff
    (content : Literal) :
    content.Closes ↔
      charBefore (some '"') content.inside ≠ some '\\' := by
  unfold Literal.Closes Literal.inside
  rcases List.eq_nil_or_concat content.pieces with
    hNone | ⟨pieces, last, hPieces⟩
  · simp [hNone]
  · rw [hPieces, List.concat_eq_append, List.flatMap_append,
      charBefore_append, List.getLast?_concat]
    cases last with
    | plain c noQuote noEscape =>
        simp [LiteralPiece.text, noEscape]
    | escaped c => simp [LiteralPiece.text]

/-
  Behind a literal the scan stands outside of literals if it
  closes, and inside of one if it does not.
-/
theorem Literal.keepsWhole_text
    (content : Literal)
    (groups : List Char)
    (previous : Option Char)
    {closed : Bool}
    (hCloses : content.Closes ↔ closed = true) :
    Nesting.KeepsWhole ⟨groups, false, previous⟩
      content.text ⟨groups, !closed, some '"'⟩ := by
  have hOpening :
      Nesting.step ⟨groups, false, previous⟩ '"' =
        ⟨groups, true, some '"'⟩ := by
    simp [Nesting.step]
  have hClosing :
      Nesting.step
          ⟨groups, true,
            charBefore (some '"') content.inside⟩ '"' =
        ⟨groups, !closed, some '"'⟩ := by
    rw [content.closes_iff] at hCloses
    cases closed with
    | true =>
        have hLast := hCloses.mpr rfl
        simp [Nesting.step, hLast]
    | false =>
        have hLast :=
          not_not.mp fun hNe => Bool.noConfusion (hCloses.mp hNe)
        simp [Nesting.step, hLast]
  apply Nesting.KeepsWhole.cons (by simp)
  rw [hOpening]
  apply (keepsWhole_pieces content.pieces groups _).append
  rw [← hClosing]
  exact Nesting.keepsWhole_char (by simp)

/- What is taken for a literal holds no separating comma. -/
theorem splitFrom_inside
    {t : Text}
    (hQuote : '"' ∉ t)
    (groups : List Char)
    (previous : Option Char) :
    splitFrom ⟨groups, true, previous⟩ t = [t] := by
  induction t generalizing previous with
  | nil => rfl
  | cons c t ih =>
      rw [List.mem_cons, not_or] at hQuote
      have hStep :
          Nesting.step ⟨groups, true, previous⟩ c =
            ⟨groups, true, some c⟩ := by
        simp [Nesting.step, Ne.symm hQuote.1]
      have hKeeps :
          Nesting.KeepsWhole ⟨groups, true, previous⟩ [c]
            (Nesting.step ⟨groups, true, previous⟩ c) :=
        Nesting.keepsWhole_char fun hComma => by
          simp [Nesting.isOutside]
      have hWhole := hKeeps t
      rw [hStep, ih hQuote.2] at hWhole
      exact hWhole

------------------------------------------------------------
-- Groups
------------------------------------------------------------

/- The brackets within which no comma separates. -/
def groupBrackets : List Brackets :=
  [⟨'(', ')'⟩, ⟨'<', '>'⟩, ⟨'[', ']'⟩, ⟨'\x7b', '\x7d'⟩]

/- A mark changes nothing that is open. -/
theorem step_mark
    {c : Char}
    (hMark : IsMark groupBrackets c)
    (groups : List Char)
    (previous : Option Char) :
    Nesting.step ⟨groups, false, previous⟩ c =
      ⟨groups, false, some c⟩ := by
  rcases hMark with ⟨hQuote, hBrackets⟩
  simp only [groupBrackets, List.forall_mem_cons,
    List.not_mem_nil, false_imp_iff, implies_true, and_true]
    at hBrackets
  rcases hBrackets with ⟨hRound, hAngle, hSquare, hCurly⟩
  have hOpening : isOpening c = false := by
    simp [isOpening, hRound.1, hAngle.1, hSquare.1, hCurly.1]
  have hClosing : openingOf? c = none := by
    unfold openingOf?
    split <;> simp_all
  simp [Nesting.step, hQuote, hOpening, hClosing]

theorem step_opening
    {kind : Brackets}
    (hKind : kind ∈ groupBrackets)
    (groups : List Char)
    (previous : Option Char) :
    Nesting.step ⟨groups, false, previous⟩ kind.opening =
      ⟨kind.opening :: groups, false, some kind.opening⟩ := by
  fin_cases hKind <;> rfl

theorem step_closing
    {kind : Brackets}
    (hKind : kind ∈ groupBrackets)
    (groups : List Char)
    (previous : Option Char) :
    Nesting.step ⟨kind.opening :: groups, false, previous⟩
        kind.closing =
      ⟨groups, false, some kind.closing⟩ := by
  fin_cases hKind <;> rfl

theorem ne_comma
    {kind : Brackets}
    (hKind : kind ∈ groupBrackets) :
    kind.opening ≠ ',' ∧ kind.closing ≠ ',' := by
  fin_cases hKind <;> decide

/- Whether all commas of a text stand in its groups. -/
def Nested.HasNoComma
    {kinds : List Brackets} :
    Nested kinds → Prop
  | .done => True
  | .mark c _ rest => c ≠ ',' ∧ rest.HasNoComma
  | .literal _ rest => rest.HasNoComma
  | .group _ _ _ rest => rest.HasNoComma

/-
  A text with its groups is kept whole within a group, and
  outside of all if its commas stand in its own.  The
  induction is on the text; what is open around it grows in
  a group.
-/
theorem Nested.keepsWhole
    (content : Nested groupBrackets)
    (hCloses : ∀ part ∈ content.literals, part.Closes)
    (groups : List Char)
    (hComma : groups = [] → content.HasNoComma)
    (previous last : Option Char) :
    Nesting.KeepsWhole ⟨groups, false, previous⟩
      content.text ⟨groups, false, last⟩ := by
  induction content generalizing groups previous last with
  | done =>
      have hNone :=
        Nesting.keepsWhole_nil ⟨groups, false, previous⟩
      exact hNone.congr last
  | mark c isMark rest ih =>
      apply Nesting.KeepsWhole.cons
      · rintro rfl
        have hGroups : groups ≠ [] := fun hNone =>
          (hComma hNone).1 rfl
        simp [Nesting.isOutside, hGroups]
      · rw [step_mark isMark]
        exact ih hCloses groups
          (fun hNone => (hComma hNone).2) _ last
  | literal part rest ih =>
      rw [Nested.literals, List.forall_mem_cons] at hCloses
      have hPart : part.Closes ↔ true = true := by
        simp [hCloses.1]
      exact (part.keepsWhole_text groups previous hPart).append
        (ih hCloses.2 groups hComma _ last)
  | group kind isKind inside rest ihInside ihRest =>
      rw [Nested.literals, List.forall_mem_append] at hCloses
      have hKind := ne_comma isKind
      apply Nesting.KeepsWhole.cons
        fun hChar => absurd hChar hKind.1
      rw [step_opening isKind]
      refine Nesting.KeepsWhole.append
        (ihInside hCloses.1 (kind.opening :: groups)
          (fun hNone => absurd hNone (by simp)) _ none) ?_
      apply Nesting.KeepsWhole.cons
        fun hChar => absurd hChar hKind.2
      rw [step_closing isKind]
      exact ihRest hCloses.2 groups hComma _ last

------------------------------------------------------------
-- Joined Segments
------------------------------------------------------------

/-
  A segment between commas: no comma of its own separates,
  and it has some text without blanks at its ends.
-/
structure Segment where
  content : Nested groupBrackets
  noComma : content.HasNoComma
  trimmed : strip content.text = content.text
  nonempty : content.text ≠ []

/- The segment as it is written. -/
def Segment.text
    (segment : Segment) :
    Text :=
  segment.content.text

/- Texts kept whole are the pieces between the commas. -/
theorem splitFrom_joinWith
    {parts : List Text}
    (hParts : parts ≠ [])
    (hKeeps :
      ∀ part ∈ parts, ∀ previous,
        Nesting.KeepsWhole ⟨[], false, previous⟩ part .start)
    (previous : Option Char) :
    splitFrom ⟨[], false, previous⟩ (joinWith [','] parts) =
      parts := by
  induction parts generalizing previous with
  | nil => exact absurd rfl hParts
  | cons first parts ih =>
      rw [List.forall_mem_cons] at hKeeps
      cases parts with
      | nil =>
          have hFirst := hKeeps.1 previous []
          rw [List.append_nil] at hFirst
          rw [joinWith_singleton, hFirst]
          simp [splitFrom]
      | cons second parts =>
          rw [joinWith_cons_cons, List.append_assoc,
            hKeeps.1 previous, List.singleton_append,
            splitFrom_comma rfl]
          have hRest :=
            ih (by simp) hKeeps.2 (some ',')
          change splitFrom (Nesting.start.step ',') _ = _
            at hRest
          rw [hRest, List.modifyHead_cons, List.append_nil]

/- Trimmed texts between commas are the parameters. -/
theorem split_joinWith
    {parts : List Text}
    (hKeeps :
      ∀ part ∈ parts, ∀ previous,
        Nesting.KeepsWhole ⟨[], false, previous⟩ part .start)
    (hTrimmed : ∀ part ∈ parts, strip part = part)
    (hNonempty : ∀ part ∈ parts, part ≠ []) :
    split (joinWith [','] parts) = parts := by
  by_cases hParts : parts = []
  · subst hParts
    rfl
  · have hPieces :
        splitFrom .start (joinWith [','] parts) = parts :=
      splitFrom_joinWith hParts hKeeps none
    have hStrip : parts.map strip = parts :=
      (List.map_congr_left hTrimmed).trans parts.map_id
    unfold split
    rw [hPieces, hStrip, List.filter_eq_self]
    intro part hPart
    simp [hNonempty part hPart]

/- Behind a literal that does not close no comma separates. -/
theorem split_of_not_closes
    {content : Literal}
    (hOpen : ¬content.Closes)
    {t : Text}
    (hQuote : '"' ∉ t) :
    (split (content.text ++ t)).length ≤ 1 := by
  have hPart : content.Closes ↔ false = true := by
    simp [hOpen]
  have hWhole :
      splitFrom .start (content.text ++ t) =
        [content.text ++ t] := by
    have hKeeps := content.keepsWhole_text [] none hPart t
    rwa [Bool.not_false, splitFrom_inside hQuote] at hKeeps
  unfold split
  rw [hWhole]
  exact List.length_filter_le _ _

/- A literal on its own is a segment. -/
def Literal.segment
    (content : Literal) :
    Segment where
  content := .literal content .done
  noComma := trivial
  trimmed := by
    have hFront :
        dropBlanks content.text = content.text :=
      dropBlanks_cons_of_not_blank (by decide) _
    have hEnd :
        stripEnd (('"' :: content.inside) ++ ['"']) =
          ('"' :: content.inside) ++ ['"'] :=
      Source.dropEndWhile_append (by decide) _
    change strip (content.text ++ []) = content.text ++ []
    rw [List.append_nil]
    unfold strip
    rw [hFront]
    exact hEnd
  nonempty := by simp [Nested.text, Literal.text]

/- A segment without literals. -/
def depthSegment : Segment where
  content :=
    Nested.done.marks "int depth".toList (by decide)
  noComma := by simp [Nested.marks, Nested.HasNoComma]
  trimmed := by decide
  nonempty := by decide

/-
  Splitting undoes joining for all segments with literals of
  some kind exactly if every literal of the kind closes: if
  none ends with a backslash behind a backslash.
-/
theorem split_joinWith_iff
    (allowed : Literal → Prop) :
    (∀ segments : List Segment,
        (∀ segment ∈ segments,
          ∀ part ∈ segment.content.literals, allowed part) →
        split (joinWith [','] (segments.map (·.text))) =
          segments.map (·.text)) ↔
      ∀ content, allowed content → content.Closes := by
  constructor
  · intro hUndone content hAllowed
    by_contra hOpen
    have hTwo :=
      hUndone [content.segment, depthSegment] (by
        intro segment hSegment part hPart
        rcases List.mem_pair.mp hSegment with rfl | rfl
        · rw [List.mem_singleton.mp hPart]
          exact hAllowed
        · exact absurd hPart List.not_mem_nil)
    have hLength := split_of_not_closes hOpen
      (show '"' ∉ ",int depth".toList by decide)
    have hText :
        joinWith [',']
            ([content.segment, depthSegment].map (·.text)) =
          content.text ++ ",int depth".toList := by
      simp [joinWith_cons_cons, Segment.text, Literal.segment,
        depthSegment, Nested.text, Nested.marks]
    rw [← hText, hTwo] at hLength
    exact absurd hLength (by simp)
  · intro hCloses segments hAllowed
    apply split_joinWith
    · intro part hPart previous
      rcases List.mem_map.mp hPart with
        ⟨segment, hSegment, rfl⟩
      exact segment.content.keepsWhole
        (fun content hContent =>
          hCloses content
            (hAllowed segment hSegment content hContent))
        [] (fun _ => segment.noComma) previous none
    · intro part hPart
      rcases List.mem_map.mp hPart with ⟨segment, -, rfl⟩
      exact segment.trimmed
    · intro part hPart
      rcases List.mem_map.mp hPart with ⟨segment, -, rfl⟩
      exact segment.nonempty

/- A parameter whose default ends with a backslash. -/
def rootSegment : Segment where
  content :=
    (Nested.literal
        ⟨[.plain 'C' (by decide) (by decide),
          .plain ':' (by decide) (by decide),
          .escaped '\\']⟩
        .done).marks
      "string root = ".toList (by decide)
  noComma := by simp [Nested.marks, Nested.HasNoComma]
  trimmed := by decide
  nonempty := by decide

/- The comma behind it does not separate. -/
theorem split_rootSegment :
    rootSegment.text = "string root = \"C:\\\\\"".toList ∧
      depthSegment.text = "int depth".toList ∧
      split
          (joinWith [',']
            [rootSegment.text, depthSegment.text]) =
        ["string root = \"C:\\\\\",int depth".toList] := by
  decide +kernel

end Signature

end RouteAtlas
