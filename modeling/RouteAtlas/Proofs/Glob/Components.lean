import Mathlib
import RouteAtlas.Proofs.Glob.Matching

/-
  Patterns that exclude directories by their names.

  A pattern of names between stars matches by characters,
  and its stars cross slashes.  The slashes around the names
  still make it match whole components: it excludes what lies
  in directories of these names, one in the other, at any
  depth, and it does not exclude a name that merely begins or
  ends like one of them.

  Main definitions:
    * `Glob.directoryPattern`

  Main statements:
    * `accepts_beginning_iff`
    * `accepts_middle_iff`
    * `infix_components_iff`
    * `excludes_directoryPattern_iff`
-/

------------------------------------------------------------
-- Literal Patterns
------------------------------------------------------------

namespace RouteAtlas

namespace Glob

/- Whether a character of a pattern stands for itself. -/
def IsLiteral
    (c : Char) :
    Prop :=
  c ≠ '*' ∧ c ≠ '?' ∧ c ≠ '['

instance (c : Char) : Decidable (IsLiteral c) :=
  inferInstanceAs (Decidable (_ ∧ _ ∧ _))

/- Such characters are read one by one. -/
theorem tokensFrom_literal
    {t : Text}
    (hLiteral : ∀ c ∈ t, IsLiteral c)
    (rest : Text) :
    tokensFrom 0 (t ++ rest) =
      t.map .char ++ tokensFrom 0 rest := by
  induction t with
  | nil => rfl
  | cons c t ih =>
      rw [List.forall_mem_cons] at hLiteral
      rcases hLiteral with ⟨⟨hStar, hAny, hSet⟩, hRest⟩
      rw [List.cons_append, tokensFrom, ih hRest]
      · rfl
      · exact hStar
      · exact hAny
      · exact hSet

theorem matches_literal_iff
    {tokens : List Token}
    {t s : Text} :
    Matches (t.map .char ++ tokens) s ↔
      ∃ rest, s = t ++ rest ∧ Matches tokens rest := by
  induction t generalizing s with
  | nil => simp
  | cons c t ih =>
      rw [List.map_cons, List.cons_append]
      constructor
      · intro hMatches
        cases hMatches with
        | one hChar hRest =>
            rcases ih.mp hRest with ⟨rest, rfl, hMatches⟩
            rw [beq_iff_eq.mp hChar]
            exact ⟨rest, rfl, hMatches⟩
      · rintro ⟨rest, rfl, hMatches⟩
        exact
          .one (beq_self_eq_true c)
            (ih.mpr ⟨rest, rfl, hMatches⟩)

theorem matches_run_iff
    {tokens : List Token}
    {s : Text} :
    Matches (.anyRun :: tokens) s ↔
      ∃ stretch rest,
        s = stretch ++ rest ∧ Matches tokens rest := by
  constructor
  · intro hMatches
    cases hMatches with
    | run stretch hRest => exact ⟨stretch, _, rfl, hRest⟩
    | one hChar hRest => cases hChar
  · rintro ⟨stretch, rest, rfl, hRest⟩
    exact .run stretch hRest

/- Two stars match everything. -/
theorem matches_stars
    (s : Text) :
    Matches [.anyRun, .anyRun] s := by
  have hAll := Matches.run s (.run [] .done)
  rwa [List.nil_append, List.append_nil] at hAll

/- Stars behind a literal text match all that begins so. -/
theorem accepts_beginning_iff
    {t s : Text}
    (hLiteral : ∀ c ∈ t, IsLiteral c) :
    accepts (t ++ "**".toList) s = true ↔ t <+: s := by
  rw [accepts_iff_matches, tokens,
    tokensFrom_literal hLiteral, matches_literal_iff]
  constructor
  · rintro ⟨rest, rfl, -⟩
    exact List.prefix_append t rest
  · rintro ⟨rest, rfl⟩
    exact ⟨rest, rfl, matches_stars rest⟩

/- Stars on both sides match all that holds the text. -/
theorem accepts_middle_iff
    {t s : Text}
    (hLiteral : ∀ c ∈ t, IsLiteral c) :
    accepts ("**".toList ++ (t ++ "**".toList)) s = true ↔
      t <:+: s := by
  rw [accepts_iff_matches]
  change
    Matches
        (.anyRun :: .anyRun ::
          tokensFrom 0 (t ++ "**".toList)) s ↔ _
  rw [tokensFrom_literal hLiteral, matches_run_iff]
  constructor
  · rintro ⟨first, rest, rfl, hRest⟩
    rw [matches_run_iff] at hRest
    rcases hRest with ⟨second, tail, rfl, hTail⟩
    rcases matches_literal_iff.mp hTail with ⟨behind, rfl, -⟩
    exact ⟨first ++ second, behind, by simp⟩
  · rintro ⟨front, behind, rfl⟩
    refine ⟨front, t ++ behind, by simp, ?_⟩
    rw [matches_run_iff]
    refine ⟨[], t ++ behind, rfl, ?_⟩
    exact
      matches_literal_iff.mpr
        ⟨behind, rfl, matches_stars behind⟩

------------------------------------------------------------
-- Components
------------------------------------------------------------

/-
  Between slashes, a text holds names one after the other
  just where they are components of it, and not the last.
-/
theorem infix_components_iff
    {names parts : List Text}
    (hSome : names ≠ [])
    (hNames : ∀ name ∈ names, '/' ∉ name)
    (hParts : ∀ part ∈ parts, '/' ∉ part)
    (hPart : parts ≠ []) :
    '/' :: (Text.joinWith ['/'] names ++ ['/']) <:+:
        '/' :: Text.joinWith ['/'] parts ↔
      names <:+: parts.dropLast := by
  constructor
  · rintro ⟨front, behind, hText⟩
    have hSplit := congrArg (Text.splitOn '/') hText
    rw [List.append_assoc, List.cons_append,
      List.append_assoc, List.singleton_append,
      Text.splitOn_append, Text.splitOn_append,
      Text.splitOn_joinWith hSome hNames,
      Text.splitOn_mark_cons,
      Text.splitOn_joinWith hPart hParts] at hSplit
    have hBehind :
        Text.splitOn '/' behind ≠ [] :=
      Text.splitOn_ne_nil behind
    cases hFront : Text.splitOn '/' front with
    | nil => exact absurd hFront (Text.splitOn_ne_nil front)
    | cons first pieces =>
        rw [hFront, List.cons_append, List.cons.injEq]
          at hSplit
        rw [← hSplit.2, List.dropLast_append_of_ne_nil
          (List.append_ne_nil_of_right_ne_nil _ hBehind),
          List.dropLast_append_of_ne_nil hBehind]
        exact
          ⟨pieces, (Text.splitOn '/' behind).dropLast,
            List.append_assoc _ _ _⟩
  · rintro ⟨front, behind, hSplit⟩
    have hLast : [parts.getLast hPart] ≠ [] :=
      List.cons_ne_nil _ _
    have hBehind : behind ++ [parts.getLast hPart] ≠ [] :=
      List.append_ne_nil_of_right_ne_nil _ hLast
    have hWhole :
        [] :: parts =
          ([] :: front) ++
            (names ++ (behind ++ [parts.getLast hPart])) := by
      rw [List.cons_append, ← List.append_assoc,
        ← List.append_assoc, hSplit,
        List.dropLast_append_getLast]
    refine
      ⟨Text.joinWith ['/'] ([] :: front),
        Text.joinWith ['/']
          (behind ++ [parts.getLast hPart]), ?_⟩
    rw [Text.cons_joinWith hPart, hWhole,
      Text.joinWith_append _ (List.cons_ne_nil _ _)
        (List.append_ne_nil_of_left_ne_nil hSome _),
      Text.joinWith_append _ hSome hBehind]
    simp only [List.append_assoc, List.cons_append,
      List.nil_append]

------------------------------------------------------------
-- Excluding Directories
------------------------------------------------------------

/-
  The pattern of what lies in directories of some names, one
  in the other, at any depth.
-/
def directoryPattern
    (names : List Text) :
    Text :=
  anyDepth ++ Text.joinWith ['/'] names ++ "/**".toList

/- Whether a text is a name without special characters. -/
structure IsLiteralName
    (name : Text) :
    Prop where
  some : name ≠ []
  plain : '/' ∉ name
  literal : ∀ c ∈ name, IsLiteral c

instance (name : Text) : Decidable (IsLiteralName name) :=
  haveI : Decidable (∀ c ∈ name, IsLiteral c) :=
    List.decidableBAll _ name
  decidable_of_iff
    (name ≠ [] ∧ '/' ∉ name ∧ ∀ c ∈ name, IsLiteral c)
    ⟨fun ⟨hSome, hPlain, hLiteral⟩ =>
        ⟨hSome, hPlain, hLiteral⟩,
      fun ⟨hSome, hPlain, hLiteral⟩ =>
        ⟨hSome, hPlain, hLiteral⟩⟩

section Names

variable {names : List Text}

theorem isLiteral_of_mem_joinWith
    (hNames : ∀ name ∈ names, IsLiteralName name)
    {c : Char}
    (hChar : c ∈ Text.joinWith ['/'] names) :
    IsLiteral c := by
  by_contra hSpecial
  refine Text.not_mem_joinWith ?_ ?_ hChar
  · intro hSlash
    rw [List.mem_singleton.mp hSlash] at hSpecial
    exact hSpecial (by decide)
  · exact fun name hName hIn =>
      hSpecial ((hNames name hName).literal c hIn)

/-
  What makes the pattern match at any depth also lets it
  match at the start, as if there were a slash.
-/
theorem excludesBy_directoryPattern_iff
    (hNames : ∀ name ∈ names, IsLiteralName name)
    {path : Text} :
    excludesBy path (directoryPattern names) = true ↔
      '/' :: (Text.joinWith ['/'] names ++ ['/']) <:+:
        '/' :: path := by
  have hLiteral :
      ∀ c ∈ Text.joinWith ['/'] names ++ ['/'],
        IsLiteral c := by
    intro c hChar
    rcases List.mem_append.mp hChar with hIn | hSlash
    · exact isLiteral_of_mem_joinWith hNames hIn
    · rw [List.mem_singleton.mp hSlash]
      decide
  have hBelow :
      ∀ c ∈ '/' :: (Text.joinWith ['/'] names ++ ['/']),
        IsLiteral c :=
    List.forall_mem_cons.mpr ⟨by decide, hLiteral⟩
  have hWhole :
      directoryPattern names =
        "**".toList ++
          ('/' :: (Text.joinWith ['/'] names ++ ['/']) ++
            "**".toList) := by
    simp [directoryPattern, anyDepth]
  have hRest :
      anyDepth.isPrefixOf? (directoryPattern names) =
        some
          (Text.joinWith ['/'] names ++ ['/'] ++
            "**".toList) := by
    rw [Text.isPrefixOf?_eq_some_iff]
    simp [directoryPattern]
  rw [excludesBy, hRest, Option.any_some, Bool.or_eq_true,
    accepts_beginning_iff hLiteral, hWhole,
    accepts_middle_iff hBelow, List.infix_cons_iff,
    List.cons_prefix_cons]
  exact
    ⟨fun hEither => hEither.symm.imp_left (And.intro rfl),
      fun hEither => (hEither.imp_left And.right).symm⟩

theorem excludesBy_directoryPattern_joinWith_iff
    (hSome : names ≠ [])
    (hNames : ∀ name ∈ names, IsLiteralName name)
    {parts : List Text}
    (hPart : parts ≠ [])
    (hParts : ∀ part ∈ parts, '/' ∉ part) :
    excludesBy (Text.joinWith ['/'] parts)
        (directoryPattern names) = true ↔
      names <:+: parts.dropLast := by
  rw [excludesBy_directoryPattern_iff hNames]
  exact
    infix_components_iff hSome
      (fun name hName => (hNames name hName).plain) hParts
      hPart

/- A path is excluded for the names of its directories. -/
theorem excludes_place_iff
    (hSome : names ≠ [])
    (hNames : ∀ name ∈ names, IsLiteralName name)
    {place : List Text}
    (hPlace : place ≠ [])
    (hSegments : ∀ segment ∈ place, '/' ∉ segment) :
    excludes [directoryPattern names]
          (Text.joinWith ['/'] place) = true ↔
      names <:+: place.dropLast := by
  rw [excludes, List.any_cons, List.any_nil, Bool.or_false]
  exact
    excludesBy_directoryPattern_joinWith_iff hSome hNames
      hPlace hSegments

/-
  A directory is excluded for its own name as well: the slash
  put behind its path is an empty component at the end.
-/
theorem excludesDirectory_place_iff
    (hSome : names ≠ [])
    (hNames : ∀ name ∈ names, IsLiteralName name)
    {place : List Text}
    (hPlace : place ≠ [])
    (hSegments :
      ∀ segment ∈ place, segment ≠ [] ∧ '/' ∉ segment) :
    excludesDirectory [directoryPattern names]
          (Text.joinWith ['/'] place) = true ↔
      names <:+: place := by
  have hSlash :
      Text.joinWith ['/'] place ++ ['/'] =
        Text.joinWith ['/'] (place ++ [[]]) := by
    rw [Text.joinWith_append _ hPlace
      (List.cons_ne_nil _ _), Text.joinWith_singleton,
      List.append_nil]
  have hPlain :
      ∀ segment ∈ place ++ [[]], '/' ∉ segment := by
    intro segment hSegment
    rcases List.mem_append.mp hSegment with hIn | hLast
    · exact (hSegments segment hIn).2
    · rw [List.mem_singleton.mp hLast]
      exact List.not_mem_nil
  have hEnd :
      (Text.joinWith ['/'] place).getLast? ≠ some '/' :=
    Text.getLast?_joinWith_ne hSegments
  rw [excludesDirectory, dropEndWhile_of_no_slash hEnd,
    hSlash,
    excludes_place_iff hSome hNames (by simp) hPlain,
    List.dropLast_concat]

/-
  The pattern excludes what lies in directories of these
  names, and these directories.  A path or directory without
  a component of one of the names is not excluded, however
  its own names begin and end.
-/
theorem excludes_directoryPattern_iff
    (hSome : names ≠ [])
    (hNames : ∀ name ∈ names, IsLiteralName name)
    {place : List Text}
    (hPlace : place ≠ [])
    (hSegments :
      ∀ segment ∈ place, segment ≠ [] ∧ '/' ∉ segment) :
    (excludes [directoryPattern names]
          (Text.joinWith ['/'] place) = true ↔
        names <:+: place.dropLast) ∧
      (excludesDirectory [directoryPattern names]
            (Text.joinWith ['/'] place) = true ↔
          names <:+: place) ∧
        ((∃ name ∈ names, name ∉ place) →
          excludes [directoryPattern names]
                (Text.joinWith ['/'] place) = false ∧
            excludesDirectory [directoryPattern names]
                (Text.joinWith ['/'] place) = false) := by
  have hFile :=
    excludes_place_iff hSome hNames hPlace
      fun segment hSegment => (hSegments segment hSegment).2
  have hDirectory :=
    excludesDirectory_place_iff hSome hNames hPlace hSegments
  refine ⟨hFile, hDirectory, ?_⟩
  rintro ⟨name, hName, hMissing⟩
  rw [← Bool.not_eq_true, ← Bool.not_eq_true, hFile,
    hDirectory]
  exact
    ⟨fun hInfix =>
        hMissing
          (List.mem_of_mem_dropLast (hInfix.subset hName)),
      fun hInfix => hMissing (hInfix.subset hName)⟩

end Names

/- Two names, one directory below the top of the workspace. -/
theorem excludes_vendoredScripts :
    excludes
          [directoryPattern
            ["wwwroot".toList, "lib".toList]]
          "shop/wwwroot/lib/site.js".toList =
        true ∧
      excludesDirectory
            [directoryPattern
              ["wwwroot".toList, "lib".toList]]
            "shop/wwwroot/library".toList =
          false := by
  have hSome : ["wwwroot".toList, "lib".toList] ≠ [] :=
    List.cons_ne_nil _ _
  have hNames :
      ∀ name ∈ ["wwwroot".toList, "lib".toList],
        IsLiteralName name := by
    decide +kernel
  have hScript :
      ∀ segment ∈
          ["shop".toList, "wwwroot".toList, "lib".toList,
            "site.js".toList],
        segment ≠ [] ∧ '/' ∉ segment := by
    decide +kernel
  have hLibrary :
      ∀ segment ∈
          ["shop".toList, "wwwroot".toList,
            "library".toList],
        segment ≠ [] ∧ '/' ∉ segment := by
    decide +kernel
  have hFile :=
    (excludes_directoryPattern_iff hSome hNames
      (List.cons_ne_nil _ _) hScript).1
  have hOther :=
    (excludes_directoryPattern_iff hSome hNames
      (List.cons_ne_nil _ _) hLibrary).2.2
  exact
    ⟨hFile.mpr (by decide +kernel),
      (hOther ⟨"lib".toList, by decide +kernel⟩).2⟩

end Glob

end RouteAtlas
