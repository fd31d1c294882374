import Mathlib
import RouteAtlas.Glob
import RouteAtlas.Proofs.Source.Code
import RouteAtlas.Proofs.Text.Split
import RouteAtlas.Proofs.Text.Words

/-
  What glob patterns match.

  Matching computes, for all ends of a text at once, whether
  the parts of a pattern match them.  It accepts just the
  texts that the parts can be laid out along: a star on any
  stretch, every other part on one character.

  A pattern that ends with a star has it as its last part,
  since no set ends that way.  So it matches whatever begins
  with a text that it matches, and if it excludes a
  directory, it excludes all that lies below.

  Main definitions:
    * `Glob.Matches`
    * `Glob.EndsInStar`

  Main statements:
    * `accepts_iff_matches`
    * `tokens_of_endsInStar`
    * `excludes_below`
-/

------------------------------------------------------------
-- Ends
------------------------------------------------------------

namespace RouteAtlas

namespace Glob

/- Whether the parts match the whole text. -/
def fits
    (tokens : List Token)
    (t : Text) :
    Bool :=
  (matchEnds tokens t).headD false

theorem anyLater_cons
    (b : Bool)
    (ends : List Bool) :
    anyLater (b :: ends) =
      (b || (anyLater ends).headD false) :: anyLater ends := by
  rw [anyLater]
  cases anyLater ends with
  | nil => simp
  | cons later more => rfl

/- Every part but a star stands for one character. -/
theorem matchEnds_of_ne_anyRun
    {token : Token}
    (hToken : token ≠ .anyRun)
    (tokens : List Token)
    (t : Text) :
    matchEnds (token :: tokens) t =
      (t.zip (matchEnds tokens t).tail).map
          (fun (c, later) => token.matchesChar c && later) ++
        [false] := by
  cases token with
  | anyRun => exact absurd rfl hToken
  | anyChar => rfl
  | char d => rfl
  | set negated members => rfl

theorem matchEnds_nil
    (tokens : List Token) :
    matchEnds tokens [] = [fits tokens []] := by
  have hSingle : ∃ b, matchEnds tokens [] = [b] := by
    induction tokens with
    | nil => exact ⟨true, rfl⟩
    | cons token tokens ih =>
        by_cases hToken : token = .anyRun
        · rcases ih with ⟨b, hEnds⟩
          subst hToken
          exact ⟨b, by rw [matchEnds, hEnds]; rfl⟩
        · exact
            ⟨false, matchEnds_of_ne_anyRun hToken tokens []⟩
  rcases hSingle with ⟨b, hEnds⟩
  rw [fits, hEnds]
  rfl

/-
  By induction on the parts: behind the answer for the whole
  text come those for its end.
-/
theorem matchEnds_cons
    (tokens : List Token)
    (c : Char)
    (t : Text) :
    matchEnds tokens (c :: t) =
      fits tokens (c :: t) :: matchEnds tokens t := by
  have hFirst :
      ∃ b,
        matchEnds tokens (c :: t) =
          b :: matchEnds tokens t := by
    induction tokens generalizing c t with
    | nil => exact ⟨false, rfl⟩
    | cons token tokens ih =>
        rcases ih c t with ⟨b, hEnds⟩
        by_cases hToken : token = .anyRun
        · subst hToken
          rw [matchEnds, matchEnds, hEnds, anyLater_cons]
          exact ⟨_, rfl⟩
        · rw [matchEnds_of_ne_anyRun hToken,
            matchEnds_of_ne_anyRun hToken, hEnds,
            List.tail_cons]
          cases t with
          | nil =>
              rw [matchEnds_nil]
              exact ⟨_, rfl⟩
          | cons d t =>
              rcases ih d t with ⟨later, hLater⟩
              rw [hLater]
              exact ⟨_, rfl⟩
  rcases hFirst with ⟨b, hEnds⟩
  rw [fits, hEnds]
  rfl

------------------------------------------------------------
-- Parts One by One
------------------------------------------------------------

section Fits

variable {token : Token}
variable (tokens : List Token)
variable (c : Char)
variable (t : Text)

theorem fits_anyRun_nil :
    fits (.anyRun :: tokens) [] = fits tokens [] := by
  rw [fits, matchEnds, matchEnds_nil]
  rfl

/- A star takes nothing, or one character more. -/
theorem fits_anyRun_cons :
    fits (.anyRun :: tokens) (c :: t) =
      (fits tokens (c :: t) || fits (.anyRun :: tokens) t) := by
  rw [fits, matchEnds, matchEnds_cons, anyLater_cons]
  rfl

theorem fits_nil_of_ne_anyRun
    (hToken : token ≠ .anyRun) :
    fits (token :: tokens) [] = false := by
  rw [fits, matchEnds_of_ne_anyRun hToken]
  rfl

theorem fits_cons_of_ne_anyRun
    (hToken : token ≠ .anyRun) :
    fits (token :: tokens) (c :: t) =
      (token.matchesChar c && fits tokens t) := by
  rw [fits, matchEnds_of_ne_anyRun hToken, matchEnds_cons,
    List.tail_cons]
  cases t with
  | nil =>
      rw [matchEnds_nil]
      rfl
  | cons d t =>
      rw [matchEnds_cons]
      rfl

end Fits

------------------------------------------------------------
-- Matching
------------------------------------------------------------

/-
  Whether parts can be laid out along a text: a star on any
  stretch, and every other part on one character.
-/
inductive Matches :
    List Token → Text → Prop
  | done : Matches [] []
  | run
      {tokens : List Token}
      {t : Text}
      (stretch : Text)
      (rest : Matches tokens t) :
      Matches (.anyRun :: tokens) (stretch ++ t)
  | one
      {token : Token}
      {tokens : List Token}
      {c : Char}
      {t : Text}
      (char : token.matchesChar c = true)
      (rest : Matches tokens t) :
      Matches (token :: tokens) (c :: t)

theorem matches_of_fits
    {tokens : List Token}
    {t : Text}
    (hFits : fits tokens t = true) :
    Matches tokens t := by
  induction tokens generalizing t with
  | nil =>
      cases t with
      | nil => exact .done
      | cons c t => cases hFits
  | cons token tokens ih =>
      by_cases hToken : token = .anyRun
      · subst hToken
        -- The star grows from the end of the text.
        induction t with
        | nil =>
            rw [fits_anyRun_nil] at hFits
            exact .run [] (ih hFits)
        | cons c t ihText =>
            rw [fits_anyRun_cons, Bool.or_eq_true] at hFits
            rcases hFits with hHere | hLater
            · exact .run [] (ih hHere)
            · cases ihText hLater with
              | run stretch rest =>
                  exact .run (c :: stretch) rest
              | one char rest => cases char
      · cases t with
        | nil =>
            rw [fits_nil_of_ne_anyRun tokens hToken] at hFits
            cases hFits
        | cons c t =>
            rw [fits_cons_of_ne_anyRun tokens c t hToken,
              Bool.and_eq_true] at hFits
            exact .one hFits.1 (ih hFits.2)

theorem fits_of_matches
    {tokens : List Token}
    {t : Text}
    (hMatches : Matches tokens t) :
    fits tokens t = true := by
  induction hMatches with
  | done => rfl
  | @run tokens t stretch rest ih =>
      induction stretch with
      | nil =>
          cases t with
          | nil => exact (fits_anyRun_nil tokens).trans ih
          | cons c t =>
              rw [List.nil_append, fits_anyRun_cons, ih]
              rfl
      | cons c stretch ihStretch =>
          rw [List.cons_append, fits_anyRun_cons, ihStretch,
            Bool.or_true]
  | @one token tokens c t char rest ih =>
      have hToken : token ≠ .anyRun := by
        rintro rfl
        cases char
      rw [fits_cons_of_ne_anyRun tokens c t hToken, char, ih]
      rfl

theorem accepts_iff_matches
    {pattern t : Text} :
    accepts pattern t = true ↔ Matches (tokens pattern) t :=
  ⟨matches_of_fits, fits_of_matches⟩

------------------------------------------------------------
-- A Star at the End
------------------------------------------------------------

/- What ends with a star matches longer texts as well. -/
theorem Matches.append
    {tokens : List Token}
    {t : Text}
    (hMatches : Matches (tokens ++ [.anyRun]) t)
    (more : Text) :
    Matches (tokens ++ [.anyRun]) (t ++ more) := by
  induction tokens generalizing t with
  | nil =>
      have hAll := Matches.run (t ++ more) .done
      rwa [List.append_nil] at hAll
  | cons token tokens ih =>
      rw [List.cons_append] at hMatches ⊢
      cases hMatches with
      | run stretch rest =>
          rw [List.append_assoc]
          exact .run stretch (ih rest)
      | one char rest => exact .one char (ih rest)

/- Whether the last character of a pattern is a star. -/
def EndsInStar
    (pattern : Text) :
    Prop :=
  pattern.getLast? = some '*'

instance (pattern : Text) : Decidable (EndsInStar pattern) :=
  inferInstanceAs (Decidable (_ = _))

theorem EndsInStar.of_append
    (front : Text)
    {back : Text}
    (hStar : EndsInStar (front ++ back))
    (hBack : back ≠ []) :
    EndsInStar back := by
  unfold EndsInStar at hStar ⊢
  rwa [List.getLast?_append_of_ne_nil _ hBack] at hStar

theorem EndsInStar.of_cons
    {c : Char}
    {rest : Text}
    (hStar : EndsInStar (c :: rest))
    (hRest : rest ≠ []) :
    EndsInStar rest :=
  of_append [c] hStar hRest

/- A bracket that closes a set stands behind its text. -/
theorem closed_split
    (front : Text)
    {t body rest : Text}
    (hBody :
      (Text.after? ']' t).map
          (fun rest => (front ++ Text.before ']' t, rest)) =
        some (body, rest)) :
    front ++ t = body ++ ']' :: rest := by
  rcases Option.map_eq_some_iff.mp hBody with
    ⟨tail, hAfter, hPair⟩
  rcases Text.after?_split hAfter with ⟨inner, rfl, hInner⟩
  rw [Text.before_append hInner, Prod.mk.injEq] at hPair
  rw [← hPair.1, ← hPair.2, List.append_assoc]

theorem setBody?_split
    {t body rest : Text}
    (hBody : setBody? t = some (body, rest)) :
    t = body ++ ']' :: rest := by
  unfold setBody? at hBody
  dsimp only at hBody
  split at hBody
  next marked =>
    split at hBody
    next after hBracket =>
      have hMarked : marked = ']' :: after := hBracket
      rw [hMarked]
      exact closed_split ['!', ']'] hBody
    next => exact closed_split ['!'] hBody
  next =>
    split at hBody
    next hBracket => exact hBracket.trans (closed_split [']'] hBody)
    next => exact closed_split [] hBody

/- A part is read, and with it the set that it may be. -/
theorem exists_tokensFrom_cons
    (c : Char)
    (rest : Text) :
    ∃ token skip,
      tokensFrom 0 (c :: rest) =
          token :: tokensFrom skip rest ∧
        (c = '*' → token = .anyRun) ∧
          (skip = 0 ∨
            ∃ body tail,
              rest = body ++ ']' :: tail ∧
                skip = body.length + 1) := by
  by_cases hStar : c = '*'
  · subst hStar
    exact ⟨_, 0, rfl, fun _ => rfl, .inl rfl⟩
  · by_cases hSet : c = '['
    · subst hSet
      cases hBody : setBody? rest with
      | none =>
          exact
            ⟨_, 0, by rw [tokensFrom, hBody], nofun, .inl rfl⟩
      | some pair =>
          rcases pair with ⟨body, tail⟩
          exact
            ⟨_, body.length + 1, by rw [tokensFrom, hBody],
              nofun,
              .inr ⟨body, tail, setBody?_split hBody, rfl⟩⟩
    · by_cases hAny : c = '?'
      · subst hAny
        exact ⟨_, 0, rfl, nofun, .inl rfl⟩
      · refine
          ⟨.char c, 0, ?_, fun hSame => absurd hSame hStar,
            .inl rfl⟩
        rw [tokensFrom]
        · exact hStar
        · exact hAny
        · exact hSet

/-
  By induction on the pattern: a set that is read leaves at
  least the star behind its bracket.
-/
theorem exists_tokensFrom_of_endsInStar
    {skip : Nat}
    {pattern : Text}
    (hStar : EndsInStar pattern)
    (hSkip : skip < pattern.length) :
    ∃ front,
      tokensFrom skip pattern = front ++ [.anyRun] := by
  induction pattern generalizing skip with
  | nil => cases hSkip
  | cons c pattern ih =>
      cases skip with
      | succ skip =>
          have hRest : skip < pattern.length :=
            Nat.lt_of_succ_lt_succ hSkip
          have hSome : pattern ≠ [] :=
            List.ne_nil_of_length_pos (Nat.zero_lt_of_lt hRest)
          exact ih (hStar.of_cons hSome) hRest
      | zero =>
          rcases exists_tokensFrom_cons c pattern with
            ⟨token, skip, hTokens, hRun, hRead⟩
          rw [hTokens]
          by_cases hEnd : pattern = []
          · subst hEnd
            have hChar : c = '*' := Option.some.inj hStar
            rw [hRun hChar]
            exact ⟨[], by cases skip <;> rfl⟩
          · have hRest : skip < pattern.length := by
              rcases hRead with rfl | ⟨body, tail, rfl, rfl⟩
              · exact List.length_pos_of_ne_nil hEnd
              · have hTail : tail ≠ [] := by
                  rintro rfl
                  exact absurd (hStar.of_cons hEnd)
                    (by simp [EndsInStar])
                have hLength := List.length_pos_of_ne_nil hTail
                rw [List.length_append, List.length_cons]
                omega
            rcases ih (hStar.of_cons hEnd) hRest with
              ⟨front, hFront⟩
            exact ⟨token :: front, by rw [hFront]; rfl⟩

/- A pattern that ends with a star has it as its last part. -/
theorem tokens_of_endsInStar
    {pattern : Text}
    (hStar : EndsInStar pattern) :
    ∃ front, tokens pattern = front ++ [.anyRun] := by
  have hSome : pattern ≠ [] := by
    rintro rfl
    cases hStar
  exact
    exists_tokensFrom_of_endsInStar hStar
      (List.length_pos_of_ne_nil hSome)

theorem accepts_append
    {pattern t : Text}
    (hStar : EndsInStar pattern)
    (hAccepts : accepts pattern t = true)
    (more : Text) :
    accepts pattern (t ++ more) = true := by
  rw [accepts_iff_matches] at hAccepts ⊢
  rcases tokens_of_endsInStar hStar with ⟨front, hTokens⟩
  rw [hTokens] at hAccepts ⊢
  exact hAccepts.append more

------------------------------------------------------------
-- Exclude Patterns
------------------------------------------------------------

/-
  A pattern that reaches the workspace root ends with a star
  also without what makes it match at any depth.
-/
theorem excludesBy_append
    {pattern t : Text}
    (hStar : EndsInStar pattern)
    (hExcludes : excludesBy t pattern = true)
    (more : Text) :
    excludesBy (t ++ more) pattern = true := by
  unfold excludesBy at hExcludes ⊢
  rw [Bool.or_eq_true] at hExcludes ⊢
  rcases hExcludes with hWhole | hInner
  · exact .inl (accepts_append hStar hWhole more)
  · right
    cases hRest : anyDepth.isPrefixOf? pattern with
    | none =>
        rw [hRest] at hInner
        cases hInner
    | some rest =>
        rw [hRest] at hInner
        have hPattern : pattern = anyDepth ++ rest :=
          Text.isPrefixOf?_eq_some_iff.mp hRest
        have hSome : rest ≠ [] := by
          rintro rfl
          rw [hPattern] at hStar
          exact absurd hStar (by decide)
        rw [hPattern] at hStar
        exact
          accepts_append
            (EndsInStar.of_append anyDepth hStar hSome) hInner
            more

/- Slashes behind a name are dropped, if there are any. -/
theorem dropEndWhile_of_no_slash
    {directory : Text}
    (hDirectory : directory.getLast? ≠ some '/') :
    Text.dropEndWhile (· == '/') directory = directory := by
  induction directory using List.reverseRecOn with
  | nil => rfl
  | append_singleton front c ih =>
      rw [List.getLast?_concat] at hDirectory
      apply Source.dropEndWhile_append
      exact
        beq_eq_false_iff_ne.mpr
          (mt (congrArg some) hDirectory)

/-
  A directory is tested with a slash behind its name, as the
  paths below it are written.
-/
theorem excludes_below
    {patterns : List Text}
    (hStars : ∀ pattern ∈ patterns, EndsInStar pattern)
    {directory : Text}
    (hDirectory : directory.getLast? ≠ some '/')
    (hExcludes : excludesDirectory patterns directory = true)
    (below : Text) :
    excludes patterns (directory ++ '/' :: below) = true := by
  unfold excludesDirectory at hExcludes
  rw [dropEndWhile_of_no_slash hDirectory] at hExcludes
  unfold excludes at hExcludes ⊢
  rcases List.any_eq_true.mp hExcludes with
    ⟨pattern, hPattern, hBy⟩
  have hBelow :=
    excludesBy_append (hStars pattern hPattern) hBy below
  rw [List.append_assoc] at hBelow
  exact List.any_eq_true.mpr ⟨pattern, hPattern, hBelow⟩

end Glob

end RouteAtlas
