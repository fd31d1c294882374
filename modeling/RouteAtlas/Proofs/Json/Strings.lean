import Mathlib
import RouteAtlas.Json.Reader
import RouteAtlas.Json.Writer

/-
  Strings read back as they were written.

  Every character of a string is written so that one step of
  the reader takes it and leaves its code point; no code
  point is a surrogate, so none are joined.

  Main statements:
    * `readUnits_escapeChar`
    * `joinUnits_toNat`
    * `readString_quoted`
-/

------------------------------------------------------------
-- Characters
------------------------------------------------------------

namespace RouteAtlas

namespace Json

/- What is read before some other code units. -/
def withUnit
    (unit : Nat)
    (read : Option (List Nat × Text)) :
    Option (List Nat × Text) :=
  read.map fun (units, rest) => (unit :: units, rest)

/- The digits of a control character are read back. -/
theorem codeUnit?_hexDigit
    {n : Nat}
    (hControl : n < 0x20) :
    codeUnit? '0' '0' (hexDigit (n / 16)) (hexDigit (n % 16)) =
      some n := by
  have hTable :
      ∀ n < 0x20,
        codeUnit? '0' '0' (hexDigit (n / 16))
            (hexDigit (n % 16)) =
          some n := by
    decide +kernel
  exact hTable n hControl

/- A backslash and a letter stand for one character. -/
theorem readUnits_escaped
    {letter c : Char}
    (hLetter : letter ≠ 'u')
    (hEscaped : escaped? letter = some c)
    (rest : Text) :
    readUnits ('\\' :: letter :: rest) =
      withUnit c.toNat (readUnits rest) := by
  rw [readUnits]
  · rw [hEscaped]
    cases readUnits rest with
    | none => rfl
    | some read => rfl
  · intro a b c d tail hSame
    exact absurd hSame hLetter

/- A character is read as it is written. -/
theorem readUnits_escapeChar
    (c : Char)
    (rest : Text) :
    readUnits (escapeChar c ++ rest) =
      withUnit c.toNat (readUnits rest) := by
  by_cases hQuote : c = '"'
  · subst hQuote
    exact readUnits_escaped (by decide) rfl rest
  by_cases hSlash : c = '\\'
  · subst hSlash
    exact readUnits_escaped (by decide) rfl rest
  by_cases hFeed : c = '\n'
  · subst hFeed
    exact readUnits_escaped (by decide) rfl rest
  by_cases hReturn : c = '\r'
  · subst hReturn
    exact readUnits_escaped (by decide) rfl rest
  by_cases hTab : c = '\t'
  · subst hTab
    exact readUnits_escaped (by decide) rfl rest
  by_cases hBack : c = '\x08'
  · subst hBack
    exact readUnits_escaped (by decide) rfl rest
  by_cases hForm : c = '\x0c'
  · subst hForm
    exact readUnits_escaped (by decide) rfl rest
  by_cases hControl : c.toNat < 0x20
  · have hWritten :
        escapeChar c =
          ['\\', 'u', '0', '0', hexDigit (c.toNat / 16),
            hexDigit (c.toNat % 16)] := by
      simp [escapeChar, hQuote, hSlash, hFeed, hReturn,
        hTab, hBack, hForm, hControl]
    rw [hWritten]
    simp only [List.cons_append, List.nil_append, readUnits,
      codeUnit?_hexDigit hControl]
    cases readUnits rest with
    | none => rfl
    | some read => rfl
  · have hWritten : escapeChar c = [c] := by
      simp [escapeChar, hQuote, hSlash, hFeed, hReturn,
        hTab, hBack, hForm, hControl]
    rw [hWritten, List.cons_append, List.nil_append,
      readUnits]
    · simp [hControl, hSlash, withUnit]
    · exact hQuote
    · intro a b c' d tail hSame
      exact absurd hSame hSlash
    · intro c' tail hSame
      exact absurd hSame hSlash

------------------------------------------------------------
-- Strings
------------------------------------------------------------

/- A string is read up to the quote behind it. -/
theorem readUnits_quoted
    (t rest : Text) :
    readUnits (t.flatMap escapeChar ++ '"' :: rest) =
      some (t.map Char.toNat, rest) := by
  induction t with
  | nil => rfl
  | cons c t ih =>
      rw [List.flatMap_cons, List.append_assoc,
        readUnits_escapeChar, ih]
      rfl

theorem unitChar_toNat
    (c : Char) :
    unitChar c.toNat = c := by
  have hRange :
      c.toNat < 0xD800 ∨
        0xDFFF < c.toNat ∧ c.toNat < 0x110000 :=
    c.valid
  have hCharacter :
      ¬(0xD800 ≤ c.toNat ∧ c.toNat ≤ 0xDFFF) := by
    omega
  unfold unitChar
  simp [hCharacter]

/- Code points of characters are joined to themselves. -/
theorem joinUnits_toNat
    (t : Text) :
    joinUnits (t.map Char.toNat) = t := by
  induction t with
  | nil => rfl
  | cons c t ih =>
      cases t with
      | nil =>
          simp [joinUnits, unitChar_toNat]
      | cons d t =>
          have hRange :
              c.toNat < 0xD800 ∨
                0xDFFF < c.toNat ∧ c.toNat < 0x110000 :=
            c.valid
          have hHigh :
              ¬(0xD800 ≤ c.toNat ∧ c.toNat ≤ 0xDBFF) := by
            omega
          rw [List.map_cons, List.map_cons, joinUnits]
          rw [List.map_cons] at ih
          simp only [ih, unitChar_toNat]
          simp only [Bool.and_eq_true, decide_eq_true_eq]
          rw [if_neg]
          rintro ⟨⟨⟨hLow, hTop⟩, -⟩, -⟩
          exact hHigh ⟨hLow, hTop⟩

/- A quoted string is read behind its opening quote. -/
theorem readString_quoted
    (t rest : Text) :
    readString (t.flatMap escapeChar ++ '"' :: rest) =
      some (t, rest) := by
  unfold readString
  rw [readUnits_quoted]
  simp only [Option.map_some, joinUnits_toNat]

end Json

end RouteAtlas
