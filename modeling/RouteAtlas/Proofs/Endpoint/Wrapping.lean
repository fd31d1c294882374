import Mathlib
import RouteAtlas.Endpoint.Basic
import RouteAtlas.Proofs.Parameter.Collapsed
import RouteAtlas.Proofs.Signature.CapturedLines

/-
  Parameters of wrapped declarations.

  The parameters of an action do not depend on how its
  parameter list is laid out: it may stand on one line, or
  on as many lines as a capture reads below, with any blanks
  around the breaks.

  Main statement:
    * `parametersAt_wrapped`
-/

------------------------------------------------------------
-- Wrapped Declarations
------------------------------------------------------------

namespace RouteAtlas

namespace Endpoint

open Text Signature
open Sections.Gap (spaces)

/- Texts that differ in their runs are read alike. -/
theorem filterMap_of_collapsed
    {read : Text → Option Parameter}
    (hRead : ∀ part, read (collapseBlanks part) = read part)
    {parts parts' : List Text}
    (hParts :
      parts.map collapseBlanks = parts'.map collapseBlanks) :
    parts.filterMap read = parts'.filterMap read := by
  have hCollapsed :
      ∀ texts : List Text,
        texts.filterMap read =
          (texts.map collapseBlanks).filterMap read := by
    intro texts
    rw [List.filterMap_map]
    congr 1
    funext part
    exact (hRead part).symm
  rw [hCollapsed parts, hCollapsed parts', hParts]

/-
  A declaration whose list is wrapped at no more lines than
  a capture reads has the parameters it has on one line.
-/
theorem parametersAt_wrapped
    (settings : Settings)
    (action : Controller.Action)
    (wrapping : Wrapping)
    (hBalanced :
      StaysOpen wrapping.text ∧ depth wrapping.text = 0)
    (hWindow :
      wrapping.rest.length ≤ settings.signatureWindow)
    (before after : Text)
    (hParen : action.method.openParen = before.length)
    (position position' : Source.Position)
    (hLine : position.line = wrapping.line before after)
    (others : List Text)
    (hLines :
      position'.line :: position'.below =
        wrapping.lines before after ++ others) :
    parametersAt settings action position' =
      parametersAt settings action position := by
  -- On one line the list is one that is never broken.
  have hWhole :
      position.line :: position.below =
        wrapping.whole.lines before after ++
          position.below := by
    rw [hLine, Wrapping.lines_whole]
    rfl
  have hCaptured :=
    wrapping.whole.parameterList_captureFrom
      (by simpa using hBalanced)
      (Nat.zero_le settings.signatureWindow) hWhole
  have hCaptured' :=
    wrapping.parameterList_captureFrom hBalanced hWindow hLines
  unfold parametersAt
  simp only [hParen, hCaptured', hCaptured,
    Wrapping.captured_whole]
  apply filterMap_of_collapsed _ wrapping.collapsed_split
  intro part
  rw [FormalParameter.ofText?_collapseBlanks]
  cases FormalParameter.ofText? part with
  | none => rfl
  | some formal =>
      simp only [Option.map_some, Option.bind_eq_bind,
        Option.bind_some, FormalParameter.bind_collapsed]
      rfl

/-
  A list broken behind its opening parenthesis, between type
  arguments, behind a comma and before its closing
  parenthesis.
-/
def filterWrapping : Wrapping where
  first := []
  rest :=
    [(⟨spaces 0, spaces 0, spaces 8⟩,
        "[FromQuery] Dictionary<string,".toList),
      (⟨spaces 1, spaces 2, spaces 12⟩,
        "int> filter,".toList),
      (⟨spaces 0, spaces 0, spaces 8⟩,
        "int page = 1".toList),
      (⟨spaces 0, spaces 0, spaces 4⟩, [])]
  mayBreak := by
    have hComma :
        EndsParameter
          "[FromQuery] Dictionary<string, int> filter,".toList :=
      ⟨"[FromQuery] Dictionary<string, int> filter".toList,
        rfl, rfl⟩
    exact
      ⟨Or.inr (Or.inl rfl), Or.inl (by decide),
        Or.inr (Or.inr (Or.inl hComma)),
        Or.inr (Or.inr (Or.inr rfl)), trivial⟩

/- The action that it belongs to. -/
def filterAction : Controller.Action where
  method := ⟨"Find".toList, "int".toList, 4, 19⟩
  verb := .get
  fragment := none
  path := "/orders".toList

/- Its declaration on one line. -/
def filterLine : Text :=
  ("    public int Find([FromQuery] Dictionary<string, " ++
    "int> filter,int page = 1) => page;").toList

/- The lines below the first one when the list is wrapped. -/
def filterLines : List Text :=
  ["        [FromQuery] Dictionary<string,  ".toList,
    "            int> filter,".toList,
    "        int page = 1".toList,
    "    ) => page;".toList]

/- Both are read as two parameters. -/
theorem parametersAt_filterLines :
    parametersAt Settings.default filterAction
          ⟨7, [], "    public int Find(".toList, filterLines⟩ =
        parametersAt Settings.default filterAction
          ⟨7, [], filterLine, []⟩ ∧
      parametersAt Settings.default filterAction
          ⟨7, [], filterLine, []⟩ =
        [⟨"filter".toList, "Dictionary<string, int>".toList,
            .query, true⟩,
          ⟨"page".toList, "int".toList, .query, true⟩] := by
  have hPassed :
      closedPart ⟨1, true⟩ filterWrapping.text =
        .error ⟨1, true⟩ := by
    decide +kernel
  have hSame :=
    parametersAt_wrapped Settings.default filterAction
      filterWrapping (passed_iff.mp hPassed) (by decide)
      "    public int Find".toList " => page;".toList
      (by decide)
      ⟨7, [], filterLine, []⟩
      ⟨7, [], "    public int Find(".toList, filterLines⟩
      (by decide +kernel) [] (by decide +kernel)
  exact ⟨hSame, by decide +kernel⟩

end Endpoint

end RouteAtlas
