import Mathlib
import RouteAtlas.Proofs.Layout.AttributeLine
import RouteAtlas.Proofs.Method.Headers

/-
  The other lines of a file: headers, braces and bodies.

  Only the header of a controller declares a class, and only
  that of an action a method.  The lines of an action leave
  the depth of braces as it was, so a body that holds actions
  closes at its own closing brace.

  Main statements:
    * `ActionBlock.classHeader?_eq_none`
    * `ActionBlock.methodHeader?_bodyLines`
    * `ActionBlock.through_lines`
    * `ControllerBlock.linesToClose_header`
-/

------------------------------------------------------------
-- Braces
------------------------------------------------------------

namespace RouteAtlas

namespace Layout

open Source Text

section BraceLine

variable {brace : Char}
variable (hBrace : brace = '{' ∨ brace = '}')
variable (indent : Nat)

include hBrace

theorem codeOnly_brace :
    codeOnly (indented indent [brace]) =
      indented indent [brace] := by
  apply codeOnly_of_plain
  · apply not_mem_indented (by decide)
    rcases hBrace with rfl | rfl <;> decide
  · apply not_mem_indented (by decide)
    rcases hBrace with rfl | rfl <;> decide

theorem isCommentLine_brace :
    isCommentLine (indented indent [brace]) = false := by
  rw [isCommentLine_indented]
  rcases hBrace with rfl | rfl <;> rfl

theorem solid_brace :
    ∀ c ∈ [brace], isBlank c = false := by
  rcases hBrace with rfl | rfl <;> simp <;> decide

theorem methodHeader?_brace :
    methodHeader? (indented indent [brace]) = none :=
  methodHeader?_eq_none
    (not_holdsSpaced_indented rfl (solid_brace hBrace)
      indent)

theorem classHeader?_brace :
    classHeader? (indented indent [brace]) = none :=
  classHeader?_eq_none
    (not_holdsSpaced_indented rfl (solid_brace hBrace)
      indent)

/- A brace stops the scan upwards. -/
theorem stopsScan_brace :
    stopsScan (indented indent [brace]) = true := by
  have hEnds :
      endsMember (codeOnly (indented indent [brace])) =
        true := by
    rw [codeOnly_brace hBrace]
    unfold indented
    rw [endsMember_append (solid_brace hBrace brace
      List.mem_cons_self)]
    rcases hBrace with rfl | rfl <;> rfl
  unfold stopsScan isMemberBoundary
  rw [hEnds, Bool.or_true, Bool.or_true]

theorem after_brace
    (state : Braces) :
    state.after (codeOnly (indented indent [brace])) =
      state.after [brace] := by
  have hSpaces :
      ∀ c, c ≠ ' ' → c ∉ List.replicate indent ' ' :=
    fun c hSpace hChar =>
      hSpace (List.eq_of_mem_replicate hChar)
  rw [codeOnly_brace hBrace]
  exact Braces.after_append (hSpaces _ (by decide))
    (hSpaces _ (by decide)) state [brace]

end BraceLine

------------------------------------------------------------
-- Headers
------------------------------------------------------------

theorem Name.not_mem_text
    (name : Name)
    {c : Char}
    (hChar : isWordChar c = false) :
    c ∉ name.text := by
  intro hMember
  rw [name.isWord c hMember] at hChar
  exact absurd hChar (by simp)

/- A header opens and closes no body. -/
theorem after_header
    {front back : Text}
    (name : Name)
    (hFront :
      ∀ c ∈ ['"', '/', '{', '}'], c ∉ front ∧ c ∉ back)
    (indent : Nat)
    (state : Braces) :
    state.after
        (codeOnly
          (indented indent (front ++ (name.text ++ back)))) =
      some state := by
  have hPlain :
      ∀ c ∈ ['"', '/', '{', '}'],
        c ∉ indented indent
          (front ++ (name.text ++ back)) := by
    intro c hMark
    have hWord : isWordChar c = false := by
      simp only [List.mem_cons, List.not_mem_nil, or_false]
        at hMark
      rcases hMark with rfl | rfl | rfl | rfl <;> decide
    have hSpace : c ≠ ' ' := by
      rintro rfl
      exact absurd hMark (by decide)
    apply not_mem_indented hSpace
    simp [hFront c hMark, name.not_mem_text hWord]
  rw [codeOnly_of_plain (hPlain _ (by simp))
    (hPlain _ (by simp))]
  exact Braces.after_of_no_brace (hPlain _ (by simp))
    (hPlain _ (by simp)) state

------------------------------------------------------------
-- Bodies
------------------------------------------------------------

/- A word before a blank stands there as a whole. -/
theorem holdsWhole_of_holdsSpaced
    {words : List Text}
    {t : Text}
    (hWords : words ⊆ declaringWords)
    (hHolds : HoldsSpaced words t) :
    HoldsWhole declaringWords t := by
  rcases hHolds with
    ⟨before, word, hWord, blank, after, hText, hStart,
      hBlank⟩
  refine
    ⟨before, word, hWords hWord, blank :: after, hText,
      hStart, ?_⟩
  simp [wordEndsAt, isWordChar_of_isBlank hBlank]

namespace BodyLine

theorem methodHeader?_text
    (row : BodyLine) :
    methodHeader? row.text = none := by
  apply methodHeader?_eq_none
  intro hHolds
  exact row.noDeclaration (holdsWhole_of_holdsSpaced
    (List.subset_cons_self _ _) hHolds)

theorem classHeader?_text
    (row : BodyLine) :
    classHeader? row.text = none := by
  apply classHeader?_eq_none
  intro hHolds
  refine row.noDeclaration
    (holdsWhole_of_holdsSpaced ?_ hHolds)
  simp [declaringWords]

/- A line of a body opens and closes nothing. -/
theorem after_text
    (row : BodyLine)
    (state : Braces) :
    state.after (codeOnly row.text) = some state := by
  have hCode := (codeOnly_of_no_quote row.noQuote).subset
  exact Braces.after_of_no_brace
    (fun hChar => row.noBrace.1 (hCode hChar))
    (fun hChar => row.noBrace.2 (hCode hChar)) state

end BodyLine

------------------------------------------------------------
-- Actions
------------------------------------------------------------

namespace ActionBlock

theorem methodHeader?_header
    (action : ActionBlock) :
    methodHeader? action.header =
      some
        ⟨action.name.text, "IActionResult".toList,
          action.indent,
          action.indent + (21 + action.name.text.length)⟩ :=
  methodHeader?_indented action.name.nonempty
    action.name.isWord action.indent

/- A body declares no method. -/
theorem methodHeader?_bodyLines
    (action : ActionBlock) :
    ∀ line ∈ action.bodyLines,
      methodHeader? line = none := by
  unfold bodyLines
  simp only [List.mem_cons, List.mem_append, List.mem_map,
    List.not_mem_nil, or_false]
  rintro line (rfl | ⟨row, -, rfl⟩ | rfl)
  · exact methodHeader?_brace (Or.inl rfl) _
  · exact row.methodHeader?_text
  · exact methodHeader?_brace (Or.inr rfl) _

/- An action declares no class. -/
theorem classHeader?_eq_none
    (action : ActionBlock) :
    ∀ line ∈ action.lines, classHeader? line = none := by
  unfold lines bodyLines
  simp only [List.mem_cons, List.mem_append, List.mem_map,
    List.not_mem_nil, or_false]
  rintro line
    (⟨row, -, rfl⟩ | rfl | rfl | ⟨row, -, rfl⟩ | rfl)
  · exact row.classHeader?_line
  · exact classHeader?_action action.name.isWord _
  · exact classHeader?_brace (Or.inl rfl) _
  · exact row.classHeader?_text
  · exact classHeader?_brace (Or.inr rfl) _

/- Within a body, an action leaves the depth as it was. -/
theorem through_lines
    (action : ActionBlock) :
    Braces.through ⟨1, true⟩ action.lines =
      some ⟨1, true⟩ := by
  have hAttributes :
      Braces.through ⟨1, true⟩
          (action.attributes.map (·.line)) =
        some ⟨1, true⟩ := by
    apply Braces.through_of_forall
    intro line hLine
    rcases List.mem_map.mp hLine with ⟨row, -, rfl⟩
    exact row.after_line _
  have hHeader :
      Braces.after ⟨1, true⟩ (codeOnly action.header) =
        some ⟨1, true⟩ :=
    after_header action.name (by simp) action.indent _
  have hBody :
      Braces.through ⟨2, true⟩ (action.body.map (·.text)) =
        some ⟨2, true⟩ := by
    apply Braces.through_of_forall
    intro line hLine
    rcases List.mem_map.mp hLine with ⟨row, -, rfl⟩
    exact row.after_text _
  unfold lines bodyLines
  rw [Braces.through_append hAttributes, Braces.through,
    hHeader, Option.bind_some, Braces.through,
    after_brace (Or.inl rfl)]
  change
    Braces.through ⟨2, true⟩
      (action.body.map (·.text) ++
        [indented action.closeIndent ['}']]) = _
  rw [Braces.through_append hBody, Braces.through,
    after_brace (Or.inr rfl)]
  rfl

end ActionBlock

------------------------------------------------------------
-- Controllers
------------------------------------------------------------

namespace ControllerBlock

theorem classHeader?_header
    (controller : ControllerBlock) :
    classHeader? controller.header =
      some ⟨controller.name.text, controller.indent⟩ :=
  classHeader?_indented controller.name.nonempty
    controller.name.isWord controller.indent

/- The body of a controller declares no class. -/
theorem classHeader?_bodyLines
    (controller : ControllerBlock) :
    ∀ line ∈ controller.bodyLines,
      classHeader? line = none := by
  unfold bodyLines
  simp only [List.mem_cons, List.mem_append,
    List.mem_flatMap, List.not_mem_nil, or_false]
  rintro line (rfl | ⟨action, -, hLine⟩ | rfl)
  · exact classHeader?_brace (Or.inl rfl) _
  · exact action.classHeader?_eq_none line hLine
  · exact classHeader?_brace (Or.inr rfl) _

/- By induction on the actions, none changes the depth. -/
theorem through_actions
    (actions : List ActionBlock) :
    Braces.through ⟨1, true⟩
        (actions.flatMap (·.lines)) =
      some ⟨1, true⟩ := by
  induction actions with
  | nil => rfl
  | cons action actions ih =>
      rw [List.flatMap_cons,
        Braces.through_append action.through_lines]
      exact ih

/- A body closes at its own closing brace. -/
theorem linesToClose_header
    (controller : ControllerBlock)
    (below : List Text) :
    linesToClose .start
        (controller.header ::
          (controller.bodyLines ++ below)) =
      (controller.actions.flatMap (·.lines)).length + 2 := by
  have hHeader :
      Braces.after .start (codeOnly controller.header) =
        some .start := by
    have hAfter :
        Braces.after .start
            (codeOnly
              (indented controller.indent
                ("public class ".toList ++
                  (controller.name.text ++ [])))) =
          some .start :=
      after_header controller.name (by simp)
        controller.indent .start
    rw [List.append_nil] at hAfter
    exact hAfter
  rw [linesToClose, hHeader]
  simp only
  unfold bodyLines
  rw [List.cons_append, linesToClose,
    after_brace (Or.inl rfl)]
  change
    linesToClose ⟨1, true⟩
        ((controller.actions.flatMap (·.lines) ++
          [indented controller.closeIndent ['}']]) ++
            below) + 1 + 1 = _
  rw [List.append_assoc,
    linesToClose_append (through_actions _),
    List.cons_append, linesToClose,
    after_brace (Or.inr rfl)]
  rfl

end ControllerBlock

------------------------------------------------------------
-- Line Ends
------------------------------------------------------------

/- Whether a text holds no end of a line. -/
def IsLine
    (t : Text) :
    Prop :=
  ∀ c ∈ t, endsLine c = false

theorem isLine_append
    {front back : Text}
    (hFront : IsLine front)
    (hBack : IsLine back) :
    IsLine (front ++ back) := by
  intro c hChar
  rcases List.mem_append.mp hChar with hChar | hChar
  · exact hFront c hChar
  · exact hBack c hChar

theorem isLine_of_solid
    {t : Text}
    (hSolid : ∀ c ∈ t, isBlank c = false) :
    IsLine t := by
  intro c hChar
  cases hEnds : endsLine c with
  | false => rfl
  | true =>
      have hBlank : isBlank c = true := by
        simp only [endsLine, Bool.or_eq_true, beq_iff_eq]
          at hEnds
        rcases hEnds with rfl | rfl <;> decide
      rw [hSolid c hChar] at hBlank
      exact absurd hBlank (by simp)

theorem isLine_indented
    {t : Text}
    (hLine : IsLine t)
    (indent : Nat) :
    IsLine (indented indent t) := by
  apply isLine_append _ hLine
  intro c hChar
  rw [List.eq_of_mem_replicate hChar]
  decide

theorem Name.isLine_text
    (name : Name) :
    IsLine name.text :=
  isLine_of_solid fun c hChar =>
    isBlank_of_isWordChar (name.isWord c hChar)

theorem AttributeLine.isLine_line
    (row : AttributeLine) :
    IsLine row.line :=
  isLine_indented (isLine_of_solid row.content.text_solid)
    row.indent

theorem isLine_brace
    {brace : Char}
    (hBrace : brace = '{' ∨ brace = '}')
    (indent : Nat) :
    IsLine (indented indent [brace]) :=
  isLine_indented (isLine_of_solid (solid_brace hBrace))
    indent

theorem ActionBlock.isLine_of_mem
    (action : ActionBlock) :
    ∀ line ∈ action.lines, IsLine line := by
  have hHeader : IsLine action.header := by
    apply isLine_indented
    apply isLine_append
    · simp [IsLine, endsLine]
    · exact isLine_append action.name.isLine_text
        (by simp [IsLine, endsLine])
  unfold lines bodyLines
  simp only [List.mem_cons, List.mem_append, List.mem_map,
    List.not_mem_nil, or_false]
  rintro line
    (⟨row, -, rfl⟩ | rfl | rfl | ⟨row, -, rfl⟩ | rfl)
  · exact row.isLine_line
  · exact hHeader
  · exact isLine_brace (Or.inl rfl) _
  · exact row.noLineEnd
  · exact isLine_brace (Or.inr rfl) _

/- No line of a controller holds the end of a line. -/
theorem ControllerBlock.isLine_of_mem
    (controller : ControllerBlock) :
    ∀ line ∈ controller.lines, IsLine line := by
  have hHeader : IsLine controller.header := by
    apply isLine_indented
    apply isLine_append _ controller.name.isLine_text
    simp [IsLine, endsLine]
  unfold lines bodyLines
  simp only [List.mem_cons, List.mem_append, List.mem_map,
    List.mem_flatMap, List.not_mem_nil, or_false]
  rintro line
    (⟨row, -, rfl⟩ | rfl | rfl | ⟨action, -, hLine⟩ | rfl)
  · exact row.isLine_line
  · exact hHeader
  · exact isLine_brace (Or.inl rfl) _
  · exact action.isLine_of_mem line hLine
  · exact isLine_brace (Or.inr rfl) _

end Layout

end RouteAtlas
