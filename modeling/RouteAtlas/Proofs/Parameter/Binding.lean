import Mathlib
import RouteAtlas.Endpoint.Parameter
import RouteAtlas.Proofs.Layout.Basic
import RouteAtlas.Proofs.Route.PathParameters

/-
  Where the value of a parameter comes from.

  Without an attribute that binds it, a parameter is bound
  to the path exactly if the route has a placeholder of its
  name, up to letter case.  The verb decides for all others.

  Main statements:
    * `find?_readBinding_eq_none`
    * `bind_path_iff_and_verb`
-/

------------------------------------------------------------
-- Binding Attributes
------------------------------------------------------------

namespace RouteAtlas

namespace ParameterSource

open Text

/- The attributes that bind a parameter. -/
def bindingAttributes : List Text :=
  ["FromQuery".toList, "FromBody".toList,
   "FromHeader".toList, "FromRoute".toList]

theorem bindingAttributes_eq :
    bindingAttributes =
      bindingWords.map fun (word, _) =>
        "From".toList ++ word := by
  decide

/- A binding attribute is read as a whole word. -/
theorem readBinding_split
    {previous : Option Char}
    {t : Text}
    {source : ParameterSource}
    (hRead : readBinding previous t = some source) :
    ∃ word ∈ bindingAttributes, ∃ after,
      t = word ++ after ∧
        wordMayStart previous = true ∧
        wordEndsAt after = true := by
  unfold readBinding at hRead
  split at hRead
  next hStart =>
    rw [Option.bind_eq_bind, Option.bind_eq_some_iff] at hRead
    rcases hRead with ⟨rest, hFrom, hFound⟩
    rcases List.exists_of_findSome?_eq_some hFound with
      ⟨⟨word, named⟩, hWord, hSome⟩
    cases hAfter : word.isPrefixOf? rest with
    | none => simp [hAfter] at hSome
    | some after =>
        have hEnds : wordEndsAt after = true := by
          by_contra hGoesOn
          simp [hAfter, hGoesOn] at hSome
        refine
          ⟨"From".toList ++ word, ?_, after, ?_, hStart, hEnds⟩
        · rw [bindingAttributes_eq]
          exact List.mem_map_of_mem hWord
        · rw [isPrefixOf?_eq_some_iff.mp hFrom,
            isPrefixOf?_eq_some_iff.mp hAfter,
            List.append_assoc]
  next => simp at hRead

/- A text without one of them as a whole word binds nothing. -/
theorem find?_readBinding_eq_none
    {t : Text}
    (hUnbound : ¬Layout.HoldsWhole bindingAttributes t) :
    find? readBinding t = none := by
  apply find?_eq_none
  intro before rest hText
  cases hRead : readBinding before.getLast? rest with
  | none => rfl
  | some source =>
      rcases readBinding_split hRead with
        ⟨word, hWord, after, hRest, hStart, hEnds⟩
      exact absurd
        ⟨before, word, hWord, after, by rw [hText, hRest],
          hStart, hEnds⟩
        hUnbound

end ParameterSource

------------------------------------------------------------
-- Parameters
------------------------------------------------------------

namespace FormalParameter

open ParameterSource Template Text

theorem bind_of_unbound
    {parameter : FormalParameter}
    (hUnbound :
      ¬Layout.HoldsWhole bindingAttributes
        parameter.attributes)
    (verb : HttpVerb)
    (pathParameters : List Text) :
    parameter.bind verb pathParameters =
      if lower parameter.name ∈ pathParameters then .path
      else .ofVerb verb := by
  unfold bind
  rw [find?_readBinding_eq_none hUnbound]
  simp

/- No verb binds to the path. -/
theorem ofVerb_ne_path
    (verb : HttpVerb) :
    ParameterSource.ofVerb verb ≠ .path := by
  cases verb <;> decide

/-
  The path parameters of a route are the lower-cased names
  of its placeholders, in order.  So a parameter that no
  attribute binds is bound to the path exactly if one of
  them is its own lower-cased name, and otherwise to the
  query or the body, as the verb has it.
-/
theorem bind_path_iff_and_verb
    (pieces : List PathPiece)
    {parameter : FormalParameter}
    (hUnbound :
      ¬Layout.HoldsWhole bindingAttributes
        parameter.attributes)
    (verb : HttpVerb) :
    pathParameters (path pieces) = (names pieces).map lower ∧
      (parameter.bind verb (pathParameters (path pieces)) =
          .path ↔
        lower parameter.name ∈ (names pieces).map lower) ∧
      (lower parameter.name ∉ (names pieces).map lower →
        parameter.bind verb (pathParameters (path pieces)) =
          match verb with
          | .get | .delete | .any => .query
          | .post | .put => .body) := by
  have hNames := pathParameters_path pieces
  rw [hNames, bind_of_unbound hUnbound]
  refine ⟨rfl, ?_, ?_⟩
  · constructor
    · intro hPath
      by_contra hOther
      rw [if_neg hOther] at hPath
      exact ofVerb_ne_path verb hPath
    · intro hNamed
      exact if_pos hNamed
  · intro hOther
    rw [if_neg hOther]
    cases verb <;> rfl

/- An order, and whatever follows its line. -/
def orderPath : List PathPiece :=
  [.literal "/orders/".toList (by decide),
   .placeholder
     { stars := 0
       name := "orderId".toList
       nonempty := by decide
       isWord := List.all_eq_true.mp (by decide)
       options := ":regex(^\x7b[A-Z]+)=AB".toList
       apart := by decide
       unclosed := by decide },
   .literal "/".toList (by decide),
   .placeholder
     { stars := 2
       name := "Rest".toList
       nonempty := by decide
       isWord := List.all_eq_true.mp (by decide)
       options := []
       apart := by decide
       unclosed := by decide }]

/- The name is found in any letter case, no other one is. -/
theorem bind_orderPath :
    let orderId : FormalParameter :=
      ⟨"[Required] ".toList, "string".toList,
        "OrderID".toList, false⟩
    ¬Layout.HoldsWhole bindingAttributes orderId.attributes ∧
      path orderPath =
        ("/orders/\x7borderId:regex(^\x7b[A-Z]+)=AB\x7d/".toList ++
          "\x7b**Rest\x7d".toList) ∧
      pathParameters (path orderPath) =
        ["orderid".toList, "rest".toList] ∧
      orderId.bind .post (pathParameters (path orderPath)) =
        .path ∧
      { orderId with name := "order".toList }.bind .post
          (pathParameters (path orderPath)) =
        .body := by
  intro orderId
  have hUnbound :
      ¬Layout.HoldsWhole bindingAttributes
        orderId.attributes := by
    rintro ⟨before, word, hWord, after, hText, -⟩
    have hLetter : 'F' ∈ word := by
      have hAll :
          bindingAttributes.all ('F' ∈ ·) = true := by
        decide
      simpa using List.all_eq_true.mp hAll word hWord
    have hHere : 'F' ∈ orderId.attributes := by
      rw [hText]
      simp [hLetter]
    exact absurd hHere (by decide)
  have hNamed :=
    bind_path_iff_and_verb orderPath hUnbound .post
  have hOther :=
    bind_path_iff_and_verb orderPath
      (show
        ¬Layout.HoldsWhole bindingAttributes
          { orderId with name := "order".toList }.attributes
        from hUnbound)
      .post
  refine ⟨hUnbound, by decide, ?_, ?_, ?_⟩
  · exact hNamed.1.trans (by decide +kernel)
  · exact hNamed.2.1.mpr (by decide +kernel)
  · exact hOther.2.2 (by decide +kernel)

end FormalParameter

end RouteAtlas
