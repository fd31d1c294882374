/-
  What is known of results that did not fail, and of runs
  in which no step failed.

  Main statements:
    * `exists_of_bind_eq_ok`
    * `exists_of_map_eq_ok`
    * `eq_ok_of_mapError_eq_ok`
    * `exists_of_foldlM_append_eq_ok`
    * `holds_of_foldlM_eq_ok`
-/

------------------------------------------------------------
-- Results
------------------------------------------------------------

namespace RouteAtlas

variable {ε δ α β : Type}
variable {result : Except ε α}

/- Both parts of a computation that did not fail. -/
theorem exists_of_bind_eq_ok
    {next : α → Except ε β}
    {b : β}
    (hBoth : result.bind next = .ok b) :
    ∃ a, result = .ok a ∧ next a = .ok b := by
  cases result with
  | error failure => cases hBoth
  | ok a => exact ⟨a, rfl, hBoth⟩

theorem exists_of_map_eq_ok
    {f : α → β}
    {b : β}
    (hMapped : result.map f = .ok b) :
    ∃ a, result = .ok a ∧ f a = b := by
  cases result with
  | error failure => cases hMapped
  | ok a => exact ⟨a, rfl, Except.ok.inj hMapped⟩

/- Failures told otherwise are failures still. -/
theorem eq_ok_of_mapError_eq_ok
    {tell : ε → δ}
    {a : α}
    (hResult : result.mapError tell = .ok a) :
    result = .ok a := by
  cases result with
  | error failure => cases hResult
  | ok b => rw [Except.ok.inj hResult]

------------------------------------------------------------
-- Runs
------------------------------------------------------------

section Run

variable {σ ι : Type}
variable {step : σ → ι → Except ε σ}
variable {inputs : List ι}
variable {first after : σ}

/- A run that did not fail, up to its last step. -/
theorem exists_of_foldlM_append_eq_ok
    {last : ι}
    (hRun :
      (inputs ++ [last]).foldlM step first = .ok after) :
    ∃ before,
      inputs.foldlM step first = .ok before ∧
        step before last = .ok after := by
  rw [List.foldlM_append] at hRun
  rcases exists_of_bind_eq_ok hRun with
    ⟨before, hBefore, hLast⟩
  rw [List.foldlM_cons] at hLast
  rcases exists_of_bind_eq_ok hLast with
    ⟨next, hStep, hNext⟩
  rw [← Except.ok.inj hNext]
  exact ⟨before, hBefore, hStep⟩

/-
  What every step preserves holds after a run, by induction
  on what is put in.
-/
theorem holds_of_foldlM_eq_ok
    (holds : σ → Prop)
    (hPreserved :
      ∀ before input next,
        holds before →
        step before input = .ok next →
        holds next)
    (hFirst : holds first)
    (hRun : inputs.foldlM step first = .ok after) :
    holds after := by
  induction inputs generalizing first with
  | nil =>
      rw [← Except.ok.inj hRun]
      exact hFirst
  | cons input inputs ih =>
      rw [List.foldlM_cons] at hRun
      rcases exists_of_bind_eq_ok hRun with
        ⟨next, hStep, hRest⟩
      exact ih (hPreserved first input next hFirst hStep)
        hRest

end Run

end RouteAtlas
