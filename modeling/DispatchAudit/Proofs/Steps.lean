import Mathlib.Data.List.Forall2

/-!
# Steps that can fail

What it means for steps in a row to succeed, and where a failure comes from. A step for each item
of a list succeeds with one result for each, or fails with the first failure.
-/

namespace DispatchAudit

variable {ε ε' α β : Type} {step : Except ε α}

theorem map_eq_ok_iff {f : α → β} {b : β} :
    step.map f = .ok b ↔ ∃ a, step = .ok a ∧ f a = b := by
  cases step <;> simp [Except.map]

theorem bind_eq_ok_iff {next : α → Except ε β} {b : β} :
    step.bind next = .ok b ↔ ∃ a, step = .ok a ∧ next a = .ok b := by
  cases step <;> simp [Except.bind]

theorem mapM_eq_ok_iff {items : List α} {results : List β} {f : α → Except ε β} :
    items.mapM f = .ok results ↔
      List.Forall₂ (fun item result => f item = .ok result) items results := by
  induction items generalizing results with
  | nil =>
      rw [List.mapM_nil, List.forall₂_nil_left_iff]
      exact ⟨fun hok => (Except.ok.inj hok).symm, fun hnil => congrArg Except.ok hnil.symm⟩
  | cons item rest ih =>
      rw [List.mapM_cons, List.forall₂_cons_left_iff]
      refine bind_eq_ok_iff.trans ⟨?_, ?_⟩
      · rintro ⟨result, hitem, hrest⟩
        obtain ⟨later, hrest, hresults⟩ := bind_eq_ok_iff.mp hrest
        exact ⟨result, later, hitem, ih.mp hrest, (Except.ok.inj hresults).symm⟩
      · rintro ⟨result, later, hitem, hrest, rfl⟩
        exact ⟨result, hitem, bind_eq_ok_iff.mpr ⟨later, ih.mpr hrest, rfl⟩⟩

/-- The error that a step ends with, if it fails. -/
def errorOf? : Except ε α → Option ε
  | .ok _ => none
  | .error failure => some failure

theorem errorOf?_eq_none_iff : errorOf? step = none ↔ ∃ a, step = .ok a := by
  cases step <;> simp [errorOf?]

theorem errorOf?_eq_some_iff {failure : ε} :
    errorOf? step = some failure ↔ step = .error failure := by
  cases step <;> simp [errorOf?]

theorem mapM_id_eq_ok_iff {items : List (Except ε α)} {results : List α} :
    items.mapM id = .ok results ↔ items = results.map .ok := by
  rw [mapM_eq_ok_iff, ← List.forall₂_eq_eq_eq, List.forall₂_map_right_iff]
  rfl

theorem exists_left_of_forall₂ {related : α → β → Prop} {items : List α} {results : List β}
    (hall : List.Forall₂ related items results) {result : β} (hmem : result ∈ results) :
    ∃ item ∈ items, related item result := by
  induction hall with
  | nil => cases hmem
  | cons hitem _ ih =>
      rcases List.mem_cons.mp hmem with rfl | hmem
      · exact ⟨_, List.mem_cons_self, hitem⟩
      · obtain ⟨item, hitem, hresult⟩ := ih hmem
        exact ⟨item, List.mem_cons_of_mem _ hitem, hresult⟩

theorem mapM_eq_error_iff {items : List α} {f : α → Except ε β} {failure : ε} :
    items.mapM f = .error failure ↔ ∃ before item after, items = before ++ item :: after ∧
      (∀ earlier ∈ before, ∃ result, f earlier = .ok result) ∧ f item = .error failure := by
  induction items with
  | nil => simp [List.mapM_nil, pure, Except.pure]
  | cons item rest ih =>
      rw [List.mapM_cons]
      constructor
      · intro hfails
        cases hitem : f item with
        | error other =>
            rw [hitem] at hfails
            obtain rfl := Except.error.inj hfails
            exact ⟨[], item, rest, rfl, nofun, hitem⟩
        | ok result =>
            have hrest : rest.mapM f = .error failure := by
              rw [hitem] at hfails
              cases hrest : rest.mapM f with
              | error other =>
                  rw [hrest] at hfails
                  exact congrArg Except.error (Except.error.inj hfails)
              | ok results =>
                  rw [hrest] at hfails
                  cases hfails
            obtain ⟨before, first, after, rfl, hbefore, hfirst⟩ := ih.mp hrest
            refine ⟨item :: before, first, after, rfl, ?_, hfirst⟩
            exact List.forall_mem_cons.mpr ⟨⟨result, hitem⟩, hbefore⟩
      · rintro ⟨before, first, after, hitems, hbefore, hfirst⟩
        cases before with
        | nil =>
            obtain ⟨rfl, rfl⟩ := List.cons.inj hitems
            rw [hfirst]
            rfl
        | cons earlier before =>
            obtain ⟨rfl, rfl⟩ := List.cons.inj hitems
            obtain ⟨⟨result, hitem⟩, hbefore⟩ := List.forall_mem_cons.mp hbefore
            rw [hitem, ih.mpr ⟨before, first, after, rfl, hbefore, hfirst⟩]
            rfl

theorem errorOf?_map (f : α → β) : errorOf? (step.map f) = errorOf? step := by
  cases step <;> rfl

end DispatchAudit
