import Mathlib.Data.List.Forall2

/-!
# Outcomes of steps

When a chain of steps that may fail succeeds, so did every step; when it fails,
one step failed after all steps before it succeeded.
-/

namespace SessionTokens

variable {ε ε' α β : Type}

instance decidableEq [DecidableEq ε] [DecidableEq α] : DecidableEq (Except ε α)
  | .ok left, .ok right => decidable_of_iff (left = right) (by simp)
  | .error left, .error right => decidable_of_iff (left = right) (by simp)
  | .ok _, .error _ => .isFalse nofun
  | .error _, .ok _ => .isFalse nofun

theorem bind_eq_ok {outcome : Except ε α} {next : α → Except ε β} {result : β} :
    (outcome >>= next) = .ok result ↔ ∃ value, outcome = .ok value ∧ next value = .ok result := by
  cases outcome with
  | error error => simp [bind, Except.bind]
  | ok value => simp [bind, Except.bind]

theorem bind_eq_error {outcome : Except ε α} {next : α → Except ε β} {error : ε} :
    (outcome >>= next) = .error error ↔
      outcome = .error error ∨ ∃ value, outcome = .ok value ∧ next value = .error error := by
  cases outcome with
  | error error => simp [bind, Except.bind]
  | ok value => simp [bind, Except.bind]

/-- A check that was passed, and what came after it. -/
theorem check_eq_ok {refused : Prop} [Decidable refused] {error : ε} {next : PUnit → Except ε β}
    {result : β} :
    (if refused then throw error >>= next else next ⟨⟩) = .ok result ↔
      ¬ refused ∧ next ⟨⟩ = .ok result := by
  by_cases refuses : refused
  · rw [if_pos refuses]
    constructor
    · intro failed
      cases failed
    · exact fun passed => absurd refuses passed.1
  · rw [if_neg refuses]
    exact ⟨fun passed => ⟨refuses, passed⟩, fun passed => passed.2⟩

/-- A check that failed, or that was passed before what came after it failed. -/
theorem check_eq_error {refused : Prop} [Decidable refused] {fault error : ε}
    {next : PUnit → Except ε β} :
    (if refused then throw fault >>= next else next ⟨⟩) = .error error ↔
      refused ∧ fault = error ∨ ¬ refused ∧ next ⟨⟩ = .error error := by
  by_cases refuses : refused
  · have thrown : (throw fault >>= next) = .error fault := rfl
    simp [refuses, thrown]
  · simp [refuses]

@[simp] theorem mapError_ok (change : ε → ε') (value : α) :
    (Except.ok value).mapError change = .ok value := rfl

@[simp] theorem mapError_error (change : ε → ε') (error : ε) :
    (Except.error error : Except ε α).mapError change = .error (change error) := rfl

@[simp] theorem toOption_ok (value : α) :
    (Except.ok value : Except ε α).toOption = some value := rfl

@[simp] theorem toOption_error (error : ε) :
    (Except.error error : Except ε α).toOption = none := rfl

theorem mapError_eq_ok {outcome : Except ε α} {change : ε → ε'} {value : α} :
    outcome.mapError change = .ok value ↔ outcome = .ok value := by
  cases outcome <;> simp

theorem mapError_eq_error {outcome : Except ε α} {change : ε → ε'} {error : ε'} :
    outcome.mapError change = .error error ↔
      ∃ fault, outcome = .error fault ∧ change fault = error := by
  cases outcome <;> simp

theorem map_eq_error {outcome : Except ε α} {change : α → β} {error : ε} :
    outcome.map change = .error error ↔ outcome = .error error := by
  cases outcome <;> simp [Except.map]

theorem toOption_eq_some {outcome : Except ε α} {value : α} :
    outcome.toOption = some value ↔ outcome = .ok value := by
  cases outcome <;> simp

/-- A step for every item of a list succeeds when it does for each. -/
theorem mapM_eq_ok_iff {step : α → Except ε β} {items : List α} {results : List β} :
    items.mapM step = .ok results ↔
      List.Forall₂ (fun item result => step item = .ok result) items results := by
  induction items generalizing results with
  | nil =>
      rw [List.mapM_nil, List.forall₂_nil_left_iff]
      exact ⟨fun made => by cases made; rfl, fun empty => by rw [empty]; rfl⟩
  | cons item rest ih =>
      rw [List.mapM_cons, bind_eq_ok, List.forall₂_cons_left_iff]
      simp only [bind_eq_ok, ih]
      constructor
      · rintro ⟨result, made, others, madeOthers, same⟩
        cases same
        exact ⟨result, others, made, madeOthers, rfl⟩
      · rintro ⟨result, others, made, madeOthers, rfl⟩
        exact ⟨result, made, others, madeOthers, rfl⟩

/-- A step for every item of a list fails at the first item for which it does. -/
theorem mapM_eq_error_iff {step : α → Except ε β} {items : List α} {error : ε} :
    items.mapM step = .error error ↔
      ∃ front bad back, items = front ++ bad :: back ∧
        (∀ item ∈ front, ∃ result, step item = .ok result) ∧ step bad = .error error := by
  induction items with
  | nil =>
      rw [List.mapM_nil]
      exact ⟨nofun, fun ⟨front, bad, back, split, _⟩ => by simp at split⟩
  | cons item rest ih =>
      rw [List.mapM_cons]
      cases outcome : step item with
      | error fault =>
          constructor
          · intro failed
            cases failed
            exact ⟨[], item, rest, rfl, by simp, outcome⟩
          · rintro ⟨front, bad, back, split, good, failed⟩
            cases front with
            | nil =>
                cases split
                rw [← outcome, failed]
                rfl
            | cons first front =>
                cases split
                obtain ⟨result, made⟩ := good item List.mem_cons_self
                cases outcome.symm.trans made
      | ok result =>
          have passed : (Except.ok result >>= fun result => do
              let results ← rest.mapM step
              pure (result :: results)) = .error error ↔ rest.mapM step = .error error := by
            cases rest.mapM step <;> simp [bind, Except.bind, pure, Except.pure]
          rw [passed, ih]
          constructor
          · rintro ⟨front, bad, back, rfl, good, failed⟩
            refine ⟨item :: front, bad, back, rfl, ?_, failed⟩
            exact List.forall_mem_cons.mpr ⟨⟨result, outcome⟩, good⟩
          · rintro ⟨front, bad, back, split, good, failed⟩
            cases front with
            | nil =>
                cases split
                cases outcome.symm.trans failed
            | cons first front =>
                cases split
                exact ⟨front, bad, back, rfl, (List.forall_mem_cons.mp good).2, failed⟩

/-- Two steps that succeed alike are the same if there is only one way to fail. -/
theorem eq_of_ok_iff {left right : Except ε α} {fault : ε}
    (same : ∀ value, left = .ok value ↔ right = .ok value)
    (left_fails : ∀ error, left = .error error → error = fault)
    (right_fails : ∀ error, right = .error error → error = fault) : left = right := by
  cases left with
  | ok value => exact ((same value).mp rfl).symm
  | error error =>
      cases right with
      | ok value => exact (same value).mpr rfl
      | error other => rw [left_fails error rfl, right_fails other rfl]

/-- A step over a state that can be seen to succeed has a value and a state after it. -/
theorem exists_eq_ok {result : Except ε α × β} (made : result.1.toOption.isSome = true) :
    ∃ value after, result = (.ok value, after) := by
  obtain ⟨outcome, after⟩ := result
  obtain ⟨value, made⟩ := Option.isSome_iff_exists.mp made
  cases toOption_eq_some.mp made
  exact ⟨value, after, rfl⟩

end SessionTokens
