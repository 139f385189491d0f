import Mathlib.Data.List.Forall2

/-!
# Results of steps that may fail

A sequence of steps succeeds when every one of them does (`bind_eq_ok_iff`, `mapM_eq_ok_iff`), and
what holds of the failures of its steps holds of its own (`error_of_bind`). Calling failures by
another name changes neither what succeeds nor which failures there are.
-/

set_option autoImplicit false
set_option relaxedAutoImplicit false

namespace BulkJobs

variable {ε ε' α β : Type} {result : Except ε α}

theorem exists_of_isOk (h : result.isOk = true) : ∃ value, result = .ok value := by
  cases result with
  | error failure => cases h
  | ok value => exact ⟨value, rfl⟩

/-! ### Two steps -/

theorem pure_eq_ok_iff {a a' : α} : (pure a : Except ε α) = .ok a' ↔ a = a' :=
  ⟨Except.ok.inj, congrArg Except.ok⟩

theorem bind_eq_ok_iff {next : α → Except ε β} {b : β} :
    result >>= next = .ok b ↔ ∃ a, result = .ok a ∧ next a = .ok b := by
  cases result with
  | error failure => exact ⟨nofun, fun ⟨_, hresult, _⟩ ↦ nomatch hresult⟩
  | ok a =>
    constructor
    · exact fun hnext ↦ ⟨a, rfl, hnext⟩
    · rintro ⟨_, ⟨⟩, hnext⟩
      exact hnext

theorem bind_eq_error_iff {next : α → Except ε β} {failure : ε} :
    result >>= next = .error failure ↔
      result = .error failure ∨ ∃ a, result = .ok a ∧ next a = .error failure := by
  cases result with
  | error own =>
    constructor
    · rintro ⟨⟩
      exact .inl rfl
    · rintro (⟨⟨⟩⟩ | ⟨_, ⟨⟩, _⟩)
      rfl
  | ok a =>
    constructor
    · exact fun hnext ↦ .inr ⟨a, rfl, hnext⟩
    · rintro (⟨⟨⟩⟩ | ⟨_, ⟨⟩, hnext⟩)
      exact hnext

section Failures

variable {P : ε → Prop}

theorem error_of_map {f : α → β} (hresult : ∀ failure, result = .error failure → P failure)
    (failure : ε) (hfailure : result.map f = .error failure) : P failure := by
  cases result with
  | ok value => cases hfailure
  | error own =>
    cases hfailure
    exact hresult failure rfl

theorem error_of_bind {next : α → Except ε β}
    (hresult : ∀ failure, result = .error failure → P failure)
    (hnext : ∀ value failure, next value = .error failure → P failure)
    (failure : ε) (hfailure : result.bind next = .error failure) : P failure := by
  cases result with
  | ok value => exact hnext value failure hfailure
  | error own =>
    cases hfailure
    exact hresult failure rfl

end Failures

/-! ### Failures under another name -/

section Names

variable {f : ε → ε'}

theorem mapError_eq_ok_iff {value : α} : result.mapError f = .ok value ↔ result = .ok value := by
  cases result <;> simp [Except.mapError]

theorem exists_of_mapError {failure : ε'} (h : result.mapError f = .error failure) :
    ∃ own, result = .error own ∧ failure = f own := by
  cases result with
  | error own => exact ⟨own, rfl, (Except.error.inj h).symm⟩
  | ok value => cases h

end Names

/-! ### One step for each item -/

/-- The items of a list succeed together when each does, and then with the values of each. -/
theorem mapM_eq_ok_iff {f : α → Except ε β} {items : List α} {values : List β} :
    items.mapM f = .ok values ↔
      List.Forall₂ (fun item value ↦ f item = .ok value) items values := by
  induction items generalizing values with
  | nil =>
    rw [List.mapM_nil, List.forall₂_nil_left_iff, pure_eq_ok_iff]
    exact eq_comm
  | cons item items ih =>
    rw [List.mapM_cons, List.forall₂_cons_left_iff]
    simp only [bind_eq_ok_iff, pure_eq_ok_iff, ih]
    constructor
    · rintro ⟨value, hvalue, rest, hrest, rfl⟩
      exact ⟨value, rest, hvalue, hrest, rfl⟩
    · rintro ⟨value, rest, hvalue, hrest, rfl⟩
      exact ⟨value, hvalue, rest, hrest, rfl⟩

theorem mapM_eq_ok_iff_map {f : α → Except ε β} {items : List α} {values : List β} :
    items.mapM f = .ok values ↔ items.map f = values.map .ok := by
  rw [mapM_eq_ok_iff, ← List.forall₂_eq_eq_eq, List.forall₂_map_left_iff,
    List.forall₂_map_right_iff]

end BulkJobs
