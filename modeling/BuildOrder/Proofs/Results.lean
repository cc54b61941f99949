/-!
# Results that fail or not

What is known about a result from the result of a function on it, or from its value being there.
-/

namespace BuildOrder

variable {ε α β : Type}

theorem exists_of_map_eq_ok {f : α → β} {r : Except ε α} {b : β} (h : r.map f = .ok b) :
    ∃ a, r = .ok a ∧ f a = b := by
  cases r with
  | error e => cases h
  | ok a => exact ⟨a, rfl, Except.ok.inj h⟩

theorem map_eq_ok_iff {f : α → β} {r : Except ε α} {b : β} : r.map f = .ok b ↔ ∃ a, r = .ok a ∧ f a = b := by
  refine ⟨exists_of_map_eq_ok, ?_⟩
  rintro ⟨a, rfl, rfl⟩
  rfl

theorem exists_map_eq_ok_iff {f : α → β} {r : Except ε α} : (∃ b, r.map f = .ok b) ↔ ∃ a, r = .ok a := by
  constructor
  · rintro ⟨b, h⟩
    obtain ⟨a, ha, -⟩ := exists_of_map_eq_ok h
    exact ⟨a, ha⟩
  · rintro ⟨a, rfl⟩
    exact ⟨f a, rfl⟩

/-- Two results that a function makes equal are the same error, or values that it makes equal. -/
theorem cases_of_map_eq_map {f : α → β} {r r' : Except ε α} (h : r.map f = r'.map f) :
    (∃ e, r = .error e ∧ r' = .error e) ∨ ∃ a a', r = .ok a ∧ r' = .ok a' ∧ f a = f a' := by
  cases r with
  | error e =>
    cases r' with
    | error e' =>
      obtain rfl : e = e' := Except.error.inj h
      exact .inl ⟨e, rfl, rfl⟩
    | ok a' => cases h
  | ok a =>
    cases r' with
    | error e' => cases h
    | ok a' => exact .inr ⟨a, a', rfl, rfl, Except.ok.inj h⟩

theorem eq_ok_of_toOption {r : Except ε α} {a : α} (h : r.toOption = some a) : r = .ok a := by
  cases r with
  | error e => cases h
  | ok a' => exact congrArg Except.ok (Option.some.inj h)

end BuildOrder
