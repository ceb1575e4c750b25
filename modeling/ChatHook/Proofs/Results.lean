/-!
# Results

What holds of values and errors of any kind: when a result is known from both sides
(`result_iff_of_total`), and what changing its value or its error leaves
(`map_eq_error_iff`, `mapError_eq_ok_iff`, `mapError_eq_error_iff`).
-/

namespace ChatHook

variable {ε ε' α β : Type}

/-- A result is characterized by what brings a value and what brings an error, if there is always
one of them. -/
theorem result_iff_of_total {result : Except ε α} {Succeeds : α → Prop} {Fails : ε → Prop}
    (hok : ∀ a, Succeeds a → result = .ok a) (herror : ∀ e, Fails e → result = .error e)
    (htotal : (∃ a, Succeeds a) ∨ ∃ e, Fails e) :
    (∀ a, result = .ok a ↔ Succeeds a) ∧ ∀ e, result = .error e ↔ Fails e := by
  rcases htotal with ⟨a, ha⟩ | ⟨e, he⟩
  · refine ⟨fun b ↦ ⟨fun h ↦ ?_, hok b⟩, fun e ↦ ⟨fun h ↦ ?_, herror e⟩⟩
    · obtain rfl := Except.ok.inj ((hok a ha).symm.trans h)
      exact ha
    · cases (hok a ha).symm.trans h
  · refine ⟨fun a ↦ ⟨fun h ↦ ?_, hok a⟩, fun e' ↦ ⟨fun h ↦ ?_, herror e'⟩⟩
    · cases (herror e he).symm.trans h
    · obtain rfl := Except.error.inj ((herror e he).symm.trans h)
      exact he

theorem map_eq_ok_iff {result : Except ε α} {f : α → β} {b : β} :
    result.map f = .ok b ↔ ∃ a, result = .ok a ∧ f a = b := by
  cases result <;> simp [Except.map]

theorem map_eq_error_iff {result : Except ε α} {f : α → β} {e : ε} :
    result.map f = .error e ↔ result = .error e := by
  cases result <;> simp [Except.map]

theorem mapError_eq_ok_iff {result : Except ε α} {f : ε → ε'} {a : α} :
    result.mapError f = .ok a ↔ result = .ok a := by
  cases result with
  | ok b =>
    change (.ok b : Except ε' α) = .ok a ↔ _
    simp
  | error e => exact iff_of_false nofun nofun

theorem mapError_eq_error_iff {result : Except ε α} {f : ε → ε'} {e' : ε'} :
    result.mapError f = .error e' ↔ ∃ e, result = .error e ∧ f e = e' := by
  cases result with
  | ok a => exact iff_of_false nofun (by simp)
  | error e =>
    change (.error (f e) : Except ε' α) = .error e' ↔ _
    simp

/-- The error of a result, if it has one. -/
def errorOf? : Except ε α → Option ε
  | .ok _ => none
  | .error e => some e

theorem errorOf?_eq_some_iff {result : Except ε α} {e : ε} :
    errorOf? result = some e ↔ result = .error e := by
  cases result <;> simp [errorOf?]

end ChatHook
