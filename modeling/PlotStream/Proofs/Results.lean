/-!
Results that are a value or a fault. Two results that look alike after a change of their values are
one fault, or two values that look alike.
-/

namespace PlotStream

theorem alike_of_map_eq {ε α β : Type} {f : α → β} {result other : Except ε α}
    (h : result.map f = other.map f) :
    (∃ fault, result = .error fault ∧ other = .error fault) ∨
      ∃ value value', result = .ok value ∧ other = .ok value' ∧ f value = f value' := by
  cases result with
  | error fault =>
      cases other with
      | error fault' =>
          obtain rfl := Except.error.inj h
          exact Or.inl ⟨fault, rfl, rfl⟩
      | ok value' => cases h
  | ok value =>
      cases other with
      | error fault' => cases h
      | ok value' => exact Or.inr ⟨value, value', rfl, rfl, Except.ok.inj h⟩

theorem ok_of_toOption {ε α : Type} {result : Except ε α} {value : α}
    (h : result.toOption = some value) : result = .ok value := by
  cases result with
  | error fault => cases h
  | ok other => exact congrArg Except.ok (Option.some.inj h)

end PlotStream
