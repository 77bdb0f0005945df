import ConnectionManager.Failure

/-!
Outcomes taken apart: what comes of a sequel is a value just where what it follows has one. So it is
whatever the failures are.
-/

namespace ConnectionManager.Outcome

variable {ε α β : Type} {outcome : Except ε α} {result : β} {failure : ε}

theorem map_eq_ok {change : α → β} :
    outcome.map change = .ok result ↔ ∃ value, outcome = .ok value ∧ change value = result := by
  cases outcome <;> simp [Except.map]

theorem map_eq_error {change : α → β} :
    outcome.map change = .error failure ↔ outcome = .error failure := by
  cases outcome <;> simp [Except.map]

theorem bind_eq_ok {continuation : α → Except ε β} :
    (outcome >>= continuation) = .ok result ↔
      ∃ value, outcome = .ok value ∧ continuation value = .ok result := by
  cases outcome <;> simp [Bind.bind, Except.bind]

end ConnectionManager.Outcome
