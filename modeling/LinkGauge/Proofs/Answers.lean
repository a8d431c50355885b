import Mathlib.Tactic

/-!
# Answers that may be errors

What a step hands on that does not fail, for the simplifier.
-/

namespace LinkGauge

variable {ε ε' α β : Type}

@[simp] lemma ok_bind (a : α) (f : α → Except ε β) : (Except.ok a >>= f) = f a := rfl

@[simp] lemma map_ok (f : α → β) (a : α) : (Except.ok a : Except ε α).map f = .ok (f a) := rfl

@[simp]
lemma mapError_ok (f : ε → ε') (a : α) : (Except.ok a : Except ε α).mapError f = .ok a := rfl

lemma bind_eq_ok {answer : Except ε α} {f : α → Except ε β} {b : β} :
    (answer >>= f) = .ok b ↔ ∃ a, answer = .ok a ∧ f a = .ok b := by
  cases answer with
  | ok a => simp
  | error e =>
    constructor
    · nofun
    · rintro ⟨a, no, -⟩
      cases no

lemma map_eq_ok {f : α → β} {answer : Except ε α} {b : β} :
    answer.map f = .ok b ↔ ∃ a, answer = .ok a ∧ f a = b := by
  cases answer <;> simp [Except.map]

lemma mapError_eq_ok {f : ε → ε'} {answer : Except ε α} {a : α} :
    answer.mapError f = .ok a ↔ answer = .ok a := by
  cases answer <;> simp [Except.mapError]

end LinkGauge
