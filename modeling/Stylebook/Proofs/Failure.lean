/-!
# Computations that can fail

* `bind_eq_ok_iff`, `bind_eq_error_iff` : how a sequence of two computations ends;
* `failure?` : how a computation failed, and `failure?_mapM` : how the first of several that fails
  does.
-/

namespace Stylebook

variable {ε α β : Type}

theorem ok_bind (a : α) (f : α → Except ε β) : (Except.ok a >>= f) = f a := rfl

theorem bind_eq_ok_iff {x : Except ε α} {f : α → Except ε β} {b : β} :
    x >>= f = .ok b ↔ ∃ a, x = .ok a ∧ f a = .ok b := by
  cases x <;> simp [bind, Except.bind]

theorem bind_eq_error_iff {x : Except ε α} {f : α → Except ε β} {e : ε} :
    x >>= f = .error e ↔ x = .error e ∨ ∃ a, x = .ok a ∧ f a = .error e := by
  cases x <;> simp [bind, Except.bind]

theorem mapM_ok {f : α → Except ε β} {g : α → β} (h : ∀ a, f a = .ok (g a)) (as : List α) :
    as.mapM f = .ok (as.map g) := by
  have hf : f = fun a => pure (g a) := funext h
  rw [hf, List.mapM_pure]
  rfl

def failure? : Except ε α → Option ε
  | .error e => some e
  | .ok _ => none

theorem failure?_eq_none_iff {x : Except ε α} : failure? x = none ↔ ∃ a, x = .ok a := by
  cases x with
  | error e => simp [failure?]
  | ok a => simp [failure?]

@[simp] theorem failure?_map (f : α → β) (x : Except ε α) : failure? (f <$> x) = failure? x := by
  cases x <;> rfl

theorem failure?_mapM (f : α → Except ε β) (as : List α) :
    failure? (as.mapM f) = as.findSome? fun a => failure? (f a) := by
  induction as with
  | nil => rfl
  | cons a as ih =>
    rw [List.mapM_cons, List.findSome?_cons, ← ih]
    cases f a with
    | error e => rfl
    | ok b => cases as.mapM f <;> rfl

end Stylebook
