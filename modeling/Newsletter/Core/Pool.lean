/-
Tasks in progress, by name.

A pool holds what is left of each task that has been started and has not ended. Interleavings are schedules that say which
task takes the next step; a step changes one entry (`put`), and what is known of a task afterwards is that it is another
one, unchanged, or the one that took the step (`put_cases`, `exists_put`). Two pools that are related entry by entry stay so
if the same entry changes in both, or in one of them (`rel_put`, `rel_put_left`).
-/
import Mathlib.Tactic

namespace Newsletter.Core

def Pool (τ : Type) := ℕ → Option τ

namespace Pool

variable {τ : Type}

def empty : Pool τ := fun _ => none

@[simp] theorem empty_apply (n : ℕ) : (empty : Pool τ) n = none := rfl

/-- the task `n` is now `x`; `none` if it has ended -/
def put (p : Pool τ) (n : ℕ) (x : Option τ) : Pool τ := Function.update p n x

@[simp] theorem put_self (p : Pool τ) (n : ℕ) (x : Option τ) : p.put n x n = x := Function.update_self ..

theorem put_of_ne (p : Pool τ) {n m : ℕ} (x : Option τ) (h : m ≠ n) : p.put n x m = p m := Function.update_of_ne h ..

@[simp] theorem put_put (p : Pool τ) (n : ℕ) (x y : Option τ) : (p.put n x).put n y = p.put n y := Function.update_idem ..

theorem put_cases {p : Pool τ} {n m : ℕ} {x : Option τ} {t : τ} (h : p.put n x m = some t) :
    (m ≠ n ∧ p m = some t) ∨ m = n ∧ x = some t := by
  by_cases hm : m = n
  · subst hm
    rw [put_self] at h
    exact Or.inr ⟨rfl, h⟩
  · rw [put_of_ne p x hm] at h
    exact Or.inl ⟨hm, h⟩

/-- a task that goes on is still there -/
theorem isSome_put {p : Pool τ} {m : ℕ} (h : (p m).isSome) (n : ℕ) (t : τ) : (p.put n (some t) m).isSome := by
  by_cases hm : m = n
  · rw [hm, put_self]
    rfl
  · rw [put_of_ne p _ hm]
    exact h

/-- a task with a property stays if the one that changes has not got it -/
theorem exists_put {P : τ → Prop} {p : Pool τ} {n : ℕ} {x : Option τ} (h : ∃ m t, p m = some t ∧ P t)
    (hn : ∀ t, p n = some t → ¬ P t) : ∃ m t, p.put n x m = some t ∧ P t := by
  obtain ⟨m, t, hm, ht⟩ := h
  have hne : m ≠ n := by
    rintro rfl
    exact hn t hm ht
  exact ⟨m, t, (put_of_ne p x hne).trans hm, ht⟩

theorem exists_put_self {P : τ → Prop} {t : τ} (h : P t) (p : Pool τ) (n : ℕ) : ∃ m t', p.put n (some t) m = some t' ∧ P t' :=
  ⟨n, t, put_self p n _, h⟩

/-! ## Two pools -/

section Rel

variable {R : Option τ → Option τ → Prop} {p p' : Pool τ} (h : ∀ m, R (p m) (p' m)) {n : ℕ}

include h

theorem rel_put {x x' : Option τ} (hx : R x x') (m : ℕ) : R (p.put n x m) (p'.put n x' m) := by
  by_cases hm : m = n
  · rw [hm, put_self, put_self]
    exact hx
  · rw [put_of_ne p x hm, put_of_ne p' x' hm]
    exact h m

theorem rel_put_left {x : Option τ} (hx : R x (p' n)) (m : ℕ) : R (p.put n x m) (p' m) := by
  by_cases hm : m = n
  · rw [hm, put_self]
    exact hx
  · rw [put_of_ne p x hm]
    exact h m

end Rel

end Pool

end Newsletter.Core
