/-
Loops that an exception ends.

`untilRaise f l` runs `f` on the elements of `l` in order. Each run gives what it logs and whether it has raised; the first
exception ends the loop, and with it every loop around it. `upto p l` are the elements such a loop gets to: those up to the
first one that satisfies `p`, with it.

Rules: nested loops are one loop over all the work (`untilRaise_flatMap`); a loop that logs less is the same loop with its log
filtered (`untilRaise_log`); the log is that of the elements reached (`untilRaise_eq_upto`); and everything wanted is reached
exactly if no failure comes before something wanted (`reached_iff_pairwise`).
-/
import Mathlib.Tactic

namespace Newsletter.Core

variable {α β γ : Type}

/-- run `f` on each element until one raises; what was logged so far, and whether it ended by an exception -/
def untilRaise (f : α → List β × Bool) : List α → List β × Bool
  | [] => ([], false)
  | a :: as =>
    match f a with
    | (log, true) => (log, true)
    | (log, false) => (log ++ (untilRaise f as).1, (untilRaise f as).2)

theorem untilRaise_cons (f : α → List β × Bool) (a : α) (as : List α) :
    untilRaise f (a :: as) =
      if (f a).2 then f a else ((f a).1 ++ (untilRaise f as).1, (untilRaise f as).2) := by
  rw [untilRaise]
  obtain ⟨log, raised⟩ := f a
  cases raised <;> rfl

theorem mem_untilRaise {f : α → List β × Bool} {l : List α} {m : β} (h : m ∈ (untilRaise f l).1) :
    ∃ a ∈ l, m ∈ (f a).1 := by
  induction l with
  | nil => simp [untilRaise] at h
  | cons a as ih =>
    rw [untilRaise_cons] at h
    split_ifs at h
    · exact ⟨a, List.mem_cons_self, h⟩
    · rcases List.mem_append.1 h with h | h
      · exact ⟨a, List.mem_cons_self, h⟩
      · obtain ⟨b, hb, hm⟩ := ih h
        exact ⟨b, List.mem_cons_of_mem a hb, hm⟩

/-- a loop logs nothing beyond what its bodies log -/
theorem count_untilRaise_le (p : β → Bool) (f : α → List β × Bool) (l : List α) :
    (untilRaise f l).1.countP p ≤ (l.map fun a => (f a).1.countP p).sum := by
  induction l with
  | nil => simp [untilRaise]
  | cons a as ih =>
    rw [untilRaise_cons, List.map_cons, List.sum_cons]
    split_ifs
    · exact Nat.le_add_right _ _
    · rw [List.countP_append]
      exact Nat.add_le_add_left ih _

/-- a sum to which the elements of one key contribute is bounded as its terms are, if the keys differ -/
theorem sum_le_of_key (key : α → ℕ) {f : α → ℕ} {k b : ℕ} {l : List α} (hl : (l.map key).Nodup) (hb : ∀ a ∈ l, f a ≤ b)
    (h0 : ∀ a ∈ l, key a ≠ k → f a = 0) : (l.map f).sum ≤ b := by
  induction l with
  | nil => exact Nat.zero_le b
  | cons a as ih =>
    obtain ⟨ha, has⟩ := List.nodup_cons.1 hl
    rw [List.map_cons, List.sum_cons]
    by_cases hk : key a = k
    · have hrest : (as.map f).sum = 0 := by
        refine List.sum_eq_zero fun x hx => ?_
        obtain ⟨c, hc, rfl⟩ := List.mem_map.1 hx
        refine h0 c (List.mem_cons_of_mem a hc) fun hck => ha ?_
        rw [hk, ← hck]
        exact List.mem_map_of_mem hc
      rw [hrest, Nat.add_zero]
      exact hb a List.mem_cons_self
    · rw [h0 a List.mem_cons_self hk, Nat.zero_add]
      exact ih has (fun c hc => hb c (List.mem_cons_of_mem a hc)) fun c hc => h0 c (List.mem_cons_of_mem a hc)

theorem untilRaise_append (f : α → List β × Bool) (l l' : List α) :
    untilRaise f (l ++ l') =
      if (untilRaise f l).2 then untilRaise f l
      else ((untilRaise f l).1 ++ (untilRaise f l').1, (untilRaise f l').2) := by
  induction l with
  | nil => rfl
  | cons a l ih =>
    rw [List.cons_append, untilRaise_cons, untilRaise_cons, ih]
    by_cases ha : (f a).2 = true
    · simp only [ha, if_true]
    · simp only [ha, if_false, Bool.false_eq_true]
      split_ifs
      · rfl
      · simp only [List.append_assoc]

theorem untilRaise_map (f : β → List γ × Bool) (g : α → β) (l : List α) :
    untilRaise f (l.map g) = untilRaise (fun a => f (g a)) l := by
  induction l with
  | nil => rfl
  | cons a l ih => rw [List.map_cons, untilRaise_cons, untilRaise_cons, ih]

/-- **Nested loops** are one loop over all the work. -/
theorem untilRaise_flatMap (f : β → List γ × Bool) (g : α → List β) (l : List α) :
    untilRaise f (l.flatMap g) = untilRaise (fun a => untilRaise f (g a)) l := by
  induction l with
  | nil => rfl
  | cons a l ih => rw [List.flatMap_cons, untilRaise_append, untilRaise_cons, ih]

theorem untilRaise_log (f : α → List β × Bool) (h : β → List γ) (l : List α) :
    untilRaise (fun a => ((f a).1.flatMap h, (f a).2)) l =
      ((untilRaise f l).1.flatMap h, (untilRaise f l).2) := by
  induction l with
  | nil => rfl
  | cons a l ih =>
    rw [untilRaise_cons, untilRaise_cons, ih]
    by_cases ha : (f a).2 = true
    · simp only [ha, if_true]
    · simp only [ha, if_false, Bool.false_eq_true, List.flatMap_append]

/-! ## What a loop gets to -/

/-- the elements up to the first one that satisfies `p`, with it -/
def upto (p : α → Bool) : List α → List α
  | [] => []
  | a :: as => a :: if p a then [] else upto p as

theorem untilRaise_eq_upto (f : α → List β × Bool) (l : List α) :
    (untilRaise f l).1 = (upto (fun a => (f a).2) l).flatMap fun a => (f a).1 := by
  induction l with
  | nil => rfl
  | cons a l ih =>
    rw [untilRaise_cons, upto, List.flatMap_cons]
    by_cases ha : (f a).2 = true
    · simp only [ha, if_true, List.flatMap_nil, List.append_nil]
    · simp only [ha, if_false, Bool.false_eq_true, ih]

theorem upto_sublist (p : α → Bool) (l : List α) : (upto p l).Sublist l := by
  induction l with
  | nil => exact List.Sublist.slnil
  | cons a l ih =>
    rw [upto]
    split_ifs
    · exact (List.nil_sublist l).cons_cons a
    · exact ih.cons_cons a

/-- **What a loop misses.** In a list without repetitions everything that satisfies `q` is reached exactly if nothing that
satisfies `p` stands before something that satisfies `q`. -/
theorem reached_iff_pairwise (p q : α → Bool) {l : List α} (hl : l.Nodup) :
    (∀ y ∈ l, q y = true → y ∈ upto p l) ↔ l.Pairwise fun x y => p x = true → q y = false := by
  induction l with
  | nil => simp
  | cons x l ih =>
    obtain ⟨hx, hnodup⟩ := List.nodup_cons.1 hl
    rw [List.pairwise_cons, ← ih hnodup, upto]
    by_cases hp : p x = true
    · rw [if_pos hp]
      constructor
      · intro h
        have hnone : ∀ y ∈ l, q y = false := by
          intro y hy
          by_contra hq
          have hyx := h y (List.mem_cons_of_mem x hy) (by simpa using hq)
          rw [List.mem_singleton.1 hyx] at hy
          exact hx hy
        exact ⟨fun y hy _ => hnone y hy, fun y hy hq => absurd (hnone y hy) (by simp [hq])⟩
      · rintro ⟨hnone, _⟩ y hy hq
        rcases List.mem_cons.1 hy with rfl | hy
        · exact List.mem_cons_self
        · exact absurd (hnone y hy hp) (by simp [hq])
    · rw [if_neg hp]
      constructor
      · intro h
        refine ⟨fun y _ hpx => absurd hpx hp, fun y hy hq => ?_⟩
        rcases List.mem_cons.1 (h y (List.mem_cons_of_mem x hy) hq) with rfl | hmem
        · exact absurd hy hx
        · exact hmem
      · rintro ⟨_, h⟩ y hy hq
        rcases List.mem_cons.1 hy with rfl | hy
        · exact List.mem_cons_self
        · exact List.mem_cons_of_mem x (h y hy hq)

end Newsletter.Core
