/-
Runs of a deterministic machine with inputs and outputs.

`run` folds `next` over a list of inputs. The properties stated over runs elsewhere are of six kinds:
- `Always I s is`: the predicate `I` holds in every state reached from `s` by a prefix of `is`;
- `Along ok s is`: every input of the run meets the condition `ok` in the state in which it is served;
- `exists_turn`, `exists_last_turn`: a predicate that is false at the start and true at the end was established by some input;
- `assigned`: the values written to a register along the run; the register holds the last of them (`run_register`), as a
  fold over the writes does (`foldl_getD`);
- `total f s is`: how often something happens along the run;
- `collected f s is`: what the inputs of the run bring with them, in order.

Rules: `run_map_simulates` (a run is a fold over something smaller), `run_inv` and `Along.inv` (an invariant kept by every
input, or by every input that meets the condition), `Along.inv_register` (an invariant that also speaks of the last value
assigned), `run_inv_total` (one that also speaks of counts), `along_not_or_last` (the last time something happens),
`always_iff_along` (if the condition is exactly what keeps the invariant for one input, it is exactly what keeps it along the
run), `run_project` and `run_filter` (a run and a run made along it, or the run without some of its inputs), `Store.run` (a list
in the state that is filled once and then emptied), `Along.total_le` (a stock that is used up), and `foldl_eq_of_mem_iff` (a fold
of updates that commute and repeat without effect depends on the set of updates only).
-/
import Mathlib.Tactic

namespace Newsletter.Core

/-- one input gives the next state and an output -/
structure Machine (σ ι ω : Type) where
  step : σ → ι → σ × ω

namespace Machine

variable {σ ι ω κ : Type} (M : Machine σ ι ω)

def next (s : σ) (i : ι) : σ := (M.step s i).1

def out (s : σ) (i : ι) : ω := (M.step s i).2

def run (s : σ) (is : List ι) : σ := is.foldl M.next s

@[simp] theorem run_nil (s : σ) : M.run s [] = s := rfl

@[simp] theorem run_cons (s : σ) (i : ι) (is : List ι) : M.run s (i :: is) = M.run (M.next s i) is := rfl

theorem run_append (s : σ) (a b : List ι) : M.run s (a ++ b) = M.run (M.run s a) b := by
  simp [run, List.foldl_append]

theorem run_snoc (s : σ) (l : List ι) (i : ι) : M.run s (l ++ [i]) = M.next (M.run s l) i := by
  simp [run_append]

/-- a run on the inputs `f k` is simulated by a fold over the `k` that simulates it step by step -/
theorem run_map_simulates {τ : Type} {R : σ → τ → Prop} {f : κ → ι} {g : τ → κ → τ}
    (hstep : ∀ s t k, R s t → R (M.next s (f k)) (g t k)) {s : σ} {t : τ} (h : R s t) (ks : List κ) :
    R (M.run s (ks.map f)) (ks.foldl g t) := by
  induction ks generalizing s t with
  | nil => exact h
  | cons k ks ih => exact ih (hstep s t k h)

/-! ## Invariants -/

theorem run_inv {I : σ → Prop} (hstep : ∀ s i, I s → I (M.next s i)) {s : σ} (h : I s) (is : List ι) :
    I (M.run s is) := by
  induction is generalizing s with
  | nil => exact h
  | cons i is ih => exact ih (hstep s i h)

/-- every input meets `ok` in the state in which it is served -/
def Along (ok : σ → ι → Prop) : σ → List ι → Prop
  | _, [] => True
  | s, i :: is => ok s i ∧ Along ok (M.next s i) is

/-- `I` holds in every state the run reaches -/
def Always (I : σ → Prop) (s : σ) (is : List ι) : Prop := ∀ pre, pre <+: is → I (M.run s pre)

theorem always_nil {I : σ → Prop} {s : σ} : M.Always I s [] ↔ I s := by
  constructor
  · intro h
    exact h [] List.prefix_rfl
  · intro h pre hpre
    rw [List.prefix_nil.1 hpre]
    exact h

theorem always_cons {I : σ → Prop} {s : σ} {i : ι} {is : List ι} :
    M.Always I s (i :: is) ↔ I s ∧ M.Always I (M.next s i) is := by
  constructor
  · intro h
    refine ⟨h [] List.nil_prefix, fun pre hpre => ?_⟩
    exact h (i :: pre) ((List.prefix_cons_inj i).2 hpre)
  · rintro ⟨hs, hrest⟩ pre hpre
    cases pre with
    | nil => exact hs
    | cons j pre =>
      obtain ⟨rfl, hpre'⟩ := List.cons_prefix_cons.1 hpre
      exact hrest pre hpre'

theorem Always.start {M : Machine σ ι ω} {I : σ → Prop} {s : σ} {is : List ι} (h : M.Always I s is) : I s :=
  h [] List.nil_prefix

theorem Along.inv {M : Machine σ ι ω} {ok : σ → ι → Prop} {I : σ → Prop}
    (hstep : ∀ s i, I s → ok s i → I (M.next s i)) {s : σ} {is : List ι} (h : I s) (ha : M.Along ok s is) :
    I (M.run s is) := by
  induction is generalizing s with
  | nil => exact h
  | cons i is ih => exact ih (hstep s i h ha.1) ha.2

theorem Along.mono {M : Machine σ ι ω} {p q : σ → ι → Prop} (hpq : ∀ s i, p s i → q s i) {s : σ} {is : List ι}
    (h : M.Along p s is) : M.Along q s is := by
  induction is generalizing s with
  | nil => exact h
  | cons i is ih => exact ⟨hpq s i h.1, ih h.2⟩

theorem Along.and {M : Machine σ ι ω} {p q : σ → ι → Prop} {s : σ} {is : List ι} (hp : M.Along p s is)
    (hq : M.Along q s is) : M.Along (fun s i => p s i ∧ q s i) s is := by
  induction is generalizing s with
  | nil => exact trivial
  | cons i is ih => exact ⟨⟨hp.1, hq.1⟩, ih hp.2 hq.2⟩

theorem along_of_forall {A : ι → Prop} {is : List ι} (h : ∀ i ∈ is, A i) (s : σ) : M.Along (fun _ i => A i) s is := by
  induction is generalizing s with
  | nil => exact trivial
  | cons i is ih => exact ⟨h i List.mem_cons_self, ih (fun j hj => h j (List.mem_cons_of_mem i hj)) (M.next s i)⟩

theorem along_append {ok : σ → ι → Prop} {s : σ} {a b : List ι} :
    M.Along ok s (a ++ b) ↔ M.Along ok s a ∧ M.Along ok (M.run s a) b := by
  induction a generalizing s with
  | nil => simp [Along]
  | cons i a ih => rw [List.cons_append, Along, Along, ih, run_cons, and_assoc]

/-- something happens at no point of a run, or there is a last point at which it happens -/
theorem along_not_or_last (D : σ → ι → Prop) (s : σ) (is : List ι) :
    M.Along (fun s i => ¬ D s i) s is ∨
      ∃ pre i post, is = pre ++ i :: post ∧ D (M.run s pre) i ∧
        M.Along (fun s i => ¬ D s i) (M.next (M.run s pre) i) post := by
  induction is generalizing s with
  | nil => exact Or.inl trivial
  | cons j js ih =>
    rcases ih (M.next s j) with hnone | ⟨pre, i, post, rfl, hi, hpost⟩
    · by_cases hj : D s j
      · exact Or.inr ⟨[], j, js, rfl, hj, hnone⟩
      · exact Or.inl ⟨hj, hnone⟩
    · exact Or.inr ⟨j :: pre, i, post, rfl, hi, hpost⟩

theorem always_congr {I J : σ → Prop} {s : σ} {is : List ι} (h : ∀ pre, I (M.run s pre) ↔ J (M.run s pre)) :
    M.Always I s is ↔ M.Always J s is := forall₂_congr fun pre _ => h pre

/-- if meeting `ok` is exactly what keeps `I` for one input of a kind, it is exactly what keeps it along a run of them -/
theorem always_iff_along_of {A : ι → Prop} {ok : σ → ι → Prop} {I : σ → Prop}
    (hstep : ∀ s i, A i → I s → (I (M.next s i) ↔ ok s i)) {s : σ} {is : List ι} (hA : ∀ i ∈ is, A i) (h : I s) :
    M.Always I s is ↔ M.Along ok s is := by
  induction is generalizing s with
  | nil => simp only [always_nil, Along, h]
  | cons i is ih =>
    have hi : A i := hA i List.mem_cons_self
    have his : ∀ j ∈ is, A j := fun j hj => hA j (List.mem_cons_of_mem i hj)
    rw [always_cons]
    constructor
    · rintro ⟨_, hrest⟩
      exact ⟨(hstep s i hi h).1 hrest.start, (ih his hrest.start).1 hrest⟩
    · rintro ⟨hok, hrest⟩
      exact ⟨h, (ih his ((hstep s i hi h).2 hok)).2 hrest⟩

/-- if meeting `ok` is exactly what keeps `I` for one input, it is exactly what keeps it along a run -/
theorem always_iff_along {ok : σ → ι → Prop} {I : σ → Prop} (hstep : ∀ s i, I s → (I (M.next s i) ↔ ok s i))
    {s : σ} {is : List ι} (h : I s) : M.Always I s is ↔ M.Along ok s is :=
  M.always_iff_along_of (A := fun _ => True) (fun s i _ => hstep s i) (fun _ _ => trivial) h

theorem run_inv_of {A : ι → Prop} {I : σ → Prop} (hstep : ∀ s i, A i → I s → I (M.next s i)) {s : σ} {is : List ι}
    (hA : ∀ i ∈ is, A i) (h : I s) : I (M.run s is) := by
  induction is generalizing s with
  | nil => exact h
  | cons i is ih =>
    exact ih (fun j hj => hA j (List.mem_cons_of_mem i hj)) (hstep s i (hA i List.mem_cons_self) h)

/-- `always_iff_along_of`, where the step is exact only under an invariant `J` -/
theorem always_iff_along_under {A : ι → Prop} {ok : σ → ι → Prop} {I J : σ → Prop} (hJ : ∀ s i, A i → J s → J (M.next s i))
    (hstep : ∀ s i, A i → J s → I s → (I (M.next s i) ↔ ok s i)) {s : σ} {is : List ι} (hA : ∀ i ∈ is, A i) (hs : J s) (h : I s) :
    M.Always I s is ↔ M.Along ok s is := by
  have hboth : M.Always (fun s => J s ∧ I s) s is ↔ M.Along ok s is :=
    M.always_iff_along_of (fun s i hi hs => by rw [and_iff_right (hJ s i hi hs.1)]; exact hstep s i hi hs.1 hs.2) hA ⟨hs, h⟩
  rw [← hboth]
  refine forall₂_congr fun pre hpre => ?_
  have hrun : J (M.run s pre) := M.run_inv_of hJ (fun i hi => hA i (hpre.subset hi)) hs
  exact (and_iff_right hrun).symm

/-! ## Two runs -/

/-- a second run made along a first one: `keep` gives for each input of the first what the second does, if anything -/
def project (keep : σ → σ → ι → Option ι) : σ → σ → List ι → List ι
  | _, _, [] => []
  | s, s', i :: is =>
    match keep s s' i with
    | none => project keep (M.next s i) s' is
    | some j => j :: project keep (M.next s i) (M.next s' j) is

/-- **Simulation of a run by its projection**, if a dropped input changes nothing of what `R` relates and a kept one keeps
`R` on both sides -/
theorem run_project {A : ι → Prop} {R : σ → σ → Prop} {keep : σ → σ → ι → Option ι}
    (hdrop : ∀ s s' i, A i → keep s s' i = none → R s s' → R (M.next s i) s')
    (hkeep : ∀ s s' i j, A i → keep s s' i = some j → R s s' → R (M.next s i) (M.next s' j))
    {s s' : σ} {is : List ι} (hA : ∀ i ∈ is, A i) (h : R s s') : R (M.run s is) (M.run s' (M.project keep s s' is)) := by
  induction is generalizing s s' with
  | nil => exact h
  | cons i is ih =>
    have hi : A i := hA i List.mem_cons_self
    have his : ∀ j ∈ is, A j := fun j hj => hA j (List.mem_cons_of_mem i hj)
    rw [project]
    cases hk : keep s s' i with
    | none => exact ih his (hdrop s s' i hi hk h)
    | some j => exact ih his (hkeep s s' i j hi hk h)

/-- the projection that forgets some inputs -/
theorem project_filter (visible : ι → Bool) (s s' : σ) (is : List ι) :
    M.project (fun _ _ i => if visible i then some i else none) s s' is = is.filter visible := by
  induction is generalizing s s' with
  | nil => rfl
  | cons i is ih =>
    rw [project, List.filter_cons]
    cases visible i with
    | true => exact congrArg (i :: ·) (ih ..)
    | false => exact ih ..

/-- **Unwinding.** If an input that is not visible changes nothing of what `R` relates, and a visible one keeps `R` on
both sides, then a run is related to the run of its visible inputs. -/
theorem run_filter {A : ι → Prop} {R : σ → σ → Prop} {visible : ι → Bool}
    (hhidden : ∀ s s' i, A i → visible i = false → R s s' → R (M.next s i) s')
    (hvisible : ∀ s s' i, A i → visible i = true → R s s' → R (M.next s i) (M.next s' i))
    {s s' : σ} {is : List ι} (hA : ∀ i ∈ is, A i) (h : R s s') : R (M.run s is) (M.run s' (is.filter visible)) := by
  rw [← M.project_filter visible s s' is]
  refine M.run_project (fun s s' i hi hk hR => ?_) (fun s s' i j hi hk hR => ?_) hA h
  · exact hhidden s s' i hi (by simpa using hk) hR
  · obtain ⟨hv, hij⟩ : visible i = true ∧ i = j := by simpa using hk
    exact hij ▸ hvisible s s' i hi hv hR

/-! ## History -/

/-- a predicate that became true was established by some input of the run -/
theorem exists_turn {P : σ → Prop} {s : σ} {is : List ι} (h0 : ¬ P s) (h : P (M.run s is)) :
    ∃ pre i post, is = pre ++ i :: post ∧ ¬ P (M.run s pre) ∧ P (M.next (M.run s pre) i) := by
  induction is generalizing s with
  | nil => exact absurd h h0
  | cons j js ih =>
    by_cases hj : P (M.next s j)
    · exact ⟨[], j, js, rfl, h0, hj⟩
    · obtain ⟨pre, i, post, rfl, h1, h2⟩ := ih hj h
      exact ⟨j :: pre, i, post, rfl, h1, h2⟩

/-- the values that the inputs of a run assign, oldest first -/
def assigned (a : σ → ι → Option κ) : σ → List ι → List κ
  | _, [] => []
  | s, i :: is => (a s i).toList ++ assigned a (M.next s i) is

theorem getLast?_assigned_cons (a : σ → ι → Option κ) (s : σ) (i : ι) (is : List ι) :
    (M.assigned a s (i :: is)).getLast? = (M.assigned a (M.next s i) is).getLast?.or (a s i) := by
  rw [assigned, List.getLast?_append]
  cases a s i <;> rfl

/-- a register that changes only by assignment holds the last value assigned, or its first value if there is none -/
theorem run_register {a : σ → ι → Option κ} {reg : σ → κ} (h : ∀ s i, reg (M.next s i) = (a s i).getD (reg s))
    (s : σ) (is : List ι) : reg (M.run s is) = (M.assigned a s is).getLast?.getD (reg s) := by
  induction is generalizing s with
  | nil => rfl
  | cons i is ih =>
    rw [run_cons, ih, h s i]
    cases hv : a s i with
    | none => simp [assigned, hv]
    | some v => simp [assigned, hv, List.getLast?_cons]

/-- an invariant of the states together with the last value assigned, `v` being the value before the run -/
theorem Along.inv_register {M : Machine σ ι ω} {a : σ → ι → Option κ} {ok : σ → ι → Prop} {I : Option κ → σ → Prop}
    (hstep : ∀ v s i, I v s → ok s i → I ((a s i).or v) (M.next s i)) {v : Option κ} {s : σ} {is : List ι} (h : I v s)
    (ha : M.Along ok s is) : I ((M.assigned a s is).getLast?.or v) (M.run s is) := by
  induction is generalizing v s with
  | nil => exact h
  | cons i is ih =>
    have hrest := ih (hstep v s i h ha.1) ha.2
    rw [assigned, List.getLast?_append, run_cons]
    cases hv : a s i with
    | none => simpa [hv] using hrest
    | some x => simpa [hv, Option.or_assoc] using hrest

/-! ## Collecting along a run -/

/-- what `f` gives for each input in the state in which it is served, in order -/
def collected (f : σ → ι → List κ) : σ → List ι → List κ
  | _, [] => []
  | s, i :: is => f s i ++ collected f (M.next s i) is

theorem collected_append (f : σ → ι → List κ) (s : σ) (a b : List ι) :
    M.collected f s (a ++ b) = M.collected f s a ++ M.collected f (M.run s a) b := by
  induction a generalizing s with
  | nil => rfl
  | cons i a ih => rw [List.cons_append, collected, ih, collected, run_cons, List.append_assoc]

theorem mem_collected_iff {f : σ → ι → List κ} {s : σ} {is : List ι} {x : κ} :
    x ∈ M.collected f s is ↔ ∃ pre i post, is = pre ++ i :: post ∧ x ∈ f (M.run s pre) i := by
  constructor
  · intro hx
    induction is generalizing s with
    | nil => cases hx
    | cons i is ih =>
      rcases List.mem_append.1 hx with hx | hx
      · exact ⟨[], i, is, rfl, hx⟩
      · obtain ⟨pre, j, post, rfl, hj⟩ := ih hx
        exact ⟨i :: pre, j, post, rfl, hj⟩
  · rintro ⟨pre, i, post, rfl, hx⟩
    rw [collected_append]
    exact List.mem_append_right _ (List.mem_append_left _ hx)

theorem mem_assigned_iff {a : σ → ι → Option κ} {s : σ} {is : List ι} {v : κ} :
    v ∈ M.assigned a s is ↔ ∃ pre i post, is = pre ++ i :: post ∧ a (M.run s pre) i = some v := by
  have hcollected : M.assigned a s is = M.collected (fun s i => (a s i).toList) s is := by
    induction is generalizing s with
    | nil => rfl
    | cons i is ih => rw [assigned, collected, ih]
  simp only [hcollected, mem_collected_iff, Option.mem_toList]

/-- a list kept in the state to which each input adds at most what `f` gives is drawn from what was collected -/
theorem run_sublist {f : σ → ι → List κ} {K : σ → List κ} (h : ∀ s i, (K (M.next s i)).Sublist (K s ++ f s i))
    (s : σ) (is : List ι) : (K (M.run s is)).Sublist (K s ++ M.collected f s is) := by
  induction is generalizing s with
  | nil => simp [collected]
  | cons i is ih =>
    rw [run_cons, collected, ← List.append_assoc]
    exact (ih (M.next s i)).trans ((h s i).append_right _)

/-! ## Stores that are filled once -/

/-- what an input does to a store: it fills it with all of something, or takes from its front and may give the rest up -/
inductive Drain (fills : List κ → Prop) (has has' : Prop) (taken left left' : List κ) : Prop
  | fill {all : List κ} (filled : fills all) (before : ¬ has) (after : has') (silent : taken = []) (full : left' = all)
  | take (same : has' ↔ has) (rest : taken ++ left' <+: left)

/-- an input that leaves the store alone -/
theorem Drain.idle {fills : List κ → Prop} {has has' : Prop} {taken left left' : List κ} (same : has' ↔ has) (silent : taken = [])
    (kept : left' = left) : Drain fills has has' taken left left' := by
  refine .take same ?_
  rw [silent, kept]
  exact List.prefix_rfl

variable (κ) in
/-- a list in the state that one input fills and others take from -/
structure Store where
  has : σ → Prop
  left : σ → List κ
  taken : σ → ι → List κ
  fills : σ → ι → List κ → Prop
  empty : ∀ s, ¬ has s → left s = []
  step : ∀ s i, Drain (fills s i) (has s) (has (M.next s i)) (taken s i) (left s) (left (M.next s i))

/-- **Draining.** What was taken in a run and what is left are a front part of what the store was filled with. -/
theorem Store.run {M : Machine σ ι ω} (S : M.Store κ) {s : σ} (h : ¬ S.has s) (is : List ι) :
    (¬ S.has (M.run s is) ∧ M.collected S.taken s is = []) ∨
      S.has (M.run s is) ∧ ∃ pre i post all, is = pre ++ i :: post ∧ S.fills (M.run s pre) i all ∧
        M.collected S.taken s is ++ S.left (M.run s is) <+: all := by
  induction is using List.reverseRecOn with
  | nil => exact Or.inl ⟨h, rfl⟩
  | append_singleton is i ih =>
    rw [run_snoc, collected_append, collected, collected, List.append_nil]
    cases S.step (M.run s is) i with
    | fill filled before after silent full =>
      rcases ih with ⟨_, hnone⟩ | ⟨hhas, _⟩
      · refine Or.inr ⟨after, is, i, [], _, rfl, filled, ?_⟩
        rw [hnone, silent, full]
        exact List.prefix_rfl
      · exact absurd hhas before
    | take same rest =>
      rcases ih with ⟨hnot, hnone⟩ | ⟨hhas, pre, j, post, all, rfl, hfills, hall⟩
      · rw [S.empty _ hnot, List.prefix_nil, List.append_eq_nil_iff] at rest
        refine Or.inl ⟨fun hhas => hnot (same.1 hhas), ?_⟩
        rw [hnone, rest.1, List.append_nil]
      · refine Or.inr ⟨same.2 hhas, pre, j, post ++ [i], all, by simp, hfills, ?_⟩
        rw [List.append_assoc]
        exact ((List.prefix_append_right_inj _).2 rest).trans hall

/-! ## Counting along a run -/

/-- the sum of `f` over the inputs of a run, each in the state in which it is served -/
def total (f : σ → ι → ℕ) : σ → List ι → ℕ
  | _, [] => 0
  | s, i :: is => f s i + total f (M.next s i) is

theorem total_eq_zero {f : σ → ι → ℕ} {is : List ι} (h : ∀ i ∈ is, ∀ s, f s i = 0) (s : σ) : M.total f s is = 0 := by
  induction is generalizing s with
  | nil => rfl
  | cons i is ih =>
    have hi : f s i = 0 := h i List.mem_cons_self s
    have hrest := ih (fun j hj => h j (List.mem_cons_of_mem i hj)) (M.next s i)
    simp only [total]
    omega

/-- what the inputs use up of a stock `g` is bounded by it, if no input adds to it -/
theorem Along.total_le {M : Machine σ ι ω} {ok : σ → ι → Prop} {I : σ → Prop} {f : σ → ι → ℕ} {g : σ → ℕ}
    (hI : ∀ s i, I s → ok s i → I (M.next s i)) (hf : ∀ s i, I s → ok s i → f s i + g (M.next s i) ≤ g s) {s : σ}
    {is : List ι} (h : I s) (his : M.Along ok s is) : M.total f s is + g (M.run s is) ≤ g s := by
  induction is generalizing s with
  | nil => simp [total]
  | cons i is ih =>
    obtain ⟨hi, hrest⟩ := his
    have hstep := hf s i h hi
    have hafter := ih (hI s i h hi) hrest
    rw [run_cons, total]
    omega

/-- an invariant that speaks of how often each of some things has happened, `c` being the counts before the run -/
theorem run_inv_total {A : ι → Prop} {f : κ → σ → ι → ℕ} {I : (κ → ℕ) → σ → Prop}
    (hstep : ∀ c s i, A i → I c s → I (fun k => c k + f k s i) (M.next s i)) {c : κ → ℕ} {s : σ} {is : List ι}
    (hA : ∀ i ∈ is, A i) (h : I c s) : I (fun k => c k + M.total (f k) s is) (M.run s is) := by
  induction is generalizing c s with
  | nil => exact h
  | cons i is ih =>
    have hrest := ih (fun j hj => hA j (List.mem_cons_of_mem i hj)) (hstep c s i (hA i List.mem_cons_self) h)
    simpa only [total, run_cons, Nat.add_assoc] using hrest

end Machine

/-! ## Folds -/

/-- a fold that keeps the value given last -/
theorem foldl_getD {κ β : Type} (f : κ → Option β) (l : List κ) (b : β) :
    l.foldl (fun b k => (f k).getD b) b = (l.filterMap f).getLast?.getD b := by
  induction l generalizing b with
  | nil => rfl
  | cons k l ih =>
    rw [List.foldl_cons, ih, List.filterMap_cons]
    cases f k with
    | none => rfl
    | some v => simp [List.getLast?_cons]

/-! ## Folds of commuting, repeatable updates -/

section Fold

variable {σ δ : Type} {f : σ → δ → σ}

/-- an update that commutes with the ones of `l` and repeats without effect can be applied first once more -/
theorem foldl_absorb {l : List δ} {d : δ} (hd : d ∈ l) (comm : ∀ a ∈ l, ∀ s, f (f s a) d = f (f s d) a)
    (idem : ∀ s, f (f s d) d = f s d) (s : σ) : l.foldl f (f s d) = l.foldl f s := by
  induction l generalizing s with
  | nil => simp at hd
  | cons a l ih =>
    simp only [List.foldl_cons]
    rcases List.mem_cons.1 hd with rfl | hd
    · rw [idem]
    · rw [← comm a List.mem_cons_self, ih hd fun b hb => comm b (List.mem_cons_of_mem a hb)]

theorem foldl_dedup [DecidableEq δ] {l : List δ} (comm : ∀ a ∈ l, ∀ b ∈ l, ∀ s, f (f s a) b = f (f s b) a)
    (idem : ∀ a ∈ l, ∀ s, f (f s a) a = f s a) (s : σ) : l.dedup.foldl f s = l.foldl f s := by
  induction l generalizing s with
  | nil => rfl
  | cons a l ih =>
    have hcomm : ∀ b ∈ l, ∀ c ∈ l, ∀ s, f (f s b) c = f (f s c) b := fun b hb c hc =>
      comm b (List.mem_cons_of_mem a hb) c (List.mem_cons_of_mem a hc)
    have hidem : ∀ b ∈ l, ∀ s, f (f s b) b = f s b := fun b hb => idem b (List.mem_cons_of_mem a hb)
    by_cases ha : a ∈ l
    · rw [List.dedup_cons_of_mem ha, ih hcomm hidem, List.foldl_cons,
        foldl_absorb ha (fun b hb => comm b (List.mem_cons_of_mem a hb) a List.mem_cons_self)
          (idem a List.mem_cons_self)]
    · rw [List.dedup_cons_of_notMem ha, List.foldl_cons, List.foldl_cons, ih hcomm hidem]

/-- **Order and multiplicity do not matter.** Two lists with the same members fold to the same state, if the updates
commute and each repeats without effect. -/
theorem foldl_eq_of_mem_iff [DecidableEq δ] {l l' : List δ} (hmem : ∀ d, d ∈ l ↔ d ∈ l')
    (comm : ∀ a ∈ l, ∀ b ∈ l, ∀ s, f (f s a) b = f (f s b) a) (idem : ∀ a ∈ l, ∀ s, f (f s a) a = f s a) (s : σ) :
    l.foldl f s = l'.foldl f s := by
  have hperm : l.dedup.Perm l'.dedup :=
    (List.perm_ext_iff_of_nodup l.nodup_dedup l'.nodup_dedup).2 fun d => by simpa using hmem d
  have comm' : ∀ a ∈ l', ∀ b ∈ l', ∀ s, f (f s a) b = f (f s b) a := fun a ha b hb =>
    comm a ((hmem a).2 ha) b ((hmem b).2 hb)
  rw [← foldl_dedup comm idem, ← foldl_dedup comm' fun a ha => idem a ((hmem a).2 ha)]
  exact hperm.foldl_eq' (fun a ha b hb s => comm a (List.mem_dedup.1 ha) b (List.mem_dedup.1 hb) s) s

end Fold

end Newsletter.Core
