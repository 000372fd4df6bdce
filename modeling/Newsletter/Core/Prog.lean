/-
Programs that write one shared register and call an external service.

A program either has ended (with a value or an exception), assigns the register, or calls the service and goes on
with the answer. The register is an ambient parameter of every call: the service sees the value it holds at that
moment. `exec` runs a program alone, the `n`-th call being answered by `env n`, and returns the result, the register
and the calls made, each with the register in force (`Call.reg`).

`bind` sequences two programs and `rescue` is a handler for exceptions: what was assigned and called before the
exception stays. `Only k p` says that `p` assigns no other value than `k`; then a run of `p` ends with its first
register or with `k` (`exec_reg`), and a run that starts with `k` in the register makes every call with it
(`exec_calls`). `Asks P p` says that `p` asks for nothing outside `P`, so that no call of a run is (`exec_asks`).
`Yields env p a l` says that some run of `p` returns `a` with the calls `l`; the lemmas `Yields.bind` and
`Yields.rescue` take such a run apart along the text of the program.

`retry` asks the same thing again until an answer decides, a bounded number of times: `exec_retry_val` is the value of a run,
the calls are all of the rounds if no answer decides (`exec_retry_calls`), and of the answers that decide a run has only the
first (`mem_exec_retry_calls_iff`).
-/
import Mathlib.Tactic

namespace Newsletter.Core

/-- a program over a register of type `κ` and a service with requests `ο` and answers `ρ` -/
inductive Prog (κ ο ρ ε α : Type) where
  | done (r : Except ε α)
  | assign (k : κ) (next : Prog κ ο ρ ε α)
  | call (q : ο) (next : ρ → Prog κ ο ρ ε α)

/-- a call: the register in force, the request and the answer -/
structure Call (κ ο ρ : Type) where
  reg : κ
  req : ο
  ans : ρ
deriving DecidableEq, Repr

/-- what a program leaves behind -/
structure Ran (κ ο ρ ε α : Type) where
  val : Except ε α
  reg : κ
  calls : List (Call κ ο ρ)

namespace Prog

variable {κ ο ρ ε α β : Type}

def bind : Prog κ ο ρ ε α → (α → Prog κ ο ρ ε β) → Prog κ ο ρ ε β
  | done (.ok a), f => f a
  | done (.error e), _ => done (.error e)
  | assign k p, f => assign k (p.bind f)
  | call q p, f => call q fun r => (p r).bind f

/-- run `h` in place of an exception -/
def rescue : Prog κ ο ρ ε α → (ε → Prog κ ο ρ ε α) → Prog κ ο ρ ε α
  | done (.ok a), _ => done (.ok a)
  | done (.error e), h => h e
  | assign k p, h => assign k (p.rescue h)
  | call q p, h => call q fun r => (p r).rescue h

instance : Monad (Prog κ ο ρ ε) where
  pure a := done (.ok a)
  bind := bind

/-- raise an exception -/
def raise (e : ε) : Prog κ ο ρ ε α := done (.error e)

/-- assign the register -/
def set (k : κ) : Prog κ ο ρ ε Unit := assign k (done (.ok ()))

/-- call the service; an answer that is an exception is raised -/
def ask {γ : Type} (q : ο) : Prog κ ο (Except ε γ) ε γ := call q done

/-- run alone, with `env n` as the answer to call number `n` -/
def exec (env : ℕ → ρ) : Prog κ ο ρ ε α → ℕ → κ → Ran κ ο ρ ε α
  | done r, _, k => ⟨r, k, []⟩
  | assign k' p, n, _ => exec env p n k'
  | call q p, n, k =>
    let t := exec env (p (env n)) (n + 1) k
    ⟨t.val, t.reg, ⟨k, q, env n⟩ :: t.calls⟩

/-- the answers of a run alone, one for each step and one for the end -/
def replies (env : ℕ → ρ) : Prog κ ο ρ ε α → ℕ → List ρ
  | done _, n => [env n]
  | assign _ p, n => env n :: replies env p n
  | call _ p, n => env n :: replies env (p (env n)) (n + 1)

/-! ## Execution of composed programs -/

theorem exec_bind (env : ℕ → ρ) (p : Prog κ ο ρ ε α) (f : α → Prog κ ο ρ ε β) (n : ℕ) (k : κ) :
    exec env (p >>= f) n k =
      match exec env p n k with
      | ⟨.ok a, k', l⟩ =>
        let t := exec env (f a) (n + l.length) k'
        ⟨t.val, t.reg, l ++ t.calls⟩
      | ⟨.error e, k', l⟩ => ⟨.error e, k', l⟩ := by
  change exec env (p.bind f) n k = _
  induction p generalizing n k with
  | done r => cases r <;> rfl
  | assign k' p ih => exact ih n k'
  | call q p ih =>
    simp only [bind, exec, ih (env n) (n + 1) k]
    rcases exec env (p (env n)) (n + 1) k with ⟨_ | a, k', l⟩
    · rfl
    · simp only [List.length_cons, List.cons_append]
      rw [show n + 1 + l.length = n + (l.length + 1) by omega]

theorem exec_rescue (env : ℕ → ρ) (p : Prog κ ο ρ ε α) (h : ε → Prog κ ο ρ ε α) (n : ℕ) (k : κ) :
    exec env (p.rescue h) n k =
      match exec env p n k with
      | ⟨.ok a, k', l⟩ => ⟨.ok a, k', l⟩
      | ⟨.error e, k', l⟩ =>
        let t := exec env (h e) (n + l.length) k'
        ⟨t.val, t.reg, l ++ t.calls⟩ := by
  induction p generalizing n k with
  | done r => cases r <;> rfl
  | assign k' p ih => exact ih n k'
  | call q p ih =>
    simp only [rescue, exec, ih (env n) (n + 1) k]
    rcases exec env (p (env n)) (n + 1) k with ⟨_ | a, k', l⟩
    · simp only [List.length_cons, List.cons_append]
      rw [show n + 1 + l.length = n + (l.length + 1) by omega]
    · rfl

@[simp] theorem exec_pure (env : ℕ → ρ) (a : α) (n : ℕ) (k : κ) :
    exec env (pure a : Prog κ ο ρ ε α) n k = ⟨.ok a, k, []⟩ := rfl

@[simp] theorem exec_raise (env : ℕ → ρ) (e : ε) (n : ℕ) (k : κ) :
    exec env (raise e : Prog κ ο ρ ε α) n k = ⟨.error e, k, []⟩ := rfl

@[simp] theorem exec_set (env : ℕ → ρ) (k' : κ) (n : ℕ) (k : κ) :
    exec env (set k' : Prog κ ο ρ ε Unit) n k = ⟨.ok (), k', []⟩ := rfl

@[simp] theorem exec_ask {γ : Type} (env : ℕ → Except ε γ) (q : ο) (n : ℕ) (k : κ) :
    exec env (ask q : Prog κ ο (Except ε γ) ε γ) n k = ⟨env n, k, [⟨k, q, env n⟩]⟩ := rfl

/-- the register is not read: what a program returns does not depend on it -/
theorem exec_val_reg (env : ℕ → ρ) (p : Prog κ ο ρ ε α) (n : ℕ) (k k' : κ) : (exec env p n k).val = (exec env p n k').val := by
  induction p generalizing n k k' with
  | done r => rfl
  | assign k'' p ih => rfl
  | call q p ih => exact ih (env n) (n + 1) k k'

/-! ## Runs that return -/

/-- some run of `p` returns `a`, having made the calls `l` -/
def Yields (env : ℕ → ρ) (p : Prog κ ο ρ ε α) (a : α) (l : List (Call κ ο ρ)) : Prop :=
  ∃ n k k', exec env p n k = ⟨.ok a, k', l⟩

section Yields

variable {env : ℕ → ρ} {l : List (Call κ ο ρ)}

theorem Yields.bind {p : Prog κ ο ρ ε α} {f : α → Prog κ ο ρ ε β} {b : β} (h : Yields env (p >>= f) b l) :
    ∃ a l1 l2, l = l1 ++ l2 ∧ Yields env p a l1 ∧ Yields env (f a) b l2 := by
  obtain ⟨n, k, k', hx⟩ := h
  rw [exec_bind] at hx
  split at hx
  · rename_i a k1 l1 hp
    simp only [Ran.mk.injEq] at hx
    obtain ⟨hval, hreg, rfl⟩ := hx
    refine ⟨a, l1, _, rfl, ⟨n, k, k1, hp⟩, n + l1.length, k1, k', ?_⟩
    rw [← hval, ← hreg]
  · simp at hx

theorem Yields.rescue {p : Prog κ ο ρ ε α} {h : ε → Prog κ ο ρ ε α} {a : α} (hy : Yields env (p.rescue h) a l) :
    Yields env p a l ∨ ∃ e l1 l2, l = l1 ++ l2 ∧ Yields env (h e) a l2 := by
  obtain ⟨n, k, k', hx⟩ := hy
  rw [exec_rescue] at hx
  split at hx
  · rename_i b k1 l1 hp
    exact Or.inl ⟨n, k, k', hp.trans hx⟩
  · rename_i e k1 l1 hp
    simp only [Ran.mk.injEq] at hx
    obtain ⟨hval, hreg, rfl⟩ := hx
    refine Or.inr ⟨e, l1, _, rfl, n + l1.length, k1, k', ?_⟩
    rw [← hval, ← hreg]

theorem Yields.pure {a b : α} (h : Yields env (pure a : Prog κ ο ρ ε α) b l) : b = a ∧ l = [] := by
  obtain ⟨n, k, k', hx⟩ := h
  simp only [exec_pure, Ran.mk.injEq, Except.ok.injEq] at hx
  exact ⟨hx.1.symm, hx.2.2.symm⟩

theorem not_yields_raise {e : ε} {a : α} : ¬ Yields env (raise e : Prog κ ο ρ ε α) a l := by
  rintro ⟨n, k, k', hx⟩
  simp at hx

theorem Yields.set {k0 : κ} {u : Unit} (h : Yields env (set k0 : Prog κ ο ρ ε Unit) u l) : l = [] := by
  obtain ⟨n, k, k', hx⟩ := h
  simp only [exec_set, Ran.mk.injEq] at hx
  exact hx.2.2.symm

end Yields

theorem Yields.ask {γ : Type} {env : ℕ → Except ε γ} {q : ο} {o : γ} {l : List (Call κ ο (Except ε γ))}
    (h : Yields env (ask q : Prog κ ο (Except ε γ) ε γ) o l) : ∃ k, l = [⟨k, q, .ok o⟩] := by
  obtain ⟨n, k, k', hx⟩ := h
  simp only [exec_ask, Ran.mk.injEq] at hx
  obtain ⟨hval, -, rfl⟩ := hx
  exact ⟨k, by rw [hval]⟩

/-! ## Programs that assign one value -/

/-- `p` assigns no other value than `k` -/
def Only (k : κ) : Prog κ ο ρ ε α → Prop
  | done _ => True
  | assign k' p => k' = k ∧ Only k p
  | call _ p => ∀ r, Only k (p r)

theorem Only.bind {k : κ} {p : Prog κ ο ρ ε α} {f : α → Prog κ ο ρ ε β} (hp : Only k p) (hf : ∀ a, Only k (f a)) :
    Only k (p >>= f) := by
  change Only k (p.bind f)
  induction p with
  | done r =>
    cases r with
    | error e => trivial
    | ok a => exact hf a
  | assign k' p ih => exact ⟨hp.1, ih hp.2⟩
  | call q p ih => exact fun r => ih r (hp r)

theorem Only.rescue {k : κ} {p : Prog κ ο ρ ε α} {h : ε → Prog κ ο ρ ε α} (hp : Only k p) (hh : ∀ e, Only k (h e)) :
    Only k (p.rescue h) := by
  induction p with
  | done r =>
    cases r with
    | error e => exact hh e
    | ok a => trivial
  | assign k' p ih => exact ⟨hp.1, ih hp.2⟩
  | call q p ih => exact fun r => ih r (hp r)

theorem only_set (k : κ) : Only k (set k : Prog κ ο ρ ε Unit) := ⟨rfl, trivial⟩

theorem only_pure (k : κ) (a : α) : Only k (pure a : Prog κ ο ρ ε α) := trivial

theorem only_raise (k : κ) (e : ε) : Only k (raise e : Prog κ ο ρ ε α) := trivial

theorem only_ask {γ : Type} (k : κ) (q : ο) : Only k (ask q : Prog κ ο (Except ε γ) ε γ) := fun _ => trivial

theorem exec_reg {env : ℕ → ρ} {k : κ} {p : Prog κ ο ρ ε α} (hp : Only k p) (n : ℕ) (k0 : κ) :
    (exec env p n k0).reg = k0 ∨ (exec env p n k0).reg = k := by
  induction p generalizing n k0 with
  | done r => exact Or.inl rfl
  | assign k' p ih =>
    obtain ⟨rfl, hp⟩ := hp
    exact Or.inr ((ih hp n k').elim id id)
  | call q p ih => exact ih (env n) (hp (env n)) (n + 1) k0

/-- a run that starts with `k` in the register makes every call with it and leaves it there -/
theorem exec_calls {env : ℕ → ρ} {k : κ} {p : Prog κ ο ρ ε α} (hp : Only k p) (n : ℕ) :
    (exec env p n k).reg = k ∧ ∀ c ∈ (exec env p n k).calls, c.reg = k := by
  refine ⟨(exec_reg hp n k).elim id id, ?_⟩
  induction p generalizing n with
  | done r => simp [exec]
  | assign k' p ih =>
    obtain ⟨rfl, hp⟩ := hp
    exact ih hp n
  | call q p ih =>
    simp only [exec, List.mem_cons, forall_eq_or_imp, true_and]
    exact ih (env n) (hp (env n)) (n + 1)

/-! ## Programs that ask for certain things only -/

/-- every request of `p`, whatever the answers are, satisfies `P` -/
def Asks (P : ο → Prop) : Prog κ ο ρ ε α → Prop
  | done _ => True
  | assign _ p => Asks P p
  | call q p => P q ∧ ∀ r, Asks P (p r)

theorem Asks.bind {P : ο → Prop} {p : Prog κ ο ρ ε α} {f : α → Prog κ ο ρ ε β} (hp : Asks P p) (hf : ∀ a, Asks P (f a)) :
    Asks P (p >>= f) := by
  change Asks P (p.bind f)
  induction p with
  | done r =>
    cases r with
    | error e => trivial
    | ok a => exact hf a
  | assign k p ih => exact ih hp
  | call q p ih => exact ⟨hp.1, fun r => ih r (hp.2 r)⟩

theorem Asks.rescue {P : ο → Prop} {p : Prog κ ο ρ ε α} {h : ε → Prog κ ο ρ ε α} (hp : Asks P p)
    (hh : ∀ e, Asks P (h e)) : Asks P (p.rescue h) := by
  induction p with
  | done r =>
    cases r with
    | error e => exact hh e
    | ok a => trivial
  | assign k p ih => exact ih hp
  | call q p ih => exact ⟨hp.1, fun r => ih r (hp.2 r)⟩

theorem asks_set (P : ο → Prop) (k : κ) : Asks P (set k : Prog κ ο ρ ε Unit) := trivial

theorem asks_pure (P : ο → Prop) (a : α) : Asks P (pure a : Prog κ ο ρ ε α) := trivial

theorem asks_raise (P : ο → Prop) (e : ε) : Asks P (raise e : Prog κ ο ρ ε α) := trivial

theorem asks_ask {γ : Type} {P : ο → Prop} {q : ο} (h : P q) : Asks P (ask q : Prog κ ο (Except ε γ) ε γ) :=
  ⟨h, fun _ => trivial⟩

theorem exec_asks {env : ℕ → ρ} {P : ο → Prop} {p : Prog κ ο ρ ε α} (hp : Asks P p) (n : ℕ) (k : κ) :
    ∀ c ∈ (exec env p n k).calls, P c.req := by
  induction p generalizing n k with
  | done r => simp [exec]
  | assign k' p ih => exact ih hp n k'
  | call q p ih =>
    simp only [exec, List.mem_cons, forall_eq_or_imp]
    exact ⟨hp.1, ih (env n) (hp.2 (env n)) (n + 1) k⟩

/-! ## Asking again -/

section Retry

variable {verdict : ρ → Option (Except ε α)} {q : ο} {exhausted : α} {env : ℕ → ρ}

/-- ask up to `n` times, until an answer decides how to end -/
def retry (verdict : ρ → Option (Except ε α)) (q : ο) (exhausted : α) : ℕ → Prog κ ο ρ ε α
  | 0 => pure exhausted
  | n + 1 => call q fun r =>
    match verdict r with
    | some result => done result
    | none => retry verdict q exhausted n

theorem exec_retry_some {i : ℕ} {result : Except ε α} (h : verdict (env i) = some result) (n : ℕ) (k : κ) :
    exec env (retry verdict q exhausted (n + 1)) i k = ⟨result, k, [⟨k, q, env i⟩]⟩ := by
  simp only [retry, exec, h]

theorem exec_retry_none {i : ℕ} (h : verdict (env i) = none) (n : ℕ) (k : κ) :
    exec env (retry verdict q exhausted (n + 1)) i k =
      ⟨(exec env (retry verdict q exhausted n) (i + 1) k).val, (exec env (retry verdict q exhausted n) (i + 1) k).reg,
        ⟨k, q, env i⟩ :: (exec env (retry verdict q exhausted n) (i + 1) k).calls⟩ := by
  simp only [retry, exec, h]

theorem exec_retry_val (n i : ℕ) (k : κ) :
    (exec env (retry verdict q exhausted n) i k).val =
      ((List.range' i n).findSome? fun j => verdict (env j)).getD (.ok exhausted) := by
  induction n generalizing i with
  | zero => rfl
  | succ n ih =>
    rw [List.range'_succ, List.findSome?_cons]
    cases h : verdict (env i) with
    | some result => rw [exec_retry_some h, Option.getD_some]
    | none => rw [exec_retry_none h, ih]

theorem exec_retry_calls {n i : ℕ} (h : ∀ j ∈ List.range' i n, verdict (env j) = none) (k : κ) :
    (exec env (retry verdict q exhausted n) i k).calls = (List.range' i n).map fun j => ⟨k, q, env j⟩ := by
  induction n generalizing i with
  | zero => rfl
  | succ n ih =>
    rw [List.range'_succ] at h ⊢
    rw [exec_retry_none (h i List.mem_cons_self), ih fun j hj => h j (List.mem_cons_of_mem i hj), List.map_cons]

/-- the answers of a run that decide: the first of the answers offered that does, and no other -/
theorem mem_exec_retry_calls_iff {n i : ℕ} {k : κ} {r : ρ} (h : (verdict r).isSome = true) :
    (∃ c ∈ (exec env (retry verdict q exhausted n) i k).calls, c.ans = r) ↔
      ((List.range' i n).map env).find? (fun r => (verdict r).isSome) = some r := by
  induction n generalizing i with
  | zero => simp [retry, exec_pure]
  | succ n ih =>
    rw [List.range'_succ, List.map_cons, List.find?_cons]
    cases hv : verdict (env i) with
    | some result =>
      rw [exec_retry_some hv]
      simp
    | none =>
      have hne : env i ≠ r := by
        rintro rfl
        rw [hv] at h
        cases h
      rw [exec_retry_none hv]
      simp only [List.mem_cons, exists_eq_or_imp, hne, false_or, ih, Option.isSome_none]

end Retry

end Prog

end Newsletter.Core
