/-
A register that tasks share.

Each task sets the register to a value of its own and relies on it afterwards; another task may set it in between. `Owned` says
that whoever relies on the register finds the own value in it. `always_owned_iff`: it does at every point of a run exactly if
whoever sets the register sets it to the value of all those who rely on it.
-/
import Newsletter.Core.Runs
import Newsletter.Core.Pool

namespace Newsletter.Core.Machine

variable {σ ι ω κ τ : Type}

/-- tasks with a shared register: its value, the tasks, the value a task sets, whether a task relies on the register, and the value
that an input sets -/
structure Shared (M : Machine σ ι ω) (τ κ : Type) where
  reg : σ → κ
  tasks : σ → Pool τ
  own : τ → κ
  relies : τ → Prop
  sets : σ → ι → Option κ
  reg_next : ∀ s i, reg (M.next s i) = (sets s i).getD (reg s)
  /-- a task that relies on the register has done so before, or sets it now -/
  relies_next : ∀ s i n t, tasks (M.next s i) n = some t → relies t →
    (∃ t', tasks s n = some t' ∧ relies t' ∧ own t' = own t) ∨ sets s i = some (own t)
  /-- when one task sets the register, those that rely on it still do -/
  relies_kept : ∀ s i k, sets s i = some k → ∀ n t, tasks s n = some t → relies t →
    ∃ t', tasks (M.next s i) n = some t' ∧ relies t' ∧ own t' = own t

variable {M : Machine σ ι ω}

namespace Shared

/-- whoever relies on the register finds the own value in it -/
def Owned (S : M.Shared τ κ) (s : σ) : Prop := ∀ n t, S.tasks s n = some t → S.relies t → S.own t = S.reg s

/-- whoever sets the register sets it to the value of all those who rely on it -/
def Agrees (S : M.Shared τ κ) (s : σ) (i : ι) : Prop :=
  ∀ k, S.sets s i = some k → ∀ n t, S.tasks s n = some t → S.relies t → S.own t = k

theorem owned_next_iff (S : M.Shared τ κ) {s : σ} (i : ι) (h : S.Owned s) : S.Owned (M.next s i) ↔ S.Agrees s i := by
  constructor
  · intro hnext k hk n t hn ht
    obtain ⟨t', hn', ht', hown⟩ := S.relies_kept s i k hk n t hn ht
    have hreg := hnext n t' hn' ht'
    rwa [hown, S.reg_next, hk, Option.getD_some] at hreg
  · intro hagrees n t hn ht
    rw [S.reg_next]
    rcases S.relies_next s i n t hn ht with ⟨t', hn', ht', hown⟩ | hset
    · cases hk : S.sets s i with
      | none => exact hown.symm.trans (h n t' hn' ht')
      | some k => exact hown.symm.trans (hagrees k hk n t' hn' ht')
    · rw [hset, Option.getD_some]

/-- **Shared register.** -/
theorem always_owned_iff (S : M.Shared τ κ) {s : σ} (h : S.Owned s) (is : List ι) :
    M.Always S.Owned s is ↔ M.Along S.Agrees s is :=
  M.always_iff_along (fun _ i hs => S.owned_next_iff i hs) h

end Shared

end Newsletter.Core.Machine
