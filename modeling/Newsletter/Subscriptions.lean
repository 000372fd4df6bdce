/-
The subscriber table as an abstract machine.

Whatever the requests of the application do, they change the subscriber table in one of five ways (`Change`): nothing,
a new row, a row made active (status 2), a row linked to a subscription id, a row made inactive (status 1). No request
removes a row or rewrites its email address, customer id, amount or campaign (`Kept`). Each handler's module proves
which change its request is, and `Newsletter.App` puts these together (`next_user`); the results about subscribers are
case analyses over the five changes.
-/
import Newsletter.Schema

namespace Newsletter

open Newsletter.Core

/-- what one request does to the subscriber table -/
inductive Change where
  | none
  | enrol (u : User)
  | activate (id : ℕ)
  | link (id : ℕ) (subscription : String)
  | cancel (id : ℕ)
deriving DecidableEq, Repr

def setActive (u : User) : User := { u with status := some 2 }

def setSubscription (s : String) (u : User) : User := { u with paymentIntentId := some s }

def setInactive (u : User) : User := { u with status := some 1 }

def Change.apply (t : Table User) : Change → Table User
  | .none => t
  | .enrol u => t.insert u
  | .activate k => t.modify k setActive
  | .link k s => t.modify k (setSubscription s)
  | .cancel k => t.modify k setInactive

/-- the row that a change rewrites -/
def Change.target : Change → Option ℕ
  | .activate k | .link k _ | .cancel k => some k
  | .none | .enrol _ => Option.none

/-- the columns that stay as they were inserted -/
structure Kept (u v : User) : Prop where
  email : v.email = u.email
  customerId : v.customerId = u.customerId
  amount : v.amount = u.amount
  courseId : v.courseId = u.courseId

theorem Kept.refl (u : User) : Kept u u := ⟨rfl, rfl, rfl, rfl⟩

theorem Kept.trans {u v x : User} (h : Kept u v) (h' : Kept v x) : Kept u x :=
  ⟨h'.email.trans h.email, h'.customerId.trans h.customerId, h'.amount.trans h.amount, h'.courseId.trans h.courseId⟩

theorem kept_setAt {k : ℕ} {f : User → User} (hf : ∀ u, Kept u (f u)) (r : Rec User) :
    Kept r.cols (Table.setAt k f r).cols := by
  unfold Table.setAt
  split_ifs
  · exact hf r.cols
  · exact Kept.refl r.cols

theorem kept_setActive (u : User) : Kept u (setActive u) := ⟨rfl, rfl, rfl, rfl⟩

theorem kept_setSubscription (s : String) (u : User) : Kept u (setSubscription s u) := ⟨rfl, rfl, rfl, rfl⟩

theorem kept_setInactive (u : User) : Kept u (setInactive u) := ⟨rfl, rfl, rfl, rfl⟩

/-- the status of the subscriber row `k` -/
def statusOf (db : Db) (k : ℕ) : Option ℕ := (db.user.get k).bind fun u => u.cols.status

theorem statusOf_of_mem {db : Db} {u : Rec User} (h : u ∈ db.user.rows) : statusOf db u.id = u.cols.status := by
  unfold statusOf
  rw [Table.get_of_mem h, Option.bind_some]

/-- the status of the row `k` after a change, its status before being `s` -/
def Change.status (k : ℕ) (s : Option ℕ) : Change → Option ℕ
  | .activate j => if k = j then some 2 else s
  | .cancel j => if k = j then some 1 else s
  | _ => s

theorem status_setAt {k : ℕ} {f : User → User} (r : Rec User) :
    (Table.setAt k f r).cols.status = if r.id = k then (f r.cols).status else r.cols.status := by
  unfold Table.setAt
  split_ifs <;> rfl

/-- rows are never removed, keep their inserted columns and have the status that the change says -/
theorem Change.row_persists (c : Change) {t : Table User} {r : Rec User} (h : r ∈ t.rows) :
    ∃ r' ∈ (c.apply t).rows, r'.id = r.id ∧ Kept r.cols r'.cols ∧ r'.cols.status = c.status r.id r.cols.status := by
  cases c with
  | none => exact ⟨r, h, rfl, Kept.refl _, rfl⟩
  | enrol u => exact ⟨r, Table.mem_insert.2 (Or.inl h), rfl, Kept.refl _, rfl⟩
  | activate k =>
    exact ⟨_, Table.mem_modify.2 ⟨r, h, rfl⟩, Table.setAt_id .., kept_setAt kept_setActive r, status_setAt r⟩
  | link k s =>
    refine ⟨_, Table.mem_modify.2 ⟨r, h, rfl⟩, Table.setAt_id .., kept_setAt (kept_setSubscription s) r, ?_⟩
    rw [status_setAt]
    exact ite_self _
  | cancel k =>
    exact ⟨_, Table.mem_modify.2 ⟨r, h, rfl⟩, Table.setAt_id .., kept_setAt kept_setInactive r, status_setAt r⟩

/-- the same along a list of changes -/
theorem rows_persist (cs : List Change) {t : Table User} {r : Rec User} (h : r ∈ t.rows) :
    ∃ r' ∈ (cs.foldl Change.apply t).rows, r'.id = r.id ∧ Kept r.cols r'.cols ∧
      r'.cols.status = cs.foldl (Change.status r.id) r.cols.status := by
  induction cs generalizing t r with
  | nil => exact ⟨r, h, rfl, Kept.refl _, rfl⟩
  | cons c cs ih =>
    obtain ⟨r1, h1, hid, hk, hs⟩ := c.row_persists h
    obtain ⟨r2, h2, hid2, hk2, hs2⟩ := ih h1
    refine ⟨r2, h2, hid2.trans hid, hk.trans hk2, ?_⟩
    rw [hs2, hid, hs, List.foldl_cons]

/-- without cancellations, a row is active at the end if some change activates it and else has its old status -/
theorem foldl_status {k : ℕ} {cs : List Change} (h : ∀ j, Change.cancel j ∉ cs) (s : Option ℕ) :
    cs.foldl (Change.status k) s = if .activate k ∈ cs then some 2 else s := by
  induction cs generalizing s with
  | nil => rfl
  | cons c cs ih =>
    have hrest : ∀ j, Change.cancel j ∉ cs := fun j hj => h j (List.mem_cons_of_mem c hj)
    rw [List.foldl_cons, ih hrest]
    cases c with
    | activate j =>
      by_cases hj : k = j
      · subst hj
        simp [Change.status]
      · simp [Change.status, hj]
    | cancel j => exact absurd List.mem_cons_self (h j)
    | _ => simp [Change.status]

/-- an active row of the new table was active before, or is the inserted row, or is the row made active -/
theorem Change.active_origin (c : Change) {t : Table User} {v : Rec User} (hv : v ∈ (c.apply t).rows)
    (h2 : v.cols.status = some 2) :
    (∃ u ∈ t.rows, u.id = v.id ∧ u.cols.status = some 2 ∧ Kept u.cols v.cols) ∨
      (∃ x, c = .enrol x ∧ v = ⟨t.next, x⟩) ∨ ∃ u ∈ t.rows, c = .activate u.id ∧ v = ⟨u.id, setActive u.cols⟩ := by
  cases c with
  | none => exact Or.inl ⟨v, hv, rfl, h2, Kept.refl _⟩
  | enrol x =>
    rcases Table.mem_insert.1 hv with hv | rfl
    · exact Or.inl ⟨v, hv, rfl, h2, Kept.refl _⟩
    · exact Or.inr (Or.inl ⟨x, rfl, rfl⟩)
  | activate k =>
    obtain ⟨u, hu, rfl⟩ := Table.mem_modify.1 hv
    by_cases hk : u.id = k
    · exact Or.inr (Or.inr ⟨u, hu, by rw [hk], Table.setAt_of_eq hk⟩)
    · rw [Table.setAt_of_ne hk] at h2 ⊢
      exact Or.inl ⟨u, hu, rfl, h2, Kept.refl _⟩
  | link k s =>
    obtain ⟨u, hu, rfl⟩ := Table.mem_modify.1 hv
    refine Or.inl ⟨u, hu, (Table.setAt_id ..).symm, ?_, kept_setAt (kept_setSubscription s) u⟩
    by_cases hk : u.id = k
    · rw [Table.setAt_of_eq hk] at h2
      exact h2
    · rw [Table.setAt_of_ne hk] at h2
      exact h2
  | cancel k =>
    obtain ⟨u, hu, rfl⟩ := Table.mem_modify.1 hv
    by_cases hk : u.id = k
    · rw [Table.setAt_of_eq hk] at h2
      exact absurd h2 (by simp [setInactive])
    · rw [Table.setAt_of_ne hk] at h2 ⊢
      exact Or.inl ⟨u, hu, rfl, h2, Kept.refl _⟩

end Newsletter
