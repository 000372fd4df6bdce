/-
The history of the subscriber table.

No request removes a subscriber. `register` and `add_user` insert, an accepted payment and the cancellations write the status, an
accepted `customer.subscription.created` writes the subscription id, and nothing writes another column of a row.

- `subscribers_run`: after any run the table has the rows of the start and those that were inserted, in this order and with their
  columns as inserted, but for the status and the subscription id, which are the last ones that a request of the run gave the row.
-/
import Newsletter.Leaving

namespace Newsletter

open Newsletter.Core Auth Courses

/-- the status that a request gives the row `k` -/
def restates (L : Lib) (k : ℕ) (w : World) (r : Request) : Option (Option ℕ) :=
  match change L w r with
  | .activate j => if j = k then some (some 2) else none
  | .cancel j => if j = k then some (some 1) else none
  | _ => none

/-- the row that a request inserts -/
def enrols (L : Lib) (w : World) (r : Request) : List (Rec User) :=
  match change L w r with
  | .enrol u => [⟨w.db.user.next, u⟩]
  | _ => []

/-- the columns with a status and a subscription id written, each if there is one -/
def User.settled (u : User) (status : Option (Option ℕ)) (subscription : Option (Option String)) : User :=
  { u with status := status.getD u.status, paymentIntentId := subscription.getD u.paymentIntentId }

theorem User.settled_settled (u : User) (s s' : Option (Option ℕ)) (p p' : Option (Option String)) :
    (u.settled s p).settled s' p' = u.settled (s'.or s) (p'.or p) := by
  cases s' <;> cases p' <;> rfl

/-- a row after the requests of a run -/
def rowAfter (L : Lib) (w : World) (reqs : List Request) (u : Rec User) : Rec User :=
  ⟨u.id, u.cols.settled ((app L).assigned (restates L u.id) w reqs).getLast? ((app L).assigned (links L u.id) w reqs).getLast?⟩

/-! ## One request -/

section Step

variable (L : Lib) (w : World) (r : Request)

/-- a request rewrites a row that is there -/
theorem target_below {k : ℕ} (h : (change L w r).target = some k) : k < w.db.user.next := by
  have hcause := change_cause L w r
  generalize change L w r = c at h hcause
  cases hcause with
  | silent | added | free | pending => cases h
  | payment ha => cases h; exact w.db.user.below _ (Table.first_mem (accepted_spec ha).2.1)
  | subscription ha => cases h; exact w.db.user.below _ (Table.first_mem (accepted_spec ha).2.1)
  | unsubscribed ht => cases h; exact w.db.user.below _ (Auth.unsubscribeTarget_spec ht).1
  | removed ht => cases h; exact w.db.user.below _ (Courses.unsubscribeuserTarget_spec ht).mem

/-- nothing happens to a row that is not the target -/
theorem rewrites_none {k : ℕ} (h : (change L w r).target ≠ some k) : restates L k w r = none ∧ links L k w r = none := by
  unfold restates links
  cases hc : change L w r with
  | none => exact ⟨rfl, rfl⟩
  | enrol u => exact ⟨rfl, rfl⟩
  | activate j | cancel j | link j s =>
    rw [hc] at h
    have hne : j ≠ k := fun hj => h (congrArg some hj)
    simp only [if_neg hne, and_self]

/-- a row after one request -/
def rowNext (u : Rec User) : Rec User := ⟨u.id, u.cols.settled (restates L u.id w r) (links L u.id w r)⟩

theorem rowAfter_cons (reqs : List Request) (u : Rec User) :
    rowAfter L w (r :: reqs) u = rowAfter L ((app L).next w r) reqs (rowNext L w r u) := by
  simp only [rowAfter, rowNext, Machine.getLast?_assigned_cons, User.settled_settled]

theorem rowNext_of_ne {u : Rec User} (h : (change L w r).target ≠ some u.id) : rowNext L w r u = u := by
  obtain ⟨hstatus, hlink⟩ := rewrites_none L w r h
  rw [rowNext, hstatus, hlink]
  rfl

theorem map_rowNext_self (h : (change L w r).target = none) (rows : List (Rec User)) : rows.map (rowNext L w r) = rows := by
  refine (List.map_congr_left fun u _ => rowNext_of_ne L w r ?_).trans (List.map_id _)
  rw [h]
  simp

theorem map_rowNext_setAt {j : ℕ} {f : User → User} (h : (change L w r).target = some j)
    (hf : ∀ u : User, u.settled (restates L j w r) (links L j w r) = f u) (rows : List (Rec User)) :
    rows.map (rowNext L w r) = rows.map (Table.setAt j f) := by
  refine List.map_congr_left fun u _ => ?_
  by_cases hj : u.id = j
  · rw [Table.setAt_of_eq hj, rowNext, hj, hf]
  · rw [Table.setAt_of_ne hj, rowNext_of_ne]
    rw [h]
    simpa using Ne.symm hj

/-- **Step.** A request rewrites one row at most, or appends one. -/
theorem next_rows : ((app L).next w r).db.user.rows = w.db.user.rows.map (rowNext L w r) ++ enrols L w r := by
  rw [next_user]
  cases hc : change L w r with
  | none =>
    rw [map_rowNext_self L w r (by rw [hc]; rfl), enrols, hc, List.append_nil]
    rfl
  | enrol u =>
    rw [map_rowNext_self L w r (by rw [hc]; rfl), enrols, hc]
    rfl
  | activate j =>
    rw [map_rowNext_setAt L w r (f := setActive) (by rw [hc]; rfl)
        (fun u => by simp [restates, links, hc, User.settled, setActive]),
      enrols, hc, List.append_nil]
    rfl
  | link j s =>
    rw [map_rowNext_setAt L w r (f := setSubscription s) (by rw [hc]; rfl)
      (fun u => by simp [restates, links, hc, User.settled, setSubscription]), enrols, hc, List.append_nil]
    rfl
  | cancel j =>
    rw [map_rowNext_setAt L w r (f := setInactive) (by rw [hc]; rfl)
      (fun u => by simp [restates, links, hc, User.settled, setInactive]), enrols, hc, List.append_nil]
    rfl

theorem next_counter : ((app L).next w r).db.user.next = w.db.user.next + (enrols L w r).length := by
  rw [next_user, enrols]
  cases change L w r <;> rfl

end Step

/-! ## Runs -/

theorem enrolled_ids (L : Lib) (w : World) (reqs : List Request) :
    ((app L).collected (enrols L) w reqs).map Rec.id =
      List.range' w.db.user.next ((app L).collected (enrols L) w reqs).length := by
  induction reqs generalizing w with
  | nil => rfl
  | cons r reqs ih =>
    have hone : (enrols L w r).map Rec.id = List.range' w.db.user.next (enrols L w r).length := by
      unfold enrols
      split <;> rfl
    rw [Machine.collected, List.map_append, ih, next_counter, hone, List.length_append, List.range'_append_1]

/-- **History.** After any run the subscriber table has the rows of the start and then one for each row that was inserted, under the
next ids. Each has its columns as they were, but for the status and the subscription id that a request gave it last. -/
theorem subscribers_run (L : Lib) (w : World) (reqs : List Request) :
    ((app L).run w reqs).db.user.rows =
        (w.db.user.rows ++ (app L).collected (enrols L) w reqs).map (rowAfter L w reqs) ∧
      ((app L).collected (enrols L) w reqs).map Rec.id =
        List.range' w.db.user.next ((app L).collected (enrols L) w reqs).length := by
  refine ⟨?_, enrolled_ids L w reqs⟩
  induction reqs generalizing w with
  | nil =>
    rw [Machine.collected, List.append_nil]
    exact (List.map_id _).symm
  | cons r reqs ih =>
    -- a row that is inserted by `r` or later is not rewritten by `r`
    have hnew : ∀ u ∈ enrols L w r ++ (app L).collected (enrols L) ((app L).next w r) reqs,
        rowAfter L ((app L).next w r) reqs u = rowAfter L w (r :: reqs) u := by
      intro u hu
      have hid : u.id ∈ List.range' w.db.user.next ((app L).collected (enrols L) w (r :: reqs)).length :=
        enrolled_ids L w (r :: reqs) ▸ List.mem_map_of_mem hu
      have htarget : (change L w r).target ≠ some u.id := by
        intro h
        have hbelow := target_below L w r h
        have hle := (List.mem_range'_1.1 hid).1
        omega
      rw [rowAfter_cons, rowNext_of_ne L w r htarget]
    rw [Machine.run_cons, ih, next_rows, Machine.collected, List.append_assoc,
      List.map_append (f := rowAfter L ((app L).next w r) reqs), List.map_append (f := rowAfter L w (r :: reqs)),
      List.map_congr_left hnew, List.map_map]
    congr 1
    exact List.map_congr_left fun u _ => (rowAfter_cons L w r reqs u).symm

end Newsletter
