/-
Leaving: the POST behind the link of every newsletter (`app/auth/route.py`, lines 427-471).

`unsubscribe` makes the row inactive only if Stripe has deleted a subscription, and hands Stripe the row's
`payment_intent_id`, whatever it is. A row gets one from an accepted `customer.subscription.created` delivery and in no other
way: registrations for free, rows added by an admin and payments whose subscription event has not arrived have none, Stripe
rejects the null id, and the subscriber stays active (`added_subscriber_stays`). The admin's `unsubscribeuser` has the test
for an id that is missing here.

Stripe's side is a set of live subscriptions: it deletes these (`Plausible`), it rejects the null id, and what it does with any
other id is open. `can_leave_iff` says who can leave, in every state that a run reaches.
-/
import Newsletter.App

namespace Newsletter

open Newsletter.Core Auth Courses

/-! ## Who can leave -/

/-- the answer to a deletion, if `live` are the live subscriptions -/
def Plausible (live : Set String) (c : StripeCall) : Prop :=
  match c.req with
  | .subscriptionDelete (some s) => s ∈ live → c.ans.isOk = true
  | .subscriptionDelete none => c.ans.isOk = false
  | _ => True

/-- whatever plausible answers Stripe gives, the POST makes the row inactive and changes nothing else in the database -/
def CanLeave (live : Set String) (w : World) (user campaign : ℕ) : Prop :=
  ∀ stripe, (∀ c ∈ (Auth.unsubscribe w user campaign true stripe).calls, Plausible live c) →
    (Auth.unsubscribe w user campaign true stripe).world.db =
      { w.db with user := w.db.user.modify user setInactive }

theorem unsubscribeTarget_of_mem {db : Db} {u : Rec User} {campaign : ℕ} {course : Rec Course} (hu : u ∈ db.user.rows)
    (hc : u.cols.courseId = some campaign) (hcourse : db.course.get campaign = some course) :
    Auth.unsubscribeTarget db u.id campaign true = some (u, course) := by
  have hfirst : db.user.first (fun v => v.id = u.id ∧ v.cols.courseId = some campaign) = some u := by
    cases hf : db.user.first (fun v => v.id = u.id ∧ v.cols.courseId = some campaign) with
    | none =>
      have hnot := Table.first_eq_none_iff.1 hf u hu
      simp [hc] at hnot
    | some v =>
      have hprop := Table.first_prop hf
      simp only [decide_eq_true_eq] at hprop
      rw [db.user.id_inj (Table.first_mem hf) hu hprop.1]
  unfold Auth.unsubscribeTarget
  simp only [if_true, hfirst, hcourse]

theorem modify_setInactive_ne {t : Table User} {u : Rec User} (hu : u ∈ t.rows) (h2 : u.cols.status = some 2) :
    t ≠ t.modify u.id setInactive := by
  intro heq
  have hget := Table.get_modify_self (Table.get_of_mem hu) setInactive
  rw [← heq, Table.get_of_mem hu] at hget
  have hcols := congrArg Rec.cols (Option.some.inj hget)
  rw [hcols] at h2
  simp [setInactive] at h2

/-- an active subscriber of an existing campaign can leave exactly with a live subscription -/
theorem canLeave_iff_subscription {live : Set String} {w : World} {u : Rec User} {campaign : ℕ} (hu : u ∈ w.db.user.rows)
    (h2 : u.cols.status = some 2) (hc : u.cols.courseId = some campaign)
    (hcourse : (w.db.course.get campaign).isSome = true) :
    CanLeave live w u.id campaign ↔ ∃ s ∈ live, u.cols.paymentIntentId = some s := by
  obtain ⟨course, hcourse⟩ := Option.isSome_iff_exists.1 hcourse
  have htarget := unsubscribeTarget_of_mem hu hc hcourse
  -- a rejection changes nothing, which is not what leaving means
  have hrejected : (∀ key, Plausible live ⟨key, .subscriptionDelete u.cols.paymentIntentId, .error .stripeError⟩) →
      ¬ CanLeave live w u.id campaign := by
    intro hplausible hleave
    have hdb := hleave (fun _ => .error .stripeError) (by
      rw [(Auth.unsubscribe_out htarget).2]
      simpa using hplausible _)
    rw [(Auth.unsubscribe_out htarget).1] at hdb
    exact modify_setInactive_ne hu h2 (congrArg Db.user hdb)
  constructor
  · intro hleave
    by_contra hno
    refine hrejected (fun key => ?_) hleave
    cases hid : u.cols.paymentIntentId with
    | none => rfl
    | some s => exact fun hlive => absurd ⟨s, hlive, hid⟩ hno
  · rintro ⟨s, hlive, hid⟩ stripe hplausible
    rw [(Auth.unsubscribe_out htarget).2, hid] at hplausible
    have hok : (stripe 0).isOk = true := hplausible _ List.mem_cons_self hlive
    rw [(Auth.unsubscribe_out htarget).1, if_pos hok]
    rfl

/-! ## Where a subscription id comes from -/

/-- the subscription id of the row `k` -/
def subscriptionOf (db : Db) (k : ℕ) : Option String := (db.user.get k).bind fun u => u.cols.paymentIntentId

/-- the subscription id that a delivery gives the row `k` -/
def links (L : Lib) (k : ℕ) (w : World) (r : Request) : Option (Option String) :=
  match change L w r with
  | .link j s => if j = k then some (some s) else none
  | _ => none

theorem bind_map_setAt {o : Option (Rec User)} {j : ℕ} {f : User → User}
    (hf : ∀ u, (f u).paymentIntentId = u.paymentIntentId) :
    ((o.map (Table.setAt j f)).bind fun u => u.cols.paymentIntentId) = o.bind fun u => u.cols.paymentIntentId := by
  cases o with
  | none => rfl
  | some u =>
    by_cases hj : u.id = j
    · simp [Table.setAt_of_eq hj, hf]
    · simp [Table.setAt_of_ne hj]

/-- new rows have no subscription -/
theorem bind_get_insert {t : Table User} {x : User} (hx : x.paymentIntentId = none) (k : ℕ) :
    (((t.insert x).get k).bind fun u => u.cols.paymentIntentId) = (t.get k).bind fun u => u.cols.paymentIntentId := by
  cases hk : t.get k with
  | some u => rw [Table.get_insert_of_some hk]
  | none =>
    cases hk' : (t.insert x).get k with
    | none => rfl
    | some v =>
      obtain ⟨hv, hid⟩ := Table.get_eq_some_iff.1 hk'
      rcases Table.mem_insert.1 hv with hold | rfl
      · exact absurd hid (Table.get_eq_none_iff.1 hk v hold)
      · exact hx

theorem enrol_subscription {L : Lib} {w : World} {r : Request} {x : User} (h : change L w r = .enrol x) :
    x.paymentIntentId = none := by
  have hcause := change_cause L w r
  rw [h] at hcause
  cases hcause with
  | added => rfl
  | free => rfl
  | pending => rfl

theorem link_mem {L : Lib} {w : World} {r : Request} {j : ℕ} {s : String} (h : change L w r = .link j s) :
    ∃ u ∈ w.db.user.rows, u.id = j := by
  have hcause := change_cause L w r
  rw [h] at hcause
  cases hcause with
  | subscription ha => exact ⟨_, Table.first_mem (accepted_spec ha).2.1, rfl⟩

/-- **Step.** A request changes the subscription id of a row only by linking it. -/
theorem next_subscription (L : Lib) (k : ℕ) (w : World) (r : Request) :
    subscriptionOf ((app L).next w r).db k = (links L k w r).getD (subscriptionOf w.db k) := by
  unfold subscriptionOf links
  rw [next_user]
  cases hchange : change L w r with
  | none => rfl
  | enrol x => exact bind_get_insert (enrol_subscription hchange) k
  | activate j =>
    rw [Change.apply, Table.get_modify]
    exact bind_map_setAt fun _ => rfl
  | cancel j =>
    rw [Change.apply, Table.get_modify]
    exact bind_map_setAt fun _ => rfl
  | link j s =>
    simp only [Change.apply]
    by_cases hj : j = k
    · obtain ⟨u, hu, hid⟩ := link_mem hchange
      rw [if_pos hj, ← hj, ← hid, Table.get_modify_self (Table.get_of_mem hu)]
      rfl
    · rw [if_neg hj, Table.get_modify_of_ne _ _ (Ne.symm hj)]
      rfl

/-- the subscription id that the requests of a run have given the row `k` last, or that it had before -/
def lastSubscription (L : Lib) (w : World) (reqs : List Request) (k : ℕ) : Option String :=
  ((app L).assigned (links L k) w reqs).getLast?.getD (subscriptionOf w.db k)

theorem run_subscription (L : Lib) (w : World) (reqs : List Request) (k : ℕ) :
    subscriptionOf ((app L).run w reqs).db k = lastSubscription L w reqs k :=
  @Machine.run_register _ _ _ _ (app L) (links L k) (fun w => subscriptionOf w.db k) (next_subscription L k) w reqs

/-- **Who can leave.** In a state reached by any run, an active subscriber of an existing campaign can leave exactly if the
last subscription id that a delivery has given the row (or the one it had before the run) is a live one. -/
theorem can_leave_iff (L : Lib) (live : Set String) (w : World) (reqs : List Request) {u : Rec User} {campaign : ℕ}
    (hu : u ∈ ((app L).run w reqs).db.user.rows) (h2 : u.cols.status = some 2) (hc : u.cols.courseId = some campaign)
    (hcourse : (((app L).run w reqs).db.course.get campaign).isSome = true) :
    CanLeave live ((app L).run w reqs) u.id campaign ↔ ∃ s ∈ live, lastSubscription L w reqs u.id = some s := by
  have hlast : u.cols.paymentIntentId = lastSubscription L w reqs u.id := by
    rw [← run_subscription, subscriptionOf, Table.get_of_mem hu, Option.bind_some]
  rw [canLeave_iff_subscription hu h2 hc hcourse, hlast]

/-- the sample subscriber, who has paid and whose subscription was linked -/
theorem can_leave_iff_subscribed :
    Sample.ann ∈ Sample.subscribed.db.user.rows ∧
      (CanLeave {"sub_1"} Sample.subscribed Sample.ann.id 1 ↔
        ∃ s ∈ ({"sub_1"} : Set String), lastSubscription Sample.lib Sample.start
          [Sample.registration, Sample.subscription, Sample.checkout] Sample.ann.id = some s) := by
  have hmem : Sample.ann ∈ Sample.subscribed.db.user.rows := by
    rw [Sample.subscribed_rows]
    exact List.mem_cons_self
  have hcourse : (Sample.subscribed.db.course.get 1).isSome = true := by decide +kernel
  refine ⟨hmem, ?_⟩
  unfold Sample.subscribed at hmem hcourse ⊢
  exact can_leave_iff _ _ _ _ hmem rfl rfl hcourse

/-- `eve` as added by an admin to the first campaign -/
def Sample.eve : Rec User := ⟨1, addedUser "eve@example.com" 1⟩

/-- the row is active in an existing campaign, Stripe rejects the null id as it should, and the row stays active; so `eve` cannot
leave, whatever the live subscriptions are -/
theorem added_subscriber_stays :
    let w := (app Sample.lib).run Sample.start [.addUser (some ("eve@example.com", 1))]
    let o := Auth.unsubscribe w Sample.eve.id 1 true Sample.failing
    w.db.user.rows = [Sample.eve] ∧ Sample.eve.cols.status = some 2 ∧ (w.db.course.get 1).isSome = true ∧
      o.calls = [⟨some "sk_1", .subscriptionDelete none, .error .stripeError⟩] ∧
      o.resp = .text "error in unsubscribing" ∧ o.world.db.user.rows = [Sample.eve] ∧
      ∀ live, ¬ CanLeave live w Sample.eve.id 1 := by
  intro w o
  have hrows : w.db.user.rows = [Sample.eve] := rfl
  have hcourse : (w.db.course.get 1).isSome = true := rfl
  refine ⟨hrows, rfl, hcourse, rfl, rfl, rfl, ?_⟩
  intro live hleave
  have hmem : Sample.eve ∈ w.db.user.rows := by
    rw [hrows]
    exact List.mem_cons_self
  obtain ⟨s, _, hs⟩ := (canLeave_iff_subscription hmem rfl rfl hcourse).1 hleave
  cases hs

end Newsletter
