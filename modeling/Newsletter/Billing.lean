/-
Nobody is billed while inactive: when a request takes a subscriber with a subscription id from status 2 to status 1, the
subscription should have been deleted at Stripe during that request, with the key of the subscriber's own campaign.

`unsubscribe` keeps this: it looks the row up together with its campaign and writes status 1 only after a successful
deletion. `unsubscribeuser` does not: it ignores the answer of the deletion, and takes row and campaign from the URL as
two unrelated ids. `not_billed_iff` gives the exact condition, `failed_deletion_deactivates` a run that violates it.
-/
import Newsletter.App

namespace Newsletter

open Newsletter.Core Auth Courses

/-- the request takes the row from active to inactive -/
def Deactivates (L : Lib) (w : World) (r : Request) (u : Rec User) : Prop :=
  u ∈ w.db.user.rows ∧ u.cols.status = some 2 ∧ statusOf ((app L).next w r).db u.id = some 1

/-- the row's subscription is deleted during the request, with the key of the row's own campaign -/
def DeletesSubscription (L : Lib) (w : World) (r : Request) (u : Rec User) : Prop :=
  ∃ course, u.cols.courseId.bind w.db.course.get = some course ∧
    ∃ c ∈ ((app L).out w r).calls, c.req = .subscriptionDelete u.cols.paymentIntentId ∧
      c.reg = course.cols.stripeApiKey ∧ c.ans.isOk = true

/-- no row with a subscription id is deactivated without deleting the subscription -/
def NotBilled (L : Lib) (w : World) (r : Request) : Prop :=
  ∀ u, Deactivates L w r u → truthy u.cols.paymentIntentId = true → DeletesSubscription L w r u

/-- if the request is an `unsubscribeuser` for an active row with a subscription id, the campaign of the URL has the key
of the row's own campaign and Stripe confirms the deletion -/
def RemovalConfirmed (w : World) : Request → Prop
  | .unsubscribeuser who userId campaign stripe =>
    ∀ u resource, Courses.unsubscribeuserTarget w.db who userId campaign = some (u, some resource) →
      u.cols.status = some 2 →
        (stripe 0).isOk = true ∧
          ∃ course, u.cols.courseId.bind w.db.course.get = some course ∧
            course.cols.stripeApiKey = resource.cols.stripeApiKey
  | _ => True

/-- **Step.** A row is deactivated only by the change that cancels it. -/
theorem Deactivates.cancel {L : Lib} {w : World} {r : Request} {u : Rec User} (h : Deactivates L w r u) :
    change L w r = .cancel u.id := by
  obtain ⟨hu, h2, h1⟩ := h
  obtain ⟨v, hv, hid, _, hs⟩ := (change L w r).row_persists hu
  rw [← next_user] at hv
  rw [← hid, statusOf_of_mem hv, hs, h2] at h1
  generalize change L w r = c at h1
  cases c with
  | cancel k =>
    by_cases hk : u.id = k
    · rw [hk]
    · simp [Change.status, hk] at h1
  | activate k =>
    by_cases hk : u.id = k
    · simp [Change.status, hk] at h1
    · simp [Change.status, hk] at h1
  | _ => simp [Change.status] at h1

theorem deactivates_of_cancel {L : Lib} {w : World} {r : Request} {u : Rec User} (hu : u ∈ w.db.user.rows)
    (h2 : u.cols.status = some 2) (h : change L w r = .cancel u.id) : Deactivates L w r u := by
  obtain ⟨v, hv, hid, _, hs⟩ := (change L w r).row_persists hu
  rw [← next_user] at hv
  refine ⟨hu, h2, ?_⟩
  rw [← hid, statusOf_of_mem hv, hs, h]
  simp [Change.status]

/-- **Nobody is billed while inactive**, exactly if removals by an admin are confirmed. -/
theorem not_billed_iff (L : Lib) (w : World) (r : Request) : NotBilled L w r ↔ RemovalConfirmed w r := by
  constructor
  · intro h
    cases r with
    | unsubscribeuser who userId campaign stripe =>
      intro u resource ht h2
      have htarget := Courses.unsubscribeuserTarget_spec ht
      have hcancel : change L w (.unsubscribeuser who userId campaign stripe) = .cancel u.id := by
        simp only [change, ht]
      obtain ⟨course, hcourse, c, hc, hreq, hreg, hok⟩ :=
        h u (deactivates_of_cancel htarget.mem h2 hcancel) htarget.subscription.symm
      rw [app_out, serve, (Courses.unsubscribeuser_out ht).2] at hc
      simp only [Option.toList_some, List.map_cons, List.map_nil, List.mem_singleton] at hc
      subst hc
      exact ⟨hok, course, hcourse, hreg.symm⟩
    | _ => trivial
  · intro h u hdeact htruthy
    have hcause := change_cause L w r
    rw [hdeact.cancel] at hcause
    generalize hk : u.id = k at hcause
    cases hcause with
    | unsubscribed ht hs =>
      obtain ⟨hu, hcampaign, hcourse⟩ := Auth.unsubscribeTarget_spec ht
      have hsame := w.db.user.id_inj hdeact.1 hu hk
      subst hsame
      refine ⟨_, by rw [hcampaign]; exact hcourse, ⟨_, .subscriptionDelete _, _⟩, ?_, rfl, rfl, hs⟩
      rw [app_out, serve, (Auth.unsubscribe_out ht).2]
      exact List.mem_singleton_self _
    | removed ht =>
      have htarget := Courses.unsubscribeuserTarget_spec ht
      have hsame := w.db.user.id_inj hdeact.1 htarget.mem hk
      subst hsame
      obtain ⟨c, rfl⟩ := Option.isSome_iff_exists.1 (htarget.subscription.trans htruthy)
      obtain ⟨hok, course, hcourse, hkey⟩ := h _ _ ht hdeact.2.1
      refine ⟨course, hcourse, ⟨_, .subscriptionDelete _, _⟩, ?_, rfl, hkey.symm, hok⟩
      rw [app_out, serve, (Courses.unsubscribeuser_out ht).2]
      exact List.mem_singleton_self _

/-- the owner removes `ann` -/
def Sample.removal (stripe : ℕ → Reply) : Request := .unsubscribeuser (some 2) 1 1 stripe

/-- `ann` is active and has a subscription id; the deletion fails and the row becomes inactive all the same -/
theorem failed_deletion_deactivates :
    Sample.subscribed.db.user.rows = [Sample.ann] ∧
      statusOf ((app Sample.lib).next Sample.subscribed (Sample.removal Sample.failing)).db 1 = some 1 ∧
      ((app Sample.lib).out Sample.subscribed (Sample.removal Sample.failing)).calls.map
        (fun c => (c.req, c.ans.isOk)) = [(.subscriptionDelete (some "sub_1"), false)] := by
  decide +kernel

end Newsletter
