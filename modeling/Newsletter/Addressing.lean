/-
Which row a webhook delivery is about.

`handle_webhook` takes the first row with the payload's customer id, in a column without a unique constraint. That this is
the payer's row rests on where customer ids come from: only a paid registration stores one, and it stores the id that
Stripe has just returned. So if Stripe never returns an id twice,
- the stored ids are drawn from the returned ones, in order (`customers_sublist`), and are distinct;
- a row with a customer id is the row of the registration that opened the checkout session for that customer
  (`registered_of_customer`);
- a delivery changes at most that row, there only the status or the subscription id, and nothing if the payload names no
  or an unknown customer or does not verify (`webhook_changes_payer_only`).
-/
import Newsletter.App

namespace Newsletter

open Newsletter.Core Auth

/-! ## Customer ids come from Stripe -/

/-- the non-null customer ids, in row order -/
def customers (t : Table User) : List String := t.rows.filterMap fun u => u.cols.customerId

/-- the customer ids that Stripe has returned -/
def customersReturned (calls : List StripeCall) : List String :=
  calls.filterMap fun c =>
    match c.req, c.ans with
    | .customerCreate _, .ok o => some o.id
    | _, _ => none

/-- the customer id a change stores -/
def Change.customer : Change → Option String
  | .enrol u => u.customerId
  | _ => Option.none

theorem customers_setAt {k : ℕ} {f : User → User} (hf : ∀ u, Kept u (f u)) (t : Table User) :
    customers (t.modify k f) = customers t := by
  simp only [customers, Table.modify_rows, List.filterMap_map]
  refine List.filterMap_congr fun r _ => ?_
  exact (kept_setAt hf r).customerId

theorem customers_apply (c : Change) (t : Table User) : customers (c.apply t) = customers t ++ c.customer.toList := by
  cases c with
  | none => simp [Change.apply, Change.customer]
  | enrol u =>
    simp only [Change.apply, Change.customer, customers, Table.insert_rows, List.filterMap_append]
    cases hu : u.customerId <;> simp [hu]
  | activate k => simp [Change.apply, Change.customer, customers_setAt kept_setActive]
  | link k s => simp [Change.apply, Change.customer, customers_setAt (kept_setSubscription s)]
  | cancel k => simp [Change.apply, Change.customer, customers_setAt kept_setInactive]

/-- a paid registration that stores a customer has created it and opened a session for it -/
theorem enrolChange_customer {w : World} {course : Rec Course} {email : String} {price : ℚ} {stripe : ℕ → Reply}
    {commit : Bool} {customer : String}
    (h : (enrolChange w course email price stripe commit).customer = some customer) :
    customer ∈ customersReturned (enrol w course email price stripe commit).calls ∧
      ∃ p url, SessionOpened (enrol w course email price stripe commit).calls course.id customer p url := by
  rw [enrol_calls]
  unfold enrolChange at h
  split_ifs at h ⊢ with hf hc
  · simp [Change.customer, freeUser] at h
  · simp [Change.customer] at h
  · cases hx : Prog.exec stripe (openCheckout course email (amountOf price) (currencyOf course.cols)) 0 w.apiKey with
    | mk val key calls =>
      rw [hx] at h
      cases val with
      | error e => simp [Change.customer] at h
      | ok r =>
        obtain ⟨c, url⟩ := r
        simp only at h ⊢
        split_ifs at h with hu
        · simp only [Change.customer, pendingUser, Option.some.injEq] at h
          subst h
          obtain ⟨⟨k, o, rfl, hmem⟩, p, hopen, -⟩ := openCheckout_opened ⟨0, w.apiKey, key, hx⟩ hu.1
          exact ⟨List.mem_filterMap.2 ⟨_, hmem, rfl⟩, p, url, hopen⟩
        · simp [Change.customer] at h

/-- the only requests that store a customer id are registrations -/
theorem change_customer {L : Lib} {w : World} {r : Request} {customer : String}
    (h : (change L w r).customer = some customer) :
    ∃ code form stripe commit, r = .register code form stripe commit ∧
      customer ∈ customersReturned (serve L w r).calls ∧
      ∃ course p url, SessionOpened (serve L w r).calls course customer p url := by
  cases r with
  | register code form stripe commit =>
    refine ⟨code, form, stripe, commit, rfl, ?_⟩
    simp only [change, serve] at h ⊢
    cases ha : admitted w.db code form with
    | none => simp [ha, Change.customer] at h
    | some a =>
      obtain ⟨course, price, email⟩ := a
      simp only [ha] at h
      rw [register_admitted ha]
      obtain ⟨hmem, p, url, hopen⟩ := enrolChange_customer h
      exact ⟨hmem, course.id, p, url, hopen⟩
  | handleWebhook payload sigHeader stripe =>
    simp only [change, webhookChange] at h
    split at h
    · simp [Change.customer] at h
    · simp only [Accepted.change] at h
      repeat' split at h
      all_goals simp [Change.customer] at h
  | unsubscribe user campaign post stripe =>
    simp only [change] at h
    split at h
    · simp [Change.customer] at h
    · split_ifs at h <;> simp [Change.customer] at h
  | unsubscribeuser who userId campaign stripe =>
    simp only [change] at h
    split at h <;> simp [Change.customer] at h
  | addUser form =>
    simp only [change, Courses.addUserChange] at h
    split at h
    · simp [Change.customer] at h
    · split_ifs at h <;> simp [Change.customer, Courses.addedUser] at h
  | _ => simp [change, Change.customer] at h

/-- the stored customer ids are drawn, in order, from the ones Stripe has returned along the run -/
theorem customers_sublist (L : Lib) (w : World) (reqs : List Request) :
    (customers ((app L).run w reqs).db.user).Sublist
      (customers w.db.user ++ (app L).collected (fun w r => customersReturned (serve L w r).calls) w reqs) := by
  refine (app L).run_sublist (K := fun w => customers w.db.user) (fun w r => ?_) w reqs
  rw [next_user, customers_apply]
  refine List.Sublist.append_left ?_ _
  cases hc : (change L w r).customer with
  | none => simp
  | some customer =>
    obtain ⟨_, _, _, _, _, hmem, _⟩ := change_customer hc
    simpa using hmem

/-! ## A row with a customer id is a registration's -/

/-- the row `u` was created by a registration of the run that opened a checkout session for `customer` -/
def Registered (L : Lib) (w0 : World) (reqs : List Request) (u : Rec User) (customer : String) : Prop :=
  ∃ pre code form stripe commit post, reqs = pre ++ .register code form stripe commit :: post ∧
    let w := (app L).run w0 pre
    let o := serve L w (.register code form stripe commit)
    u.id = w.db.user.next ∧ (∃ x, o.world.db.user = w.db.user.insert x ∧ Kept x u.cols) ∧
      ∃ course price url, SessionOpened o.calls course customer price url

/-- a change that brings a new id is an insertion -/
theorem Change.enrol_of_new_id {c : Change} {t : Table User} {v : Rec User} (hv : v ∈ (c.apply t).rows)
    (hnew : ∀ r ∈ t.rows, r.id ≠ v.id) : ∃ x, c = .enrol x ∧ v = ⟨t.next, x⟩ := by
  have hmod : ∀ {k : ℕ} {f : User → User}, v ∉ (t.modify k f).rows := by
    intro k f hm
    obtain ⟨r, hr, rfl⟩ := Table.mem_modify.1 hm
    exact hnew r hr (Table.setAt_id ..).symm
  cases c with
  | none => exact absurd rfl (hnew v hv)
  | enrol x =>
    rcases Table.mem_insert.1 hv with hv | rfl
    · exact absurd rfl (hnew v hv)
    · exact ⟨x, rfl, rfl⟩
  | activate k => exact absurd hv hmod
  | link k s => exact absurd hv hmod
  | cancel k => exact absurd hv hmod

theorem registered_of_customer (L : Lib) {w0 : World} (h0 : w0.db.user.rows = []) {reqs : List Request} {u : Rec User}
    (hu : u ∈ ((app L).run w0 reqs).db.user.rows) {customer : String} (hc : u.cols.customerId = some customer) :
    Registered L w0 reqs u customer := by
  -- the request that brought the row's id into the table
  obtain ⟨pre, r, post, rfl, hbefore, v, hv, hid⟩ :=
    (app L).exists_turn (P := fun w => ∃ v ∈ w.db.user.rows, v.id = u.id) (by simp [h0]) ⟨u, hu, rfl⟩
  rw [next_user] at hv
  obtain ⟨x, hchange, rfl⟩ := Change.enrol_of_new_id hv fun r hr hrid => hbefore ⟨r, hr, hrid.trans hid⟩
  -- what it inserted is what the row still holds in the columns that stay
  have hnext : ((app L).next ((app L).run w0 pre) r).db.user = ((app L).run w0 pre).db.user.insert x := by
    rw [next_user, hchange]
    rfl
  obtain ⟨u', hu', hid', hkept⟩ := row_persists L (w := (app L).next ((app L).run w0 pre) r)
    (u := ⟨((app L).run w0 pre).db.user.next, x⟩) (hnext ▸ Table.mem_insert.2 (Or.inr rfl)) post
  rw [Machine.run_append, Machine.run_cons] at hu
  obtain rfl : u' = u := Table.id_inj _ hu' hu (hid'.trans hid)
  have hxc : (change L ((app L).run w0 pre) r).customer = some customer := by
    rw [hchange]
    exact hkept.customerId.symm.trans hc
  obtain ⟨code, form, stripe, commit, rfl, -, hopen⟩ := change_customer hxc
  exact ⟨pre, code, form, stripe, commit, post, rfl, hid'.trans rfl, ⟨x, hnext, hkept⟩, hopen⟩

/-! ## What a delivery changes -/

/-- a delivery that changes the world has passed the checks for the row of its customer, and changes there the status or
the subscription id -/
theorem handleWebhook_changes {L : Lib} {w : World} {payload : String} {sigHeader : Option String} {stripe : ℕ → Reply}
    (h : (handleWebhook L w payload sigHeader stripe).world ≠ w) :
    ∃ event object customer course, ∃ u ∈ w.db.user.rows, customerOf L payload = some (event, object, customer) ∧
      u.cols.customerId = some customer ∧ u.cols.courseId.bind w.db.course.get = some course ∧
      L.constructEvent payload sigHeader course.cols.endpointSecret = .ok ∧
      ((handleWebhook L w payload sigHeader stripe).world = w.setUser (w.db.user.modify u.id setActive) ∨
        ∃ s, (handleWebhook L w payload sigHeader stripe).world =
          w.setUser (w.db.user.modify u.id (setSubscription s))) := by
  rw [handleWebhook_world] at h ⊢
  unfold webhookChange at h ⊢
  cases ha : accepted L w.db payload sigHeader with
  | none =>
    rw [ha] at h
    exact absurd rfl h
  | some a =>
    obtain ⟨hcustomer, hfirst, hcourse, -, hverify⟩ := accepted_spec ha
    refine ⟨a.event, a.object, a.customer, a.course, a.user, Table.first_mem hfirst, hcustomer,
      by simpa using Table.first_prop hfirst, hcourse, hverify, ?_⟩
    simp only [ha] at h ⊢
    rcases a.change_cases with hch | hch | ⟨s, hch⟩
    · rw [hch] at h
      exact absurd rfl h
    · rw [hch]
      exact Or.inl rfl
    · rw [hch]
      exact Or.inr ⟨s, rfl⟩

/-- **Addressing and frame of a delivery.** If Stripe never returns a customer id twice, then after any run from an empty
subscriber table the non-null customer ids are distinct and are those the rows were created with; and a delivery changes
nothing, or only the status or the subscription id of the row of the registration that opened the checkout session for
its customer, with a payload that verifies under the secret of that row's campaign. It changes nothing at all if the
payload names no customer or an unknown one or does not verify. -/
theorem webhook_changes_payer_only (L : Lib) (w0 : World) (h0 : w0.db.user.rows = []) (reqs : List Request)
    (hfresh : ((app L).collected (fun w r => customersReturned (serve L w r).calls) w0 reqs).Nodup) :
    (customers ((app L).run w0 reqs).db.user).Nodup ∧
    (∀ pre post, reqs = pre ++ post → ∀ u ∈ ((app L).run w0 pre).db.user.rows,
      ∃ u' ∈ ((app L).run w0 reqs).db.user.rows, u'.id = u.id ∧ u'.cols.customerId = u.cols.customerId) ∧
    ∀ payload sigHeader stripe,
      let w := (app L).run w0 reqs
      let w' := (app L).next w (.handleWebhook payload sigHeader stripe)
      (w' = w ∨ ∃ event object customer course, ∃ u ∈ w.db.user.rows,
        customerOf L payload = some (event, object, customer) ∧ u.cols.customerId = some customer ∧
        Registered L w0 reqs u customer ∧ u.cols.courseId.bind w.db.course.get = some course ∧
        L.constructEvent payload sigHeader course.cols.endpointSecret = .ok ∧
        (w' = w.setUser (w.db.user.modify u.id setActive) ∨
          ∃ s, w' = w.setUser (w.db.user.modify u.id (setSubscription s)))) ∧
      (customerOf L payload = none → w' = w) ∧
      (∀ event object customer, customerOf L payload = some (event, object, customer) →
        (∀ u ∈ w.db.user.rows, u.cols.customerId ≠ some customer) → w' = w) ∧
      ∀ event object customer, ∀ u ∈ w.db.user.rows, customerOf L payload = some (event, object, customer) →
        u.cols.customerId = some customer →
        (∀ course, u.cols.courseId.bind w.db.course.get = some course →
          L.constructEvent payload sigHeader course.cols.endpointSecret ≠ .ok) → w' = w := by
  have hdistinct : (customers ((app L).run w0 reqs).db.user).Nodup := by
    have hsub := customers_sublist L w0 reqs
    have hnone : customers w0.db.user = [] := by simp [customers, h0]
    rw [hnone, List.nil_append] at hsub
    exact hfresh.sublist hsub
  refine ⟨hdistinct, ?_, ?_⟩
  · rintro pre post rfl u hu
    obtain ⟨u', hu', hid, hkept⟩ := row_persists L hu post
    rw [Machine.run_append]
    exact ⟨u', hu', hid, hkept.customerId⟩
  intro payload sigHeader stripe w w'
  have hchanges : w' ≠ w → _ := handleWebhook_changes
  refine ⟨?_, ?_, ?_, ?_⟩
  · by_contra hno
    obtain ⟨hne, hnone⟩ := not_or.1 hno
    obtain ⟨event, object, customer, course, u, hu, hcust, huc, hcourse, hverify, heffect⟩ := hchanges hne
    exact hnone ⟨event, object, customer, course, u, hu, hcust, huc, registered_of_customer L h0 hu huc, hcourse, hverify,
      heffect⟩
  · intro hcust
    by_contra hne
    obtain ⟨_, _, _, _, _, _, hcust', _⟩ := hchanges hne
    rw [hcust] at hcust'
    cases hcust'
  · intro event object customer hcust hunknown
    by_contra hne
    obtain ⟨_, _, _, _, u, hu, hcust', huc, _⟩ := hchanges hne
    rw [hcust] at hcust'
    cases hcust'
    exact hunknown u hu huc
  · intro event object customer u hu hcust huc hbad
    by_contra hne
    obtain ⟨_, _, _, course, v, hv, hcust', hvc, hcourse, hverify, _⟩ := hchanges hne
    rw [hcust] at hcust'
    cases hcust'
    -- the handler's first match is the payer's row, because there is no second
    obtain rfl : u = v := eq_of_nodup_filterMap hdistinct hu hv huc hvc
    exact hbad course hcourse hverify

/-- after two registrations with different customers: distinct ids, and a payload that does not parse changes nothing -/
theorem webhook_changes_payer_only_two_customers :
    let reqs : List Request :=
      [Sample.registration, .register "Xy9zW" (some (some "eve@example.com")) (Sample.answers "cus_2") true]
    let w := (app Sample.lib).run Sample.start reqs
    customers w.db.user = ["cus_1", "cus_2"] ∧ (customers w.db.user).Nodup ∧
      (app Sample.lib).next w (.handleWebhook "forged" none Sample.working) = w := by
  intro reqs w
  have h := webhook_changes_payer_only Sample.lib Sample.start rfl reqs (by decide)
  exact ⟨rfl, h.1, (h.2.2 "forged" none Sample.working).2.1 rfl⟩

end Newsletter
