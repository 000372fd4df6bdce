/-
Sequences of webhook deliveries.

A delivery reads of a subscriber row only columns that no delivery writes, so which change a delivery is does not depend
on the deliveries before it: the effect of a sequence is the fold of changes that are fixed at its start
(`run_deliveries`). Two results follow.

- `deliveries_order_irrelevant`: two sequences of the same deliveries, in any order and number and with any outcome of
  the transfers, end in the same database, if the accepted `customer.subscription.created` events of one customer carry
  one subscription id;
- `unsubscribed_stays_iff`: a row that `unsubscribe` or `unsubscribeuser` has set to status 1 still has it after a
  sequence of deliveries exactly if none of them is an accepted payment event for the row. There is no record of events
  handled before, so delivering an old payment event again makes the row active (`old_event_reactivates`).
-/
import Newsletter.App

namespace Newsletter

open Newsletter.Core Auth Courses

/-- what is delivered: the body and the signature header -/
structure Delivery where
  payload : String
  sigHeader : Option String
deriving DecidableEq, Repr

/-- a delivery and how Stripe answers the calls made while it is served -/
def Delivery.request (d : Delivery × (ℕ → Reply)) : Request := .handleWebhook d.1.payload d.1.sigHeader d.2

def Delivery.change (L : Lib) (db : Db) (d : Delivery) : Change := webhookChange L db d.payload d.sigHeader

/-! ## The change is fixed at the start -/

theorem accepted_modify (L : Lib) (db : Db) (payload : String) (sigHeader : Option String) (k : ℕ) {f : User → User}
    (hf : ∀ u, Kept u (f u)) :
    accepted L { db with user := db.user.modify k f } payload sigHeader =
      (accepted L db payload sigHeader).map fun a => { a with user := Table.setAt k f a.user } := by
  unfold accepted
  cases customerOf L payload with
  | none => rfl
  | some p =>
    obtain ⟨event, object, customer⟩ := p
    have hquery : (db.user.modify k f).first (fun u => u.cols.customerId = some customer) =
        (db.user.first fun u => u.cols.customerId = some customer).map (Table.setAt k f) :=
      Table.first_modify fun r => by rw [(kept_setAt hf r).customerId]
    simp only [hquery]
    cases db.user.first fun u => u.cols.customerId = some customer with
    | none => rfl
    | some user =>
      have hcourse : (Table.setAt k f user).cols.courseId = user.cols.courseId := (kept_setAt hf user).courseId
      have hadmin : superAdminAccount { db with user := db.user.modify k f } = superAdminAccount db := rfl
      simp only [Option.map_some, hcourse, hadmin]
      cases user.cols.courseId.bind db.course.get with
      | none => rfl
      | some course =>
        cases superAdminAccount db with
        | none => rfl
        | some account =>
          simp only
          split_ifs <;> rfl

theorem Accepted.change_setAt (a : Accepted) (k : ℕ) (f : User → User) :
    Accepted.change { a with user := Table.setAt k f a.user } = a.change := by
  simp only [Accepted.change, Table.setAt_id]

theorem Delivery.change_modify (L : Lib) (db : Db) (d : Delivery) (k : ℕ) {f : User → User}
    (hf : ∀ u, Kept u (f u)) : d.change L { db with user := db.user.modify k f } = d.change L db := by
  unfold Delivery.change webhookChange
  rw [accepted_modify L db d.payload d.sigHeader k hf]
  cases accepted L db d.payload d.sigHeader with
  | none => rfl
  | some a => exact Accepted.change_setAt a k f

/-- the changes that a delivery can be: nothing, an activation or a link -/
def Change.OfDelivery (c : Change) : Prop := c = .none ∨ (∃ k, c = .activate k) ∨ ∃ k s, c = .link k s

theorem Delivery.change_cases (L : Lib) (db : Db) (d : Delivery) : (d.change L db).OfDelivery := by
  unfold Delivery.change webhookChange
  cases accepted L db d.payload d.sigHeader with
  | none => exact Or.inl rfl
  | some a =>
    simp only [Accepted.change]
    split
    · exact Or.inr (Or.inl ⟨_, rfl⟩)
    · exact Or.inr (Or.inl ⟨_, rfl⟩)
    · split
      · exact Or.inl rfl
      · exact Or.inr (Or.inr ⟨_, _, rfl⟩)
    · exact Or.inl rfl

/-- **Step.** A delivery does not change what another delivery does. -/
theorem Delivery.change_apply (L : Lib) (db : Db) (d d' : Delivery) :
    d.change L { db with user := (d'.change L db).apply db.user } = d.change L db := by
  rcases d'.change_cases L db with h | ⟨k, h⟩ | ⟨k, s, h⟩
  · rw [h]
    rfl
  · rw [h]
    exact d.change_modify L db k kept_setActive
  · rw [h]
    exact d.change_modify L db k (kept_setSubscription s)

/-- **Run.** A sequence of deliveries is the fold of the changes they are at its start. -/
theorem run_deliveries (L : Lib) (w : World) (ds : List (Delivery × (ℕ → Reply))) :
    (app L).run w (ds.map Delivery.request) =
      w.setUser ((ds.map fun d => d.1.change L w.db).foldl Change.apply w.db.user) := by
  induction ds generalizing w with
  | nil => rfl
  | cons d ds ih =>
    have hnext : (app L).next w (Delivery.request d) = w.setUser ((d.1.change L w.db).apply w.db.user) :=
      handleWebhook_world L w d.1.payload d.1.sigHeader d.2
    have hfixed : ∀ e : Delivery × (ℕ → Reply),
        e.1.change L (w.setUser ((d.1.change L w.db).apply w.db.user)).db = e.1.change L w.db :=
      fun e => e.1.change_apply L w.db d.1
    rw [List.map_cons, Machine.run_cons, hnext, ih]
    simp only [hfixed, List.map_cons, List.foldl_cons]
    rfl

/-! ## Order and number -/

/-- customer and subscription id of an accepted `customer.subscription.created` delivery -/
def Delivery.subscription (L : Lib) (db : Db) (d : Delivery) : Option (String × String) :=
  match accepted L db d.payload d.sigHeader with
  | none => none
  | some a => if a.event.type = some .customerSubscriptionCreated then a.object.id.map fun id => (a.customer, id) else none

/-- a link is the link of a subscription, to the row of its customer -/
theorem Delivery.change_link {L : Lib} {db : Db} {d : Delivery} {k : ℕ} {s : String}
    (h : d.change L db = .link k s) :
    ∃ u ∈ db.user.rows, u.id = k ∧ ∃ customer, u.cols.customerId = some customer ∧
      d.subscription L db = some (customer, s) := by
  unfold Delivery.change webhookChange at h
  unfold Delivery.subscription
  cases ha : accepted L db d.payload d.sigHeader with
  | none => simp [ha] at h
  | some a =>
    obtain ⟨_, hfirst, _⟩ := accepted_spec ha
    have hown := Table.first_prop hfirst
    simp only [decide_eq_true_eq] at hown
    simp only [ha, Accepted.change] at h
    split at h
    · cases h
    · cases h
    · rename_i ht
      split at h
      · cases h
      · rename_i id hid
        cases h
        exact ⟨a.user, Table.first_mem hfirst, rfl, a.customer, hown, by simp [ht, hid]⟩
    · cases h

/-- the changes of deliveries commute, except two links of one row to different ids -/
theorem apply_comm {c c' : Change} (hc : c.OfDelivery) (hc' : c'.OfDelivery)
    (hlink : ∀ k s s', c = .link k s → c' = .link k s' → s = s') (t : Table User) :
    c'.apply (c.apply t) = c.apply (c'.apply t) := by
  rcases hc with rfl | ⟨k, rfl⟩ | ⟨k, s, rfl⟩
  · rfl
  · rcases hc' with rfl | ⟨k', rfl⟩ | ⟨k', s', rfl⟩
    · rfl
    · exact Table.modify_comm fun _ _ => rfl
    · exact Table.modify_comm fun _ _ => rfl
  · rcases hc' with rfl | ⟨k', rfl⟩ | ⟨k', s', rfl⟩
    · rfl
    · exact Table.modify_comm fun _ _ => rfl
    · refine Table.modify_comm fun hk u => ?_
      subst hk
      rw [hlink k s s' rfl rfl]

theorem apply_idem {c : Change} (hc : c.OfDelivery) (t : Table User) : c.apply (c.apply t) = c.apply t := by
  rcases hc with rfl | ⟨k, rfl⟩ | ⟨k, s, rfl⟩
  · rfl
  · exact Table.modify_idem fun _ => rfl
  · exact Table.modify_idem fun _ => rfl

/-- **Order of deliveries.** Two lists of the same deliveries lead to the same database. -/
theorem deliveries_order_irrelevant (L : Lib) (w : World) (l l' : List (Delivery × (ℕ → Reply)))
    (hsame : ∀ d, d ∈ l.map Prod.fst ↔ d ∈ l'.map Prod.fst)
    (hsub : ∀ d ∈ l.map Prod.fst, ∀ d' ∈ l.map Prod.fst, ∀ customer s s',
      d.subscription L w.db = some (customer, s) → d'.subscription L w.db = some (customer, s') → s = s') :
    ((app L).run w (l.map Delivery.request)).db = ((app L).run w (l'.map Delivery.request)).db := by
  rw [run_deliveries, run_deliveries]
  have hchanges : ∀ m : List (Delivery × (ℕ → Reply)),
      (m.map fun d => d.1.change L w.db) = (m.map Prod.fst).map (Delivery.change L w.db) := by
    intro m
    rw [List.map_map]
    rfl
  rw [hchanges, hchanges]
  have hfold : ((l.map Prod.fst).map (Delivery.change L w.db)).foldl Change.apply w.db.user =
      ((l'.map Prod.fst).map (Delivery.change L w.db)).foldl Change.apply w.db.user := by
    refine foldl_eq_of_mem_iff ?_ ?_ ?_ _
    · intro c
      simp only [List.mem_map (f := Delivery.change L w.db), hsame]
    · intro c hc c' hc' t
      obtain ⟨d, hd, rfl⟩ := List.mem_map.1 hc
      obtain ⟨d', hd', rfl⟩ := List.mem_map.1 hc'
      refine apply_comm (d.change_cases L w.db) (d'.change_cases L w.db) (fun k s s' h h' => ?_) t
      -- two links of one row are of one customer
      obtain ⟨u, hu, hid, customer, hcustomer, hs⟩ := Delivery.change_link h
      obtain ⟨u', hu', hid', customer', hcustomer', hs'⟩ := Delivery.change_link h'
      have huu : u = u' := w.db.user.id_inj hu hu' (hid.trans hid'.symm)
      subst huu
      have hcc : customer = customer' := Option.some.inj (hcustomer.symm.trans hcustomer')
      subst hcc
      exact hsub d hd d' hd' customer s s' hs hs'
    · intro c hc t
      obtain ⟨d, _, rfl⟩ := List.mem_map.1 hc
      exact apply_idem (d.change_cases L w.db) t
  rw [hfold]

def Sample.checkoutDelivery : Delivery := ⟨checkoutPayload, signature⟩

def Sample.subscriptionDelivery : Delivery := ⟨subscriptionPayload, signature⟩

/-- the two events of a subscription in one order, and in the other order with the payment delivered twice -/
theorem deliveries_order_irrelevant_ann :
    ((app Sample.lib).run ((app Sample.lib).run Sample.start [Sample.registration])
        ([(Sample.subscriptionDelivery, Sample.working), (Sample.checkoutDelivery, Sample.working)].map
          Delivery.request)).db =
      ((app Sample.lib).run ((app Sample.lib).run Sample.start [Sample.registration])
        ([(Sample.checkoutDelivery, Sample.failing), (Sample.subscriptionDelivery, Sample.working),
          (Sample.checkoutDelivery, Sample.working)].map Delivery.request)).db := by
  refine deliveries_order_irrelevant _ _ _ _ (fun d => ?_) fun d hd d' hd' customer s s' hs hs' => ?_
  · simp only [List.map_cons, List.map_nil, List.mem_cons, List.not_mem_nil, or_false]
    tauto
  · have hcheckout : Sample.checkoutDelivery.subscription Sample.lib
        ((app Sample.lib).run Sample.start [Sample.registration]).db = none := by decide +kernel
    simp only [List.map_cons, List.map_nil, List.mem_cons, List.not_mem_nil, or_false] at hd hd'
    rcases hd with rfl | rfl
    · rcases hd' with rfl | rfl
      · rw [hs] at hs'
        cases hs'
        rfl
      · rw [hcheckout] at hs'
        cases hs'
    · rw [hcheckout] at hs
      cases hs

/-! ## Deliveries after an unsubscription -/

/-- the delivery passes every check, reports a payment, and the row of its customer is `k` -/
def Pays (L : Lib) (db : Db) (k : ℕ) (d : Delivery) : Prop :=
  ∃ a, accepted L db d.payload d.sigHeader = some a ∧ a.isPayment ∧ a.user.id = k

theorem pays_iff {L : Lib} {db : Db} {k : ℕ} {d : Delivery} : Pays L db k d ↔ d.change L db = .activate k := by
  unfold Pays Delivery.change webhookChange
  cases accepted L db d.payload d.sigHeader with
  | none => simp
  | some a =>
    simp only [Option.some.injEq, exists_eq_left', Accepted.isPayment, Accepted.change]
    split
    · rename_i ht
      simp [ht]
    · rename_i ht
      simp [ht]
    · rename_i ht
      split <;> simp [ht]
    · rename_i h1 h2 _
      refine iff_of_false ?_ (by simp)
      rintro ⟨ht | ht, _⟩
      · exact h1 ht
      · exact h2 ht

/-- the status of an existing row after a sequence of deliveries -/
theorem statusOf_deliveries (L : Lib) (w : World) {u : Rec User} (hu : u ∈ w.db.user.rows)
    (ds : List (Delivery × (ℕ → Reply))) :
    statusOf ((app L).run w (ds.map Delivery.request)).db u.id =
      if Change.activate u.id ∈ ds.map (fun d => d.1.change L w.db) then some 2 else u.cols.status := by
  have hcancel : ∀ j, Change.cancel j ∉ ds.map fun d => d.1.change L w.db := by
    intro j hj
    obtain ⟨d, _, hd⟩ := List.mem_map.1 hj
    rcases d.1.change_cases L w.db with h | ⟨k, h⟩ | ⟨k, s, h⟩ <;> rw [h] at hd <;> cases hd
  obtain ⟨v, hv, hid, _, hs⟩ := rows_persist (ds.map fun d => d.1.change L w.db) hu
  rw [run_deliveries]
  have hget : (w.setUser ((ds.map fun d => d.1.change L w.db).foldl Change.apply w.db.user)).db.user.get u.id = some v :=
    Table.get_eq_some_iff.2 ⟨hv, hid⟩
  unfold statusOf
  rw [hget, Option.bind_some, hs, foldl_status hcancel]

/-- a request that cancels a row has found it -/
theorem row_of_cancel {L : Lib} {w : World} {r : Request} {k : ℕ} (h : change L w r = .cancel k) :
    ∃ u ∈ w.db.user.rows, u.id = k := by
  have hcause := change_cause L w r
  rw [h] at hcause
  cases hcause with
  | unsubscribed ht hs => exact ⟨_, (Auth.unsubscribeTarget_spec ht).1, rfl⟩
  | removed ht => exact ⟨_, (Courses.unsubscribeuserTarget_spec ht).mem, rfl⟩

/-- **Unsubscribed stays unsubscribed.** After a request has set row `k` to status 1, a sequence of deliveries leaves it
there exactly if none of them is an accepted payment event for the row. -/
theorem unsubscribed_stays_iff (L : Lib) (w : World) (pre : List Request) (r : Request) (k : ℕ)
    (hr : change L ((app L).run w pre) r = .cancel k) (ds : List (Delivery × (ℕ → Reply))) :
    statusOf ((app L).run w (pre ++ r :: ds.map Delivery.request)).db k = some 1 ↔
      ∀ d ∈ ds, ¬ Pays L ((app L).run w (pre ++ [r])).db k d.1 := by
  obtain ⟨u, hu, hid⟩ := row_of_cancel hr
  obtain ⟨v, hv, hvid, _, hs⟩ := (Change.cancel k).row_persists hu
  rw [← hr, ← next_user, ← Machine.run_snoc] at hv
  have hvk : v.id = k := hvid.trans hid
  have hone : v.cols.status = some 1 := by
    rw [hs, hid]
    simp [Change.status]
  have hsplit : (app L).run w (pre ++ r :: ds.map Delivery.request) =
      (app L).run ((app L).run w (pre ++ [r])) (ds.map Delivery.request) := by
    rw [← Machine.run_append, List.append_assoc]
    rfl
  rw [hsplit, ← hvk, statusOf_deliveries L _ hv ds, hone]
  simp only [pays_iff]
  constructor
  · intro h d hd hact
    have hmem : Change.activate v.id ∈ ds.map fun d => d.1.change L ((app L).run w (pre ++ [r])).db :=
      List.mem_map.2 ⟨d, hd, hact⟩
    rw [if_pos hmem] at h
    cases h
  · intro h
    rw [if_neg]
    intro hmem
    obtain ⟨d, hd, hact⟩ := List.mem_map.1 hmem
    exact h d hd hact

/-- the subscriber's own cancellation, which Stripe confirms -/
def Sample.cancellation : Request := .unsubscribe 1 1 true working

theorem unsubscribed_stays_iff_ann :
    statusOf ((app Sample.lib).run Sample.start ([Sample.registration, Sample.subscription, Sample.checkout] ++
      Sample.cancellation :: [(Sample.subscriptionDelivery, Sample.working)].map Delivery.request)).db 1 = some 1 := by
  refine (unsubscribed_stays_iff Sample.lib Sample.start [Sample.registration, Sample.subscription, Sample.checkout]
    Sample.cancellation 1 (by decide +kernel) _).2 fun d hd => ?_
  rw [List.mem_singleton] at hd
  rw [hd, pays_iff]
  decide +kernel

/-- the payment event of before the unsubscription, delivered once more: the row is active again -/
theorem old_event_reactivates :
    statusOf ((app Sample.lib).run Sample.start
        [Sample.registration, Sample.subscription, Sample.checkout, Sample.cancellation]).db 1 = some 1 ∧
      statusOf ((app Sample.lib).run Sample.start
        [Sample.registration, Sample.subscription, Sample.checkout, Sample.cancellation, Sample.checkout]).db 1 =
          some 2 := by
  decide +kernel

end Newsletter
