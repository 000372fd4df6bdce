/-
The Stripe calls of the application.

`Makes` says which request makes which call, with what the handler has checked before it and the key in force; `calls_makes`
is the connection with the handlers. There are three kinds:
- a paid registration asks for a customer, a price, its product's default price and a checkout session (`Registers`), all with
  the key of its campaign;
- an accepted payment event asks for the commission's transfer, with whatever key is in force;
- leaving, removing a subscriber and deleting a campaign ask for the deletion of the subscription of a row, with the key of the
  campaign named in the request.

Two results about whole runs. `transfers_run`: money leaves the accounts only as the commission of a payment event that was
signed with the secret of the payer's campaign, and goes to one fixed account, the one the super admin had at the start: no
request changes who the super admin is or which account is theirs. `deletions_run`: the subscription that a call deletes is one
that an earlier event signed for the same subscriber has given the row, so nobody's subscription is cancelled in place of
another's.
-/
import Newsletter.Commission
import Newsletter.Database
import Newsletter.Leaving

namespace Newsletter

open Newsletter.Core Auth Courses

/-! ## Which request makes which call -/

/-- what a paid registration asks of Stripe -/
inductive Registers (course : Rec Course) (email : String) (amount : ℤ) (currency : String) : StripeOp → Prop
  | customer : Registers course email amount currency (.customerCreate email)
  | price (recurring : Bool) :
      Registers course email amount currency (.priceCreate course.cols.productId amount currency course.id recurring)
  | default (price : String) : Registers course email amount currency (.productModify course.cols.productId price)
  | retrieve (price : Option String) : Registers course email amount currency (.priceRetrieve price)
  | iva {unitAmount ivaAmount : ℤ} (cur : String) (h : ivaOf unitAmount = some ivaAmount) :
      Registers course email amount currency (.ivaPriceCreate ivaAmount cur course.id)
  | session (mode : Mode) (customer : String) (prices : List (Option String)) :
      Registers course email amount currency (.sessionCreate mode course.id customer prices 1)

/-- the request asks for the deletion of the subscription of the row `u`, with the key of `course` -/
inductive Cancels (w : World) : Request → Rec User → Rec Course → Prop
  | leaves {user campaign : ℕ} {post : Bool} {stripe : ℕ → Reply} {u : Rec User} {course : Rec Course}
      (ht : Auth.unsubscribeTarget w.db user campaign post = some (u, course)) :
      Cancels w (.unsubscribe user campaign post stripe) u course
  | removes {who : Option ℕ} {userId campaign : ℕ} {stripe : ℕ → Reply} {u : Rec User} {course : Rec Course}
      (ht : Courses.unsubscribeuserTarget w.db who userId campaign = some (u, some course)) :
      Cancels w (.unsubscribeuser who userId campaign stripe) u course
  | closes {who : Option ℕ} {campaign : ℕ} {stripe : ℕ → Reply} {admin : Rec Adminuser} {course : Rec Course} {u : Rec User}
      (login : currentUser w.db who = some admin) (row : w.db.course.get campaign = some course)
      (hu : u ∈ activeUsers w.db course.id) : Cancels w (.deleteCampaign who campaign stripe) u course

inductive Makes (L : Lib) (w : World) : Request → StripeCall → Prop
  | registers {code : String} {form : Option (Option String)} {stripe : ℕ → Reply} {commit : Bool} {course : Rec Course}
      {price : ℚ} {email : String} {op : StripeOp} {ans : Reply} (ha : admitted w.db code form = some (course, price, email))
      (hpaid : course.cols.free = false) (hop : Registers course email (amountOf price) (currencyOf course.cols) op) :
      Makes L w (.register code form stripe commit) ⟨course.cols.stripeApiKey, op, ans⟩
  | settles {payload : String} {sigHeader : Option String} {stripe : ℕ → Reply} {a : Accepted} {op : StripeOp}
      (ha : accepted L w.db payload sigHeader = some a) (hp : a.isPayment) (ht : a.transfer = some op) :
      Makes L w (.handleWebhook payload sigHeader stripe) ⟨w.apiKey, op, stripe 0⟩
  | cancels {r : Request} {u : Rec User} {course : Rec Course} {ans : Reply} (h : Cancels w r u course) :
      Makes L w r ⟨course.cols.stripeApiKey, .subscriptionDelete u.cols.paymentIntentId, ans⟩

/-! ## The connection with the handlers -/

section Registration

variable (course : Rec Course) (email : String) (amount : ℤ) (currency : String)

theorem asks_createCustomer (key : Option String) :
    Prog.Asks (Registers course email amount currency) (createCustomer email key) :=
  (Prog.asks_set _ key).bind fun _ => (Prog.asks_ask .customer).bind fun _ => Prog.asks_pure _ _

theorem asks_createPrice (recurring : Bool) (key : Option String) :
    Prog.Asks (Registers course email amount currency)
      (createPrice recurring course.cols.productId amount key course.id currency) := by
  refine Prog.Asks.rescue ?_ fun e => ?_
  · exact (Prog.asks_set _ key).bind fun _ => (Prog.asks_ask (.price recurring)).bind fun p =>
      (Prog.asks_ask (.default p.id)).bind fun _ => Prog.asks_pure _ _
  · cases e <;> first | exact Prog.asks_pure _ _ | exact Prog.asks_raise _ _

theorem asks_subscriptioncheckout (price : Option String) (customer : String) (key : Option String) :
    Prog.Asks (Registers course email amount currency) (subscriptioncheckout course.id price customer key 1) := by
  refine (Prog.asks_set _ key).bind fun _ => Prog.Asks.rescue ?_ fun _ => Prog.asks_pure _ _
  refine (Prog.asks_ask (.retrieve price)).bind fun p => ?_
  split
  · rename_i ivaAmount cur hiva _
    obtain ⟨unitAmount, _, hiva⟩ := Option.bind_eq_some_iff.1 hiva
    exact (Prog.asks_ask (.iva cur hiva)).bind fun _ =>
      (Prog.asks_ask (.session .subscription customer _)).bind fun _ => Prog.asks_pure _ _
  · exact Prog.asks_raise _ _

theorem asks_createCheckoutSession (price : Option String) (customer : String) (key : Option String) :
    Prog.Asks (Registers course email amount currency) (createCheckoutSession course.id price customer key 1) := by
  refine (Prog.asks_set _ key).bind fun _ => Prog.Asks.rescue ?_ fun _ => Prog.asks_pure _ _
  exact (Prog.asks_ask (.session .payment customer _)).bind fun _ => Prog.asks_pure _ _

theorem asks_openCheckout :
    Prog.Asks (Registers course email amount currency) (openCheckout course email amount currency) := by
  refine (asks_createCustomer course email amount currency _).bind fun customer =>
    Prog.Asks.bind ?_ fun price => Prog.Asks.bind ?_ fun url => Prog.asks_pure _ _
  · split_ifs
    · exact asks_createPrice ..
    · exact asks_createPrice ..
  · split_ifs
    · exact asks_subscriptioncheckout ..
    · exact asks_createCheckoutSession ..

end Registration

section Handlers

variable {L : Lib} {w : World} {c : StripeCall}

theorem register_makes {code : String} {form : Option (Option String)} {stripe : ℕ → Reply} {commit : Bool}
    (hc : c ∈ (Auth.register w code form stripe commit).calls) : Makes L w (.register code form stripe commit) c := by
  cases ha : admitted w.db code form with
  | none =>
    rw [(register_refused ha).2.1] at hc
    cases hc
  | some p =>
    obtain ⟨course, price, email⟩ := p
    rw [register_admitted ha, enrol_calls] at hc
    split_ifs at hc with hfree
    · cases hc
    · have hkey := (openCheckout_key stripe course email (amountOf price) (currencyOf course.cols) w.apiKey).2 c hc
      have hop := Prog.exec_asks (asks_openCheckout course email (amountOf price) (currencyOf course.cols)) 0 w.apiKey c hc
      obtain ⟨reg, req, ans⟩ := c
      obtain rfl : reg = course.cols.stripeApiKey := hkey
      exact .registers ha (by simpa using hfree) hop

theorem handleWebhook_makes {payload : String} {sigHeader : Option String} {stripe : ℕ → Reply}
    (hc : c ∈ (Auth.handleWebhook L w payload sigHeader stripe).calls) :
    Makes L w (.handleWebhook payload sigHeader stripe) c := by
  rw [(handleWebhook_calls L w payload sigHeader stripe).1] at hc
  cases ha : accepted L w.db payload sigHeader with
  | none =>
    rw [ha] at hc
    cases hc
  | some a =>
    simp only [ha] at hc
    split_ifs at hc with hp
    · obtain ⟨op, hop, rfl⟩ := List.mem_map.1 hc
      exact .settles ha hp (Option.mem_toList.1 hop)
    · cases hc

theorem unsubscribe_makes {user campaign : ℕ} {post : Bool} {stripe : ℕ → Reply}
    (hc : c ∈ (Auth.unsubscribe w user campaign post stripe).calls) : Makes L w (.unsubscribe user campaign post stripe) c := by
  cases ht : Auth.unsubscribeTarget w.db user campaign post with
  | none =>
    rw [(Auth.unsubscribe_none ht).2] at hc
    cases hc
  | some p =>
    obtain ⟨u, course⟩ := p
    rw [(Auth.unsubscribe_out ht).2, List.mem_singleton] at hc
    rw [hc]
    exact .cancels (.leaves ht)

theorem unsubscribeuser_makes {who : Option ℕ} {userId campaign : ℕ} {stripe : ℕ → Reply}
    (hc : c ∈ (Courses.unsubscribeuser w who userId campaign stripe).calls) :
    Makes L w (.unsubscribeuser who userId campaign stripe) c := by
  cases ht : Courses.unsubscribeuserTarget w.db who userId campaign with
  | none =>
    rw [(Courses.unsubscribeuser_none ht).2] at hc
    cases hc
  | some p =>
    obtain ⟨u, resource⟩ := p
    rw [(Courses.unsubscribeuser_out ht).2] at hc
    obtain ⟨course, hcourse, rfl⟩ := List.mem_map.1 hc
    obtain rfl : resource = some course := Option.mem_toList.1 hcourse
    exact .cancels (.removes ht)

theorem deleteCampaign_makes {who : Option ℕ} {campaign : ℕ} {stripe : ℕ → Reply}
    (hc : c ∈ (Courses.deleteCampaign w who campaign stripe).calls) : Makes L w (.deleteCampaign who campaign stripe) c := by
  unfold Courses.deleteCampaign loginRequired at hc
  cases hwho : currentUser w.db who with
  | none => simp [hwho] at hc
  | some admin =>
    cases hrow : w.db.course.get campaign with
    | none => simp [hwho, hrow] at hc
    | some resource =>
      obtain ⟨counts, hx⟩ := Courses.exec_unsubscribeAll stripe resource.cols.stripeApiKey
        ((activeUsers w.db resource.id).map fun u => u.cols.paymentIntentId) 0 0 0 w.apiKey
      simp only [hwho, hrow, hx] at hc
      obtain ⟨i, hi, rfl⟩ := List.mem_mapIdx.1 hc
      obtain ⟨u, hu, hsub⟩ := List.mem_map.1 (List.getElem_mem hi)
      rw [← hsub]
      exact .cancels (.closes hwho hrow hu)

/-- **Calls.** Every Stripe call is made by a request that has checked what `Makes` says. -/
theorem calls_makes {r : Request} (hc : c ∈ (serve L w r).calls) : Makes L w r c := by
  cases r with
  | register code form stripe commit => exact register_makes hc
  | handleWebhook payload sigHeader stripe => exact handleWebhook_makes hc
  | unsubscribe user campaign post stripe => exact unsubscribe_makes hc
  | unsubscribeuser who userId campaign stripe => exact unsubscribeuser_makes hc
  | deleteCampaign who campaign stripe => exact deleteCampaign_makes hc
  | addUser form =>
    simp only [serve, Courses.addUser] at hc
    repeat' split at hc
    all_goals cases hc
  | _ =>
    rw [(serve_within L w _).calls rfl] at hc
    cases hc

end Handlers

/-! ## Runs -/

/-- the calls of a run -/
def callsOf (L : Lib) (w : World) (reqs : List Request) : List StripeCall :=
  (app L).collected (fun w r => (serve L w r).calls) w reqs

theorem callsOf_makes {L : Lib} {w : World} {reqs : List Request} {c : StripeCall} (hc : c ∈ callsOf L w reqs) :
    ∃ pre r post, reqs = pre ++ r :: post ∧ Makes L ((app L).run w pre) r c := by
  obtain ⟨pre, r, post, hreqs, hc⟩ := (app L).mem_collected_iff.1 hc
  exact ⟨pre, r, post, hreqs, calls_makes hc⟩

/-- new accounts are plain ones, and verifying an account keeps its role and its Stripe account -/
theorem superAdminAccount_next (L : Lib) (w : World) (r : Request) :
    superAdminAccount ((app L).next w r).db = superAdminAccount w.db := by
  obtain ⟨x, hx, hdb⟩ := next_db L w r
  rw [hdb]
  cases hx with
  | registered unused =>
    simp only [superAdminAccount, Write.apply]
    rw [Table.first_insert_of_not (by simp)]
  | verified issued row =>
    rename_i id user
    have hrole : ∀ a, (Table.setAt id setVerified a).cols.role = a.cols.role := by
      intro a
      unfold Table.setAt
      split_ifs <;> rfl
    have haccount : ∀ a, (Table.setAt id setVerified a).cols.stripeAccountId = a.cols.stripeAccountId := by
      intro a
      unfold Table.setAt
      split_ifs <;> rfl
    simp only [superAdminAccount, Write.apply]
    rw [Table.first_modify fun a => by rw [hrole]]
    cases w.db.adminuser.first fun a => a.cols.role = .superAdmin with
    | none => rfl
    | some a => simp only [Option.map_some, haccount]
  | _ => rfl

theorem superAdminAccount_run (L : Lib) (w : World) (reqs : List Request) :
    superAdminAccount ((app L).run w reqs).db = superAdminAccount w.db :=
  (app L).run_inv (I := fun w' => superAdminAccount w'.db = superAdminAccount w.db)
    (fun w' r h => (superAdminAccount_next L w' r).trans h) rfl reqs

/-- **Where the money goes.** In any run, every transfer is the commission of a payment event whose delivery was accepted in
the state in which it arrived, and its destination is the account that the super admin had at the start. -/
theorem transfers_run (L : Lib) (w : World) (reqs : List Request) {key : Option String} {amount : ℤ}
    {currency destination group : String} {ans : Reply}
    (hc : ⟨key, .transferCreate amount currency destination group, ans⟩ ∈ callsOf L w reqs) :
    superAdminAccount w.db = some destination ∧
      ∃ pre payload sigHeader stripe post a, reqs = pre ++ .handleWebhook payload sigHeader stripe :: post ∧
        accepted L ((app L).run w pre).db payload sigHeader = some a ∧ a.isPayment ∧
        a.transfer = some (.transferCreate amount currency destination group) := by
  obtain ⟨pre, r, post, hreqs, hmakes⟩ := callsOf_makes hc
  cases hmakes with
  | registers _ _ hop => cases hop
  | settles ha hp ht =>
    refine ⟨?_, pre, _, _, _, post, _, hreqs, ha, hp, ht⟩
    rw [← superAdminAccount_run L w pre, (accepted_spec ha).2.2.2.1]
    unfold Accepted.transfer at ht
    split at ht
    · cases ht
      rfl
    · cases ht

/-- the commission of the sample subscriber's checkout -/
theorem transfers_run_checkout :
    ⟨some "sk_1", .transferCreate 121 "usd" "acct_root" "user_1_payment_cs_1", .ok { id := "obj_1" }⟩ ∈
        callsOf Sample.lib Sample.start [Sample.registration, Sample.subscription, Sample.checkout] ∧
      superAdminAccount Sample.start.db = some "acct_root" := by
  have hc : ⟨some "sk_1", .transferCreate 121 "usd" "acct_root" "user_1_payment_cs_1", .ok { id := "obj_1" }⟩ ∈
      callsOf Sample.lib Sample.start [Sample.registration, Sample.subscription, Sample.checkout] := by decide +kernel
  exact ⟨hc, (transfers_run Sample.lib Sample.start _ hc).1⟩

/-- an event signed for the subscriber `k` has given the row the subscription id `s` -/
def Linked (L : Lib) (w : World) (reqs : List Request) (k : ℕ) (s : String) : Prop :=
  ∃ pre payload sigHeader stripe post a, reqs = pre ++ .handleWebhook payload sigHeader stripe :: post ∧
    accepted L ((app L).run w pre).db payload sigHeader = some a ∧ a.user.id = k ∧
    a.event.type = some .customerSubscriptionCreated ∧ a.object.id = some s

theorem linked_of_links {L : Lib} {w : World} {r : Request} {k : ℕ} {s : String} (h : links L k w r = some (some s)) :
    ∃ payload sigHeader stripe a, r = .handleWebhook payload sigHeader stripe ∧
      accepted L w.db payload sigHeader = some a ∧ a.user.id = k ∧ a.event.type = some .customerSubscriptionCreated ∧
      a.object.id = some s := by
  unfold links at h
  have hcause := change_cause L w r
  cases hchange : change L w r with
  | link j t =>
    rw [hchange] at h hcause
    simp only at h
    split_ifs at h with hj
    cases h
    cases hcause with
    | subscription ha ht hid => exact ⟨_, _, _, _, rfl, ha, hj, ht, hid⟩
  | _ => simp [hchange] at h

/-- a subscription id of a row was there at the start or was linked on the way -/
theorem subscriptionOf_run {L : Lib} {w : World} {reqs : List Request} {k : ℕ} {s : String}
    (h : subscriptionOf ((app L).run w reqs).db k = some s) : subscriptionOf w.db k = some s ∨ Linked L w reqs k s := by
  rw [run_subscription, lastSubscription] at h
  cases hlast : ((app L).assigned (links L k) w reqs).getLast? with
  | none =>
    rw [hlast] at h
    exact Or.inl h
  | some v =>
    obtain rfl : v = some s := by rwa [hlast] at h
    obtain ⟨pre, r, post, rfl, hlink⟩ := (app L).mem_assigned_iff.1 (List.mem_of_getLast? hlast)
    obtain ⟨payload, sigHeader, stripe, a, rfl, ha, hid, ht, hs⟩ := linked_of_links hlink
    exact Or.inr ⟨pre, payload, sigHeader, stripe, post, a, rfl, ha, hid, ht, hs⟩

/-- the row is one of the table -/
theorem Cancels.mem {w : World} {r : Request} {u : Rec User} {course : Rec Course} (h : Cancels w r u course) :
    u ∈ w.db.user.rows := by
  cases h with
  | leaves ht => exact (Auth.unsubscribeTarget_spec ht).1
  | removes ht => exact (Courses.unsubscribeuserTarget_spec ht).mem
  | closes login row hu => exact (List.mem_filter.1 hu).1

/-- **What is cancelled.** In any run, a call that deletes a subscription `s` is made for a row `u` that has it, with the key of
the campaign of the request, and the row had it at the start or got it from an earlier event signed for that subscriber. -/
theorem deletions_run (L : Lib) (w : World) (reqs : List Request) {key : Option String} {s : String} {ans : Reply}
    (hc : ⟨key, .subscriptionDelete (some s), ans⟩ ∈ callsOf L w reqs) :
    ∃ pre r post u course, reqs = pre ++ r :: post ∧ Cancels ((app L).run w pre) r u course ∧
      key = course.cols.stripeApiKey ∧ u.cols.paymentIntentId = some s ∧
      (subscriptionOf w.db u.id = some s ∨ Linked L w pre u.id s) := by
  obtain ⟨pre, r, post, hreqs, hmakes⟩ := callsOf_makes hc
  generalize hop : StripeOp.subscriptionDelete (some s) = op at hmakes
  cases hmakes with
  | registers _ _ hop' => subst hop; cases hop'
  | settles ha hp ht =>
    subst hop
    unfold Accepted.transfer at ht
    split at ht <;> cases ht
  | cancels h =>
    rename_i u course
    have hsub : some s = u.cols.paymentIntentId := StripeOp.subscriptionDelete.inj hop
    refine ⟨pre, r, post, u, course, hreqs, h, rfl, hsub.symm, subscriptionOf_run ?_⟩
    rw [subscriptionOf, Table.get_of_mem h.mem, Option.bind_some, hsub]

/-- the sample subscriber leaves -/
theorem deletions_run_left :
    ⟨some "sk_1", .subscriptionDelete (some "sub_1"), .ok { id := "obj_1" }⟩ ∈
        callsOf Sample.lib Sample.start
          [Sample.registration, Sample.subscription, Sample.checkout, .unsubscribe 1 1 true Sample.working] ∧
      ∃ pre r post u course,
        [Sample.registration, Sample.subscription, Sample.checkout, .unsubscribe 1 1 true Sample.working] =
          pre ++ r :: post ∧ Cancels ((app Sample.lib).run Sample.start pre) r u course ∧
        some "sk_1" = course.cols.stripeApiKey ∧ u.cols.paymentIntentId = some "sub_1" ∧
        (subscriptionOf Sample.start.db u.id = some "sub_1" ∨ Linked Sample.lib Sample.start pre u.id "sub_1") := by
  have hc : ⟨some "sk_1", .subscriptionDelete (some "sub_1"), .ok { id := "obj_1" }⟩ ∈
      callsOf Sample.lib Sample.start
        [Sample.registration, Sample.subscription, Sample.checkout, .unsubscribe 1 1 true Sample.working] := by
    decide +kernel
  exact ⟨hc, deletions_run Sample.lib Sample.start _ hc⟩

end Newsletter
