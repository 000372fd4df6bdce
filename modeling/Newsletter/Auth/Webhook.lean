/-
`handle_webhook` (`app/auth/route.py`, lines 292-375).

The handler picks the subscriber from the payload before it has verified it, and verifies it with the endpoint secret of
that subscriber's campaign. `accepted` is the data of a delivery that passes every check (a customer in the payload, a
row with that customer id, its campaign, a super admin with a Stripe account, the signature); `handleEvent` is the rest
of the handler. A payment event commits status 2 first and settles the commission afterwards, so the two error answers
of the settlement leave the row active.

- `handleWebhook_refused`, `handleWebhook_accepted`: the handler is `handleEvent` on accepted deliveries, and changes
  nothing and calls nothing on all others;
- `handleWebhook_world`: the only effect on the world is `webhookChange` on the subscriber table;
- `handleWebhook_calls`: the only call is one `Transfer.create`, and if it succeeds the answer is 200.
-/
import Newsletter.Core.Rounding
import Newsletter.Subscriptions

namespace Newsletter.Auth

open Newsletter.Core

/-! ## The handler -/

/-- the parsed event, its object and the customer it names, unless the parse block raises -/
def customerOf (L : Lib) (payload : String) : Option (Event × EventObject × String) :=
  match L.parse payload with
  | none => none
  | some event =>
    match event.object with
    | none => none
    | some object =>
      match object.customer with
      | none => none
      | some customer => if customer = "" then none else some (event, object, customer)

/-- the Stripe account of the super admin -/
def superAdminAccount (db : Db) : Option String :=
  match db.adminuser.first fun a => a.cols.role = .superAdmin with
  | none => none
  | some superAdmin => if truthy superAdmin.cols.stripeAccountId then superAdmin.cols.stripeAccountId else none

/-- what the handler has in hand after the signature check -/
structure Accepted where
  event : Event
  object : EventObject
  customer : String
  user : Rec User
  course : Rec Course
  account : String

def errorJson (message : String) (code : ℕ) : Response := .json [("error", message)] code

def internalServerError : Response := errorJson "Internal Server Error" 500

def webhookProcessed : Response := .json [("status", "Webhook processed")] 200

/-- `int(event_data['amount_total'] * 0.1)` -/
def commission (amountTotal : ℤ) : Option ℤ := (timesDouble amountTotal (1 / 10)).map truncate

/-- the payment branch after the commit: one transfer to the super admin -/
def settle (w : World) (a : Accepted) (stripe : ℕ → Reply) : Out :=
  match a.object.amountTotal.bind commission with
  -- no amount, or one that is too large for a float
  | none => { world := w, resp := internalServerError }
  | some amount =>
    match a.object.currency, a.object.id with
    | some currency, some id =>
      let op := .transferCreate amount currency a.account ("user_" ++ toString a.user.id ++ "_payment_" ++ id)
      match Prog.exec stripe (Prog.ask op : StripeProg StripeObject) 0 w.apiKey with
      | ⟨.ok _, _, calls⟩ => { world := w, resp := webhookProcessed, calls := calls }
      | ⟨.error _, _, calls⟩ =>
        { world := w, resp := errorJson "Transfer to Super Admin failed" 500, calls := calls }
    -- `event_data['currency']` and `event_data["id"]` are read inside the `try` of the transfer
    | _, _ => { world := w, resp := errorJson "Transfer to Super Admin failed" 500 }

/-- the handler after the signature check -/
def handleEvent (w : World) (a : Accepted) (stripe : ℕ → Reply) : Out :=
  match a.event.type with
  | none => { world := w, resp := internalServerError }
  | some .checkoutSessionCompleted | some .invoicePaymentSucceeded =>
    settle (w.setUser (w.db.user.modify a.user.id setActive)) a stripe
  | some .customerSubscriptionCreated =>
    match a.object.id with
    | none => { world := w, resp := internalServerError }
    | some subscriptionId =>
      { world := w.setUser (w.db.user.modify a.user.id (setSubscription subscriptionId)), resp := webhookProcessed }
  | some (.other _) => { world := w, resp := webhookProcessed }

def handleWebhook (L : Lib) (w : World) (payload : String) (sigHeader : Option String) (stripe : ℕ → Reply) : Out :=
  match customerOf L payload with
  | none => { world := w, resp := errorJson "Invalid payload format" 400 }
  | some (event, object, customer) =>
    match w.db.user.first fun u => u.cols.customerId = some customer with
    | none => { world := w, resp := errorJson "User not found" 404 }
    | some user =>
      match user.cols.courseId.bind w.db.course.get with
      | none => { world := w, resp := errorJson "Course not found for the user" 404 }
      | some course =>
        match superAdminAccount w.db with
        | none => { world := w, resp := errorJson "Super Admin or Stripe account not found" 400 }
        | some account =>
          match L.constructEvent payload sigHeader course.cols.endpointSecret with
          | .refused => { world := w, resp := errorJson "Invalid signature" 400 }
          | .raised => { world := w, resp := internalServerError }
          | .ok => handleEvent w ⟨event, object, customer, user, course, account⟩ stripe

/-! ## Which deliveries are accepted -/

def accepted (L : Lib) (db : Db) (payload : String) (sigHeader : Option String) : Option Accepted :=
  match customerOf L payload with
  | none => none
  | some (event, object, customer) =>
    match db.user.first fun u => u.cols.customerId = some customer with
    | none => none
    | some user =>
      match user.cols.courseId.bind db.course.get, superAdminAccount db with
      | some course, some account =>
        if L.constructEvent payload sigHeader course.cols.endpointSecret = .ok then
          some ⟨event, object, customer, user, course, account⟩
        else none
      | _, _ => none

theorem handleWebhook_accepted {L : Lib} {w : World} {payload : String} {sigHeader : Option String}
    {stripe : ℕ → Reply} {a : Accepted} (h : accepted L w.db payload sigHeader = some a) :
    handleWebhook L w payload sigHeader stripe = handleEvent w a stripe := by
  unfold accepted at h
  unfold handleWebhook
  split at h
  · cases h
  · split at h
    · cases h
    · split at h
      · split_ifs at h with hv
        cases h
        simp [*]
      · cases h

theorem handleWebhook_refused {L : Lib} {w : World} {payload : String} {sigHeader : Option String}
    {stripe : ℕ → Reply} (h : accepted L w.db payload sigHeader = none) :
    (handleWebhook L w payload sigHeader stripe).world = w ∧
      (handleWebhook L w payload sigHeader stripe).calls = [] := by
  unfold accepted at h
  unfold handleWebhook
  split at h
  · exact ⟨rfl, rfl⟩
  · split at h
    · exact ⟨rfl, rfl⟩
    · split
      · exact ⟨rfl, rfl⟩
      · split
        · exact ⟨rfl, rfl⟩
        · split
          · exact ⟨rfl, rfl⟩
          · exact ⟨rfl, rfl⟩
          · simp [*] at h

/-- what acceptance says about the payload and the database -/
theorem accepted_spec {L : Lib} {db : Db} {payload : String} {sigHeader : Option String} {a : Accepted}
    (h : accepted L db payload sigHeader = some a) :
    customerOf L payload = some (a.event, a.object, a.customer) ∧
      db.user.first (fun u => u.cols.customerId = some a.customer) = some a.user ∧
      a.user.cols.courseId.bind db.course.get = some a.course ∧ superAdminAccount db = some a.account ∧
      L.constructEvent payload sigHeader a.course.cols.endpointSecret = .ok := by
  unfold accepted at h
  split at h
  · cases h
  · rename_i event object customer hc
    split at h
    · cases h
    · rename_i user hu
      split at h
      · rename_i course account hcourse haccount
        split_ifs at h with hv
        cases h
        exact ⟨hc, hu, hcourse, haccount, hv⟩
      · cases h

theorem customerOf_spec {L : Lib} {payload : String} {event : Event} {object : EventObject} {customer : String}
    (h : customerOf L payload = some (event, object, customer)) :
    L.parse payload = some event ∧ event.object = some object ∧ object.customer = some customer := by
  unfold customerOf at h
  split at h
  · cases h
  · rename_i e he
    split at h
    · cases h
    · rename_i o ho
      split at h
      · cases h
      · rename_i c hc
        split_ifs at h
        cases h
        exact ⟨he, ho, hc⟩

/-! ## What a delivery leaves behind -/

/-- the change of the subscriber table by an accepted delivery -/
def Accepted.change (a : Accepted) : Change :=
  match a.event.type with
  | some .checkoutSessionCompleted | some .invoicePaymentSucceeded => .activate a.user.id
  | some .customerSubscriptionCreated =>
    match a.object.id with
    | none => .none
    | some subscriptionId => .link a.user.id subscriptionId
  | _ => .none

theorem Accepted.change_cases (a : Accepted) :
    a.change = .none ∨ a.change = .activate a.user.id ∨ ∃ s, a.change = .link a.user.id s := by
  unfold Accepted.change
  split
  · exact Or.inr (Or.inl rfl)
  · exact Or.inr (Or.inl rfl)
  · split
    · exact Or.inl rfl
    · rename_i s _
      exact Or.inr (Or.inr ⟨s, rfl⟩)
  · exact Or.inl rfl

def webhookChange (L : Lib) (db : Db) (payload : String) (sigHeader : Option String) : Change :=
  match accepted L db payload sigHeader with
  | none => .none
  | some a => a.change

theorem settle_world (w : World) (a : Accepted) (stripe : ℕ → Reply) : (settle w a stripe).world = w := by
  unfold settle
  split
  · rfl
  · split
    · simp only
      split <;> rfl
    · rfl

theorem handleEvent_world (w : World) (a : Accepted) (stripe : ℕ → Reply) :
    (handleEvent w a stripe).world = w.setUser (a.change.apply w.db.user) := by
  unfold handleEvent Accepted.change
  split
  · rename_i ht; simp [ht]; rfl
  · rename_i ht; simp [ht, settle_world, Change.apply]
  · rename_i ht; simp [ht, settle_world, Change.apply]
  · rename_i ht
    simp only [ht]
    split <;> rfl
  · rename_i ht; simp [ht]; rfl

/-- **Effect of a delivery.** The subscriber table changes by `webhookChange`, the rest of the world not at all. -/
theorem handleWebhook_world (L : Lib) (w : World) (payload : String) (sigHeader : Option String) (stripe : ℕ → Reply) :
    (handleWebhook L w payload sigHeader stripe).world =
      w.setUser ((webhookChange L w.db payload sigHeader).apply w.db.user) := by
  unfold webhookChange
  cases ha : accepted L w.db payload sigHeader with
  | none => exact (handleWebhook_refused ha).1
  | some a =>
    rw [handleWebhook_accepted ha]
    exact handleEvent_world w a stripe

/-- the event is one of the two payment events -/
def Accepted.isPayment (a : Accepted) : Prop :=
  a.event.type = some .checkoutSessionCompleted ∨ a.event.type = some .invoicePaymentSucceeded

instance (a : Accepted) : Decidable a.isPayment := by
  unfold Accepted.isPayment; infer_instance

/-- the transfer an accepted payment event leads to, if the object has the fields it is made from -/
def Accepted.transfer (a : Accepted) : Option StripeOp :=
  match a.object.amountTotal.bind commission, a.object.currency, a.object.id with
  | some amount, some currency, some id =>
    some (.transferCreate amount currency a.account ("user_" ++ toString a.user.id ++ "_payment_" ++ id))
  | _, _, _ => none

theorem settle_calls (w : World) (a : Accepted) (stripe : ℕ → Reply) :
    (settle w a stripe).calls = a.transfer.toList.map (fun op => ⟨w.apiKey, op, stripe 0⟩) ∧
      (∀ c ∈ (settle w a stripe).calls, c.ans.isOk = true → (settle w a stripe).resp = webhookProcessed) := by
  unfold settle Accepted.transfer
  cases a.object.amountTotal.bind commission with
  | none => simp
  | some amount =>
    cases a.object.currency with
    | none => simp
    | some currency =>
      cases a.object.id with
      | none => simp
      | some id =>
        simp only [Prog.exec_ask]
        cases stripe 0 with
        | error e => simp [Except.isOk, Except.toBool]
        | ok o => simp

/-- **Calls of a delivery.** At most one, the transfer of an accepted payment event, made with the key that was in force
before the request; and a transfer that succeeds is answered with 200. -/
theorem handleWebhook_calls (L : Lib) (w : World) (payload : String) (sigHeader : Option String) (stripe : ℕ → Reply) :
    ((handleWebhook L w payload sigHeader stripe).calls =
      match accepted L w.db payload sigHeader with
      | none => []
      | some a => if a.isPayment then a.transfer.toList.map (fun op => ⟨w.apiKey, op, stripe 0⟩) else []) ∧
      ∀ c ∈ (handleWebhook L w payload sigHeader stripe).calls, c.ans.isOk = true →
        (handleWebhook L w payload sigHeader stripe).resp = webhookProcessed := by
  cases ha : accepted L w.db payload sigHeader with
  | none =>
    rw [(handleWebhook_refused ha).2]
    simp
  | some a =>
    rw [handleWebhook_accepted ha]
    unfold handleEvent Accepted.isPayment
    split
    · rename_i ht; simp [ht]
    · rename_i ht
      simp only [ht, true_or, if_true]
      exact settle_calls _ a stripe
    · rename_i ht
      simp only [ht, or_true, if_true]
      exact settle_calls _ a stripe
    · rename_i ht
      simp only [ht]
      split <;> simp
    · rename_i ht; simp [ht]

theorem handleWebhook_calls_length (L : Lib) (w : World) (payload : String) (sigHeader : Option String)
    (stripe : ℕ → Reply) : (handleWebhook L w payload sigHeader stripe).calls.length ≤ 1 := by
  rw [(handleWebhook_calls L w payload sigHeader stripe).1]
  split
  · simp
  · split_ifs
    · rw [List.length_map]
      exact Option.length_toList_le
    · simp

end Newsletter.Auth
