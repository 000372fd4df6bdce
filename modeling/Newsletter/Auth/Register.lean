/-
`register` and the Stripe helpers it calls (`app/auth/route.py`, lines 116-265 and 627-719).

The helpers are programs over `stripe.api_key`: each assigns the key it is given and then makes its calls. They differ
in what they do with an exception:
- `create_customer` lets every exception through to `register`;
- `create_and_update_recurring` and `create_default_price_and_update_product` turn a `StripeError` into no price;
- `subscriptioncheckout` and `create_checkout_session` turn every exception into no URL.

`register` computes the amount before it looks at the method, so a campaign without a price makes it raise. A POST that
passes the checks reaches `enrol`, the body of the `try` block; `admitted` says which requests do. What follows for the
rest of the development:
- `register_refused`, `register_admitted`: `register` is `enrol` on admitted requests and leaves the world alone on all
  others;
- `register_raised_iff`: it raises exactly for a campaign without a price;
- `enrol_world`: `enrol` inserts at most one row, touches no other table, and leaves `stripe.api_key` as it was for a
  free campaign and sets it to the campaign's key otherwise;
- `openCheckout_key`, `openCheckout_customer`: every call is made with the campaign's key; the first makes the customer;
- `openCheckout_opened`: a checkout URL comes from a session for that customer, whose first price is the one created with
  the amount of the registration, or a null price that Stripe took.
-/
import Newsletter.Core.Rounding
import Newsletter.Subscriptions

namespace Newsletter.Auth

open Newsletter.Core

/-! ## Stripe helpers -/

def createCustomer (email : String) (stripeApiKey : Option String) : StripeProg String := do
  Prog.set stripeApiKey
  let customer ← Prog.ask (.customerCreate email)
  pure customer.id

/-- a new price, made the product's default price; a `StripeError` at either call gives no price -/
def createPrice (recurring : Bool) (productId : Option String) (unitAmount : ℤ) (key : Option String) (courseId : ℕ)
    (currency : String) : StripeProg (Option String) :=
  Prog.rescue
    (do
      Prog.set key
      let newPrice ← Prog.ask (.priceCreate productId unitAmount currency courseId recurring)
      let _ ← Prog.ask (.productModify productId newPrice.id)
      pure (some newPrice.id))
    fun
      | .stripeError => pure none
      | e => Prog.raise e

def createAndUpdateRecurring := createPrice true

def createDefaultPriceAndUpdateProduct := createPrice false

/-- `int(round(unit_amount * 0.21))` -/
def ivaOf (unitAmount : ℤ) : Option ℤ := (timesDouble unitAmount (21 / 100)).map roundHalfEven

/-- checkout of the price and of a second monthly price for the IVA of 21% -/
def subscriptioncheckout (courseId : ℕ) (createdPriceId : Option String) (customer : String)
    (stripeApiKey : Option String) (quantity : ℕ) : StripeProg (Option String) := do
  Prog.set stripeApiKey
  Prog.rescue
    (do
      let price ← Prog.ask (.priceRetrieve createdPriceId)
      match price.unitAmount.bind ivaOf, price.currency with
      | some ivaAmount, some currency =>
        let ivaPrice ← Prog.ask (.ivaPriceCreate ivaAmount currency courseId)
        let session ← Prog.ask
          (.sessionCreate .subscription courseId customer [createdPriceId, some ivaPrice.id] quantity)
        -- `session.subscription` is only printed
        pure session.url
      -- a missing field, or an amount that is null or too large in the product with 0.21
      | _, _ => Prog.raise .keyError)
    fun _ => pure none

def createCheckoutSession (courseId : ℕ) (createdPriceId : Option String) (customer : String)
    (stripeApiKey : Option String) (quantity : ℕ) : StripeProg (Option String) := do
  Prog.set stripeApiKey
  Prog.rescue
    (do
      let session ← Prog.ask (.sessionCreate .payment courseId customer [createdPriceId] quantity)
      pure session.url)
    fun _ => pure none

/-- the Stripe part of a paid registration: the customer's id and the URL of the checkout session -/
def openCheckout (course : Rec Course) (email : String) (amount : ℤ) (currency : String) :
    StripeProg (String × Option String) := do
  let key := course.cols.stripeApiKey
  let createdCustomer ← createCustomer email key
  let createdPriceId ←
    (if course.cols.type = some 1 then
      createAndUpdateRecurring course.cols.productId amount key course.id currency
    else createDefaultPriceAndUpdateProduct course.cols.productId amount key course.id currency)
  let checkoutSessionUrl ←
    (if course.cols.type = some 1 then subscriptioncheckout course.id createdPriceId createdCustomer key 1
    else createCheckoutSession course.id createdPriceId createdCustomer key 1)
  pure (createdCustomer, checkoutSessionUrl)

/-! ## The handler -/

/-- `int(round(price * 100))`; the second argument of `db.Float(6, 2)` is `asdecimal`, so the column holds a `Decimal` and
the product is exact -/
def amountOf (price : ℚ) : ℤ := roundHalfEven (price * 100)

def currencyOf (course : Course) : String := if truthy course.currency then pyStr course.currency else "usd"

/-- the active row of this email address in this campaign -/
def existingUser (db : Db) (email : String) (course : ℕ) : Option (Rec User) :=
  db.user.first fun u => u.cols.email = email ∧ u.cols.courseId = some course ∧ u.cols.status = some 2

/-- the row of a registration in a free campaign -/
def freeUser (email : String) (course : ℕ) : User := { email := email, status := some 2, courseId := some course }

/-- the row of a registration whose payment is pending -/
def pendingUser (email customer : String) (amount : ℤ) (course : ℕ) : User :=
  { email := email, customerId := some customer, amount := some amount, status := some 1, courseId := some course }

/-- the `try` block of `register`; `commit` is whether the commit of the new row succeeds -/
def enrol (w : World) (course : Rec Course) (email : String) (price : ℚ) (stripe : ℕ → Reply) (commit : Bool) : Out :=
  if course.cols.free then
    if commit then
      { world := w.setUser (w.db.user.insert (freeUser email course.id)), resp := .redirect .authSuccess }
    else { world := w, resp := .redirect (.authError 3) }
  else
    match Prog.exec stripe (openCheckout course email (amountOf price) (currencyOf course.cols)) 0 w.apiKey with
    | ⟨.error _, key, calls⟩ =>
      { world := { w with apiKey := key }, resp := .redirect (.authError 3), calls := calls }
    | ⟨.ok (customer, url), key, calls⟩ =>
      let w' : World := { w with apiKey := key }
      if truthy url ∧ commit then
        { world := w'.setUser (w.db.user.insert (pendingUser email customer (amountOf price) course.id))
          resp := .redirect (.checkout (pyStr url)), calls := calls }
      else { world := w', resp := .redirect (.authError 3), calls := calls }

/-- `form` is `none` for a GET and else the email field of the POST, if it was sent -/
def register (w : World) (code : String) (form : Option (Option String)) (stripe : ℕ → Reply) (commit : Bool) : Out :=
  match linkedCampaign w.db code with
  | none => { world := w, resp := .redirect (.authError 2) }
  | some course =>
    match course.cols.price with
    -- `None * 100`
    | none => { world := w, resp := .raised .typeError }
    | some price =>
      match form with
      | none =>
        { world := w
          resp := .page (.registration course.cols.color course.cols.title code
            (w.db.courseResource.all fun r => r.cols.course = some course.id)) }
      | some none => { world := w, resp := .redirect (.authError 1) }
      | some (some email) =>
        if email = "" then { world := w, resp := .redirect (.authError 1) }
        else if (existingUser w.db email course.id).isSome then { world := w, resp := .redirect (.authError 1) }
        else enrol w course email price stripe commit

/-! ## Which requests are admitted -/

/-- the campaign, price and email address of a POST that passes every check before the `try` block -/
def admitted (db : Db) (code : String) (form : Option (Option String)) : Option (Rec Course × ℚ × String) :=
  match linkedCampaign db code with
  | none => none
  | some course =>
    match course.cols.price, form with
    | some price, some (some email) =>
      if email = "" ∨ (existingUser db email course.id).isSome then none else some (course, price, email)
    | _, _ => none

theorem register_admitted {w : World} {code : String} {form : Option (Option String)} {stripe : ℕ → Reply}
    {commit : Bool} {course : Rec Course} {price : ℚ} {email : String}
    (h : admitted w.db code form = some (course, price, email)) :
    register w code form stripe commit = enrol w course email price stripe commit := by
  unfold admitted at h
  unfold register
  split at h
  · cases h
  · split at h
    · split_ifs at h with hc
      simp only [Option.some.injEq, Prod.mk.injEq] at h
      obtain ⟨rfl, rfl, rfl⟩ := h
      obtain ⟨he, hx⟩ := not_or.1 hc
      simp [*]
    · cases h

theorem register_refused {w : World} {code : String} {form : Option (Option String)} {stripe : ℕ → Reply}
    {commit : Bool} (h : admitted w.db code form = none) :
    (register w code form stripe commit).world = w ∧ (register w code form stripe commit).calls = [] ∧
      (register w code form stripe commit).mails = [] := by
  unfold admitted at h
  unfold register
  split at h
  · exact ⟨rfl, rfl, rfl⟩
  · rename_i course hc
    split at h
    · rename_i price email hp
      rw [hp]
      simp only
      split_ifs at h with hx
      by_cases he : email = ""
      · simp [he]
      · have hs : (existingUser w.db email course.id).isSome := hx.resolve_left he
        simp [he, hs]
    · rename_i hp
      split
      · exact ⟨rfl, rfl, rfl⟩
      · rename_i price hprice
        split
        · exact ⟨rfl, rfl, rfl⟩
        · exact ⟨rfl, rfl, rfl⟩
        · exact absurd rfl (hp _ _ hprice)

theorem admitted_course {db : Db} {code : String} {form : Option (Option String)} {course : Rec Course} {price : ℚ}
    {email : String} (h : admitted db code form = some (course, price, email)) :
    linkedCampaign db code = some course ∧ course.cols.price = some price ∧
      existingUser db email course.id = none := by
  unfold admitted at h
  split at h
  · cases h
  · rename_i c hc
    split at h
    · rename_i p e hp
      split_ifs at h with hx
      simp only [Option.some.injEq, Prod.mk.injEq] at h
      obtain ⟨rfl, rfl, rfl⟩ := h
      refine ⟨hc, hp, ?_⟩
      have hn := (not_or.1 hx).2
      simpa using hn
    · cases h

theorem enrol_redirects (w : World) (course : Rec Course) (email : String) (price : ℚ) (stripe : ℕ → Reply) (commit : Bool) :
    ∃ target, (enrol w course email price stripe commit).resp = .redirect target := by
  unfold enrol
  split_ifs
  · exact ⟨_, rfl⟩
  · exact ⟨_, rfl⟩
  · split
    · exact ⟨_, rfl⟩
    · simp only
      split_ifs
      · exact ⟨_, rfl⟩
      · exact ⟨_, rfl⟩

/-- whatever the method, the form and Stripe's answers are, an exception leaves the handler exactly for a campaign without
a price -/
theorem register_raised_iff {w : World} {code : String} {form : Option (Option String)} {stripe : ℕ → Reply}
    {commit : Bool} {course : Rec Course} (hc : linkedCampaign w.db code = some course) :
    (∃ e, (register w code form stripe commit).resp = .raised e) ↔ course.cols.price = none := by
  unfold register
  simp only [hc]
  cases course.cols.price with
  | none => exact ⟨fun _ => rfl, fun _ => ⟨.typeError, rfl⟩⟩
  | some price =>
    refine ⟨fun ⟨e, he⟩ => ?_, fun h => by cases h⟩
    rcases form with _ | _ | email
    · cases he
    · cases he
    · simp only at he
      split_ifs at he
      obtain ⟨target, htarget⟩ := enrol_redirects w course email price stripe commit
      rw [htarget] at he
      cases he

/-! ## The Stripe part of a registration uses one key -/

theorem only_createCustomer (email : String) (key : Option String) : Prog.Only key (createCustomer email key) :=
  (Prog.only_set key).bind fun _ => (Prog.only_ask key _).bind fun _ => Prog.only_pure key _

theorem only_createPrice (recurring : Bool) (product : Option String) (amount : ℤ) (key : Option String) (course : ℕ)
    (currency : String) : Prog.Only key (createPrice recurring product amount key course currency) := by
  refine Prog.Only.rescue ?_ fun e => ?_
  · exact (Prog.only_set key).bind fun _ => (Prog.only_ask key _).bind fun _ =>
      (Prog.only_ask key _).bind fun _ => Prog.only_pure key _
  · cases e <;> first | exact Prog.only_pure key _ | exact Prog.only_raise key _

theorem only_subscriptioncheckout (course : ℕ) (price : Option String) (customer : String) (key : Option String)
    (quantity : ℕ) : Prog.Only key (subscriptioncheckout course price customer key quantity) := by
  refine (Prog.only_set key).bind fun _ => Prog.Only.rescue ?_ fun _ => Prog.only_pure key _
  refine (Prog.only_ask key _).bind fun price => ?_
  split
  · exact (Prog.only_ask key _).bind fun _ => (Prog.only_ask key _).bind fun _ => Prog.only_pure key _
  · exact Prog.only_raise key _

theorem only_createCheckoutSession (course : ℕ) (price : Option String) (customer : String) (key : Option String)
    (quantity : ℕ) : Prog.Only key (createCheckoutSession course price customer key quantity) := by
  refine (Prog.only_set key).bind fun _ => Prog.Only.rescue ?_ fun _ => Prog.only_pure key _
  exact (Prog.only_ask key _).bind fun _ => Prog.only_pure key _

theorem only_openCheckout (course : Rec Course) (email : String) (amount : ℤ) (currency : String) :
    Prog.Only course.cols.stripeApiKey (openCheckout course email amount currency) := by
  refine (only_createCustomer email _).bind fun customer => Prog.Only.bind ?_ fun price => Prog.Only.bind ?_ fun url => ?_
  · split_ifs
    · exact only_createPrice ..
    · exact only_createPrice ..
  · split_ifs
    · exact only_subscriptioncheckout ..
    · exact only_createCheckoutSession ..
  · exact Prog.only_pure _ _

/-- the key is assigned before the first call: whatever it was, every call is made with the campaign's key -/
theorem openCheckout_key (stripe : ℕ → Reply) (course : Rec Course) (email : String) (amount : ℤ) (currency : String)
    (key : Option String) :
    (Prog.exec stripe (openCheckout course email amount currency) 0 key).reg = course.cols.stripeApiKey ∧
      ∀ c ∈ (Prog.exec stripe (openCheckout course email amount currency) 0 key).calls,
        c.reg = course.cols.stripeApiKey :=
  Prog.exec_calls (only_openCheckout course email amount currency) 0

/-- the first call makes the customer, and a failure there is the end of it -/
theorem openCheckout_customer (stripe : ℕ → Reply) (course : Rec Course) (email : String) (amount : ℤ)
    (currency : String) (key : Option String) :
    ∃ rest, (Prog.exec stripe (openCheckout course email amount currency) 0 key).calls =
        ⟨course.cols.stripeApiKey, .customerCreate email, stripe 0⟩ :: rest ∧
      ((stripe 0).isOk = false →
        rest = [] ∧ ∃ e, (Prog.exec stripe (openCheckout course email amount currency) 0 key).val = .error e) := by
  unfold openCheckout createCustomer
  simp only [Prog.exec_bind, Prog.exec_set, Prog.exec_ask]
  cases stripe 0 with
  | error e => exact ⟨[], rfl, fun _ => ⟨rfl, e, rfl⟩⟩
  | ok customer => exact ⟨_, rfl, fun h => absurd h (by simp [Except.isOk, Except.toBool])⟩

/-! ## What a checkout URL stands for -/

theorem createCustomer_made {stripe : ℕ → Reply} {email : String} {key : Option String} {customer : String}
    {calls : List StripeCall} (h : Prog.Yields stripe (createCustomer email key) customer calls) :
    ∃ k o, o.id = customer ∧ ⟨k, .customerCreate email, .ok o⟩ ∈ calls := by
  obtain ⟨_, l1, l2, rfl, -, h1⟩ := h.bind
  obtain ⟨o, l3, l4, rfl, hask, h2⟩ := h1.bind
  obtain ⟨k, rfl⟩ := hask.ask
  exact ⟨k, o, h2.pure.1.symm, by simp⟩

theorem createPrice_made {stripe : ℕ → Reply} {recurring : Bool} {product : Option String} {amount : ℤ}
    {key : Option String} {course : ℕ} {currency : String} {price : String} {calls : List StripeCall}
    (h : Prog.Yields stripe (createPrice recurring product amount key course currency) (some price) calls) :
    ∃ k o, o.id = price ∧ ⟨k, .priceCreate product amount currency course recurring, .ok o⟩ ∈ calls := by
  rcases h.rescue with h1 | ⟨e, l1, l2, -, h1⟩
  · obtain ⟨_, l1, l2, rfl, -, h2⟩ := h1.bind
    obtain ⟨o, l3, l4, rfl, hask, h3⟩ := h2.bind
    obtain ⟨k, rfl⟩ := hask.ask
    obtain ⟨_, l5, l6, rfl, -, h4⟩ := h3.bind
    have hid : price = o.id := Option.some.inj h4.pure.1
    exact ⟨k, o, hid.symm, by simp⟩
  · -- the handler gives no price, or raises again
    cases e with
    | stripeError => exact absurd h1.pure.1 (by simp)
    | _ => exact absurd h1 Prog.not_yields_raise

/-- the calls hold the creation of a session for `customer` with first price `price`, answered with `url` -/
def SessionOpened (calls : List StripeCall) (course : ℕ) (customer : String) (price url : Option String) : Prop :=
  ∃ k mode prices quantity o, o.url = url ∧ ⟨k, .sessionCreate mode course customer (price :: prices) quantity, .ok o⟩ ∈ calls

theorem subscriptioncheckout_opened {stripe : ℕ → Reply} {course : ℕ} {price : Option String} {customer : String}
    {key : Option String} {quantity : ℕ} {url : Option String} {calls : List StripeCall}
    (h : Prog.Yields stripe (subscriptioncheckout course price customer key quantity) url calls)
    (hurl : truthy url = true) : SessionOpened calls course customer price url := by
  obtain ⟨_, l1, l2, rfl, -, h1⟩ := h.bind
  rcases h1.rescue with h2 | ⟨e, l3, l4, -, h2⟩
  · obtain ⟨p, l3, l4, rfl, -, h3⟩ := h2.bind
    split at h3
    · obtain ⟨iva, l5, l6, rfl, -, h4⟩ := h3.bind
      obtain ⟨session, l7, l8, rfl, hask, h5⟩ := h4.bind
      obtain ⟨k, rfl⟩ := hask.ask
      exact ⟨k, .subscription, [some iva.id], quantity, session, h5.pure.1.symm, by simp⟩
    · exact absurd h3 Prog.not_yields_raise
  · rw [h2.pure.1] at hurl
    exact absurd hurl (by decide)

theorem createCheckoutSession_opened {stripe : ℕ → Reply} {course : ℕ} {price : Option String} {customer : String}
    {key : Option String} {quantity : ℕ} {url : Option String} {calls : List StripeCall}
    (h : Prog.Yields stripe (createCheckoutSession course price customer key quantity) url calls)
    (hurl : truthy url = true) : SessionOpened calls course customer price url := by
  obtain ⟨_, l1, l2, rfl, -, h1⟩ := h.bind
  rcases h1.rescue with h2 | ⟨e, l3, l4, -, h2⟩
  · obtain ⟨session, l3, l4, rfl, hask, h3⟩ := h2.bind
    obtain ⟨k, rfl⟩ := hask.ask
    exact ⟨k, .payment, [], quantity, session, h3.pure.1.symm, by simp⟩
  · rw [h2.pure.1] at hurl
    exact absurd hurl (by decide)

theorem SessionOpened.mono {l l' : List StripeCall} {course : ℕ} {customer : String} {price url : Option String}
    (h : SessionOpened l course customer price url) (hl : l ⊆ l') : SessionOpened l' course customer price url := by
  obtain ⟨k, mode, prices, quantity, o, hurl, hc⟩ := h
  exact ⟨k, mode, prices, quantity, o, hurl, hl hc⟩

/-- **What a checkout URL stands for.** The customer was created, a session for them was opened under that URL, and its
first price, if not null, was created with the given amount. -/
theorem openCheckout_opened {stripe : ℕ → Reply} {course : Rec Course} {email : String} {amount : ℤ} {currency : String}
    {customer : String} {url : Option String} {calls : List StripeCall}
    (h : Prog.Yields stripe (openCheckout course email amount currency) (customer, url) calls)
    (hurl : truthy url = true) :
    (∃ k o, o.id = customer ∧ ⟨k, .customerCreate email, .ok o⟩ ∈ calls) ∧
      ∃ price, SessionOpened calls course.id customer price url ∧
        ∀ p, price = some p → ∃ k product cur recurring o,
          o.id = p ∧ ⟨k, .priceCreate product amount cur course.id recurring, .ok o⟩ ∈ calls := by
  obtain ⟨c, l1, l2, rfl, hc, h1⟩ := h.bind
  obtain ⟨price, l3, l4, rfl, hp, h2⟩ := h1.bind
  obtain ⟨url', l5, l6, rfl, hu, h3⟩ := h2.bind
  obtain ⟨rfl, rfl⟩ := Prod.mk.inj h3.pure.1
  constructor
  · obtain ⟨k, o, hid, hmem⟩ := createCustomer_made hc
    exact ⟨k, o, hid, List.mem_append_left _ hmem⟩
  refine ⟨price, ?_, fun p hpr => ?_⟩
  · have hopen : SessionOpened l5 course.id customer price url := by
      split_ifs at hu
      · exact subscriptioncheckout_opened hu hurl
      · exact createCheckoutSession_opened hu hurl
    exact hopen.mono fun x hx => List.mem_append_right _ (List.mem_append_right _ (List.mem_append_left _ hx))
  · subst hpr
    have hmade : ∃ k recurring o, o.id = p ∧
        ⟨k, .priceCreate course.cols.productId amount currency course.id recurring, .ok o⟩ ∈ l3 := by
      split_ifs at hp
      · obtain ⟨k, o, ho⟩ := createPrice_made hp
        exact ⟨k, true, o, ho⟩
      · obtain ⟨k, o, ho⟩ := createPrice_made hp
        exact ⟨k, false, o, ho⟩
    obtain ⟨k, recurring, o, hid, hmem⟩ := hmade
    exact ⟨k, _, _, recurring, o, hid, List.mem_append_right _ (List.mem_append_left _ hmem)⟩

/-! ## What a registration leaves behind -/

/-- the change of the subscriber table -/
def enrolChange (w : World) (course : Rec Course) (email : String) (price : ℚ) (stripe : ℕ → Reply) (commit : Bool) :
    Change :=
  if course.cols.free then
    if commit then .enrol (freeUser email course.id) else .none
  else
    match (Prog.exec stripe (openCheckout course email (amountOf price) (currencyOf course.cols)) 0 w.apiKey).val with
    | .error _ => .none
    | .ok (customer, url) =>
      if truthy url ∧ commit then .enrol (pendingUser email customer (amountOf price) course.id) else .none

theorem enrol_world (w : World) (course : Rec Course) (email : String) (price : ℚ) (stripe : ℕ → Reply)
    (commit : Bool) :
    (enrol w course email price stripe commit).world =
      { w with
        apiKey := if course.cols.free then w.apiKey else course.cols.stripeApiKey
        db := { w.db with user := (enrolChange w course email price stripe commit).apply w.db.user } } := by
  unfold enrol enrolChange
  split_ifs with hf hc
  · rfl
  · rfl
  · have hkey := (openCheckout_key stripe course email (amountOf price) (currencyOf course.cols) w.apiKey).1
    split
    · rename_i e key calls hx
      rw [hx] at hkey ⊢
      simp only at hkey
      simp [hkey, Change.apply]
    · rename_i customer url key calls hx
      rw [hx] at hkey ⊢
      simp only at hkey
      simp only [hkey]
      split_ifs <;> rfl

theorem enrol_calls (w : World) (course : Rec Course) (email : String) (price : ℚ) (stripe : ℕ → Reply)
    (commit : Bool) :
    (enrol w course email price stripe commit).calls =
      if course.cols.free then []
      else (Prog.exec stripe (openCheckout course email (amountOf price) (currencyOf course.cols)) 0 w.apiKey).calls := by
  unfold enrol
  split_ifs with hf hc
  · rfl
  · rfl
  · split
    · rename_i hx
      rw [hx]
    · rename_i hx
      rw [hx]
      split_ifs <;> rfl

end Newsletter.Auth
