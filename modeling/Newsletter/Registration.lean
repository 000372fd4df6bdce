/-
A registration is all-or-nothing.

The paid path of `register` makes up to six Stripe calls through helpers that treat a failure in three different ways.
Whatever fails, a POST for a campaign with a price has one of three endings (`Ending`):
- `refused`: an error page, and the database as it was;
- `enrolled`: the success page of a free campaign, no Stripe call, one active row without a customer;
- `pending`: the URL of a checkout session, one row with status 1 whose customer is the customer of that session and whose
  amount is the unit amount with which the first price of the session was created.

The helpers pass a missing price on to the checkout, so the third ending rests on Stripe refusing a null price id
(`StripeOp.nullPrice`).
-/
import Newsletter.App

namespace Newsletter

open Newsletter.Core Auth

/-- the request names a price by a null id -/
def StripeOp.nullPrice : StripeOp → Bool
  | .priceRetrieve none => true
  | .sessionCreate _ _ _ prices _ => none ∈ prices
  | _ => false

/-- the price `id` was created with this unit amount -/
def PriceMade (calls : List StripeCall) (id : String) (unitAmount : ℤ) : Prop :=
  ∃ k product currency course recurring o,
    o.id = id ∧ ⟨k, .priceCreate product unitAmount currency course recurring, .ok o⟩ ∈ calls

inductive Ending where
  | refused
  | enrolled
  | pending
deriving DecidableEq, Repr

/-- a POST of `email` to the registration link of `course` has left `o` behind and ended in this way -/
def Ending.Of (w : World) (course : Rec Course) (email : Option String) (o : Out) : Ending → Prop
  | .refused => (∃ type, o.resp = .redirect (.authError type)) ∧ o.world.db = w.db
  | .enrolled =>
    o.resp = .redirect .authSuccess ∧ course.cols.free = true ∧ o.calls = [] ∧
      ∃ e, email = some e ∧ o.world.db = { w.db with
        user := w.db.user.insert { email := e, customerId := none, status := some 2, courseId := some course.id } }
  | .pending =>
    ∃ url e customer amount price,
      o.resp = .redirect (.checkout url) ∧ email = some e ∧ o.world.db = { w.db with
        user := w.db.user.insert
          { email := e, customerId := some customer, amount := some amount, status := some 1
            courseId := some course.id } } ∧
        SessionOpened o.calls course.id customer (some price) (some url) ∧ PriceMade o.calls price amount

/-- the ending a response shows -/
def Ending.shown : Response → Option Ending
  | .redirect (.authError _) => some .refused
  | .redirect .authSuccess => some .enrolled
  | .redirect (.checkout _) => some .pending
  | _ => none

theorem Ending.Of.shown {w : World} {course : Rec Course} {email : Option String} {o : Out} {e : Ending}
    (h : e.Of w course email o) : Ending.shown o.resp = some e := by
  cases e with
  | refused =>
    obtain ⟨⟨type, hresp⟩, -⟩ := h
    rw [hresp]
    rfl
  | enrolled =>
    rw [h.1]
    rfl
  | pending =>
    obtain ⟨url, _, _, _, _, hresp, -⟩ := h
    rw [hresp]
    rfl

/-- a session that Stripe opened has a first price with an id -/
theorem Auth.SessionOpened.price {calls : List StripeCall} {course : ℕ} {customer : String} {price url : Option String}
    (h : SessionOpened calls course customer price url)
    (hnull : ∀ c ∈ calls, c.req.nullPrice = true → c.ans.isOk = false) : ∃ p, price = some p := by
  obtain ⟨k, mode, prices, quantity, o, -, hc⟩ := h
  cases price with
  | some p => exact ⟨p, rfl⟩
  | none =>
    have hbad := hnull _ hc (by simp [StripeOp.nullPrice])
    simp [Except.isOk, Except.toBool] at hbad

theorem truthy_some {s : Option String} (h : truthy s = true) : s = some (pyStr s) := by
  cases s with
  | none => simp [truthy] at h
  | some t => rfl

/-- the paid path -/
theorem enrol_paid_ending {w : World} {course : Rec Course} {email : String} {price : ℚ} {stripe : ℕ → Reply}
    {commit : Bool} (hf : course.cols.free = false)
    (hnull : ∀ c ∈ (enrol w course email price stripe commit).calls, c.req.nullPrice = true → c.ans.isOk = false) :
    ∃ e : Ending, e.Of w course (some email) (enrol w course email price stripe commit) := by
  unfold enrol at hnull ⊢
  simp only [hf, Bool.false_eq_true, if_false] at hnull ⊢
  split at hnull
  · exact ⟨.refused, ⟨3, rfl⟩, rfl⟩
  · rename_i customer url key calls hx
    split_ifs at hnull ⊢ with hc
    · have hyield : Prog.Yields stripe (openCheckout course email (amountOf price) (currencyOf course.cols))
          (customer, url) calls := ⟨0, w.apiKey, key, hx⟩
      obtain ⟨-, p, hopen, hprice⟩ := openCheckout_opened hyield hc.1
      obtain ⟨id, rfl⟩ := SessionOpened.price hopen hnull
      obtain ⟨k, product, cur, recurring, o, hid, hmem⟩ := hprice id rfl
      refine ⟨.pending, pyStr url, email, customer, amountOf price, id, rfl, rfl, rfl, ?_, ?_⟩
      · rw [← truthy_some hc.1]
        exact hopen
      · exact ⟨k, product, cur, course.id, recurring, o, hid, hmem⟩
    · exact ⟨.refused, ⟨3, rfl⟩, rfl⟩

/-- **All or nothing.** A POST to the registration link of a campaign with a price has exactly one of the three endings,
whatever email it carries and whichever Stripe calls and commits fail, if Stripe refuses a null price id. -/
theorem register_all_or_nothing (w : World) (code : String) (course : Rec Course) (price : ℚ) (email : Option String)
    (stripe : ℕ → Reply) (commit : Bool)
    (hcourse : linkedCampaign w.db code = some course)
    (hprice : course.cols.price = some price)
    (hnull : ∀ c ∈ (register w code (some email) stripe commit).calls,
      c.req.nullPrice = true → c.ans.isOk = false) :
    ∃! e : Ending, e.Of w course email (register w code (some email) stripe commit) := by
  refine existsUnique_of_exists_of_unique ?_ fun a b ha hb => ?_
  swap
  · exact Option.some.inj ((Ending.Of.shown ha).symm.trans (Ending.Of.shown hb))
  unfold register at hnull ⊢
  simp only [hcourse, hprice] at hnull ⊢
  cases email with
  | none => exact ⟨.refused, ⟨1, rfl⟩, rfl⟩
  | some email =>
    simp only at hnull ⊢
    split_ifs at hnull ⊢ with hempty hactive
    · exact ⟨.refused, ⟨1, rfl⟩, rfl⟩
    · exact ⟨.refused, ⟨1, rfl⟩, rfl⟩
    · cases hf : course.cols.free with
      | false => exact enrol_paid_ending hf hnull
      | true =>
        simp only [enrol, hf, if_true]
        cases commit with
        | true => exact ⟨.enrolled, rfl, hf, rfl, email, rfl, rfl⟩
        | false => exact ⟨.refused, ⟨3, rfl⟩, rfl⟩

/-- a paid registration in which the price is created and its product cannot be changed: Stripe refuses the null price -/
theorem register_all_or_nothing_product_fails :
    ∃! e : Ending, e.Of Sample.start ⟨1, Sample.campaign 2 "Ab3dE" "sk_1" "whsec_1"⟩ (some "ann@example.com")
      (register Sample.start "Ab3dE" (some (some "ann@example.com"))
        (fun n => if n < 2 then Sample.answers "cus_1" n else .error .stripeError) true) :=
  register_all_or_nothing Sample.start "Ab3dE" ⟨1, Sample.campaign 2 "Ab3dE" "sk_1" "whsec_1"⟩ 10 (some "ann@example.com")
    _ true rfl rfl (by decide)

end Newsletter
