/-
What the checkout of a subscription charges (`app/auth/route.py`, lines 134-224).

A paid registration in a subscription campaign creates a monthly price for the amount of the campaign, reads the price back
from Stripe, computes the IVA of 21% from the amount it has read with a float product, creates a second monthly price for it
and opens a session with both. `checkout_charges` follows this through the helpers: if the registration is sent to a checkout
page and Stripe has answered the read with the amount that the price was created with (`PricesKept`), the session has two
lines, the campaign's price to the nearest cent and 21% of it to the nearest cent.

`ivaOf_nearest` is the arithmetic: the float nearest 0.21 is a little less than 21/100, and up to `2 ^ 47` cents neither this
nor the rounding of the product can move the result past the nearest cent. Exact halves may go either way.
-/
import Newsletter.App

namespace Newsletter

open Newsletter.Core Auth

/-! ## 21% in floating point -/

theorem toDouble_iva : toDouble (21 / 100) = 7566047373982433 / 2 ^ 55 := by
  decide +kernel

/-- the product of an amount with the float `0.21` -/
theorem timesDouble_iva {n : ℤ} (h : |n| < 2 ^ 47) :
    timesDouble n (21 / 100) = some (toDouble (n * (7566047373982433 / 2 ^ 55))) := by
  have hn : |(n : ℚ)| < 2 ^ 53 := by
    have hlt : |n| < 2 ^ 53 := h.trans (by norm_num)
    exact_mod_cast hlt
  rw [timesDouble_of_lt hn, toDouble_iva]

/-- the product is off by less than a 128th of a cent -/
theorem toDouble_iva_close {n : ℤ} (h : |n| < 2 ^ 47) :
    |toDouble (n * (7566047373982433 / 2 ^ 55)) - 21 * n / 100| < 1 / 128 := by
  rcases eq_or_ne n 0 with rfl | hn
  · norm_num [toDouble]
  have habs : |(n : ℚ)| < 2 ^ 47 := by exact_mod_cast h
  have hlow := neg_lt_of_abs_lt habs
  have hhigh := lt_of_abs_lt habs
  set x : ℚ := n * (7566047373982433 / 2 ^ 55) with hx
  have hx0 : x ≠ 0 := mul_ne_zero (Int.cast_ne_zero.2 hn) (by norm_num)
  -- the product is below `2 ^ 45`, so the floats around it have at most the distance `2 ^ (-8)`
  have hulp : ulp x ≤ 1 / 256 := by
    have hbound : |x| < 2 ^ ((44 : ℤ) + 1) := by
      have hfactor : |x| = |(n : ℚ)| * (7566047373982433 / 2 ^ 55) := by rw [hx, abs_mul]; norm_num
      rw [hfactor]
      norm_num
      linarith
    calc ulp x ≤ 2 ^ ((44 : ℤ) - 52) := ulp_le hx0 hbound
      _ = 1 / 256 := by norm_num
  have hround := abs_le.1 (abs_toDouble_sub_le hx0)
  rw [abs_lt]
  constructor <;> linarith [hround.1, hround.2]

/-- **IVA.** The amount is 21% of the price to the nearest cent. -/
theorem ivaOf_nearest {n iva : ℤ} (h : |n| < 2 ^ 47) (hiva : ivaOf n = some iva) : |100 * iva - 21 * n| ≤ 50 := by
  have hclose := abs_lt.1 (toDouble_iva_close h)
  rw [ivaOf, timesDouble_iva h, Option.map_some, Option.some.injEq] at hiva
  have hround := abs_le.1 (abs_roundHalfEven_sub_le (toDouble (n * (7566047373982433 / 2 ^ 55))))
  rw [hiva] at hround
  have hlow : (-51 : ℚ) < 100 * iva - 21 * n := by linarith [hclose.1, hround.1]
  have hhigh : (100 * iva - 21 * n : ℚ) < 51 := by linarith [hclose.2, hround.2]
  have hlow' : -51 < 100 * iva - 21 * n := by exact_mod_cast hlow
  have hhigh' : 100 * iva - 21 * n < 51 := by exact_mod_cast hhigh
  rw [abs_le]
  omega

/-! ## The lines of the session -/

/-- a price that was read back has the amount it was created with, and a null id names no price -/
structure PricesKept (calls : List StripeCall) : Prop where
  amount : ∀ {k product amount currency course recurring o k' o'},
    ⟨k, .priceCreate product amount currency course recurring, .ok o⟩ ∈ calls →
    ⟨k', .priceRetrieve (some o.id), .ok o'⟩ ∈ calls → o'.unitAmount = some amount
  null : ∀ {k o}, ⟨k, .priceRetrieve none, .ok o⟩ ∉ calls

/-- the monthly price `id` was created with the amount `n` -/
def Created (calls : List StripeCall) (course : ℕ) (id : String) (n : ℤ) : Prop :=
  ∃ k o, o.id = id ∧
    ((∃ product currency, ⟨k, .priceCreate product n currency course true, .ok o⟩ ∈ calls) ∨
      ∃ currency, ⟨k, .ivaPriceCreate n currency course, .ok o⟩ ∈ calls)

theorem Created.mono {l l' : List StripeCall} {course : ℕ} {id : String} {n : ℤ} (h : Created l course id n) (hl : l ⊆ l') :
    Created l' course id n := by
  obtain ⟨k, o, hid, hmade⟩ := h
  refine ⟨k, o, hid, hmade.imp ?_ ?_⟩
  · exact fun ⟨product, currency, hc⟩ => ⟨product, currency, hl hc⟩
  · exact fun ⟨currency, hc⟩ => ⟨currency, hl hc⟩

/-- a checkout URL of `subscriptioncheckout`: the price was read, the IVA computed from what was read, and the session opened
with both prices -/
theorem subscriptioncheckout_lines {stripe : ℕ → Reply} {course : ℕ} {price : Option String} {customer : String}
    {key : Option String} {url : Option String} {calls : List StripeCall}
    (h : Prog.Yields stripe (subscriptioncheckout course price customer key 1) url calls) (hurl : truthy url = true) :
    ∃ k k' p n iva amount session, ⟨k, .priceRetrieve price, .ok p⟩ ∈ calls ∧ p.unitAmount = some n ∧
      ivaOf n = some amount ∧ Created calls course iva amount ∧ session.url = url ∧
      ⟨k', .sessionCreate .subscription course customer [price, some iva] 1, .ok session⟩ ∈ calls := by
  obtain ⟨_, l1, l2, rfl, -, h1⟩ := h.bind
  rcases h1.rescue with h2 | ⟨e, l3, l4, -, h2⟩
  · obtain ⟨p, l3, l4, rfl, hread, h3⟩ := h2.bind
    obtain ⟨k, rfl⟩ := hread.ask
    split at h3
    · rename_i amount currency hamount hcurrency
      obtain ⟨n, hn, hamount⟩ := Option.bind_eq_some_iff.1 hamount
      obtain ⟨iva, l5, l6, rfl, hiva, h4⟩ := h3.bind
      obtain ⟨ki, rfl⟩ := hiva.ask
      obtain ⟨session, l7, l8, rfl, hask, h5⟩ := h4.bind
      obtain ⟨k', rfl⟩ := hask.ask
      refine ⟨k, k', p, n, iva.id, amount, session, by simp, hn, hamount, ?_, h5.pure.1.symm, by simp⟩
      exact ⟨ki, iva, rfl, Or.inr ⟨currency, by simp⟩⟩
    · exact absurd h3 Prog.not_yields_raise
  · rw [h2.pure.1] at hurl
    exact absurd hurl (by decide)

/-- the Stripe part of a registration in a subscription campaign that ends with a checkout URL -/
theorem openCheckout_charges {stripe : ℕ → Reply} {course : Rec Course} {email : String} {amount : ℤ} {currency : String}
    {customer : String} {url : Option String} {calls : List StripeCall}
    (h : Prog.Yields stripe (openCheckout course email amount currency) (customer, url) calls) (hurl : truthy url = true)
    (htype : course.cols.type = some 1) (hkept : PricesKept calls) :
    ∃ price iva n k session, Created calls course.id price amount ∧ ivaOf amount = some n ∧ Created calls course.id iva n ∧
      session.url = url ∧
      ⟨k, .sessionCreate .subscription course.id customer [some price, some iva] 1, .ok session⟩ ∈ calls := by
  obtain ⟨c, l1, l2, rfl, hc, h1⟩ := h.bind
  obtain ⟨created, l3, l4, rfl, hp, h2⟩ := h1.bind
  obtain ⟨url', l5, l6, rfl, hu, h3⟩ := h2.bind
  obtain ⟨rfl, rfl⟩ := Prod.mk.inj h3.pure.1
  rw [if_pos htype] at hp hu
  have hsub : l5 ⊆ l1 ++ (l3 ++ (l5 ++ l6)) :=
    fun x hx => List.mem_append_right _ (List.mem_append_right _ (List.mem_append_left _ hx))
  obtain ⟨k, k', p, n, iva, m, session, hread, hn, hm, hiva, hurl', hsession⟩ := subscriptioncheckout_lines hu hurl
  -- a price that could be read is one that was created
  cases created with
  | none => exact absurd (hsub hread) hkept.null
  | some price =>
    obtain ⟨kp, o, rfl, hmade⟩ := createPrice_made hp
    have hmade' := List.mem_append_right l1 (List.mem_append_left (l5 ++ l6) hmade)
    obtain rfl : n = amount := Option.some.inj (hn.symm.trans (hkept.amount hmade' (hsub hread)))
    exact ⟨o.id, iva, m, k', session, ⟨kp, o, rfl, Or.inl ⟨_, _, hmade'⟩⟩, hm, hiva.mono hsub, hurl', hsub hsession⟩

/-- a redirect to a checkout page comes from a session of the Stripe part -/
theorem enrol_checkout {w : World} {course : Rec Course} {email : String} {price : ℚ} {stripe : ℕ → Reply} {commit : Bool}
    {url : String} (h : (enrol w course email price stripe commit).resp = .redirect (.checkout url)) :
    ∃ customer, Prog.Yields stripe (openCheckout course email (amountOf price) (currencyOf course.cols)) (customer, some url)
        (enrol w course email price stripe commit).calls ∧ truthy (some url) = true ∧
      (enrol w course email price stripe commit).world.db.user =
        w.db.user.insert (pendingUser email customer (amountOf price) course.id) := by
  unfold enrol at h ⊢
  split_ifs at h ⊢
  · simp at h
  · simp at h
  · split at h
    · simp at h
    · rename_i customer target key calls hx
      simp only at h
      split_ifs at h with hok
      · obtain ⟨u, rfl⟩ : ∃ u, target = some u := by
          cases target with
          | none => exact absurd hok.1 (by decide)
          | some u => exact ⟨u, rfl⟩
        simp only [pyStr, Response.redirect.injEq, Endpoint.checkout.injEq] at h
        subst h
        simp only [hok, and_self, if_true]
        exact ⟨customer, ⟨0, w.apiKey, key, hx⟩, trivial, rfl⟩
      · simp at h

/-- **Checkout.** If a registration in a subscription campaign is sent to a checkout page, the session has two monthly lines: the
price of the campaign to the nearest cent and 21% of it to the nearest cent. The new subscriber's amount is the first. -/
theorem checkout_charges {w : World} {code : String} {form : Option (Option String)} {stripe : ℕ → Reply} {commit : Bool}
    {course : Rec Course} {price : ℚ} {email url : String} (ha : admitted w.db code form = some (course, price, email))
    (htype : course.cols.type = some 1)
    (hresp : (Auth.register w code form stripe commit).resp = .redirect (.checkout url))
    (hkept : PricesKept (Auth.register w code form stripe commit).calls) (hsize : |amountOf price| < 2 ^ 47) :
    ∃ customer first second k session iva,
      Created (Auth.register w code form stripe commit).calls course.id first (amountOf price) ∧
      Created (Auth.register w code form stripe commit).calls course.id second iva ∧
      ⟨k, .sessionCreate .subscription course.id customer [some first, some second] 1, .ok session⟩ ∈
        (Auth.register w code form stripe commit).calls ∧ session.url = some url ∧
      |amountOf price - price * 100| ≤ 1 / 2 ∧ |100 * iva - 21 * amountOf price| ≤ 50 ∧
      (Auth.register w code form stripe commit).world.db.user =
        w.db.user.insert (pendingUser email customer (amountOf price) course.id) := by
  rw [register_admitted ha] at hresp hkept ⊢
  obtain ⟨customer, hyields, hurl, huser⟩ := enrol_checkout hresp
  obtain ⟨first, second, iva, k, session, hfirst, hiva, hsecond, hsurl, hsession⟩ :=
    openCheckout_charges hyields hurl htype hkept
  exact ⟨customer, first, second, k, session, iva, hfirst, hsecond, hsession, hsurl, abs_roundHalfEven_sub_le _,
    ivaOf_nearest hsize hiva, huser⟩

/-- the calls of the sample registration: the read gives the amount of the creation -/
theorem Sample.registration_kept :
    PricesKept (Auth.register start "Ab3dE" (some (some "ann@example.com")) (answers "cus_1") true).calls := by
  have hcalls : (Auth.register start "Ab3dE" (some (some "ann@example.com")) (answers "cus_1") true).calls =
      [⟨some "sk_1", .customerCreate "ann@example.com", answers "cus_1" 0⟩,
        ⟨some "sk_1", .priceCreate (some "prod_1") 1000 "USD" 1 true, answers "cus_1" 1⟩,
        ⟨some "sk_1", .productModify (some "prod_1") "price_1", answers "cus_1" 2⟩,
        ⟨some "sk_1", .priceRetrieve (some "price_1"), answers "cus_1" 3⟩,
        ⟨some "sk_1", .ivaPriceCreate 210 "usd" 1, answers "cus_1" 4⟩,
        ⟨some "sk_1", .sessionCreate .subscription 1 "cus_1" [some "price_1", some "price_2"] 1, answers "cus_1" 5⟩] := by
    decide +kernel
  rw [hcalls]
  constructor
  · intro k product amount currency course recurring o k' o' hc hr
    simp only [answers, List.mem_cons, List.not_mem_nil, Call.mk.injEq, reduceCtorEq, StripeOp.priceCreate.injEq, false_and,
      and_false, or_false, false_or, Except.ok.injEq] at hc
    simp only [answers, List.mem_cons, List.not_mem_nil, Call.mk.injEq, reduceCtorEq, false_and, and_false, or_false, false_or,
      Except.ok.injEq] at hr
    rw [hr.2.2, hc.2.1.2.1]
  · intro k o h
    simp at h

theorem checkout_charges_registration :
    ∃ customer first second k session iva,
      Created (Auth.register Sample.start "Ab3dE" (some (some "ann@example.com")) (Sample.answers "cus_1") true).calls 1
        first (amountOf 10) ∧
      Created (Auth.register Sample.start "Ab3dE" (some (some "ann@example.com")) (Sample.answers "cus_1") true).calls 1
        second iva ∧
      ⟨k, .sessionCreate .subscription 1 customer [some first, some second] 1, .ok session⟩ ∈
        (Auth.register Sample.start "Ab3dE" (some (some "ann@example.com")) (Sample.answers "cus_1") true).calls ∧
      session.url = some "/pay/cs_1" ∧ |(amountOf 10 : ℚ) - 10 * 100| ≤ 1 / 2 ∧ |100 * iva - 21 * amountOf 10| ≤ 50 ∧
      (Auth.register Sample.start "Ab3dE" (some (some "ann@example.com")) (Sample.answers "cus_1") true).world.db.user =
        Sample.start.db.user.insert (pendingUser "ann@example.com" customer (amountOf 10) 1) := by
  have ha : admitted Sample.start.db "Ab3dE" (some (some "ann@example.com")) =
      some (⟨1, Sample.campaign 2 "Ab3dE" "sk_1" "whsec_1"⟩, 10, "ann@example.com") := rfl
  exact checkout_charges ha rfl rfl Sample.registration_kept (by decide +kernel)

end Newsletter
