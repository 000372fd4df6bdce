/-
The settlement of the two payment events (`app/auth/route.py`, lines 338-357).

One branch serves `checkout.session.completed` and `invoice.payment_succeeded`, and reads `event_data['amount_total']` in
both. A checkout session has that field, an invoice has not: for an invoice the lookup raises after the row was made active
and committed, the answer is 500 and no transfer is made, as often as Stripe repeats the delivery
(`renewal_unsettled`).

For a checkout session the amount of the transfer is `int(amount_total * 0.1)`, a product of floats. `keepsTenth_iff` says
for which amounts below `2 ^ 53` this is the tenth rounded down: for all below `3 * 2 ^ 51` and, from there on, for those
that do not end in the digit 9. `payment_settled_iff` puts the two together.
-/
import Newsletter.Commission

namespace Newsletter

open Newsletter.Core Auth

/-! ## A tenth in floating point -/

/-- the exact product of an amount with the float `0.1`, which is a little more than a tenth -/
def floatTenth (n : ℕ) : ℚ := n / 10 + n / (5 * 2 ^ 55)

theorem toDouble_tenth : toDouble (1 / 10) = 3602879701896397 / 2 ^ 55 := by
  decide +kernel

theorem timesDouble_tenth {n : ℕ} (h : n < 2 ^ 53) : timesDouble n (1 / 10) = some (toDouble (floatTenth n)) := by
  have hn : |((n : ℤ) : ℚ)| < 2 ^ 53 := by
    rw [Int.cast_natCast, abs_of_nonneg n.cast_nonneg]
    exact_mod_cast h
  have hproduct : ((n : ℤ) : ℚ) * (3602879701896397 / 2 ^ 55) = floatTenth n := by
    rw [Int.cast_natCast, floatTenth]
    ring
  rw [timesDouble_of_lt hn, toDouble_tenth, hproduct]

theorem commission_natCast (n : ℕ) : commission n = (timesDouble n (1 / 10)).map Int.floor := by
  have htenth : (0 : ℚ) ≤ toDouble (1 / 10) := toDouble_nonneg (by norm_num)
  have hn : (0 : ℚ) ≤ toDouble ((n : ℤ) : ℚ) := toDouble_nonneg (by simp)
  rw [commission, timesDouble]
  split_ifs
  · rw [Option.map_some, Option.map_some, truncate, if_pos (toDouble_nonneg (mul_nonneg hn htenth))]
  · rfl

theorem floatTenth_pos {n : ℕ} (h : 0 < n) : 0 < floatTenth n := by
  have hn : (0 : ℚ) < n := by exact_mod_cast h
  unfold floatTenth
  positivity

/-- by quotient and last digit -/
theorem floatTenth_eq (n : ℕ) : floatTenth n = (n / 10 : ℕ) + (n % 10 : ℕ) / 10 + n / (5 * 2 ^ 55) := by
  have hsplit : (n : ℚ) = 10 * (n / 10 : ℕ) + (n % 10 : ℕ) := by exact_mod_cast (Nat.div_add_mod n 10).symm
  rw [floatTenth]
  linarith

theorem floatTenth_lt {n : ℕ} (h : n < 2 ^ 53) : floatTenth n < 2 ^ 50 := by
  have hn : (n : ℚ) < 2 ^ 53 := by exact_mod_cast h
  unfold floatTenth
  linarith

/-- the floats around the product have at most the distance 1/8 -/
theorem ulp_floatTenth_le {n : ℕ} (hpos : 0 < n) (h : n < 2 ^ 53) : ulp (floatTenth n) ≤ 1 / 8 := by
  have hx := floatTenth_pos hpos
  have hbound : |floatTenth n| < 2 ^ ((49 : ℤ) + 1) := by
    rw [abs_of_pos hx]
    exact_mod_cast floatTenth_lt h
  calc ulp (floatTenth n) ≤ 2 ^ ((49 : ℤ) - 52) := ulp_le hx.ne' hbound
    _ = 1 / 8 := by norm_num

theorem le_toDouble_floatTenth {n : ℕ} (hpos : 0 < n) (h : n < 2 ^ 53) :
    ((n / 10 : ℕ) : ℚ) ≤ toDouble (floatTenth n) := by
  have hx := floatTenth_pos hpos
  have hbound : |floatTenth n| < 2 ^ 53 := by
    rw [abs_of_pos hx]
    linarith [floatTenth_lt h]
  refine le_toDouble (k := ((n / 10 : ℕ) : ℤ)) hx.ne' hbound ?_
  rw [floatTenth_eq, Int.cast_natCast, add_assoc]
  exact le_add_of_nonneg_right (by positivity)

/-- below the last sixteenth the product is not rounded up to the next integer -/
theorem toDouble_floatTenth_lt {n : ℕ} (hpos : 0 < n) (h : n < 2 ^ 53) (hdigit : n < 3 * 2 ^ 51 ∨ n % 10 ≠ 9) :
    toDouble (floatTenth n) < (n / 10 : ℕ) + 1 := by
  have hulp := ulp_floatTenth_le hpos h
  have hgap : floatTenth n < (n / 10 : ℕ) + 15 / 16 := by
    rw [floatTenth_eq]
    rcases hdigit with hs | hd
    · have hn : (n : ℚ) < 3 * 2 ^ 51 := by exact_mod_cast hs
      have hr : ((n % 10 : ℕ) : ℚ) ≤ 9 := by exact_mod_cast (by omega : n % 10 ≤ 9)
      linarith
    · have hn : (n : ℚ) < 2 ^ 53 := by exact_mod_cast h
      have hr : ((n % 10 : ℕ) : ℚ) ≤ 8 := by exact_mod_cast (by omega : n % 10 ≤ 8)
      linarith
  calc toDouble (floatTenth n) ≤ floatTenth n + ulp (floatTenth n) / 2 := toDouble_le (floatTenth_pos hpos).ne'
    _ ≤ floatTenth n + 1 / 16 := by linarith
    _ < (n / 10 : ℕ) + 1 := by linarith

/-- in the upper half of the last eighth it is: the floats around it have the distance 1/8 -/
theorem toDouble_floatTenth_nine {n : ℕ} (h : n < 2 ^ 53) (hbig : 3 * 2 ^ 51 ≤ n) (hnine : n % 10 = 9) :
    toDouble (floatTenth n) = (n / 10 : ℕ) + 1 := by
  have hn : (n : ℚ) < 2 ^ 53 := by exact_mod_cast h
  have hlarge : (3 * 2 ^ 51 : ℚ) ≤ n := by exact_mod_cast hbig
  have hpos : 0 < n := by omega
  have hx := floatTenth_pos hpos
  have heighth : ulp (floatTenth n) = 1 / 8 := by
    refine le_antisymm (ulp_floatTenth_le hpos h) ?_
    have hlow : (2 : ℚ) ^ (49 : ℤ) ≤ |floatTenth n| := by
      rw [abs_of_pos hx, floatTenth]
      norm_num
      linarith
    calc (1 / 8 : ℚ) = 2 ^ ((49 : ℤ) - 52) := by norm_num
      _ ≤ ulp (floatTenth n) := le_ulp hx.ne' hlow
  have heq := floatTenth_eq n
  rw [hnine] at heq
  generalize n / 10 = q at heq ⊢
  have hfloor : ⌊floatTenth n / (1 / 8)⌋ = 8 * (q : ℤ) + 7 := by
    rw [Int.floor_eq_iff]
    push_cast
    constructor <;> linarith
  have hround : roundHalfEven (floatTenth n / (1 / 8)) = 8 * (q : ℤ) + 7 + 1 := by
    rw [← hfloor]
    refine roundHalfEven_of_odd (by omega) ?_
    rw [hfloor]
    push_cast
    linarith
  rw [toDouble_eq hx.ne', heighth, hround]
  push_cast
  ring

/-- there is a float product of the amount with `0.1`, and it has the integer part of its tenth -/
def KeepsTenth (paid : ℕ) : Prop := (timesDouble paid (1 / 10)).map Int.floor = some ⌊(paid : ℚ) / 10⌋

instance (paid : ℕ) : Decidable (KeepsTenth paid) := inferInstanceAs (Decidable (_ = _))

/-- **The tenth of an amount.** Below `2 ^ 53`, the product is rounded over an integer exactly for the amounts from
`3 * 2 ^ 51` on that end in 9. -/
theorem keepsTenth_iff {n : ℕ} (h : n < 2 ^ 53) : KeepsTenth n ↔ n < 3 * 2 ^ 51 ∨ n % 10 ≠ 9 := by
  rcases Nat.eq_zero_or_pos n with rfl | hpos
  · decide +kernel
  have hfloor : ⌊(n : ℚ) / 10⌋ = (n / 10 : ℕ) := by exact_mod_cast Rat.floor_natCast_div_natCast n 10
  rw [KeepsTenth, timesDouble_tenth h, Option.map_some, Option.some.injEq, hfloor, Int.floor_eq_iff, Int.cast_natCast]
  constructor
  · intro hkeeps
    by_contra hcon
    obtain ⟨hbig, hnine⟩ : 3 * 2 ^ 51 ≤ n ∧ n % 10 = 9 := by omega
    exact hkeeps.2.ne (toDouble_floatTenth_nine h hbig hnine)
  · intro hdigit
    exact ⟨le_toDouble_floatTenth hpos h, toDouble_floatTenth_lt hpos h hdigit⟩

/-! ## Both payment events -/

/-- the object of a payment event as Stripe sends it, for a payment of `paid` in `currency`: the amount is the
`amount_total` of a checkout session, and an invoice has no such field -/
structure Reports (a : Accepted) (paid : ℕ) (currency : String) : Prop where
  id : a.object.id.isSome = true
  currency : a.object.currency = some currency
  amount : a.event.type = some .checkoutSessionCompleted ∧ a.object.amountTotal = some (paid : ℤ) ∨
    a.event.type = some .invoicePaymentSucceeded ∧ a.object.amountTotal = none

/-- answered with 200, the user active, and one transfer, of the tenth rounded down in the currency of the payment -/
structure Settled (a : Accepted) (paid : ℕ) (currency : String) (o : Out) : Prop where
  answer : o.resp.acknowledges = true
  active : statusOf o.world.db a.user.id = some 2
  transfer : ∃ c group, o.calls.filter (fun c => c.req.isTransfer) = [c] ∧ c.ans.isOk = true ∧
    c.req = .transferCreate ⌊(paid : ℚ) / 10⌋ currency a.account group

theorem Reports.isPayment {a : Accepted} {paid : ℕ} {currency : String} (h : Reports a paid currency) : a.isPayment :=
  h.amount.imp And.left And.left

/-- an accepted payment event makes the row active, whatever comes after the commit -/
theorem handleWebhook_active {L : Lib} {w : World} {payload : String} {sigHeader : Option String} (stripe : ℕ → Reply)
    {a : Accepted} (ha : accepted L w.db payload sigHeader = some a) (hp : a.isPayment) :
    statusOf (handleWebhook L w payload sigHeader stripe).world.db a.user.id = some 2 := by
  have hmem := Table.first_mem (accepted_spec ha).2.1
  have hchange : webhookChange L w.db payload sigHeader = .activate a.user.id := by
    unfold webhookChange
    rw [ha]
    rcases hp with ht | ht <;> simp only [Accepted.change, ht]
  obtain ⟨u, hu, hid, _, hstatus⟩ := (Change.activate a.user.id).row_persists hmem
  have hactive : statusOf (w.setUser ((Change.activate a.user.id).apply w.db.user)).db u.id = some 2 := by
    refine (statusOf_of_mem hu).trans ?_
    rw [hstatus, Change.status, if_pos rfl]
  rw [handleWebhook_world, hchange]
  rwa [hid] at hactive

/-- without a transfer nothing is settled -/
theorem unsettled_of_no_transfer {a a' : Accepted} {paid : ℕ} {currency : String} {o : Out} {call : StripeOp → StripeCall}
    (hcalls : o.calls = a.transfer.toList.map call) (h : a.transfer = none) : ¬ Settled a' paid currency o := by
  rintro ⟨_, _, c, group, hone, _⟩
  rw [hcalls, h] at hone
  cases hone

/-- **Payments are settled.** If the transfer succeeds, an accepted payment event is settled exactly if it is a checkout
session and the float product keeps the tenth of the amount; below `2 ^ 53` that fails only from `3 * 2 ^ 51` on and for a
last digit 9. -/
theorem payment_settled_iff {L : Lib} {w : World} {payload : String} {sigHeader : Option String} {stripe : ℕ → Reply}
    {a : Accepted} {paid : ℕ} {currency : String} (ha : accepted L w.db payload sigHeader = some a)
    (hreports : Reports a paid currency) (hok : (stripe 0).isOk = true) :
    (Settled a paid currency (handleWebhook L w payload sigHeader stripe) ↔
      a.event.type = some .checkoutSessionCompleted ∧ KeepsTenth paid) ∧
      (paid < 2 ^ 53 → (KeepsTenth paid ↔ paid < 3 * 2 ^ 51 ∨ paid % 10 ≠ 9)) := by
  refine ⟨?_, keepsTenth_iff⟩
  obtain ⟨hcalls, hanswer⟩ := handleWebhook_calls L w payload sigHeader stripe
  simp only [ha, if_pos hreports.isPayment] at hcalls
  obtain ⟨id, hid⟩ := Option.isSome_iff_exists.1 hreports.id
  rcases hreports.amount with ⟨htype, hamount⟩ | ⟨htype, hamount⟩
  · cases hpaid : commission paid with
    | none =>
      have htransfer : a.transfer = none := by simp only [Accepted.transfer, hamount, Option.bind_some, hpaid]
      have hkeeps : ¬ KeepsTenth paid := by
        rw [KeepsTenth, ← commission_natCast, hpaid]
        simp
      exact iff_of_false (unsettled_of_no_transfer hcalls htransfer) fun h => hkeeps h.2
    | some amount =>
      have htransfer : a.transfer = some (.transferCreate amount currency a.account
          ("user_" ++ toString a.user.id ++ "_payment_" ++ id)) := by
        simp only [Accepted.transfer, hamount, Option.bind_some, hpaid, hreports.currency, hid]
      rw [htransfer] at hcalls
      obtain ⟨call, hone, hans, hreq⟩ : ∃ call, (handleWebhook L w payload sigHeader stripe).calls = [call] ∧
          call.ans = stripe 0 ∧ call.req = .transferCreate amount currency a.account
            ("user_" ++ toString a.user.id ++ "_payment_" ++ id) := ⟨_, hcalls, rfl, rfl⟩
      have hfilter : [call].filter (fun c => c.req.isTransfer) = [call] := by
        rw [List.filter_singleton, hreq]
        rfl
      have hkeeps : KeepsTenth paid ↔ amount = ⌊(paid : ℚ) / 10⌋ := by
        rw [KeepsTenth, ← commission_natCast, hpaid, Option.some.injEq]
      rw [hkeeps]
      constructor
      · rintro ⟨_, _, c, group, hc, _, hreq'⟩
        rw [hone, hfilter] at hc
        obtain rfl : call = c := (List.cons.inj hc).1
        exact ⟨htype, (StripeOp.transferCreate.inj (hreq.symm.trans hreq')).1⟩
      · rintro ⟨_, rfl⟩
        have hcallok : call.ans.isOk = true := by rw [hans, hok]
        refine ⟨?_, handleWebhook_active stripe ha hreports.isPayment, call, _, ?_, hcallok, hreq⟩
        · rw [hanswer call (by rw [hone]; exact List.mem_cons_self) hcallok]
          rfl
        · rw [hone, hfilter]
  · have htransfer : a.transfer = none := by
      simp only [Accepted.transfer, hamount, Option.bind_none]
    exact iff_of_false (unsettled_of_no_transfer hcalls htransfer) (by simp [htype])

/-- an accepted delivery carries the event of its payload -/
theorem accepted_event {L : Lib} {db : Db} {payload : String} {sigHeader : Option String} {a : Accepted} {event : Event}
    {object : EventObject} {customer : String} (ha : accepted L db payload sigHeader = some a)
    (hevent : customerOf L payload = some (event, object, customer)) : a.event = event ∧ a.object = object := by
  rw [(accepted_spec ha).1, Option.some.injEq, Prod.mk.injEq, Prod.mk.injEq] at hevent
  exact ⟨hevent.1, hevent.2.1⟩

/-- the payment of the sample subscriber -/
theorem payment_settled_iff_checkout :
    let w := (app Sample.lib).run Sample.start [Sample.registration, Sample.subscription]
    ∃ a, accepted Sample.lib w.db Sample.checkoutPayload Sample.signature = some a ∧ Reports a 1210 "usd" ∧
      (Settled a 1210 "usd" (handleWebhook Sample.lib w Sample.checkoutPayload Sample.signature Sample.working) ↔
        a.event.type = some .checkoutSessionCompleted ∧ KeepsTenth 1210) := by
  intro w
  have hsome : (accepted Sample.lib w.db Sample.checkoutPayload Sample.signature).isSome = true := by decide +kernel
  obtain ⟨a, ha⟩ := Option.isSome_iff_exists.1 hsome
  have hpayload : customerOf Sample.lib Sample.checkoutPayload = some (Sample.checkoutEvent,
      ⟨some "cs_1", some "cus_1", some 1210, some "usd"⟩, "cus_1") := by decide +kernel
  obtain ⟨hevent, hobject⟩ := accepted_event ha hpayload
  have hreports : Reports a 1210 "usd" := by
    refine ⟨?_, ?_, Or.inl ⟨?_, ?_⟩⟩
    · rw [hobject]
      rfl
    · rw [hobject]
    · rw [hevent]
      rfl
    · rw [hobject]
      rfl
  exact ⟨a, ha, hreports, (payment_settled_iff ha hreports rfl).1⟩

/-- the first invoice after the checkout, as Stripe sends it -/
def Sample.invoiceEvent : Event where
  id := some "evt_3"
  type := some .invoicePaymentSucceeded
  object := some { id := some "in_1", customer := some "cus_1", amountTotal := none, currency := some "usd" }

def Sample.invoicing : Lib := { lib with parse := fun _ => some invoiceEvent }

/-- a renewal of the sample subscription: the delivery is accepted and Stripe would take a transfer, but the answer is 500
and no transfer is made -/
theorem renewal_unsettled :
    let o := handleWebhook Sample.invoicing Sample.subscribed "" Sample.signature Sample.working
    ∃ a, accepted Sample.invoicing Sample.subscribed.db "" Sample.signature = some a ∧ Reports a 1210 "usd" ∧
      o.resp = internalServerError ∧ o.calls = [] ∧ ¬ Settled a 1210 "usd" o := by
  intro o
  have hsome : (accepted Sample.invoicing Sample.subscribed.db "" Sample.signature).isSome = true := by decide +kernel
  obtain ⟨a, ha⟩ := Option.isSome_iff_exists.1 hsome
  have hpayload : customerOf Sample.invoicing "" = some (Sample.invoiceEvent,
      ⟨some "in_1", some "cus_1", none, some "usd"⟩, "cus_1") := by decide +kernel
  obtain ⟨hevent, hobject⟩ := accepted_event ha hpayload
  have hreports : Reports a 1210 "usd" := by
    refine ⟨?_, ?_, Or.inr ⟨?_, ?_⟩⟩
    · rw [hobject]
      rfl
    · rw [hobject]
    · rw [hevent]
      rfl
    · rw [hobject]
  have hcalls : o.calls = [] := by decide +kernel
  refine ⟨a, ha, hreports, by decide +kernel, hcalls, ?_⟩
  rintro ⟨_, _, c, group, hone, _⟩
  rw [hcalls] at hone
  cases hone

end Newsletter
