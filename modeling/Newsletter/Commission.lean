/-
The commission: the `Transfer.create` to the super admin that a payment event leads to.

How often. The handler keeps no record of the events it has handled, so each accepted delivery of a payment event makes
its own transfer (`redelivered_event_pays_twice`). What bounds the number of successful transfers is the sender's side: a
transfer that succeeds is always answered with 200, so if an event is not delivered again after such an answer
(`NotRepeated`), at most one of its deliveries has a successful transfer, whatever fails before
(`commission_at_most_once`).

From which account. `handle_webhook` uses `stripe.api_key` without assigning it: the transfer is made with the key that
the last request with Stripe calls of its own has left behind (`lastKey`). `right_account_iff` says that the transfers of
a run use the payer's campaign's key exactly if at each of them that last key is the campaign's
(`foreign_key_transfer`: another campaign's registration in between is enough to break it).
-/
import Newsletter.App

namespace Newsletter

open Newsletter.Core Auth Courses

/-! ## How often -/

def StripeOp.isTransfer : StripeOp → Bool
  | .transferCreate .. => true
  | _ => false

/-- the id of the event that a delivery carries -/
def eventId (L : Lib) : Request → Option String
  | .handleWebhook payload _ _ => (L.parse payload).bind Event.id
  | _ => none

/-- how many transfers succeed while a delivery of the event `id` is served -/
def transfersFor (L : Lib) (id : String) (w : World) (r : Request) : ℕ :=
  if eventId L r = some id then ((serve L w r).calls.filter fun c => c.req.isTransfer && c.ans.isOk).length else 0

/-- the status with which Stripe takes a delivery as done -/
def Response.acknowledges : Response → Bool
  | .json _ code => code = 200
  | _ => false

/-- the event `id` is not delivered again after a delivery of it was answered with 200 -/
def NotRepeated (L : Lib) (id : String) : World → List Request → Prop
  | _, [] => True
  | w, r :: rs =>
    (eventId L r = some id → (serve L w r).resp.acknowledges = true → ∀ r' ∈ rs, eventId L r' ≠ some id) ∧
      NotRepeated L id ((app L).next w r) rs

/-- **Step.** A delivery makes at most one transfer, and answers 200 if it succeeds. -/
theorem transfersFor_spec (L : Lib) (id : String) (w : World) (r : Request) :
    transfersFor L id w r = 0 ∨
      transfersFor L id w r = 1 ∧ eventId L r = some id ∧ (serve L w r).resp.acknowledges = true := by
  by_cases he : eventId L r = some id
  · cases r with
    | handleWebhook payload sigHeader stripe =>
      have hlen := handleWebhook_calls_length L w payload sigHeader stripe
      have hanswer := (handleWebhook_calls L w payload sigHeader stripe).2
      simp only [transfersFor, he, if_true]
      by_cases hone : ∃ c ∈ (handleWebhook L w payload sigHeader stripe).calls, c.ans.isOk = true
      · obtain ⟨c, hc, hok⟩ := hone
        have hresp : (serve L w (.handleWebhook payload sigHeader stripe)).resp = webhookProcessed := hanswer c hc hok
        rw [hresp]
        have hle := (List.length_filter_le (fun c : StripeCall => c.req.isTransfer && c.ans.isOk) _).trans hlen
        rcases Nat.le_one_iff_eq_zero_or_eq_one.1 hle with h | h
        · exact Or.inl h
        · exact Or.inr ⟨h, trivial, rfl⟩
      · left
        rw [List.length_eq_zero_iff, List.filter_eq_nil_iff]
        intro c hc hok
        simp only [Bool.and_eq_true] at hok
        exact hone ⟨c, hc, hok.2⟩
    | _ => simp [eventId] at he
  · left
    simp [transfersFor, he]

/-- **At most one commission.** Among the requests of a run, in any order and with any failures, the deliveries of an
event that is not delivered again after a 200 make at most one successful transfer. -/
theorem commission_at_most_once (L : Lib) (id : String) (w : World) (reqs : List Request)
    (h : NotRepeated L id w reqs) : (app L).total (transfersFor L id) w reqs ≤ 1 := by
  induction reqs generalizing w with
  | nil => simp [Machine.total]
  | cons r rs ih =>
    obtain ⟨hr, hrest⟩ := h
    simp only [Machine.total]
    rcases transfersFor_spec L id w r with h0 | ⟨h1, he, hack⟩
    · have := ih _ hrest
      omega
    · -- nothing after an acknowledged delivery is a delivery of this event
      have hlater : (app L).total (transfersFor L id) ((app L).next w r) rs = 0 := by
        refine (app L).total_eq_zero (fun r' hr' w' => ?_) _
        simp [transfersFor, hr he hack r' hr']
      omega

/-- a first delivery whose transfer fails is answered with 500 and retried: one transfer in all -/
theorem commission_at_most_once_retry :
    NotRepeated Sample.lib "evt_1" Sample.start
        [Sample.registration, .handleWebhook Sample.checkoutPayload Sample.signature Sample.failing, Sample.checkout] ∧
      (app Sample.lib).total (transfersFor Sample.lib "evt_1") Sample.start
        [Sample.registration, .handleWebhook Sample.checkoutPayload Sample.signature Sample.failing, Sample.checkout]
          ≤ 1 := by
  have h : NotRepeated Sample.lib "evt_1" Sample.start
      [Sample.registration, .handleWebhook Sample.checkoutPayload Sample.signature Sample.failing, Sample.checkout] := by
    refine ⟨fun he => absurd he (by decide), ?_, ?_, trivial⟩
    · exact fun _ hack => absurd hack (by decide +kernel)
    · exact fun _ _ r' hr' => absurd hr' List.not_mem_nil
  exact ⟨h, commission_at_most_once _ _ _ _ h⟩

/-- one event delivered twice, both deliveries answered with 200: two successful transfers -/
theorem redelivered_event_pays_twice :
    (app Sample.lib).total (transfersFor Sample.lib "evt_1")
      ((app Sample.lib).run Sample.start [Sample.registration, Sample.subscription])
      [Sample.checkout, Sample.checkout] = 2 := by
  decide +kernel

/-! ## From which account -/

/-- if the request is a delivery that calls Stripe for a subscriber of a campaign, the key in force is the campaign's -/
def RightAccount (L : Lib) (w : World) : Request → Prop
  | .handleWebhook payload sigHeader stripe =>
    ∀ a, accepted L w.db payload sigHeader = some a →
      ∀ c ∈ (handleWebhook L w payload sigHeader stripe).calls, c.reg = a.course.cols.stripeApiKey
  | _ => True

/-- the value that the requests of a run have assigned last to `stripe.api_key` -/
def lastKey (L : Lib) (w : World) (reqs : List Request) : Option String :=
  ((app L).assigned (fun w r => assignsKey w.db r) w reqs).getLast?.getD w.apiKey

theorem run_apiKey (L : Lib) (w : World) (reqs : List Request) : ((app L).run w reqs).apiKey = lastKey L w reqs :=
  (app L).run_register (next_apiKey L) w reqs

/-- if the next request is a delivery that reaches `Transfer.create` for a subscriber of a campaign, the key assigned
last before it is the campaign's -/
def KeyMatches (L : Lib) (w : World) (pre : List Request) : Request → Prop
  | .handleWebhook payload sigHeader _ =>
    ∀ a, accepted L ((app L).run w pre).db payload sigHeader = some a → a.isPayment → a.transfer.isSome →
      lastKey L w pre = a.course.cols.stripeApiKey
  | _ => True

theorem rightAccount_iff_keyMatches (L : Lib) (w : World) (pre : List Request) (r : Request) :
    RightAccount L ((app L).run w pre) r ↔ KeyMatches L w pre r := by
  cases r with
  | handleWebhook payload sigHeader stripe =>
    simp only [RightAccount, KeyMatches]
    refine forall_congr' fun a => forall_congr' fun ha => ?_
    rw [(handleWebhook_calls L ((app L).run w pre) payload sigHeader stripe).1, ha, run_apiKey]
    simp only
    split_ifs with hp
    · cases a.transfer with
      | none => simp
      | some op => simp [hp]
    · simp [hp]
  | _ => exact Iff.rfl

/-- **Right account.** Every transfer of a run is made with the key of the payer's campaign exactly if, at each of them,
the last key assigned by the requests before it is the key of the payer's campaign. -/
theorem right_account_iff (L : Lib) (w : World) (reqs : List Request) :
    (∀ pre r post, reqs = pre ++ r :: post → RightAccount L ((app L).run w pre) r) ↔
      ∀ pre r post, reqs = pre ++ r :: post → KeyMatches L w pre r := by
  simp only [rightAccount_iff_keyMatches]

/-- a registration in the second campaign -/
def Sample.otherRegistration : Request := .register "Xy9zW" (some (some "eve@example.com")) (answers "cus_2") true

/-- the first campaign's registration and, before its payment, one in the second campaign -/
def Sample.interleaved : World := (app lib).run start [registration, subscription, otherRegistration]

/-- the payer's campaign has the key `sk_1`, and the one call for the payment, a transfer, is made with `sk_2` -/
theorem foreign_key_transfer :
    (accepted Sample.lib Sample.interleaved.db Sample.checkoutPayload Sample.signature).map
        (fun a => a.course.cols.stripeApiKey) = some (some "sk_1") ∧
      (serve Sample.lib Sample.interleaved Sample.checkout).calls.map (fun c => (c.req.isTransfer, c.reg)) =
        [(true, some "sk_2")] := by
  decide +kernel

end Newsletter
