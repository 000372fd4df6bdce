/-
Requests with Stripe calls, served by threads of one process.

`stripe.api_key` is a global of the process. Each helper assigns it the campaign's key and then makes its calls, and
another thread may assign it in between. Here a request that has passed its checks is a `Service`: the campaign row it has
read and the program that is left of it, which ends with an `Effect` on the database. A schedule interleaves the services
step by step, one assignment, one Stripe call or the final commit at a time.

- `serve_alone`: a request whose steps are not interleaved with any other does what the sequential handler does;
- `right_account_iff_undisturbed`: every call of a run, and every call that may be made next at some point of it, is made
  with the key of its own campaign exactly if whenever a request assigns the key, the requests that are about to call are
  for campaigns with the same key;
- `calls_cross_accounts`: a run in which a customer of one campaign is created in another campaign's account.
-/
import Newsletter.App
import Newsletter.Core.Pool

namespace Newsletter.Concurrency

open Newsletter.Core Auth Courses

/-! ## Services -/

/-- the commit that ends a request -/
inductive Effect where
  | change (c : Change)
  | close (campaign : ℕ)
deriving DecidableEq, Repr

def Effect.apply (w : World) : Effect → World
  | .change c => w.setUser (c.apply w.db.user)
  | .close campaign => setCourse w (w.db.course.modify campaign fun c => { c with status := 0 })

/-- `register` from its `try` on -/
def registerProg (course : Rec Course) (email : String) (price : ℚ) (commit : Bool) : StripeProg Effect :=
  if course.cols.free then pure (.change (if commit then .enrol (freeUser email course.id) else .none))
  else
    Prog.rescue
      (do
        let opened ← openCheckout course email (amountOf price) (currencyOf course.cols)
        pure (.change (if truthy opened.2 ∧ commit then
          .enrol (pendingUser email opened.1 (amountOf price) course.id) else .none)))
      fun _ => pure (.change .none)

/-- `unsubscribe` from its Stripe call on -/
def unsubscribeProg (user : Rec User) (course : Rec Course) : StripeProg Effect := do
  let ok ← Auth.unsubscribeUser course.cols.stripeApiKey user.cols.paymentIntentId
  pure (.change (if ok then .cancel user.id else .none))

/-- `delete_campaign` from its loop on -/
def deleteCampaignProg (resource : Rec Course) (users : List (Rec User)) : StripeProg Effect := do
  let _ ← Courses.unsubscribeAll resource.cols.stripeApiKey (users.map fun u => u.cols.paymentIntentId) 0 0
  pure (.close resource.id)

theorem only_cancelSubscription (key sub : Option String) : Prog.Only key (cancelSubscription key sub) :=
  Prog.Only.rescue ((Prog.only_set key).bind fun _ => (Prog.only_ask key _).bind fun _ => Prog.only_pure key _)
    fun _ => Prog.only_pure key _

theorem only_unsubscribeAll (key : Option String) (subs : List (Option String)) (success failure : ℕ) :
    Prog.Only key (Courses.unsubscribeAll key subs success failure) := by
  induction subs generalizing success failure with
  | nil => exact Prog.only_pure key _
  | cons sub subs ih =>
    refine (only_cancelSubscription key sub).bind fun ok => ?_
    cases ok
    · exact ih success (failure + 1)
    · exact ih (success + 1) failure

theorem only_registerProg (course : Rec Course) (email : String) (price : ℚ) (commit : Bool) :
    Prog.Only course.cols.stripeApiKey (registerProg course email price commit) := by
  unfold registerProg
  split
  · exact Prog.only_pure _ _
  · exact Prog.Only.rescue ((only_openCheckout ..).bind fun _ => Prog.only_pure _ _) fun _ => Prog.only_pure _ _

/-- a request in service: the campaign it is for, as read, and the rest of its program -/
structure Service where
  campaign : Rec Course
  prog : StripeProg Effect
  only : Prog.Only campaign.cols.stripeApiKey prog

inductive StripeRequest where
  | register (code : String) (form : Option (Option String)) (commit : Bool)
  | unsubscribe (user campaign : ℕ) (post : Bool)
  | deleteCampaign (who : Option ℕ) (campaign : ℕ)
deriving DecidableEq, Repr

/-- the service of a request that passes its checks -/
def serviceFor (db : Db) : StripeRequest → Option Service
  | .register code form commit =>
    (admitted db code form).map fun a => ⟨a.1, registerProg a.1 a.2.2 a.2.1 commit, only_registerProg ..⟩
  | .unsubscribe user campaign post =>
    (Auth.unsubscribeTarget db user campaign post).map fun t =>
      ⟨t.2, unsubscribeProg t.1 t.2, (only_cancelSubscription ..).bind fun _ => Prog.only_pure _ _⟩
  | .deleteCampaign who campaign =>
    match currentUser db who, db.course.get campaign with
    | some _, some resource =>
      some ⟨resource, deleteCampaignProg resource (activeUsers db resource.id),
        (only_unsubscribeAll ..).bind fun _ => Prog.only_pure _ _⟩
    | _, _ => none

/-! ## Schedules -/

structure Serving where
  world : World
  services : Pool Service

inductive Input where
  /-- a request arrives and is served under the name `n`, if that is free -/
  | arrive (n : ℕ) (r : StripeRequest)
  /-- the service `n` takes its next step; `reply` is Stripe's answer if that is a call -/
  | step (n : ℕ) (reply : Reply)

/-- one step of a service: an assignment of the key, a call, or the end -/
def advance (s : Serving) (n : ℕ) (reply : Reply) (v : Service) : Serving × Option (ℕ × StripeCall) :=
  match v with
  | ⟨_, .done (.ok effect), _⟩ => (⟨effect.apply s.world, s.services.put n none⟩, none)
  | ⟨_, .done (.error _), _⟩ => (⟨s.world, s.services.put n none⟩, none)
  | ⟨c, .assign k p, h⟩ =>
    (⟨{ s.world with apiKey := k }, s.services.put n (some ⟨c, p, h.2⟩)⟩, none)
  | ⟨c, .call q p, h⟩ =>
    (⟨s.world, s.services.put n (some ⟨c, p reply, h reply⟩)⟩, some (c.id, ⟨s.world.apiKey, q, reply⟩))

/-- the output is the call that is made, with the campaign it is made for -/
def serving : Machine Serving Input (Option (ℕ × StripeCall)) where
  step s
    | .arrive n r =>
      match s.services n, serviceFor s.world.snapshot r with
      | none, some v => ({ s with services := s.services.put n (some v) }, none)
      | _, _ => (s, none)
    | .step n reply =>
      match s.services n with
      | none => (s, none)
      | some v => advance s n reply v

/-- no request in service -/
def idle (w : World) : Serving := ⟨w, .empty⟩

/-! ## A request on its own -/

/-- what the end of a program makes of the world -/
def Effect.settle (w : World) : Except Exn Effect → World
  | .ok effect => effect.apply w
  | .error _ => w

/-- one request in service -/
def single (w : World) (v : Service) : Serving := ⟨w, Pool.empty.put 0 (some v)⟩

theorem step_single (w : World) (v : Service) (reply : Reply) :
    serving.step (single w v) (.step 0 reply) = advance (single w v) 0 reply v := by
  simp [serving, single]

theorem run_single (stripe : ℕ → Reply) (c : Rec Course) (p : StripeProg Effect)
    (h : Prog.Only c.cols.stripeApiKey p) (w : World) (n : ℕ) :
    serving.run (single w ⟨c, p, h⟩) ((Prog.replies stripe p n).map (Input.step 0)) =
        idle (Effect.settle { w with apiKey := (Prog.exec stripe p n w.apiKey).reg } (Prog.exec stripe p n w.apiKey).val) ∧
      serving.collected (fun s i => (serving.out s i).toList.map Prod.snd) (single w ⟨c, p, h⟩)
          ((Prog.replies stripe p n).map (Input.step 0)) =
        (Prog.exec stripe p n w.apiKey).calls := by
  have hidle : (Pool.empty : Pool Service).put 0 none = .empty := Function.update_eq_self 0 _
  induction p generalizing w n with
  | done r =>
    have hnext : serving.step (single w ⟨c, .done r, h⟩) (.step 0 (stripe n)) = (idle (Effect.settle w r), none) := by
      rw [step_single]
      cases r with
      | error e =>
        simp only [advance, single, Pool.put_put, hidle]
        rfl
      | ok effect =>
        simp only [advance, single, Pool.put_put, hidle]
        rfl
    simp only [Prog.replies, List.map_cons, List.map_nil, Machine.run_cons, Machine.collected, Machine.next, Machine.out,
      hnext]
    exact ⟨rfl, rfl⟩
  | assign k p ih =>
    have hnext : serving.step (single w ⟨c, .assign k p, h⟩) (.step 0 (stripe n)) =
        (single { w with apiKey := k } ⟨c, p, h.2⟩, none) := by
      rw [step_single]
      simp only [advance, single, Pool.put_put]
    obtain ⟨ih1, ih2⟩ := ih h.2 { w with apiKey := k } n
    simp only [Prog.replies, List.map_cons, Machine.run_cons, Machine.collected, Machine.next, Machine.out, hnext]
    exact ⟨ih1, ih2⟩
  | call q p ih =>
    have hnext : serving.step (single w ⟨c, .call q p, h⟩) (.step 0 (stripe n)) =
        (single w ⟨c, p (stripe n), h (stripe n)⟩, some (c.id, ⟨w.apiKey, q, stripe n⟩)) := by
      rw [step_single]
      simp only [advance, single, Pool.put_put]
    obtain ⟨ih1, ih2⟩ := ih (stripe n) (h (stripe n)) w (n + 1)
    simp only [Prog.replies, List.map_cons, Machine.run_cons, Machine.collected, Machine.next, Machine.out, hnext]
    exact ⟨ih1, congrArg (List.cons _) ih2⟩

theorem exec_registerProg (w : World) (course : Rec Course) (email : String) (price : ℚ) (stripe : ℕ → Reply)
    (commit : Bool) :
    Prog.exec stripe (registerProg course email price commit) 0 w.apiKey =
      ⟨.ok (.change (enrolChange w course email price stripe commit)),
        if course.cols.free then w.apiKey else course.cols.stripeApiKey,
        (enrol w course email price stripe commit).calls⟩ := by
  rw [enrol_calls]
  unfold registerProg enrolChange
  by_cases hf : course.cols.free = true
  · simp only [hf, if_true, Prog.exec_pure]
  · have hkey := (openCheckout_key stripe course email (amountOf price) (currencyOf course.cols) w.apiKey).1
    rw [if_neg hf, if_neg hf, if_neg hf, if_neg hf, Prog.exec_rescue, Prog.exec_bind]
    cases hx : Prog.exec stripe (openCheckout course email (amountOf price) (currencyOf course.cols)) 0 w.apiKey with
    | mk val key calls =>
      rw [hx] at hkey
      cases val with
      | error e => simp [← hkey]
      | ok opened => simp [← hkey]

theorem exec_deleteCampaignProg (stripe : ℕ → Reply) (resource : Rec Course) (users : List (Rec User))
    (key : Option String) :
    let ran := Prog.exec stripe
      (Courses.unsubscribeAll resource.cols.stripeApiKey (users.map fun u => u.cols.paymentIntentId) 0 0) 0 key
    Prog.exec stripe (deleteCampaignProg resource users) 0 key = ⟨.ok (.close resource.id), ran.reg, ran.calls⟩ := by
  obtain ⟨counts, hx⟩ := Courses.exec_unsubscribeAll stripe resource.cols.stripeApiKey
    (users.map fun u => u.cols.paymentIntentId) 0 0 0 key
  simp [deleteCampaignProg, Prog.exec_bind, hx]

/-- the request of the sequential model -/
def StripeRequest.request (stripe : ℕ → Reply) : StripeRequest → Request
  | .register code form commit => .register code form stripe commit
  | .unsubscribe user campaign post => .unsubscribe user campaign post stripe
  | .deleteCampaign who campaign => .deleteCampaign who campaign stripe

/-- a service run alone leaves what the sequential handler leaves -/
theorem serviceFor_exec (L : Lib) {w : World} {r : StripeRequest} {v : Service} (h : serviceFor w.db r = some v)
    (stripe : ℕ → Reply) :
    Effect.settle { w with apiKey := (Prog.exec stripe v.prog 0 w.apiKey).reg } (Prog.exec stripe v.prog 0 w.apiKey).val =
        (serve L w (r.request stripe)).world ∧
      (Prog.exec stripe v.prog 0 w.apiKey).calls = (serve L w (r.request stripe)).calls := by
  cases r with
  | register code form commit =>
    obtain ⟨⟨course, price, email⟩, ha, rfl⟩ := Option.map_eq_some_iff.1 h
    simp only [StripeRequest.request, serve, register_admitted ha, exec_registerProg, enrol_world]
    exact ⟨rfl, trivial⟩
  | unsubscribe user campaign post =>
    obtain ⟨⟨u, course⟩, ht, rfl⟩ := Option.map_eq_some_iff.1 h
    simp only [StripeRequest.request, serve, (Auth.unsubscribe_out ht).1, (Auth.unsubscribe_out ht).2]
    simp only [unsubscribeProg, Auth.unsubscribeUser, Prog.exec_bind, exec_cancelSubscription]
    exact ⟨rfl, rfl⟩
  | deleteCampaign who campaign =>
    unfold serviceFor at h
    simp only at h
    split at h
    · rename_i admin resource hadmin hresource
      cases h
      simp only [StripeRequest.request, serve, exec_deleteCampaignProg, Courses.deleteCampaign, loginRequired, hadmin,
        hresource]
      exact ⟨rfl, trivial⟩
    · cases h

theorem serviceFor_none (L : Lib) {w : World} {r : StripeRequest} (h : serviceFor w.db r = none) (stripe : ℕ → Reply) :
    (serve L w (r.request stripe)).world = w ∧ (serve L w (r.request stripe)).calls = [] := by
  cases r with
  | register code form commit =>
    have href := @register_refused w code form stripe commit (Option.map_eq_none_iff.1 h)
    exact ⟨href.1, href.2.1⟩
  | unsubscribe user campaign post => exact Auth.unsubscribe_none (Option.map_eq_none_iff.1 h)
  | deleteCampaign who campaign =>
    unfold serviceFor at h
    simp only at h
    split at h
    · cases h
    · rename_i hno
      simp only [StripeRequest.request, serve, Courses.deleteCampaign, loginRequired]
      cases hadmin : currentUser w.db who with
      | none => exact ⟨rfl, rfl⟩
      | some admin =>
        cases hresource : w.db.course.get campaign with
        | none => exact ⟨rfl, rfl⟩
        | some resource => exact absurd hresource (hno admin resource hadmin)

/-- the schedule that serves one request without interruption -/
def aloneInputs (w : World) (r : StripeRequest) (stripe : ℕ → Reply) : List Input :=
  .arrive 0 r :: match serviceFor w.db r with
    | none => []
    | some v => (Prog.replies stripe v.prog 0).map (Input.step 0)

/-- **Alone.** A request that is not interleaved with another one leaves the world, and makes the calls, that the
sequential handler does. -/
theorem serve_alone (L : Lib) (w : World) (r : StripeRequest) (stripe : ℕ → Reply) :
    serving.run (idle w) (aloneInputs w r stripe) = idle (serve L w (r.request stripe)).world ∧
      serving.collected (fun s i => (serving.out s i).toList.map Prod.snd) (idle w) (aloneInputs w r stripe) =
        (serve L w (r.request stripe)).calls := by
  unfold aloneInputs
  cases h : serviceFor w.db r with
  | none =>
    obtain ⟨hworld, hcalls⟩ := serviceFor_none L h stripe
    have hstep : serving.step (idle w) (.arrive 0 r) = (idle w, none) := by simp [serving, idle, h]
    simp only [Machine.run_cons, Machine.run_nil, Machine.collected, Machine.next, Machine.out, hstep, hworld, hcalls]
    exact ⟨trivial, rfl⟩
  | some v =>
    obtain ⟨hworld, hcalls⟩ := serviceFor_exec L h stripe
    have hstep : serving.step (idle w) (.arrive 0 r) = (single w v, none) := by simp [serving, idle, single, h]
    obtain ⟨hrun, hcol⟩ := run_single stripe v.campaign v.prog v.only w 0
    simp only [Machine.run_cons, Machine.collected, Machine.next, Machine.out, hstep]
    exact ⟨hrun.trans (by rw [hworld]), hcol.trans hcalls⟩

/-! ## In which account the calls are made -/

/-- whichever service takes the next step, a call is made with the key that its campaign has -/
def RightAccount (s : Serving) : Prop :=
  ∀ n reply campaign call, serving.out s (.step n reply) = some (campaign, call) →
    ∃ c, s.world.db.course.get campaign = some c ∧ call.reg = c.cols.stripeApiKey

def Service.aboutToCall (v : Service) : Bool :=
  match v.prog with
  | .call .. => true
  | _ => false

def Service.aboutToAssign (v : Service) : Bool :=
  match v.prog with
  | .assign .. => true
  | _ => false

/-- when a service assigns the key, every other one that is about to call is for a campaign with the same key -/
def Undisturbed (s : Serving) : Input → Prop
  | .arrive _ _ => True
  | .step n _ => ∀ v, s.services n = some v → v.aboutToAssign = true →
      ∀ m v', m ≠ n → s.services m = some v' → v'.aboutToCall = true →
        v'.campaign.cols.stripeApiKey = v.campaign.cols.stripeApiKey

/-- the services have read the keys that the campaigns have -/
def Current (s : Serving) : Prop :=
  ∀ n v, s.services n = some v →
    ∃ c, s.world.db.course.get v.campaign.id = some c ∧ c.cols.stripeApiKey = v.campaign.cols.stripeApiKey

/-- every service that is about to call finds its key in place -/
def Ready (s : Serving) : Prop :=
  ∀ n v, s.services n = some v → v.aboutToCall = true → s.world.apiKey = v.campaign.cols.stripeApiKey

theorem serviceFor_campaign {db : Db} {r : StripeRequest} {v : Service} (h : serviceFor db r = some v) :
    db.course.get v.campaign.id = some v.campaign ∧ v.aboutToCall = false := by
  cases r with
  | register code form commit =>
    obtain ⟨⟨course, price, email⟩, ha, rfl⟩ := Option.map_eq_some_iff.1 h
    refine ⟨Table.get_of_mem (Table.first_mem (admitted_course ha).1), ?_⟩
    simp only [Service.aboutToCall, registerProg]
    by_cases hf : course.cols.free = true
    · simp only [hf, if_true]
      rfl
    · rw [if_neg hf]
      rfl
  | unsubscribe user campaign post =>
    obtain ⟨⟨u, course⟩, ht, rfl⟩ := Option.map_eq_some_iff.1 h
    obtain ⟨hmem, hid⟩ := Table.get_eq_some_iff.1 (Auth.unsubscribeTarget_spec ht).2.2
    exact ⟨Table.get_of_mem hmem, rfl⟩
  | deleteCampaign who campaign =>
    unfold serviceFor at h
    simp only at h
    split at h
    · rename_i admin resource hadmin hresource
      cases h
      refine ⟨Table.get_of_mem (Table.get_eq_some_iff.1 hresource).1, ?_⟩
      simp only [Service.aboutToCall, deleteCampaignProg]
      cases activeUsers db resource.id <;> rfl
    · cases h

/-- a commit that ends a request leaves the key in force and the keys of the campaigns -/
theorem effect_keys (e : Effect) (w : World) :
    (e.apply w).apiKey = w.apiKey ∧ ∀ k c, w.db.course.get k = some c →
      ∃ c', (e.apply w).db.course.get k = some c' ∧ c'.cols.stripeApiKey = c.cols.stripeApiKey := by
  cases e with
  | change c => exact ⟨rfl, fun k c hc => ⟨c, hc, rfl⟩⟩
  | close campaign =>
    refine ⟨rfl, fun k c hc => ⟨Table.setAt campaign (fun c => { c with status := 0 }) c, ?_, ?_⟩⟩
    · change (w.db.course.modify campaign _).get k = _
      rw [Table.get_modify, hc]
      rfl
    · unfold Table.setAt
      split_ifs <;> rfl

theorem current_next (s : Serving) (i : Input) (h : Current s) : Current (serving.next s i) := by
  cases i with
  | arrive n r =>
    simp only [Machine.next, serving]
    split
    · rename_i v hn hv
      intro m v' hm
      rcases Pool.put_cases hm with ⟨-, hm⟩ | ⟨-, hm⟩
      · exact h m v' hm
      · cases hm
        exact ⟨v.campaign, (serviceFor_campaign hv).1, rfl⟩
    · exact h
  | step n reply =>
    simp only [Machine.next, serving]
    split
    · exact h
    · rename_i v hn
      -- the campaign of a service is the same after its step
      have hkeep : ∀ {x : Option Service}, (∀ v', x = some v' → v'.campaign = v.campaign) →
          Current ⟨s.world, s.services.put n x⟩ := by
        intro x hx m v' hm
        rcases Pool.put_cases hm with ⟨-, hm⟩ | ⟨-, hm⟩
        · exact h m v' hm
        · rw [hx v' hm]
          exact h n v hn
      obtain ⟨c, p, honly⟩ := v
      cases p with
      | done r =>
        cases r with
        | error e => exact hkeep (by simp)
        | ok effect =>
          intro m v' hm
          rcases Pool.put_cases hm with ⟨-, hm⟩ | ⟨-, hm⟩
          · obtain ⟨c', hc', hkey⟩ := h m v' hm
            obtain ⟨c'', hc'', hkey'⟩ := (effect_keys effect s.world).2 _ c' hc'
            exact ⟨c'', hc'', hkey'.trans hkey⟩
          · cases hm
      | assign k p => exact hkeep (by rintro v' ⟨⟩; rfl)
      | call q p => exact hkeep (by rintro v' ⟨⟩; rfl)

/-- meeting the condition is exactly what keeps every key in place -/
theorem ready_next_iff (s : Serving) (i : Input) (h : Ready s) : Ready (serving.next s i) ↔ Undisturbed s i := by
  cases i with
  | arrive n r =>
    simp only [Undisturbed, iff_true, Machine.next, serving]
    split
    · rename_i v hn hv
      intro m v' hm hcall
      rcases Pool.put_cases hm with ⟨-, hm⟩ | ⟨-, hm⟩
      · exact h m v' hm hcall
      · cases hm
        rw [(serviceFor_campaign hv).2] at hcall
        cases hcall
    · exact h
  | step n reply =>
    simp only [Machine.next, serving, Undisturbed]
    cases hn : s.services n with
    | none => exact ⟨fun _ v hv => absurd hv (by simp), fun _ => h⟩
    | some v =>
      obtain ⟨c, p, honly⟩ := v
      cases p with
      | done r =>
        refine ⟨fun _ v hv ha => ?_, fun _ => ?_⟩
        · cases hv
          simp [Service.aboutToAssign] at ha
        · cases r with
          | error e =>
            intro m v' hm hcall
            rcases Pool.put_cases hm with ⟨-, hm⟩ | ⟨-, hm⟩
            · exact h m v' hm hcall
            · cases hm
          | ok effect =>
            intro m v' hm hcall
            rcases Pool.put_cases hm with ⟨-, hm⟩ | ⟨-, hm⟩
            · exact ((effect_keys effect s.world).1).trans (h m v' hm hcall)
            · cases hm
      | call q p =>
        refine ⟨fun _ v hv ha => ?_, fun _ => ?_⟩
        · cases hv
          simp [Service.aboutToAssign] at ha
        · intro m v' hm hcall
          rcases Pool.put_cases hm with ⟨-, hm⟩ | ⟨-, hm⟩
          · exact h m v' hm hcall
          · -- the next call of the same service: its key was in place for this one
            cases hm
            exact h n ⟨c, .call q p, honly⟩ hn rfl
      | assign k p =>
        obtain rfl : k = c.cols.stripeApiKey := honly.1
        constructor
        · intro hready v hv ha m v' hmn hm hcall
          cases hv
          exact (hready m v' ((Pool.put_of_ne _ _ hmn).trans hm) hcall).symm
        · intro hcond m v' hm hcall
          rcases Pool.put_cases hm with ⟨hmn, hm⟩ | ⟨-, hm⟩
          · exact (hcond ⟨c, .assign _ p, honly⟩ rfl rfl m v' hmn hm hcall).symm
          · cases hm
            rfl

theorem rightAccount_iff_ready {s : Serving} (h : Current s) : RightAccount s ↔ Ready s := by
  constructor
  · intro hr n v hn hcall
    obtain ⟨c, p, honly⟩ := v
    cases p with
    | done r => simp [Service.aboutToCall] at hcall
    | assign k p => simp [Service.aboutToCall] at hcall
    | call q p =>
      have hout : serving.out s (.step n (.error .other)) = some (c.id, ⟨s.world.apiKey, q, .error .other⟩) := by
        simp [Machine.out, serving, hn, advance]
      obtain ⟨c', hc', hreg⟩ := hr n _ _ _ hout
      obtain ⟨c'', hc'', hkey⟩ := h n _ hn
      simp only at hc''
      rw [hc'] at hc''
      cases hc''
      exact hreg.trans hkey
  · intro hr n reply campaign call hout
    simp only [Machine.out, serving] at hout
    split at hout
    · cases hout
    · rename_i v hn
      obtain ⟨c, p, honly⟩ := v
      cases p with
      | done r => cases r <;> simp [advance] at hout
      | assign k p => simp [advance] at hout
      | call q p =>
        simp only [advance, Option.some.injEq, Prod.mk.injEq] at hout
        obtain ⟨rfl, rfl⟩ := hout
        obtain ⟨c', hc', hkey⟩ := h n _ hn
        exact ⟨c', hc', (hr n _ hn rfl).trans hkey.symm⟩

/-- **Right account.** Along a schedule of any number of requests, every call that is made, and every call that may be made
next at some point of it, is made with the key of the campaign it is for, exactly if no request assigns the key while a
request for a campaign with another key is about to call. -/
theorem right_account_iff_undisturbed (w : World) (schedule : List Input) :
    serving.Always RightAccount (idle w) schedule ↔ serving.Along Undisturbed (idle w) schedule := by
  have hcurrent : ∀ is, Current (serving.run (idle w) is) := fun is =>
    serving.run_inv current_next (fun n v hn => by simp [idle] at hn) is
  have hready : Ready (idle w) := fun n v hn => by simp [idle] at hn
  rw [← serving.always_iff_along ready_next_iff hready]
  exact serving.always_congr fun pre => rightAccount_iff_ready (hcurrent pre)

/-- **Calls cross accounts.** Two visitors register, one in each campaign. The second assigns its key after the first has
assigned its own and before the first creates its customer: that customer is created in the second campaign's account. -/
theorem calls_cross_accounts :
    let s := serving.run (idle Sample.start)
      [.arrive 0 (.register "Ab3dE" (some (some "ann@example.com")) true), .step 0 (.error .other),
        .arrive 1 (.register "Xy9zW" (some (some "eve@example.com")) true), .step 1 (.error .other)]
    serving.out s (.step 0 (.ok { id := "cus_1" })) =
        some (1, ⟨some "sk_2", .customerCreate "ann@example.com", .ok { id := "cus_1" }⟩) ∧
      (s.world.db.course.get 1).map (fun c => c.cols.stripeApiKey) = some (some "sk_1") := by
  decide

end Newsletter.Concurrency
