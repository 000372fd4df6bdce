/-
A deleted campaign and what still happens to it.

`delete_campaign` sets the campaign's status to 0 and leaves its subscribers active; neither `register` nor any sender
looks at the status. So whether a deleted campaign is inert (no Stripe object and no row through its registration link,
no message to its subscribers: `Inert`) is decided by the other checks of those handlers. `InertWhen` lists them:
- a registration is refused before the `try` block, or its commit (free) or the customer at Stripe (paid) fails;
- a sender that reaches its loop finds no active subscriber of the campaign;
- the scheduled sender skips the campaign: other type, no key, no template or no active subscriber.

`inert_iff` says that the first two are exact; `deleted_campaign_inert` carries all three along the runs after the
deletion, and `deleted_campaign_sends` is a run in which the deleted campaign sends and registers.
-/
import Newsletter.App

namespace Newsletter

open Newsletter.Core Auth Courses

/-- none of the messages is for a subscriber of the campaign -/
def NoMail (db : Db) (c : ℕ) (mails : List Mail) : Prop :=
  ∀ m ∈ mails, ∀ u ∈ db.user.rows, u.id = m.user → u.cols.courseId ≠ some c

/-- what a request may not do to the campaign `c` once it is deleted -/
def Inert (L : Lib) (c : ℕ) (w : World) (r : Request) : Prop :=
  match r with
  | .register code _ _ _ =>
    (linkedCampaign w.db code).map Rec.id = some c →
      (∀ call ∈ ((app L).out w r).calls, call.req.creates = true → call.ans.isOk = false) ∧
        ∀ v ∈ ((app L).next w r).db.user.rows, v.cols.courseId = some c → ∃ u ∈ w.db.user.rows, u.id = v.id
  | .sendemail .. | .sendeditedemail .. | .sendGeneratedEmail .. | .main .. => NoMail w.db c ((app L).out w r).mails
  | _ => True

/-- the campaign whose subscribers an interactive sender loops over -/
def sendsTo (L : Lib) (w : World) : Request → Option ℕ
  | .sendemail who compaign form attachment _ =>
    if sendemailReaches L w who form attachment then some compaign else none
  | .sendeditedemail who compaign content attachment _ =>
    if sendeditedemailReaches L w who compaign content attachment then some compaign else none
  | .sendGeneratedEmail who id compaign attachment _ =>
    if sendGeneratedEmailReaches L w who id compaign attachment then some compaign else none
  | _ => none

/-- the campaign has what the scheduled sender asks for, subscribers apart -/
def Scheduled (db : Db) (c : ℕ) : Prop :=
  ∃ course, db.course.get c = some course ∧ course.cols.type = some 1 ∧ course.cols.openaiKey ≠ none ∧
    templatesOf db c ≠ []

def InertWhen (L : Lib) (c : ℕ) (w : World) (r : Request) : Prop :=
  match r with
  | .register code form stripe commit =>
    ∀ course price email, admitted w.db code form = some (course, price, email) → course.id = c →
      if course.cols.free then commit = false else (stripe 0).isOk = false
  | .main .. => Scheduled w.db c → activeUsers w.db c = []
  | _ => sendsTo L w r = some c → activeUsers w.db c = []

/-! ## The registration link -/

theorem enrol_creates_iff (L : Lib) {w : World} {code : String} {form : Option (Option String)} {stripe : ℕ → Reply}
    {commit : Bool} {course : Rec Course} {price : ℚ} {email : String}
    (ha : admitted w.db code form = some (course, price, email)) :
    ((∀ call ∈ ((app L).out w (.register code form stripe commit)).calls, call.req.creates = true →
          call.ans.isOk = false) ∧
        ∀ v ∈ ((app L).next w (.register code form stripe commit)).db.user.rows, v.cols.courseId = some course.id →
          ∃ u ∈ w.db.user.rows, u.id = v.id) ↔
      if course.cols.free then commit = false else (stripe 0).isOk = false := by
  have hcalls : ((app L).out w (.register code form stripe commit)).calls =
      if course.cols.free then []
      else (Prog.exec stripe (openCheckout course email (amountOf price) (currencyOf course.cols)) 0 w.apiKey).calls := by
    rw [app_out, serve, register_admitted ha, enrol_calls]
  have hchange : change L w (.register code form stripe commit) = enrolChange w course email price stripe commit := by
    simp only [change, ha]
  rw [hcalls, next_user, hchange, enrolChange]
  by_cases hf : course.cols.free = true
  · simp only [hf, if_true]
    cases commit with
    | false => exact iff_of_true ⟨by simp, fun v hv _ => ⟨v, hv, rfl⟩⟩ rfl
    | true =>
      refine iff_of_false ?_ (by simp)
      rintro ⟨_, hrow⟩
      obtain ⟨u, hu, hid⟩ := hrow _ (Table.mem_insert.2 (Or.inr rfl)) rfl
      exact absurd hid (Nat.ne_of_lt (w.db.user.below u hu))
  · simp only [hf, Bool.false_eq_true, if_false]
    obtain ⟨rest, hrest, hfail⟩ :=
      openCheckout_customer stripe course email (amountOf price) (currencyOf course.cols) w.apiKey
    rw [hrest]
    constructor
    · rintro ⟨hcreates, _⟩
      exact hcreates _ List.mem_cons_self rfl
    · intro h0
      obtain ⟨rfl, e, hval⟩ := hfail h0
      rw [hval]
      refine ⟨fun call hcall _ => ?_, fun v hv _ => ⟨v, hv, rfl⟩⟩
      rw [List.mem_singleton] at hcall
      rw [hcall]
      exact h0

theorem register_inert_iff (L : Lib) (c : ℕ) (w : World) (code : String) (form : Option (Option String))
    (stripe : ℕ → Reply) (commit : Bool) :
    Inert L c w (.register code form stripe commit) ↔ InertWhen L c w (.register code form stripe commit) := by
  unfold Inert InertWhen
  simp only
  cases ha : admitted w.db code form with
  | none =>
    obtain ⟨hworld, hcalls, _⟩ := @register_refused w code form stripe commit ha
    refine iff_of_true (fun _ => ⟨?_, ?_⟩) fun course price email h => absurd h (by simp)
    · rw [app_out, serve, hcalls]
      simp
    · rw [app_next, serve, hworld]
      exact fun v hv _ => ⟨v, hv, rfl⟩
  | some p =>
    obtain ⟨course, price, email⟩ := p
    have hlink : (linkedCampaign w.db code).map Rec.id = some course.id := by
      rw [(admitted_course ha).1]
      rfl
    rw [hlink]
    simp only [Option.some.injEq, Prod.mk.injEq]
    constructor
    · rintro h _ _ _ ⟨rfl, rfl, rfl⟩ rfl
      exact (enrol_creates_iff L ha).1 (h rfl)
    · rintro h rfl
      exact (enrol_creates_iff L ha).2 (h course price email ⟨rfl, rfl, rfl⟩ rfl)

/-! ## The senders -/

/-- messages for the active subscribers of a campaign reach none of `c` exactly if it is another or has none -/
theorem noMail_iff {db : Db} {c k : ℕ} {reaches : Bool} {mails : List Mail}
    (h : mails.map Mail.user = if reaches then (activeUsers db k).map Rec.id else []) :
    NoMail db c mails ↔ ((if reaches then some k else none) = some c → activeUsers db c = []) := by
  cases reaches with
  | false =>
    have hnil : mails = [] := by simpa using h
    simp [NoMail, hnil]
  | true =>
    simp only [if_true] at h
    simp only [if_true, Option.some.injEq]
    constructor
    · rintro hno rfl
      refine List.eq_nil_iff_forall_not_mem.2 fun u hu => ?_
      have huser : u.id ∈ mails.map Mail.user := h ▸ List.mem_map_of_mem hu
      obtain ⟨m, hm, hmu⟩ := List.mem_map.1 huser
      obtain ⟨hrow, hactive⟩ := List.mem_filter.1 hu
      simp only [decide_eq_true_eq] at hactive
      exact hno m hm u hrow hmu.symm hactive.1
    · intro hnone m hm u hu hid hcourse
      have huser : m.user ∈ (activeUsers db k).map Rec.id := h ▸ List.mem_map_of_mem hm
      obtain ⟨v, hv, hvm⟩ := List.mem_map.1 huser
      obtain ⟨hrow, hactive⟩ := List.mem_filter.1 hv
      simp only [decide_eq_true_eq] at hactive
      have hsame := db.user.id_inj hu hrow (hid.trans hvm.symm)
      subst hsame
      have hk : k = c := Option.some.inj (hactive.1.symm.trans hcourse)
      subst hk
      rw [hnone rfl] at hv
      exact absurd hv List.not_mem_nil

/-- **Step**, exactly: for every request but the scheduled sender, the condition says when the campaign is left alone. -/
theorem inert_iff (L : Lib) (c : ℕ) (w : World) (r : Request) (hr : ∀ env, r ≠ .main env) :
    Inert L c w r ↔ InertWhen L c w r := by
  cases r with
  | register code form stripe commit => exact register_inert_iff L c w code form stripe commit
  | sendemail who compaign form attachment env => exact noMail_iff (sendemail_users ..)
  | sendeditedemail who compaign content attachment env => exact noMail_iff (sendeditedemail_users ..)
  | sendGeneratedEmail who id compaign attachment env => exact noMail_iff (sendGeneratedEmail_users ..)
  | main env => exact absurd rfl (hr env)
  | _ => simp [Inert, InertWhen, sendsTo]

theorem main_inert (L : Lib) {c : ℕ} {w : World} {env : MainEnv} (h : InertWhen L c w (.main env)) :
    Inert L c w (.main env) := by
  intro m hm u hu hid hcourse
  obtain ⟨course, hmem, htype, hkey, htemplates, _, v, hv, hmv⟩ := main_mails hm
  obtain ⟨hrow, hactive⟩ := List.mem_filter.1 hv
  simp only [decide_eq_true_eq] at hactive
  have hsame := w.db.user.id_inj hu hrow (hid.trans hmv)
  subst hsame
  have hc : course.id = c := Option.some.inj (hactive.1.symm.trans hcourse)
  subst hc
  have hnone : activeUsers w.db course.id = [] := h ⟨course, Table.get_of_mem hmem, htype, hkey, htemplates⟩
  rw [hnone] at hv
  exact absurd hv List.not_mem_nil

theorem inert_of_when {L : Lib} {c : ℕ} {w : World} {r : Request} (h : InertWhen L c w r) : Inert L c w r := by
  by_cases hr : ∃ env, r = .main env
  · obtain ⟨env, rfl⟩ := hr
    exact main_inert L h
  · exact (inert_iff L c w r fun env he => hr ⟨env, he⟩).2 h

/-! ## Runs after the deletion -/

/-- a campaign is inert, deleted or not, in every run whose requests meet the condition: no handler looks at the deletion -/
theorem inert_run {L : Lib} {c : ℕ} {w : World} {reqs : List Request} (h : (app L).Along (InertWhen L c) w reqs) :
    (app L).Along (Inert L c) w reqs := h.mono fun _ _ => inert_of_when

/-- **A deleted campaign is inert** in every continuation whose requests meet the condition. -/
theorem deleted_campaign_inert (L : Lib) (w : World) (pre : List Request) (who : Option ℕ) (c : ℕ) (stripe : ℕ → Reply)
    (post : List Request)
    (h : (app L).Along (InertWhen L c) ((app L).run w (pre ++ [.deleteCampaign who c stripe])) post) :
    (app L).Along (Inert L c) ((app L).run w (pre ++ [.deleteCampaign who c stripe])) post :=
  inert_run h

/-- the owner deletes the campaign of `ann` -/
def Sample.deletion : Request := .deleteCampaign (some 2) 1 working

/-- a newsletter of the first campaign -/
def Sample.newsletter : Request :=
  .sendemail (some 2) 1 (some (some ⟨"News", "Hello", "Text", "Bye"⟩)) none ⟨fun _ => true, fun _ => true, true⟩

/-- a registration of somebody else in the first campaign -/
def Sample.lateRegistration : Request := .register "Ab3dE" (some (some "joe@example.com")) (answers "cus_3") true

/-- the only subscriber unsubscribes, the campaign is deleted, a newsletter follows -/
theorem deleted_campaign_inert_unsubscribed :
    (app Sample.lib).Along (Inert Sample.lib 1)
      ((app Sample.lib).run Sample.subscribed ([.unsubscribe 1 1 true Sample.working] ++ [Sample.deletion]))
      [Sample.newsletter] := by
  refine deleted_campaign_inert Sample.lib Sample.subscribed [.unsubscribe 1 1 true Sample.working] (some 2) 1
    Sample.working [Sample.newsletter] ⟨fun _ => ?_, trivial⟩
  decide +kernel

/-- after the deletion the newsletter goes to `ann`, and the link still makes a customer and a row -/
theorem deleted_campaign_sends :
    (((app Sample.lib).next Sample.subscribed Sample.deletion).db.course.get 1).map (fun c => c.cols.status) = some 0 ∧
      ((app Sample.lib).out ((app Sample.lib).next Sample.subscribed Sample.deletion) Sample.newsletter).mails.map
        (fun m => (m.recipient, m.campaign)) = [("ann@example.com", 1)] ∧
      ((app Sample.lib).run Sample.subscribed [Sample.deletion, Sample.lateRegistration]).db.user.rows.map
        (fun u => (u.cols.email, u.cols.courseId)) = [("ann@example.com", some 1), ("joe@example.com", some 1)] := by
  decide +kernel

end Newsletter
