/-
The application as one machine: a request (or the run of a started thread, or of the scheduled sender) takes the world
to the next one and has an output.

Every request carries what a client chooses (ids, form fields, payloads: anything, forged or not) and what the
environment decides while it is served (Stripe's answers, failing commits, the mailer). `who` is the admin of the
session, if any.

- `serve_within`: which parts of the world a request may touch, and whether it may call Stripe or send mail (`Request.scope`);
- `next_user`: a request changes the subscriber table by its `change`, one of the five of `Newsletter.Subscriptions`;
- `next_apiKey`: it assigns `stripe.api_key` at most once, to the value `assignsKey` gives, and otherwise leaves it;
- `change_cause`: why a request changes it, with what the request has checked (`Cause`);
- `row_persists`: along any run subscriber rows stay, with the columns they were inserted with.
-/
import Newsletter.Auth.Register
import Newsletter.Auth.Webhook
import Newsletter.Core.Json
import Newsletter.Core.Runs
import Newsletter.Courses.Campaign
import Newsletter.Courses.Sending

namespace Newsletter

open Newsletter.Core Auth Courses

inductive Request where
  -- `app/auth/route.py`
  | register (code : String) (form : Option (Option String)) (stripe : ℕ → Reply) (commit : Bool)
  | handleWebhook (payload : String) (sigHeader : Option String) (stripe : ℕ → Reply)
  | unsubscribe (user campaign : ℕ) (post : Bool) (stripe : ℕ → Reply)
  | registerAdmin (form : Option (String × Option String))
  | verifyEmail (token : String)
  -- `app/user/route.py`
  | usersDashboard (who : Option ℕ) (form : Option TemplateForm)
  | addcourse (who : Option ℕ) (form : Option (ℕ × String)) (draws : List String)
  | usersUsers (who : Option ℕ)
  -- `app/course/route.py`
  | dashboard (who : Option ℕ) (course : ℕ) (form : Option TemplateForm)
  | generateAllEmails (who : Option ℕ) (course : ℕ) (form : Option TemplateForm)
  | customize (campaign : ℕ) (form : Option CustomizeForm) (commit : Bool)
  | unsubscribeuser (who : Option ℕ) (userId campaign : ℕ) (stripe : ℕ → Reply)
  | resources (who : Option ℕ) (campaign : ℕ) (form : Option ResourceForm)
  | users (who : Option ℕ) (id : ℕ)
  | addUser (form : Option (String × ℕ))
  | config (who : Option ℕ) (id : ℕ) (form : Option OpenAiForm) (commit : Bool)
  | deleteCompain (who : Option ℕ) (compaign : ℕ) (templateId : Option ℕ)
  | deleteResource (who : Option ℕ) (resource : ℕ)
  | deleteCampaign (who : Option ℕ) (campaign : ℕ) (stripe : ℕ → Reply)
  | sendeditedemail (who : Option ℕ) (compaign : ℕ) (emailContent : Option String)
      (attachment : Option (String × List UInt8)) (env : SendEnv)
  | sendemail (who : Option ℕ) (compaign : ℕ) (form : Option (Option SendForm))
      (attachment : Option (String × List UInt8)) (env : SendEnv)
  | sendGeneratedEmail (who : Option ℕ) (generatedEmailId compaign : ℕ)
      (attachment : Option (String × List UInt8)) (env : SendEnv)
  | regenerateEmail (who : Option ℕ) (generatedEmailId : ℕ)
  | regenerateAllEmails (who : Option ℕ) (templateId : ℕ)
  | deleteEmailTemplate (compaign : ℕ)
  -- not requests: the `i`-th started thread runs; the scheduled sender runs
  | thread (i : ℕ) (generate : GenerateEnv) (regenerate : RegenerateEnv)
  | main (env : MainEnv)

/-- the `i`-th started thread runs to its end -/
def runThread (L : Lib) (w : World) (i : ℕ) (generate : GenerateEnv) (regenerate : RegenerateEnv) : Out :=
  match w.threads[i]? with
  | none => { world := w, resp := .text "" }
  | some t =>
    let w := { w with threads := w.threads.eraseIdx i }
    match t with
    | .generateAndSaveEmails templateId campaignId =>
      { world := generateAndSaveEmails L w templateId campaignId generate, resp := .text "" }
    | .regenerateEmailTask generatedEmailId redisKey =>
      { world := regenerateEmailTask L w generatedEmailId redisKey regenerate, resp := .text "" }

def serve (L : Lib) (w : World) : Request → Out
  | .register code form stripe commit => Auth.register w code form stripe commit
  | .handleWebhook payload sigHeader stripe => Auth.handleWebhook L w payload sigHeader stripe
  | .unsubscribe user campaign post stripe => Auth.unsubscribe w user campaign post stripe
  | .registerAdmin form => Auth.registerAdmin w form
  | .verifyEmail token => Auth.verifyEmail L w token
  | .usersDashboard who form => Users.dashboard w who form
  | .addcourse who form draws => Users.addcourse w who form draws
  | .usersUsers who => Users.users w who
  | .dashboard who course form => Courses.dashboard w who course form
  | .generateAllEmails who course form => Courses.generateAllEmails w who course form
  | .customize campaign form commit => Courses.customize w campaign form commit
  | .unsubscribeuser who userId campaign stripe => Courses.unsubscribeuser w who userId campaign stripe
  | .resources who campaign form => Courses.resources L w who campaign form
  | .users who id => Courses.users w who id
  | .addUser form => Courses.addUser w form
  | .config who id form commit => Courses.config w who id form commit
  | .deleteCompain who compaign templateId => Courses.deleteCompain w who compaign templateId
  | .deleteResource who resource => Courses.deleteResource w who resource
  | .deleteCampaign who campaign stripe => Courses.deleteCampaign w who campaign stripe
  | .sendeditedemail who compaign content attachment env =>
    Courses.sendeditedemail L w who compaign content attachment env
  | .sendemail who compaign form attachment env => Courses.sendemail L w who compaign form attachment env
  | .sendGeneratedEmail who id compaign attachment env =>
    Courses.sendGeneratedEmail L w who id compaign attachment env
  | .regenerateEmail who id => Courses.regenerateEmail w who id
  | .regenerateAllEmails who templateId => Courses.regenerateAllEmails w who templateId
  | .deleteEmailTemplate compaign => Courses.deleteEmailTemplate w compaign
  | .thread i generate regenerate => runThread L w i generate regenerate
  | .main env => Courses.main w env

/-- the application -/
def app (L : Lib) : Machine World Request Out := ⟨fun w r => ((serve L w r).world, serve L w r)⟩

theorem app_next (L : Lib) (w : World) (r : Request) : (app L).next w r = (serve L w r).world := rfl

theorem app_out (L : Lib) (w : World) (r : Request) : (app L).out w r = serve L w r := rfl

/-! ## What a request does to the subscriber table and to the key -/

def change (L : Lib) (w : World) : Request → Change
  | .register code form stripe commit =>
    match admitted w.db code form with
    | none => .none
    | some (course, price, email) => enrolChange w course email price stripe commit
  | .handleWebhook payload sigHeader _ => webhookChange L w.db payload sigHeader
  | .unsubscribe user campaign post stripe =>
    match Auth.unsubscribeTarget w.db user campaign post with
    | none => .none
    | some (u, _) => if (stripe 0).isOk then .cancel u.id else .none
  | .unsubscribeuser who userId campaign _ =>
    match Courses.unsubscribeuserTarget w.db who userId campaign with
    | none => .none
    | some (u, _) => .cancel u.id
  | .addUser form => addUserChange w.db form
  | _ => .none

/-- the value a request assigns to `stripe.api_key`, if it assigns it -/
def assignsKey (db : Db) : Request → Option (Option String)
  | .register code form _ _ =>
    match admitted db code form with
    | none => none
    | some (course, _, _) => if course.cols.free then none else some course.cols.stripeApiKey
  | .unsubscribe user campaign post _ =>
    (Auth.unsubscribeTarget db user campaign post).map fun p => p.2.cols.stripeApiKey
  | .unsubscribeuser who userId campaign _ =>
    match Courses.unsubscribeuserTarget db who userId campaign with
    | some (_, some resource) => some resource.cols.stripeApiKey
    | _ => none
  | .deleteCampaign who campaign _ =>
    match currentUser db who, db.course.get campaign with
    | some _, some resource => if activeUsers db resource.id = [] then none else some resource.cols.stripeApiKey
    | _, _ => none
  | _ => none

/-! ### What a request leaves alone -/

/-- what a request may touch besides the tables of its page -/
structure Scope where
  /-- the subscriber table, `stripe.api_key` and Stripe -/
  subscriptions : Bool := false
  /-- the folder of the adverts -/
  adverts : Bool := false
  mail : Bool := false
  /-- the status keys -/
  status : Bool := false
  threads : Bool := false
deriving DecidableEq, Repr

/-- the output leaves alone what is not in the scope -/
structure Within (s : Scope) (w : World) (o : Out) : Prop where
  user : s.subscriptions = false → o.world.db.user = w.db.user
  apiKey : s.subscriptions = false → o.world.apiKey = w.apiKey
  calls : s.subscriptions = false → o.calls = []
  adverts : s.adverts = false → o.world.adverts = w.adverts
  mails : s.mail = false → o.mails = []
  redis : s.status = false → o.world.redis = w.redis
  threads : s.threads = false → o.world.threads = w.threads

def Request.scope : Request → Scope
  | .register .. | .handleWebhook .. | .unsubscribe .. | .unsubscribeuser .. | .addUser .. | .deleteCampaign .. =>
    { subscriptions := true }
  | .resources .. => { adverts := true }
  | .sendeditedemail .. | .sendemail .. | .sendGeneratedEmail .. | .main .. => { mail := true }
  | .dashboard .. | .generateAllEmails .. | .regenerateAllEmails .. => { threads := true }
  | .regenerateEmail .. | .thread .. => { status := true, threads := true }
  | _ => {}

theorem Within.refl (s : Scope) (w : World) {o : Out} (hworld : o.world = w) (hcalls : o.calls = []) (hmails : o.mails = []) :
    Within s w o := by
  subst hworld
  exact ⟨fun _ => rfl, fun _ => rfl, fun _ => hcalls, fun _ => rfl, fun _ => hmails, fun _ => rfl, fun _ => rfl⟩

theorem within_loginRequired {s : Scope} {w : World} {who : Option ℕ} {h : Rec Adminuser → Out}
    (hh : ∀ admin, Within s w (h admin)) : Within s w (loginRequired w who h) := by
  unfold loginRequired
  split
  · exact .refl s w rfl rfl rfl
  · exact hh _

theorem within_startGeneration (w : World) (owner course : ℕ) (f : TemplateForm) (resp : Response) :
    Within { threads := true } w (startGeneration w owner course f resp) := by
  unfold startGeneration createTemplate
  cases f.body <;> cases f.footer <;> constructor <;> intro h <;> first | rfl | cases h

theorem within_runThread (L : Lib) (w : World) (i : ℕ) (generate : GenerateEnv) (regenerate : RegenerateEnv) :
    Within { status := true, threads := true } w (runThread L w i generate regenerate) := by
  unfold runThread
  cases w.threads[i]? with
  | none => exact .refl _ w rfl rfl rfl
  | some t =>
    cases t with
    | generateAndSaveEmails templateId campaignId =>
      have h := (generateAndSaveEmails_frame L { w with threads := w.threads.eraseIdx i }
        templateId campaignId generate).1
      exact ⟨fun _ => h.user, fun _ => h.apiKey, fun _ => rfl, fun _ => h.adverts, fun _ => rfl, by simp, by simp⟩
    | regenerateEmailTask generatedEmailId redisKey =>
      have h := (regenerateEmailTask_frame L { w with threads := w.threads.eraseIdx i }
        generatedEmailId redisKey regenerate).1
      exact ⟨fun _ => h.user, fun _ => h.apiKey, fun _ => rfl, fun _ => h.adverts, fun _ => rfl, by simp, by simp⟩

/-- **Scope.** Every request stays within its scope. -/
theorem serve_within (L : Lib) (w : World) (r : Request) : Within r.scope w (serve L w r) := by
  cases r with
  | thread i generate regenerate => exact within_runThread L w i generate regenerate
  | register code form stripe commit =>
    simp only [serve, Auth.register, enrol]
    repeat' split
    all_goals constructor <;> intro h <;> first | rfl | cases h
  | handleWebhook payload sigHeader stripe =>
    simp only [serve, Auth.handleWebhook, handleEvent, settle]
    repeat' split
    all_goals constructor <;> intro h <;> first | rfl | cases h
  | unsubscribe user campaign post stripe =>
    simp only [serve, Auth.unsubscribe]
    repeat' split
    all_goals constructor <;> intro h <;> first | rfl | cases h
  | registerAdmin | verifyEmail | customize | addUser | deleteEmailTemplate | main =>
    simp only [serve, Auth.registerAdmin, Auth.verifyEmail, Courses.customize, Courses.addUser, Courses.deleteEmailTemplate,
      Courses.main]
    repeat' split
    all_goals constructor <;> intro h <;> first | rfl | cases h
  | dashboard who course form =>
    refine within_loginRequired fun admin => ?_
    split
    · exact within_startGeneration ..
    · split <;> exact .refl _ w rfl rfl rfl
  | generateAllEmails who course form =>
    refine within_loginRequired fun admin => ?_
    split
    · exact .refl _ w rfl rfl rfl
    · exact within_startGeneration ..
  | usersDashboard who form =>
    refine within_loginRequired fun admin => ?_
    split
    · rename_i f
      unfold createTemplate
      cases f.body <;> cases f.footer <;> constructor <;> intro _ <;> rfl
    · exact .refl _ w rfl rfl rfl
  | _ =>
    -- pages behind the login, whose branches assign fields in the scope only
    refine within_loginRequired fun admin => ?_
    try simp only
    repeat' split
    all_goals constructor <;> intro h <;> first | rfl | cases h

/-- what the requests of subscribers do to the world: the table changes by `change`, the key by `assignsKey` -/
theorem serve_subscriptions (L : Lib) (w : World) {r : Request} (hr : r.scope.subscriptions = true)
    (hother : ∀ who campaign stripe, r ≠ .deleteCampaign who campaign stripe) :
    (serve L w r).world =
      { w with
        db := { w.db with user := (change L w r).apply w.db.user }
        apiKey := (assignsKey w.db r).getD w.apiKey } := by
  cases r with
  | register code form stripe commit =>
    simp only [serve, change, assignsKey]
    cases ha : admitted w.db code form with
    | none =>
      rw [(register_refused ha).1]
      rfl
    | some p =>
      obtain ⟨course, price, email⟩ := p
      rw [register_admitted ha, enrol_world]
      simp only
      split_ifs <;> rfl
  | handleWebhook payload sigHeader stripe =>
    simp only [serve, change, assignsKey, handleWebhook_world]
    rfl
  | unsubscribe user campaign post stripe =>
    simp only [serve, change, assignsKey]
    cases ht : Auth.unsubscribeTarget w.db user campaign post with
    | none =>
      rw [(Auth.unsubscribe_none ht).1]
      rfl
    | some p =>
      rw [(Auth.unsubscribe_out ht).1]
      rfl
  | unsubscribeuser who userId campaign stripe =>
    simp only [serve, change, assignsKey]
    cases ht : Courses.unsubscribeuserTarget w.db who userId campaign with
    | none =>
      rw [(Courses.unsubscribeuser_none ht).1]
      rfl
    | some p =>
      obtain ⟨u, resource⟩ := p
      rw [(Courses.unsubscribeuser_out ht).1]
      cases resource <;> rfl
  | addUser form =>
    simp only [serve, change, assignsKey, addUser_world]
    rfl
  | deleteCampaign who campaign stripe => exact absurd rfl (hother who campaign stripe)
  | _ => cases hr

/-- **Subscribers and key.** One request changes the subscriber table by `change` and the key by `assignsKey`. -/
theorem next_user_apiKey (L : Lib) (w : World) (r : Request) :
    ((app L).next w r).db.user = (change L w r).apply w.db.user ∧
      ((app L).next w r).apiKey = (assignsKey w.db r).getD w.apiKey := by
  rw [app_next]
  cases r with
  | register | handleWebhook | unsubscribe | unsubscribeuser | addUser =>
    rw [serve_subscriptions L w rfl fun who campaign stripe h => by cases h]
    exact ⟨rfl, rfl⟩
  | deleteCampaign who campaign stripe =>
    simp only [serve, change, assignsKey, deleteCampaign_world]
    cases currentUser w.db who with
    | none => exact ⟨rfl, rfl⟩
    | some admin =>
      cases w.db.course.get campaign with
      | none => exact ⟨rfl, rfl⟩
      | some resource =>
        refine ⟨rfl, ?_⟩
        simp only
        split_ifs <;> rfl
  | _ => exact ⟨(serve_within L w _).user rfl, (serve_within L w _).apiKey rfl⟩

theorem next_user (L : Lib) (w : World) (r : Request) :
    ((app L).next w r).db.user = (change L w r).apply w.db.user := (next_user_apiKey L w r).1

theorem next_apiKey (L : Lib) (w : World) (r : Request) :
    ((app L).next w r).apiKey = (assignsKey w.db r).getD w.apiKey := (next_user_apiKey L w r).2

/-! ## Why the subscriber table changes -/

/-- the requests behind a change, with what each has checked in the state in which it is served -/
inductive Cause (L : Lib) (w : World) : Request → Change → Prop
  | silent (r : Request) : Cause L w r .none
  | added {email : String} {compaign : ℕ} (hc : (w.db.course.get compaign).isSome) :
      Cause L w (.addUser (some (email, compaign))) (.enrol (addedUser email compaign))
  | free {code : String} {form : Option (Option String)} {stripe : ℕ → Reply} {course : Rec Course} {price : ℚ}
      {email : String} (ha : admitted w.db code form = some (course, price, email)) (hf : course.cols.free = true) :
      Cause L w (.register code form stripe true) (.enrol (freeUser email course.id))
  | pending {code : String} {form : Option (Option String)} {stripe : ℕ → Reply} {course : Rec Course} {price : ℚ}
      {email customer : String} (ha : admitted w.db code form = some (course, price, email))
      (hf : course.cols.free = false) :
      Cause L w (.register code form stripe true) (.enrol (pendingUser email customer (amountOf price) course.id))
  | payment {payload : String} {sigHeader : Option String} {stripe : ℕ → Reply} {a : Accepted}
      (ha : accepted L w.db payload sigHeader = some a) (hp : a.isPayment) :
      Cause L w (.handleWebhook payload sigHeader stripe) (.activate a.user.id)
  | subscription {payload : String} {sigHeader : Option String} {stripe : ℕ → Reply} {a : Accepted} {id : String}
      (ha : accepted L w.db payload sigHeader = some a) (ht : a.event.type = some .customerSubscriptionCreated)
      (hid : a.object.id = some id) :
      Cause L w (.handleWebhook payload sigHeader stripe) (.link a.user.id id)
  | unsubscribed {user campaign : ℕ} {post : Bool} {stripe : ℕ → Reply} {u : Rec User} {course : Rec Course}
      (ht : Auth.unsubscribeTarget w.db user campaign post = some (u, course)) (hs : (stripe 0).isOk = true) :
      Cause L w (.unsubscribe user campaign post stripe) (.cancel u.id)
  | removed {who : Option ℕ} {userId campaign : ℕ} {stripe : ℕ → Reply} {u : Rec User} {resource : Option (Rec Course)}
      (ht : Courses.unsubscribeuserTarget w.db who userId campaign = some (u, resource)) :
      Cause L w (.unsubscribeuser who userId campaign stripe) (.cancel u.id)

theorem enrolChange_cause {L : Lib} {w : World} {code : String} {form : Option (Option String)} {stripe : ℕ → Reply}
    {commit : Bool} {course : Rec Course} {price : ℚ} {email : String}
    (ha : admitted w.db code form = some (course, price, email)) :
    Cause L w (.register code form stripe commit) (enrolChange w course email price stripe commit) := by
  unfold enrolChange
  split_ifs with hf hc
  · subst hc
    exact .free ha hf
  · exact .silent _
  · split
    · exact .silent _
    · split_ifs with hu
      · obtain ⟨_, rfl⟩ := hu
        exact .pending ha (by simpa using hf)
      · exact .silent _

theorem webhookChange_cause (L : Lib) (w : World) (payload : String) (sigHeader : Option String) (stripe : ℕ → Reply) :
    Cause L w (.handleWebhook payload sigHeader stripe) (webhookChange L w.db payload sigHeader) := by
  unfold webhookChange
  cases ha : accepted L w.db payload sigHeader with
  | none => exact .silent _
  | some a =>
    simp only [Accepted.change]
    split
    · rename_i ht
      exact .payment ha (Or.inl ht)
    · rename_i ht
      exact .payment ha (Or.inr ht)
    · rename_i ht
      split
      · exact .silent _
      · rename_i hid
        exact .subscription ha ht hid
    · exact .silent _

/-- **Causes.** Every change of the subscriber table has one of these causes. -/
theorem change_cause (L : Lib) (w : World) (r : Request) : Cause L w r (change L w r) := by
  cases r with
  | register code form stripe commit =>
    simp only [change]
    split
    · exact .silent _
    · rename_i ha
      exact enrolChange_cause ha
  | handleWebhook payload sigHeader stripe => exact webhookChange_cause L w payload sigHeader stripe
  | unsubscribe user campaign post stripe =>
    simp only [change]
    split
    · exact .silent _
    · rename_i ht
      split_ifs with hs
      · exact .unsubscribed ht hs
      · exact .silent _
  | unsubscribeuser who userId campaign stripe =>
    simp only [change]
    split
    · exact .silent _
    · rename_i ht
      exact .removed ht
  | addUser form =>
    simp only [change, addUserChange]
    split
    · exact .silent _
    · split_ifs with hc
      · exact .added hc
      · exact .silent _
  | _ => exact .silent _

/-! ## Subscriber rows along a run -/

/-- rows stay, with the columns they were inserted with -/
theorem row_persists (L : Lib) {w : World} {u : Rec User} (hu : u ∈ w.db.user.rows) (reqs : List Request) :
    ∃ u' ∈ ((app L).run w reqs).db.user.rows, u'.id = u.id ∧ Kept u.cols u'.cols := by
  refine (app L).run_inv (I := fun w' => ∃ u' ∈ w'.db.user.rows, u'.id = u.id ∧ Kept u.cols u'.cols) ?_
    ⟨u, hu, rfl, Kept.refl _⟩ reqs
  rintro w' r ⟨v, hv, hid, hk⟩
  obtain ⟨v', hv', hid', hk', _⟩ := (change L w' r).row_persists hv
  rw [← next_user] at hv'
  exact ⟨v', hv', hid'.trans hid, hk.trans hk'⟩

/-! ## A small installation

Two campaigns of two admins, each with its own Stripe key and webhook secret, and the super admin; no subscribers yet.
The runs below that show what can happen start here. -/

namespace Sample

def superAdmin : Adminuser where
  email := "root@example.com"
  isVerified := true
  role := .superAdmin
  stripeAccountId := some "acct_root"

def campaign (owner : ℕ) (url key secret : String) : Course where
  type := some 1
  name := some "Letters"
  ownerId := some owner
  url := some url
  price := some 10
  productId := some "prod_1"
  stripeApiKey := some key
  endpointSecret := some secret

def start : World where
  db :=
    { adminuser := ((Table.empty.insert superAdmin).insert { email := "ada@example.com", isVerified := true }).insert
        { email := "bob@example.com", isVerified := true }
      user := .empty
      course := (Table.empty.insert (campaign 2 "Ab3dE" "sk_1" "whsec_1")).insert (campaign 3 "Xy9zW" "sk_2" "whsec_2")
      courseResource := .empty
      emailTemplates := .empty
      generatedEmails := .empty }
  apiKey := none
  redis := fun _ => none
  uploads := fun _ => none
  adverts := fun _ => none
  threads := []

/-- the answers to the six calls of a paid registration -/
def answers (customer : String) : ℕ → Reply
  | 0 => .ok { id := customer }
  | 1 => .ok { id := "price_1" }
  | 2 => .ok { id := "prod_1" }
  | 3 => .ok { id := "price_1", unitAmount := some 1000, currency := some "usd" }
  | 4 => .ok { id := "price_2" }
  | 5 => .ok { id := "cs_1", url := some "/pay/cs_1" }
  | _ => .error .stripeError

def working : ℕ → Reply := fun _ => .ok { id := "obj_1" }

def failing : ℕ → Reply := fun _ => .error .stripeError

def checkoutPayload : String :=
  "\x7b\"id\": \"evt_1\", \"type\": \"checkout.session.completed\", \"data\": \x7b\"object\": " ++
  "\x7b\"id\": \"cs_1\", \"customer\": \"cus_1\", \"amount_total\": 1210, \"currency\": \"usd\"\x7d\x7d\x7d"

def subscriptionPayload : String :=
  "\x7b\"id\": \"evt_2\", \"type\": \"customer.subscription.created\", \"data\": \x7b\"object\": " ++
  "\x7b\"id\": \"sub_1\", \"customer\": \"cus_1\"\x7d\x7d\x7d"

def checkoutEvent : Event where
  id := some "evt_1"
  type := some .checkoutSessionCompleted
  object := some { id := some "cs_1", customer := some "cus_1", amountTotal := some 1210, currency := some "usd" }

def subscriptionEvent : Event where
  id := some "evt_2"
  type := some .customerSubscriptionCreated
  object := some { id := some "sub_1", customer := some "cus_1", amountTotal := none, currency := none }

/-- a header that is a signature of these payloads under the first campaign's secret -/
def signature : Option String := some "t=1700000000,v1=5f1c"

def lib : Lib where
  parse payload :=
    if payload = checkoutPayload then some checkoutEvent
    else if payload = subscriptionPayload then some subscriptionEvent
    else none
  constructEvent _ sigHeader secret := if sigHeader = signature ∧ secret = some "whsec_1" then .ok else .refused
  dumps _ := "[]"
  loads _ := none
  secureFilename name := name
  repr _ := "Exception()"
  verifyToken _ := none

def roleKey : List Char := "\x7b\"role\": ".toList

def contentKey : List Char := ", \"content\": ".toList

/-- `json.dumps` of a message -/
def writeMessage (m : ChatMessage) : List Char :=
  roleKey ++ (Json.quote m.role ++ (contentKey ++ (Json.quote m.content ++ ['\x7d'])))

def readMessage (s : List Char) : Option (ChatMessage × List Char) :=
  (Json.expect roleKey s).bind fun s => (Json.unquote s).bind fun role =>
    (Json.expect contentKey role.2).bind fun s => (Json.unquote s).bind fun content =>
      (Json.expect ['\x7d'] content.2).map fun s => (⟨role.1, content.1⟩, s)

theorem readMessage_writeMessage (m : ChatMessage) (rest : List Char) : readMessage (writeMessage m ++ rest) = some (m, rest) := by
  simp only [readMessage, writeMessage, List.append_assoc, Json.expect_append, Json.unquote_quote, Option.bind_some,
    Option.map_some]

/-- the library with the JSON texts of conversations -/
def json : Lib :=
  { lib with
    dumps := fun messages => String.ofList (Json.writeArray writeMessage messages)
    loads := fun text =>
      (Json.readArray readMessage text.toList).bind fun p => if p.2 = [] then some p.1 else none }

theorem json_loads (messages : List ChatMessage) : json.loads (json.dumps messages) = some messages := by
  have hread := Json.readArray_writeArray readMessage_writeMessage (fun m => ⟨_, _, rfl, by decide⟩) messages []
  rw [List.append_nil] at hread
  simp only [json, String.toList_ofList, hread, Option.bind_some, if_true]

example : json.dumps [⟨"user", "ñ\" 😀"⟩] =
    "[\x7b\"role\": \"user\", \"content\": \"\\u00f1\\\" \\ud83d\\ude00\"\x7d]" := by decide +kernel

/-- a paid registration of `ann` in the first campaign, whose customer id is the one of the payloads -/
def registration : Request := .register "Ab3dE" (some (some "ann@example.com")) (answers "cus_1") true

def checkout : Request := .handleWebhook checkoutPayload signature working

def subscription : Request := .handleWebhook subscriptionPayload signature working

/-- `ann` as an active subscriber of the first campaign -/
def ann : Rec User where
  id := 1
  cols :=
    { email := "ann@example.com", customerId := some "cus_1", paymentIntentId := some "sub_1", amount := some 1000
      status := some 2, courseId := some 1 }

/-- the state after registration, subscription and payment -/
def subscribed : World := (app lib).run start [registration, subscription, checkout]

/-- `ann` is the one subscriber then, and active -/
theorem subscribed_rows : subscribed.db.user.rows = [ann] := by
  decide +kernel

end Sample

end Newsletter
