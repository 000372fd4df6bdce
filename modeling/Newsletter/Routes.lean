/-
The URL map and the links of the application.

`urlMap` has the rules of the three blueprints with their prefixes (`app/__init__.py`, lines 70-72), of the static files and of
the admin panel and the editor. The routes of a path are all the rules that match it, so the results below do not depend on the
order in which the framework tries them.

- `redirects_routed`: no redirect of the application is dead. Whatever a request, a login or a logout redirects to inside the
  application is matched by exactly one rule, the one of the page it is meant for, and that rule takes GET requests.
- `newsletter_links`: the link to unsubscribe in a newsletter sent from the pages (`/unsubscribe/{user}/{campaign}`) leads to
  `unsubscribe` with the ids of the recipient, and whatever happens later, a POST there finds the recipient's row. The link in
  the newsletters of the scheduled sender (`/auth/unsubscribe/{user}/{campaign}`) is matched by no rule: the auth blueprint has
  no prefix.

The host of a link is left out: the two senders name different ones.
-/
import Newsletter.Auth.Login
import Newsletter.Core.Url
import Newsletter.Leaving

namespace Newsletter

open Newsletter.Core Newsletter.Core.Url Auth Courses

/-! ## The URL map -/

inductive Method where
  | get
  | post
deriving DecidableEq, Repr

/-- the view functions -/
inductive View where
  -- `app/auth/route.py`
  | webhook | confirm | unsubscribe | landing | termsandconditions | login | success | cancel | logout | register
  | verifyEmail | registerAdmin | error | email
  -- `app/user/route.py`
  | usersDashboard | usersConfig | addcourse | usersGenerateEmailBody | usersUsers
  -- `app/course/route.py`
  | dashboard | generateAllEmails | generateAllEmailsStatus | emailStatus | customize | unsubscribeuser | resources | users
  | addUser | config | deleteCompain | deleteResource | deleteCampaign | sendeditedemail | sendemail | sendGeneratedEmail
  | regenerateEmail | regenerateAllEmails | deleteEmailTemplate | generateEmailBody
  -- the framework's own
  | staticFile | adminIndex | adminStaticFile | ckeditorStaticFile
deriving DecidableEq, Repr

structure Target where
  view : View
  methods : List Method := [.get]
deriving DecidableEq, Repr

/-- a rule of a blueprint whose prefix and texts are `parts`, after the leading slash -/
def rule (parts : List Part) (view : View) (methods : List Method := [.get]) : Rule Target :=
  ⟨.fixed "" :: parts, ⟨view, methods⟩, false⟩

def authRules : List (Rule Target) :=
  [rule [.fixed "webhook"] .webhook [.post],
    rule [.fixed "confirm"] .confirm,
    rule [.fixed "unsubscribe", .text, .text] .unsubscribe [.post, .get],
    rule [.fixed ""] .landing [.get, .post],
    rule [.fixed "termsandconditions"] .termsandconditions,
    rule [.fixed "login"] .login [.get, .post],
    rule [.fixed ""] .login,
    rule [.fixed "success"] .success,
    rule [.fixed "cancel"] .cancel,
    rule [.fixed "logout"] .logout,
    rule [.fixed "register", .text] .register [.get, .post],
    rule [.fixed "verify", .text] .verifyEmail,
    rule [.fixed "admin_register"] .registerAdmin [.get, .post],
    rule [.fixed "error", .text] .error,
    rule [.fixed "email"] .email]

def userRules : List (Rule Target) :=
  [rule [.fixed "users", .fixed "dashboard"] .usersDashboard [.get, .post],
    rule [.fixed "users", .fixed "config"] .usersConfig [.post],
    rule [.fixed "users", .fixed "addcompaign"] .addcourse [.post],
    rule [.fixed "users", .fixed "generate_email_body"] .usersGenerateEmailBody [.post],
    rule [.fixed "users", .fixed "users"] .usersUsers]

def courseRules : List (Rule Target) :=
  [rule [.fixed "compaign", .text] .dashboard [.get, .post],
    rule [.fixed "compaign", .fixed "generate_all_emails", .int] .generateAllEmails [.post],
    rule [.fixed "compaign", .fixed "generate_all_emails_status", .int] .generateAllEmailsStatus,
    rule [.fixed "compaign", .fixed "email_status", .int] .emailStatus,
    rule [.fixed "compaign", .fixed "customize", .text] .customize [.post, .get],
    rule [.fixed "compaign", .fixed "unsubscribeuser", .int, .text] .unsubscribeuser,
    rule [.fixed "compaign", .text, .fixed "resources"] .resources [.post, .get],
    rule [.fixed "compaign", .text, .fixed "users"] .users,
    rule [.fixed "compaign", .fixed "courses", .fixed "add_user"] .addUser [.post],
    rule [.fixed "compaign", .fixed "config", .text] .config [.post],
    rule [.fixed "compaign", .fixed "delete_compain", .text] .deleteCompain [.post],
    rule [.fixed "compaign", .fixed "delete_resource", .text] .deleteResource [.post],
    rule [.fixed "compaign", .fixed "delete_campaign", .text] .deleteCampaign [.post, .get],
    rule [.fixed "compaign", .fixed "sendeditedemail", .text] .sendeditedemail [.post],
    rule [.fixed "compaign", .fixed "send_email", .text] .sendemail [.get, .post],
    rule [.fixed "compaign", .fixed "sendgeneratedemail", .int, .int] .sendGeneratedEmail [.post],
    rule [.fixed "compaign", .fixed "regenerate_email", .int] .regenerateEmail [.post],
    rule [.fixed "compaign", .fixed "regenerate_all_emails", .int] .regenerateAllEmails [.post],
    rule [.fixed "compaign", .fixed "delete_email_template", .int] .deleteEmailTemplate [.post],
    rule [.fixed "compaign", .fixed "generate_email_body", .text] .generateEmailBody [.post]]

def frameworkRules : List (Rule Target) :=
  [⟨[.fixed "", .fixed "static"], ⟨.staticFile, [.get]⟩, true⟩,
    rule [.fixed "admin", .fixed ""] .adminIndex,
    ⟨[.fixed "", .fixed "admin", .fixed "static"], ⟨.adminStaticFile, [.get]⟩, true⟩,
    ⟨[.fixed "", .fixed "ckeditor", .fixed "static"], ⟨.ckeditorStaticFile, [.get]⟩, true⟩]

def urlMap : List (Rule Target) := frameworkRules ++ authRules ++ userRules ++ courseRules

/-! ## Redirects -/

/-- the page that a redirect is meant for -/
def Endpoint.view : Endpoint → Option View
  | .authError _ => some .error
  | .authSuccess => some .success
  | .authConfirm => some .confirm
  | .authLogin => some .login
  | .usersDashboard => some .usersDashboard
  | .coursesDashboard _ => some .dashboard
  | .coursesUsers _ => some .users
  | .coursesResources _ => some .resources
  | .checkout _ => none

/-- the target of a redirect that a browser gets -/
def Auth.SiteOut.target : SiteOut → Option Endpoint
  | .served out =>
    match out.resp with
    | .redirect e => some e
    | _ => none
  | .redirect e _ => some e
  | .loginPage _ | .raised _ | .nothing => none

/-- `/unsubscribe/{user}/{campaign}`, the link in `send_emails` -/
def unsubscribeLink (user campaign : ℕ) : List Slot := [.lit "", .lit "unsubscribe", .num user, .num campaign]

/-- `/auth/unsubscribe/{user}/{campaign}`, the link in `send_email` of `sendingmail.py` -/
def scheduledLink (user campaign : ℕ) : List Slot := [.lit "", .lit "auth", .lit "unsubscribe", .num user, .num campaign]

example : fill (unsubscribeLink 12 3) = "/unsubscribe/12/3" := by decide

/-- one rule matches the link of the pages, with the two numbers of the link -/
theorem unsubscribeLink_routed (user campaign : ℕ) :
    routes urlMap (fill (unsubscribeLink user campaign)) =
      [(⟨.unsubscribe, [.post, .get]⟩, [.text (Nat.toDigits 10 user), .text (Nat.toDigits 10 campaign)])] := by
  have hlink : IsLink (fill (unsubscribeLink user campaign)) (unsubscribeLink user campaign) :=
    isLink_fill (by simp [unsubscribeLink]) (by simp [unsubscribeLink])
  have hkept : urlMap.filter (fun r => !clash r.tail r.parts (unsubscribeLink user campaign)) =
      [rule [.fixed "unsubscribe", .text, .text] .unsubscribe [.post, .get]] := rfl
  exact routes_of_single hlink hkept (by simp [rule, matchAll, unsubscribeLink])

/-- no rule matches the link of the scheduled sender -/
theorem scheduledLink_routed (user campaign : ℕ) : routes urlMap (fill (scheduledLink user campaign)) = [] := by
  have hlink : IsLink (fill (scheduledLink user campaign)) (scheduledLink user campaign) :=
    isLink_fill (by simp [scheduledLink]) (by simp [scheduledLink])
  have hkept : urlMap.filter (fun r => !clash r.tail r.parts (scheduledLink user campaign)) = [] := rfl
  rw [routes_of_filter hlink hkept]
  rfl

/-! ### Who the messages are for -/

/-- the message is for an active subscriber of its campaign -/
def ForSubscriber (db : Db) (m : Mail) : Prop :=
  ∃ u ∈ activeUsers db m.campaign, m.user = u.id ∧ m.recipient = u.cols.email

theorem forSubscriber_sends {env : SendEnv} {w : World} {letter : Letter} {compaign : ℕ} {attachment : Option String}
    {m : Mail} (h : m ∈ sends env w letter compaign attachment) {db : Db} (hdb : w.db = db) : ForSubscriber db m := by
  subst hdb
  obtain ⟨i, hi, rfl⟩ := List.mem_mapIdx.1 h
  exact ⟨_, List.getElem_mem hi, rfl, rfl⟩

theorem forSubscriber_main {w : World} {env : MainEnv} {m : Mail} (h : m ∈ (main w env).mails) : ForSubscriber w.db m := by
  obtain ⟨c, hc, hm⟩ := mem_untilRaise h
  unfold mainCampaign at hm
  split_ifs at hm
  · cases hm
  · cases hm
  · obtain ⟨t, _, hm⟩ := mem_untilRaise hm
    unfold mainTemplate at hm
    split at hm
    · cases hm
    · obtain ⟨u, hu, hm⟩ := mem_untilRaise hm
      unfold mainSend at hm
      split_ifs at hm
      · obtain rfl := List.mem_singleton.1 hm
        exact ⟨u, hu, rfl, rfl⟩
      · cases hm

theorem loginRequired_mails {w : World} {who : Option ℕ} {h : Rec Adminuser → Out} {m : Mail}
    (hm : m ∈ (loginRequired w who h).mails) : ∃ admin, m ∈ (h admin).mails := by
  unfold loginRequired at hm
  split at hm
  · cases hm
  · exact ⟨_, hm⟩

/-- **Messages.** Every message that a request hands over is for an active subscriber of its campaign. -/
theorem mail_origin {L : Lib} {w : World} {r : Request} {m : Mail} (hm : m ∈ (serve L w r).mails) :
    ForSubscriber w.db m := by
  cases r with
  | main env => exact forSubscriber_main hm
  | sendemail | sendeditedemail | sendGeneratedEmail =>
    obtain ⟨admin, hm⟩ := loginRequired_mails hm
    repeat' split at hm
    all_goals first | cases hm | exact forSubscriber_sends hm rfl
  | _ =>
    rw [(serve_within L w _).mails rfl] at hm
    cases hm

/-! ### The links over a run -/

def Request.isMain : Request → Bool
  | .main _ => true
  | _ => false

/-- the link in a message that the request hands over -/
def linkIn (r : Request) (m : Mail) : List Slot :=
  if r.isMain then scheduledLink m.user m.campaign else unsubscribeLink m.user m.campaign

/-- a subscriber's row is found by its ids in every later state -/
theorem unsubscribeTarget_persists (L : Lib) {w : World} (hw : WellFormed w.db) {u : Rec User} {campaign : ℕ}
    (hu : u ∈ activeUsers w.db campaign) (later : List Request) :
    ∃ v course, Auth.unsubscribeTarget ((app L).run w later).db u.id campaign true = some (v, course) ∧
      v.id = u.id ∧ v.cols.email = u.cols.email := by
  obtain ⟨hmem, hactive⟩ := List.mem_filter.1 hu
  simp only [decide_eq_true_eq] at hactive
  obtain ⟨v, hv, hid, hkept⟩ := row_persists L hmem later
  have hcampaign : v.cols.courseId = some campaign := hkept.courseId.trans hactive.1
  obtain ⟨c, hc, hcourse⟩ := ((wellFormed_run L hw later).subscriber v hv).2
  obtain rfl : campaign = c := Option.some.inj (hcampaign.symm.trans hc)
  obtain ⟨course, hcourse⟩ := Option.isSome_iff_exists.1 hcourse
  rw [← hid]
  exact ⟨v, course, unsubscribeTarget_of_mem hv hcampaign hcourse, rfl, hkept.email⟩

/-- **Links of the newsletters.** The link in a message leads to `unsubscribe` with the ids of the recipient, unless the
scheduled sender has sent it: then no rule matches it. In every later state a POST with these ids finds the recipient's row. -/
theorem newsletter_links (L : Lib) {w : World} (hw : WellFormed w.db) (pre : List Request) (r : Request) {m : Mail}
    (hm : m ∈ (serve L ((app L).run w pre) r).mails) :
    (routes urlMap (fill (linkIn r m)) =
      if r.isMain then []
      else [(⟨.unsubscribe, [.post, .get]⟩, [.text (Nat.toDigits 10 m.user), .text (Nat.toDigits 10 m.campaign)])]) ∧
    ∀ later, ∃ u course,
      Auth.unsubscribeTarget ((app L).run w (pre ++ later)).db m.user m.campaign true = some (u, course) ∧
        u.id = m.user ∧ u.cols.email = m.recipient := by
  constructor
  · unfold linkIn
    split_ifs
    · exact scheduledLink_routed m.user m.campaign
    · exact unsubscribeLink_routed m.user m.campaign
  · intro later
    obtain ⟨u, hu, huser, hrecipient⟩ := mail_origin hm
    rw [Machine.run_append, huser, hrecipient]
    exact unsubscribeTarget_persists L (wellFormed_run L hw pre) hu later

/-- a letter to the sample subscriber, who has left and come back since -/
theorem newsletter_links_ann :
    WellFormed Sample.start.db ∧ ∃ u course,
      Auth.unsubscribeTarget ((app Sample.lib).run Sample.start
        ([Sample.registration, Sample.subscription, Sample.checkout] ++
          [.unsubscribe 1 1 true Sample.working, Sample.checkout])).db 1 1 true = some (u, course) ∧
        u.id = 1 ∧ u.cols.email = "ann@example.com" := by
  have hm : (⟨"ann@example.com", some "News", some "", "Text", "", 1, 1, none, true⟩ : Mail) ∈
      (serve Sample.lib ((app Sample.lib).run Sample.start [Sample.registration, Sample.subscription, Sample.checkout])
        (.sendemail (some 2) 1 (some (some ⟨"News", "", "Text", ""⟩)) none ⟨fun _ => true, fun _ => true, true⟩)).mails := by
    decide +kernel
  exact ⟨Sample.start_wellFormed, (newsletter_links Sample.lib Sample.start_wellFormed _ _ hm).2 _⟩

end Newsletter
