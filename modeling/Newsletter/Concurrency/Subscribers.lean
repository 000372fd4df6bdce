/-
Concurrent requests on the subscriber table: `register`, `handle_webhook` and `unsubscribe` (`app/auth/route.py`),
`unsubscribeuser` and `add_user` (`app/course/route.py`).

Such a request reads in one transaction, calls Stripe, and commits. Between its reads and its commit other requests may commit.
A request in progress (`InProgress`) knows from what it has read what it will change; its commit is column-wise: a column that was
read with the value that it is set to is not written (`Change.clean`).

- `subscribers_linearizable_iff`: at every point of an interleaving the database is the one that the same requests leave if they
  are served one after another, in the order of their linearization points, exactly if no request commits that has been overtaken
  (`Overtaken`): a registration whose address has become active in the campaign, or an `unsubscribeuser` for a campaign that does
  not exist whose row has got a subscription. A request with something to write takes effect at its commit, one without at its
  reads; both are steps of its own, so that the order respects real time. In particular no webhook event, no other cancellation
  and no added subscriber is lost, whatever else is in progress.
-/
import Newsletter.Database
import Newsletter.Core.Pool

namespace Newsletter

open Newsletter.Core Auth Courses

/-- nothing is to be written, the row having been read with these columns -/
def Change.clean (loaded : Option User) : Change → Bool
  | .none => true
  | .enrol _ => false
  | .activate _ => loaded.all fun u => u.status = some 2
  | .link _ s => loaded.all fun u => u.paymentIntentId = some s
  | .cancel _ => loaded.all fun u => u.status = some 1

/-- the columns of the row that a change rewrites -/
def Change.loads (c : Change) (t : Table User) : Option User := (c.target.bind t.get).map Rec.cols

namespace Concurrency

structure InProgress where
  request : Request
  change : Change
  loaded : Option User

/-- there is something to write -/
def InProgress.dirty (p : InProgress) : Bool := !p.change.clean p.loaded

structure Traffic where
  world : World
  serving : Pool InProgress
  /-- the requests that have taken effect, in this order -/
  log : List Request

inductive TrafficEvent where
  /-- a request reads -/
  | read (n : ℕ) (r : Request)
  /-- the request `n` commits -/
  | commit (n : ℕ)

def trafficStep (L : Lib) (s : Traffic) : TrafficEvent → Traffic
  | .read n r =>
    match s.serving n with
    | some _ => s
    | none =>
      let c := change L s.world r
      let p : InProgress := ⟨r, c, c.loads s.world.snapshot.user⟩
      { s with serving := s.serving.put n (some p), log := if p.dirty then s.log else s.log ++ [r] }
  | .commit n =>
    match s.serving n with
    | none => s
    | some p =>
      if p.dirty then
        { world := s.world.setUser (p.change.apply s.world.db.user), serving := s.serving.put n none
          log := s.log ++ [p.request] }
      else { s with serving := s.serving.put n none }

def traffic (L : Lib) : Machine Traffic TrafficEvent Unit := ⟨fun s e => (trafficStep L s e, ())⟩

def noTraffic (w : World) : Traffic := ⟨w, .empty, []⟩

/-- the requests of this module -/
def Served : Request → Prop
  | .register .. | .handleWebhook .. | .unsubscribe .. | .unsubscribeuser .. | .addUser .. => True
  | _ => False

/-! ## One request after another -/

theorem enrolChange_apiKey (w w' : World) (course : Rec Course) (email : String) (price : ℚ) (stripe : ℕ → Reply)
    (commit : Bool) : enrolChange w course email price stripe commit = enrolChange w' course email price stripe commit := by
  unfold enrolChange
  rw [Prog.exec_val_reg stripe _ 0 w.apiKey w'.apiKey]

/-- what a request changes depends on the database only -/
theorem change_congr (L : Lib) {w w' : World} (h : w.db = w'.db) (r : Request) : change L w r = change L w' r := by
  cases r with
  | register code form stripe commit =>
    simp only [change, h]
    cases admitted w'.db code form with
    | none => rfl
    | some p => exact enrolChange_apiKey w w' p.1 p.2.2 p.2.1 stripe commit
  | _ => simp only [change, h]

theorem next_db_served (L : Lib) (w : World) {r : Request} (h : Served r) :
    ((app L).next w r).db = { w.db with user := (change L w r).apply w.db.user } := by
  rw [app_next]
  cases r with
  | register | handleWebhook | unsubscribe | unsubscribeuser | addUser =>
    rw [serve_subscriptions L w rfl fun who campaign stripe h => by cases h]
  | _ => exact absurd h id

/-! ## What a commit of another request does to a request in progress -/

/-- a query over the columns that stay finds the same row after a change -/
theorem first_apply {t : Table User} {p : Rec User → Bool} (hp : ∀ u v, v.id = u.id → Kept u.cols v.cols → p v = p u)
    {u : Rec User} (h : t.first p = some u) (c : Change) :
    ∃ v, (c.apply t).first p = some v ∧ v.id = u.id ∧ Kept u.cols v.cols := by
  have hmodify : ∀ (k : ℕ) {f : User → User}, (∀ x, Kept x (f x)) →
      ∃ v, (t.modify k f).first p = some v ∧ v.id = u.id ∧ Kept u.cols v.cols := by
    intro k f hf
    refine ⟨Table.setAt k f u, ?_, Table.setAt_id .., kept_setAt hf u⟩
    rw [Table.first_modify fun r => hp r _ (Table.setAt_id ..) (kept_setAt hf r), h, Option.map_some]
  cases c with
  | none => exact ⟨u, h, rfl, Kept.refl _⟩
  | enrol x => exact ⟨u, Table.first_insert_of_some h x, rfl, Kept.refl _⟩
  | activate k => exact hmodify k kept_setActive
  | link k s => exact hmodify k (kept_setSubscription s)
  | cancel k => exact hmodify k kept_setInactive

theorem isSome_get_apply {t : Table User} {k : ℕ} (h : (t.get k).isSome) (c : Change) : ((c.apply t).get k).isSome := by
  obtain ⟨u, hu⟩ := Option.isSome_iff_exists.1 h
  obtain ⟨v, hv, _⟩ := first_apply (fun x y hxy _ => by rw [hxy]) hu c
  exact Option.isSome_iff_exists.2 ⟨v, hv⟩

/-- a registration that would be refused now; a removal that would now fail before it writes, and has something to write: its
campaign does not exist, and the key of the campaign is needed for the row's subscription -/
def Overtaken (w : World) : Request → Prop
  | .register code form _ _ => admitted w.db code form = none
  | .unsubscribeuser _ userId campaign _ =>
    w.db.course.get campaign = none ∧
      ∃ u, w.db.user.get userId = some u ∧ truthy u.cols.paymentIntentId = true ∧ u.cols.status ≠ some 1
  | _ => False

/-- the requests that can be overtaken -/
def Revocable : Request → Prop
  | .register .. | .unsubscribeuser .. => True
  | _ => False

theorem not_overtaken {w : World} {r : Request} (h : ¬ Revocable r) : ¬ Overtaken w r := by
  cases r with
  | register | unsubscribeuser => exact absurd trivial h
  | _ => exact id

section Steady

variable (L : Lib) (w : World) (c : Change)

theorem accepted_apply {payload : String} {sigHeader : Option String} {a : Accepted}
    (h : accepted L w.db payload sigHeader = some a) :
    ∃ v, accepted L (w.setUser (c.apply w.db.user)).db payload sigHeader = some { a with user := v } ∧ v.id = a.user.id := by
  unfold accepted at h
  unfold accepted
  split at h
  · cases h
  · rename_i event object customer hcustomer
    split at h
    · cases h
    · rename_i user huser
      obtain ⟨v, hv, hid, hkept⟩ := first_apply (fun x y _ hxy => by rw [hxy.customerId]) huser c
      have hadmin : superAdminAccount (w.setUser (c.apply w.db.user)).db = superAdminAccount w.db := rfl
      have hv' : ((w.setUser (c.apply w.db.user)).db.user.first fun u => u.cols.customerId = some customer) = some v := hv
      have hcourse : v.cols.courseId.bind (w.setUser (c.apply w.db.user)).db.course.get =
          user.cols.courseId.bind w.db.course.get := by
        rw [hkept.courseId]
        rfl
      simp only [hv', hcourse, hadmin]
      split at h
      · split_ifs at h with hok
        cases h
        exact ⟨v, by simp [*], hid⟩
      · cases h

theorem unsubscribeTarget_apply {user campaign : ℕ} {post : Bool} {u : Rec User} {course : Rec Course}
    (h : Auth.unsubscribeTarget w.db user campaign post = some (u, course)) :
    ∃ v, Auth.unsubscribeTarget (w.setUser (c.apply w.db.user)).db user campaign post = some (v, course) ∧ v.id = u.id := by
  unfold Auth.unsubscribeTarget at h
  split_ifs at h with hpost
  split at h
  · rename_i hfirst hget
    cases h
    obtain ⟨v, hv, hid, _⟩ := first_apply (fun x y hxy hkept => by rw [hxy, hkept.courseId]) hfirst c
    refine ⟨v, ?_, hid⟩
    have hv' : ((w.setUser (c.apply w.db.user)).db.user.first fun u => u.id = user ∧ u.cols.courseId = some campaign) =
        some v := hv
    have hget' : (w.setUser (c.apply w.db.user)).db.course.get campaign = some course := hget
    simp only [Auth.unsubscribeTarget, hpost, if_true, hv', hget']
  · cases h

/-- **Steadiness.** A request that has something to change and cannot be overtaken still changes the same after a commit of another
request. -/
theorem change_apply {r : Request} (hr : Served r) (hnot : ¬ Revocable r) (hsome : change L w r ≠ .none) :
    change L (w.setUser (c.apply w.db.user)) r = change L w r := by
  cases r with
  | handleWebhook payload sigHeader stripe =>
    simp only [change, webhookChange] at hsome ⊢
    cases ha : accepted L w.db payload sigHeader with
    | none => simp [ha] at hsome
    | some a =>
      obtain ⟨v, hv, hid⟩ := accepted_apply L w c ha
      simp only [hv, Accepted.change, hid]
  | unsubscribe user campaign post stripe =>
    cases ht : Auth.unsubscribeTarget w.db user campaign post with
    | none => simp [change, ht] at hsome
    | some p =>
      obtain ⟨v, hv, hid⟩ := unsubscribeTarget_apply w c ht
      simp only [change, ht, hv, hid]
  | addUser form => rfl
  | register | unsubscribeuser => exact absurd trivial hnot
  | _ => exact absurd hr id

end Steady

/-! ## Schedules -/

def TrafficEvent.Served : TrafficEvent → Prop
  | .read _ r => Concurrency.Served r
  | .commit _ => True

/-- what is known of the requests in progress, `db` being the database at the start -/
structure Steady (L : Lib) (db : Db) (s : Traffic) : Prop where
  others : s.world.db = { db with user := s.world.db.user }
  served : ∀ n p, s.serving n = some p → Served p.request
  /-- a request has read a table of the same rows, or fewer -/
  origin : ∀ n p, s.serving n = some p → ∃ v : World, v.db = { db with user := v.db.user } ∧
    (∀ k, (v.db.user.get k).isSome → (s.world.db.user.get k).isSome) ∧ p.change = change L v p.request
  steady : ∀ n p, s.serving n = some p → p.dirty = true → ¬ Revocable p.request → change L s.world p.request = p.change

theorem InProgress.change_ne_none {p : InProgress} (h : p.dirty = true) : p.change ≠ .none := by
  intro hnone
  simp [dirty, hnone, Change.clean] at h

theorem steady_read (L : Lib) {db : Db} {s : Traffic} {n : ℕ} {r : Request} (hr : Served r) (h : Steady L db s) :
    Steady L db ((traffic L).next s (.read n r)) := by
  simp only [Machine.next, traffic, trafficStep]
  split
  · exact h
  · refine ⟨h.others, fun m p hm => ?_, fun m p hm => ?_, fun m p hm => ?_⟩
    · rcases Pool.put_cases hm with ⟨_, hm⟩ | ⟨_, hm⟩
      · exact h.served m p hm
      · cases hm
        exact hr
    · rcases Pool.put_cases hm with ⟨_, hm⟩ | ⟨_, hm⟩
      · exact h.origin m p hm
      · cases hm
        exact ⟨s.world, h.others, fun _ hk => hk, rfl⟩
    · rcases Pool.put_cases hm with ⟨_, hm⟩ | ⟨_, hm⟩
      · exact h.steady m p hm
      · cases hm
        exact fun _ _ => rfl

theorem steady_commit (L : Lib) {db : Db} {s : Traffic} {n : ℕ} (h : Steady L db s) :
    Steady L db ((traffic L).next s (.commit n)) := by
  have hold : ∀ {m : ℕ} {p : InProgress}, s.serving.put n none m = some p → s.serving m = some p := by
    intro m p hm
    rcases Pool.put_cases hm with ⟨_, hm⟩ | ⟨_, hm⟩
    · exact hm
    · cases hm
  simp only [Machine.next, traffic, trafficStep]
  split
  · exact h
  · rename_i q hq
    split_ifs
    · refine ⟨?_, fun m p hm => h.served m p (hold hm), fun m p hm => ?_, fun m p hm hdirty hnot => ?_⟩
      · simp only [World.setUser]
        rw [h.others]
      · obtain ⟨v, hv, hrows, hchange⟩ := h.origin m p (hold hm)
        exact ⟨v, hv, fun k hk => isSome_get_apply (hrows k hk) q.change, hchange⟩
      · have hsame := h.steady m p (hold hm) hdirty hnot
        have hne : change L s.world p.request ≠ .none := hsame ▸ InProgress.change_ne_none hdirty
        exact (change_apply L s.world q.change (h.served m p (hold hm)) hnot hne).trans hsame
    · exact ⟨h.others, fun m p hm => h.served m p (hold hm), fun m p hm => h.origin m p (hold hm),
        fun m p hm => h.steady m p (hold hm)⟩

theorem steady_next (L : Lib) {db : Db} {s : Traffic} {e : TrafficEvent} (he : e.Served) (h : Steady L db s) :
    Steady L db ((traffic L).next s e) := by
  cases e with
  | read n r => exact steady_read L he h
  | commit n => exact steady_commit L h

theorem steady_noTraffic (L : Lib) (w : World) : Steady L w.db (noTraffic w) := by
  refine ⟨rfl, fun n p h => ?_, fun n p h => ?_, fun n p h => ?_⟩ <;> simp [noTraffic] at h

/-! ## Linearization -/

/-- the campaign and the price of a registration depend on the campaigns only -/
theorem admitted_unique {db db' : Db} (hcourse : db'.course = db.course) {code : String} {form : Option (Option String)}
    {x x' : Rec Course × ℚ × String} (h : admitted db code form = some x) (h' : admitted db' code form = some x') : x' = x := by
  have hlinked : linkedCampaign db' code = linkedCampaign db code := by rw [linkedCampaign, linkedCampaign, hcourse]
  unfold admitted at h h'
  rw [hlinked] at h'
  split at h
  · cases h
  · rename_i course hfirst
    simp only [hfirst] at h'
    split at h
    · rename_i price email hprice
      simp only [hprice] at h'
      split_ifs at h h'
      exact Option.some.inj (h'.symm.trans h)
    · cases h

theorem register_change_cases (L : Lib) (w : World) (code : String) (form : Option (Option String)) (stripe : ℕ → Reply)
    (commit : Bool) : change L w (.register code form stripe commit) = .none ∨
      ∃ u, change L w (.register code form stripe commit) = .enrol u := by
  simp only [change]
  split
  · exact Or.inl rfl
  · unfold enrolChange
    split_ifs
    · exact Or.inr ⟨_, rfl⟩
    · exact Or.inl rfl
    · split
      · exact Or.inl rfl
      · split_ifs
        · exact Or.inr ⟨_, rfl⟩
        · exact Or.inl rfl

/-- a registration that had something to insert at its reads inserts the same now, exactly if it has not been overtaken -/
theorem register_apply_iff (L : Lib) {v w : World} (hcourse : w.db.course = v.db.course) {code : String}
    {form : Option (Option String)} {stripe : ℕ → Reply} {commit : Bool}
    (hne : change L v (.register code form stripe commit) ≠ .none) :
    (change L v (.register code form stripe commit)).apply w.db.user =
        (change L w (.register code form stripe commit)).apply w.db.user ↔
      ¬ Overtaken w (.register code form stripe commit) := by
  obtain ⟨u, hu⟩ := (register_change_cases L v code form stripe commit).resolve_left hne
  cases hx : admitted w.db code form with
  | none =>
    -- served now, the registration inserts nothing
    have hnone : change L w (.register code form stripe commit) = .none := by simp only [change, hx]
    refine iff_of_false (fun hsame => ?_) (fun hnot => hnot hx)
    rw [hnone, hu] at hsame
    exact absurd (congrArg Table.next hsame) (by simp [Change.apply, Table.insert])
  | some x =>
    refine iff_of_true ?_ (fun hover => by rw [Overtaken, hx] at hover; cases hover)
    cases hx' : admitted v.db code form with
    | none => simp [change, hx'] at hne
    | some x' =>
      obtain rfl : x' = x := admitted_unique hcourse.symm hx hx'
      simp only [change, hx, hx']
      rw [enrolChange_apiKey]

theorem cancel_apply_eq_iff {t : Table User} {k : ℕ} {u : Rec User} (h : t.get k = some u) :
    (Change.cancel k).apply t = t ↔ u.cols.status = some 1 := by
  constructor
  · intro hsame
    have hget : ((Change.cancel k).apply t).get k = some ⟨u.id, setInactive u.cols⟩ := Table.get_modify_self h _
    rw [hsame, h] at hget
    rw [congrArg Rec.cols (Option.some.inj hget)]
    rfl
  · intro hstatus
    refine Table.modify_of_fixed fun v hv => ?_
    cases h.symm.trans hv
    rw [setInactive, ← hstatus]

/-- the same for a removal -/
theorem unsubscribeuser_apply_iff (L : Lib) {v w : World} (hothers : w.db = { v.db with user := w.db.user })
    (hrows : ∀ k, (v.db.user.get k).isSome → (w.db.user.get k).isSome) {who : Option ℕ} {userId campaign : ℕ}
    {stripe : ℕ → Reply} (hne : change L v (.unsubscribeuser who userId campaign stripe) ≠ .none) :
    (change L v (.unsubscribeuser who userId campaign stripe)).apply w.db.user =
        (change L w (.unsubscribeuser who userId campaign stripe)).apply w.db.user ↔
      ¬ Overtaken w (.unsubscribeuser who userId campaign stripe) := by
  cases ht : Courses.unsubscribeuserTarget v.db who userId campaign with
  | none => simp [change, ht] at hne
  | some q =>
    obtain ⟨u0, resource⟩ := q
    have hspec := Courses.unsubscribeuserTarget_spec ht
    have hbefore : change L v (.unsubscribeuser who userId campaign stripe) = .cancel userId := by
      simp only [change, ht, hspec.id]
    -- login and row are still there
    have hwho : currentUser w.db who = currentUser v.db who := by rw [hothers]; rfl
    obtain ⟨admin, hadmin⟩ := Option.ne_none_iff_exists'.1 hspec.login
    rw [hadmin] at hwho
    have hget0 : v.db.user.get userId = some u0 := Table.get_eq_some_iff.2 ⟨hspec.mem, hspec.id⟩
    obtain ⟨u, hu⟩ := Option.isSome_iff_exists.1 (hrows userId (by rw [hget0]; rfl))
    have hid : u.id = userId := (Table.get_eq_some_iff.1 hu).2
    rw [hbefore]
    simp only [change, Courses.unsubscribeuserTarget, hwho, hu, Overtaken]
    cases hkey : truthy u.cols.paymentIntentId with
    | false => simp [hid, hkey]
    | true =>
      cases hcampaign : w.db.course.get campaign with
      | some course => simp [hid]
      | none => simpa [hkey, Change.apply] using cancel_apply_eq_iff hu

/-- a request in progress changes the table as it would if it were served now, exactly if it has not been overtaken -/
theorem same_apply_iff {L : Lib} {db : Db} {s : Traffic} (h : Steady L db s) {n : ℕ} {p : InProgress} (hp : s.serving n = some p)
    (hdirty : p.dirty = true) :
    p.change.apply s.world.db.user = (change L s.world p.request).apply s.world.db.user ↔ ¬ Overtaken s.world p.request := by
  by_cases hrev : Revocable p.request
  · obtain ⟨v, hv, hrows, horigin⟩ := h.origin n p hp
    have hne : change L v p.request ≠ .none := horigin ▸ InProgress.change_ne_none hdirty
    have hothers : s.world.db = { v.db with user := s.world.db.user } := by
      rw [hv]
      exact h.others
    rw [horigin]
    cases hr : p.request with
    | register code form stripe commit =>
      rw [hr] at hne
      exact register_apply_iff L (by rw [hothers]) hne
    | unsubscribeuser who userId campaign stripe =>
      rw [hr] at hne
      exact unsubscribeuser_apply_iff L hothers hrows hne
    | _ =>
      rw [hr] at hrev
      exact absurd hrev id
  · rw [h.steady n p hp hdirty hrev]
    exact ⟨fun _ => not_overtaken hrev, fun _ => rfl⟩

/-- a change without anything to write leaves the table as it is -/
theorem apply_of_clean {c : Change} {t : Table User} (h : c.clean (c.loads t) = true) : c.apply t = t := by
  cases c with
  | none => rfl
  | enrol u => cases h
  | activate k =>
    refine Table.modify_of_fixed fun u hu => ?_
    have hstatus : u.cols.status = some 2 := by simpa [Change.clean, Change.loads, Change.target, hu] using h
    rw [setActive, ← hstatus]
  | link k s =>
    refine Table.modify_of_fixed fun u hu => ?_
    have hlinked : u.cols.paymentIntentId = some s := by simpa [Change.clean, Change.loads, Change.target, hu] using h
    rw [setSubscription, ← hlinked]
  | cancel k =>
    refine Table.modify_of_fixed fun u hu => ?_
    have hstatus : u.cols.status = some 1 := by simpa [Change.clean, Change.loads, Change.target, hu] using h
    rw [setInactive, ← hstatus]

/-- a request that nothing disturbs does what its sequential model does -/
theorem traffic_alone (L : Lib) {s : Traffic} {n : ℕ} (hn : s.serving n = none) {r : Request} (hr : Served r) :
    ((traffic L).run s [.read n r, .commit n]).world.db = ((app L).next s.world r).db := by
  rw [next_db_served L s.world hr]
  simp only [Machine.run_cons, Machine.run_nil, Machine.next, traffic, trafficStep, hn, Pool.put_self]
  split_ifs with hdirty
  · rfl
  · rw [apply_of_clean (by simpa [InProgress.dirty] using hdirty)]

/-- the database is the one that the requests that have taken effect leave one after another -/
def Linear (L : Lib) (w : World) (s : Traffic) : Prop := s.world.db = ((app L).run w s.log).db

/-- a request that commits has not been overtaken -/
def NotOvertaken (s : Traffic) (e : TrafficEvent) : Prop :=
  ∀ n p, e = .commit n → s.serving n = some p → p.dirty = true → ¬ Overtaken s.world p.request

theorem run_log (L : Lib) {w : World} {s : Traffic} (hlinear : Linear L w s) {r : Request} (hr : Served r) :
    ((app L).run w (s.log ++ [r])).db = { s.world.db with user := (change L s.world r).apply s.world.db.user } := by
  rw [Machine.run_snoc, next_db_served L _ hr, change_congr L hlinear.symm, ← hlinear]

theorem linear_next_iff (L : Lib) {w : World} {s : Traffic} {e : TrafficEvent} (he : e.Served) (h : Steady L w.db s)
    (hlinear : Linear L w s) : Linear L w ((traffic L).next s e) ↔ NotOvertaken s e := by
  cases e with
  | read n r =>
    refine iff_of_true ?_ (by rintro _ _ ⟨⟩)
    simp only [Machine.next, traffic, trafficStep]
    split
    · exact hlinear
    · simp only [Linear]
      split_ifs with hdirty
      · exact hlinear
      · rw [run_log L hlinear he, apply_of_clean (by simpa [InProgress.dirty] using hdirty)]
  | commit n =>
    simp only [Machine.next, traffic, trafficStep]
    split
    · rename_i hn
      refine iff_of_true hlinear ?_
      rintro _ p ⟨⟩ hp
      rw [hn] at hp
      cases hp
    · rename_i p hp
      split_ifs with hdirty
      · simp only [Linear]
        rw [run_log L hlinear (h.served n p hp)]
        refine Iff.trans ?_ ((same_apply_iff h hp hdirty).trans ?_)
        · constructor
          · intro heq
            exact congrArg Db.user heq
          · intro heq
            simp only [World.setUser, heq]
        · constructor
          · rintro hnot _ q ⟨⟩ hq _
            cases hp.symm.trans hq
            exact hnot
          · intro hnot
            exact hnot n p rfl hp hdirty
      · refine iff_of_true hlinear ?_
        rintro _ q ⟨⟩ hq hq'
        cases hp.symm.trans hq
        exact absurd hq' hdirty

/-- **Linearizability.** At every point of an interleaving the database is the one that the requests leave one after another, each
taking effect at a step of its own, exactly if no request commits that has been overtaken. -/
theorem subscribers_linearizable_iff (L : Lib) (w : World) {schedule : List TrafficEvent} (h : ∀ e ∈ schedule, e.Served) :
    (traffic L).Always (Linear L w) (noTraffic w) schedule ↔ (traffic L).Along NotOvertaken (noTraffic w) schedule :=
  (traffic L).always_iff_along_under (A := TrafficEvent.Served) (J := Steady L w.db) (fun _ _ he hs => steady_next L he hs)
    (fun _ _ he hs hlinear => linear_next_iff L he hs hlinear) h (steady_noTraffic L w) rfl

namespace Sample

/-- an admin adds `ann` while the registration of `ann` is at Stripe -/
def addedMeanwhile : List TrafficEvent :=
  [.read 0 Newsletter.Sample.registration, .read 1 (.addUser (some ("ann@example.com", 1))), .commit 1, .commit 0]

/-- `ann` has paid, and the subscription is not known yet -/
def paid : World :=
  Newsletter.Sample.start.setUser (Table.empty.insert { Newsletter.Sample.ann.cols with paymentIntentId := none })

/-- the subscription becomes known while an admin removes `ann` under a campaign that does not exist -/
def linkedMeanwhile : List TrafficEvent :=
  [.read 0 (.unsubscribeuser (some 2) 1 999 Newsletter.Sample.working), .read 1 Newsletter.Sample.subscription, .commit 1,
    .commit 0]

theorem addedMeanwhile_served : ∀ e ∈ addedMeanwhile, e.Served := by
  intro e he
  simp only [addedMeanwhile, List.mem_cons, List.not_mem_nil, or_false] at he
  rcases he with rfl | rfl | rfl | rfl <;> exact trivial

theorem linkedMeanwhile_served : ∀ e ∈ linkedMeanwhile, e.Served := by
  intro e he
  simp only [linkedMeanwhile, List.mem_cons, List.not_mem_nil, or_false] at he
  rcases he with rfl | rfl | rfl | rfl <;> exact trivial

end Sample

/-- the registration is overtaken: served one after another, the requests leave one row for `ann`, not two; and the removal is:
served after the subscription, it would fail and leave `ann` active -/
theorem subscribers_linearizable_iff_added :
    (¬ (traffic Newsletter.Sample.lib).Always (Linear Newsletter.Sample.lib Newsletter.Sample.start)
      (noTraffic Newsletter.Sample.start) Sample.addedMeanwhile) ∧
    ¬ (traffic Newsletter.Sample.lib).Always (Linear Newsletter.Sample.lib Sample.paid) (noTraffic Sample.paid)
      Sample.linkedMeanwhile := by
  rw [subscribers_linearizable_iff _ _ Sample.addedMeanwhile_served, subscribers_linearizable_iff _ _ Sample.linkedMeanwhile_served]
  constructor
  · intro h
    exact h.2.2.2.1 0 _ rfl rfl (by decide +kernel) (show admitted _ _ _ = none by decide)
  · intro h
    refine h.2.2.2.1 0 _ rfl rfl rfl ⟨rfl, ⟨1, _⟩, rfl, rfl, by decide +kernel⟩

end Concurrency

end Newsletter
