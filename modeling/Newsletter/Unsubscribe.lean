/-
The ways a subscription is cancelled: the subscriber's `unsubscribe` (`app/auth/route.py`, lines 427-471), the admin's
`unsubscribeuser` (`app/course/route.py`, lines 307-325) and `delete_campaign` (lines 473-526).

The two blueprints have their own copy of `unsubscribe_user`, with the same body: assign the key, delete the
subscription, answer whether that worked. What the callers do with the answer differs:
- `unsubscribe` makes the row inactive only if the deletion worked, and looks the row up by id and campaign;
- `unsubscribeuser` ignores the answer, and takes the key of whatever campaign the URL names;
- `delete_campaign` counts the answers for a flashed message and leaves every subscriber row as it is.

`unsubscribe_out`, `unsubscribeuser_out` and `deleteCampaign_world` say this in one equation each.
-/
import Newsletter.Subscriptions

namespace Newsletter

open Newsletter.Core

/-! ## `unsubscribe_user`, both copies -/

/-- delete a subscription; every exception becomes `False` -/
def cancelSubscription (key subscriptionId : Option String) : StripeProg Bool :=
  Prog.rescue
    (do
      Prog.set key
      let _ ← Prog.ask (.subscriptionDelete subscriptionId)
      pure true)
    fun _ => pure false

def Auth.unsubscribeUser := cancelSubscription

def Courses.unsubscribeUser := cancelSubscription

theorem exec_cancelSubscription (stripe : ℕ → Reply) (key sub : Option String) (n : ℕ) (k : Option String) :
    Prog.exec stripe (cancelSubscription key sub) n k =
      ⟨.ok (stripe n).isOk, key, [⟨key, .subscriptionDelete sub, stripe n⟩]⟩ := by
  unfold cancelSubscription
  simp only [Prog.exec_rescue, Prog.exec_bind, Prog.exec_set, Prog.exec_ask]
  simp only [List.length_nil, Nat.add_zero]
  cases stripe n <;> rfl

/-! ## The subscriber's path -/

/-- `post` is false for the GET that shows the confirmation page -/
def Auth.unsubscribe (w : World) (user campaign : ℕ) (post : Bool) (stripe : ℕ → Reply) : Out :=
  if post then
    match w.db.user.first fun u => u.id = user ∧ u.cols.courseId = some campaign, w.db.course.get campaign with
    | some u, some course =>
      let key := course.cols.stripeApiKey
      match Prog.exec stripe (Auth.unsubscribeUser key u.cols.paymentIntentId) 0 w.apiKey with
      | ⟨.ok true, key', calls⟩ =>
        let w' : World := { w with apiKey := key' }
        { world := w'.setUser (w.db.user.modify u.id setInactive), resp := .redirect .authConfirm, calls := calls }
      | ⟨_, key', calls⟩ =>
        { world := { w with apiKey := key' }, resp := .text "error in unsubscribing", calls := calls }
    -- `None.payment_intent_id` or `None.stripe_api_key`
    | _, _ => { world := w, resp := .raised .attributeError }
  else { world := w, resp := .page (.unsubscribeConfirm user campaign) }

/-- the row and the campaign of a POST to `unsubscribe`, if both exist -/
def Auth.unsubscribeTarget (db : Db) (user campaign : ℕ) (post : Bool) : Option (Rec User × Rec Course) :=
  if post then
    match db.user.first fun u => u.id = user ∧ u.cols.courseId = some campaign, db.course.get campaign with
    | some u, some course => some (u, course)
    | _, _ => none
  else none

theorem Auth.unsubscribe_out {w : World} {user campaign : ℕ} {post : Bool} {stripe : ℕ → Reply} {u : Rec User}
    {course : Rec Course} (h : Auth.unsubscribeTarget w.db user campaign post = some (u, course)) :
    (Auth.unsubscribe w user campaign post stripe).world =
        { w with
          apiKey := course.cols.stripeApiKey
          db := { w.db with user :=
            (if (stripe 0).isOk then Change.cancel u.id else Change.none).apply w.db.user } } ∧
      (Auth.unsubscribe w user campaign post stripe).calls =
        [⟨course.cols.stripeApiKey, .subscriptionDelete u.cols.paymentIntentId, stripe 0⟩] := by
  unfold Auth.unsubscribeTarget at h
  unfold Auth.unsubscribe Auth.unsubscribeUser
  split_ifs at h with hp
  split at h
  · cases h
    simp only [hp, if_true, exec_cancelSubscription]
    cases (stripe 0).isOk
    · exact ⟨rfl, rfl⟩
    · exact ⟨rfl, rfl⟩
  · cases h

theorem Auth.unsubscribe_none {w : World} {user campaign : ℕ} {post : Bool} {stripe : ℕ → Reply}
    (h : Auth.unsubscribeTarget w.db user campaign post = none) :
    (Auth.unsubscribe w user campaign post stripe).world = w ∧
      (Auth.unsubscribe w user campaign post stripe).calls = [] := by
  unfold Auth.unsubscribeTarget at h
  unfold Auth.unsubscribe
  split_ifs at h ⊢ with hp
  · split at h
    · cases h
    · exact ⟨rfl, rfl⟩
  · exact ⟨rfl, rfl⟩

theorem Auth.unsubscribeTarget_spec {db : Db} {user campaign : ℕ} {post : Bool} {u : Rec User} {course : Rec Course}
    (h : Auth.unsubscribeTarget db user campaign post = some (u, course)) :
    u ∈ db.user.rows ∧ u.cols.courseId = some campaign ∧ db.course.get campaign = some course := by
  unfold Auth.unsubscribeTarget at h
  split_ifs at h
  split at h
  · cases h
    rename_i hu hc
    have hp := Table.first_prop hu
    simp only [decide_eq_true_eq] at hp
    exact ⟨Table.first_mem hu, hp.2, hc⟩
  · cases h

/-! ## The admin's path -/

def Courses.unsubscribeuser (w : World) (who : Option ℕ) (userId campaign : ℕ) (stripe : ℕ → Reply) : Out :=
  loginRequired w who fun _ =>
    match w.db.user.get userId with
    | none =>
      { world := w, resp := .redirect (.coursesUsers campaign), flash := [("User not found", "error")] }
    | some user =>
      if truthy user.cols.paymentIntentId then
        match w.db.course.get campaign with
        -- `None.stripe_api_key`
        | none => { world := w, resp := .raised .attributeError }
        | some resource =>
          let ran := Prog.exec stripe
            (Courses.unsubscribeUser resource.cols.stripeApiKey user.cols.paymentIntentId) 0 w.apiKey
          let w' : World := { w with apiKey := ran.reg }
          { world := w'.setUser (w.db.user.modify userId setInactive), resp := .redirect (.coursesUsers campaign)
            calls := ran.calls }
      else
        { world := w.setUser (w.db.user.modify userId setInactive), resp := .redirect (.coursesUsers campaign) }

/-- the row that a request to `unsubscribeuser` makes inactive and, if it has a subscription id, the campaign whose key
is used -/
def Courses.unsubscribeuserTarget (db : Db) (who : Option ℕ) (userId campaign : ℕ) :
    Option (Rec User × Option (Rec Course)) :=
  match currentUser db who, db.user.get userId with
  | some _, some user =>
    if truthy user.cols.paymentIntentId then
      match db.course.get campaign with
      | none => none
      | some resource => some (user, some resource)
    else some (user, none)
  | _, _ => none

theorem Courses.unsubscribeuser_out {w : World} {who : Option ℕ} {userId campaign : ℕ} {stripe : ℕ → Reply}
    {user : Rec User} {resource : Option (Rec Course)}
    (h : Courses.unsubscribeuserTarget w.db who userId campaign = some (user, resource)) :
    (Courses.unsubscribeuser w who userId campaign stripe).world =
        { w with
          apiKey := (resource.map fun c => c.cols.stripeApiKey).getD w.apiKey
          db := { w.db with user := (Change.cancel user.id).apply w.db.user } } ∧
      (Courses.unsubscribeuser w who userId campaign stripe).calls =
        resource.toList.map fun c => ⟨c.cols.stripeApiKey, .subscriptionDelete user.cols.paymentIntentId, stripe 0⟩ := by
  unfold Courses.unsubscribeuserTarget at h
  unfold Courses.unsubscribeuser loginRequired Courses.unsubscribeUser
  split at h
  · rename_i admin u ha hu
    have hid : u.id = userId := (Table.get_eq_some_iff.1 hu).2
    split_ifs at h with ht
    · split at h
      · cases h
      · cases h
        simp only [ha, hu, ht, if_true, exec_cancelSubscription, hid]
        exact ⟨rfl, rfl⟩
    · cases h
      simp only [ha, hu, ht, hid]
      exact ⟨rfl, rfl⟩
  · cases h

theorem Courses.unsubscribeuser_none {w : World} {who : Option ℕ} {userId campaign : ℕ} {stripe : ℕ → Reply}
    (h : Courses.unsubscribeuserTarget w.db who userId campaign = none) :
    (Courses.unsubscribeuser w who userId campaign stripe).world = w ∧
      (Courses.unsubscribeuser w who userId campaign stripe).calls = [] := by
  unfold Courses.unsubscribeuserTarget at h
  unfold Courses.unsubscribeuser loginRequired
  cases ha : currentUser w.db who with
  | none => exact ⟨rfl, rfl⟩
  | some admin =>
    cases hu : w.db.user.get userId with
    | none => exact ⟨rfl, rfl⟩
    | some user =>
      simp only [ha, hu] at h ⊢
      split_ifs at h ⊢ with ht
      split at h
      · exact ⟨rfl, rfl⟩
      · cases h

/-- what is known of the row and the campaign of a removal -/
structure Courses.RemovalTarget (db : Db) (who : Option ℕ) (userId : ℕ) (user : Rec User)
    (resource : Option (Rec Course)) : Prop where
  login : currentUser db who ≠ none
  mem : user ∈ db.user.rows
  id : user.id = userId
  subscription : resource.isSome = truthy user.cols.paymentIntentId

theorem Courses.unsubscribeuserTarget_spec {db : Db} {who : Option ℕ} {userId campaign : ℕ} {user : Rec User}
    {resource : Option (Rec Course)}
    (h : Courses.unsubscribeuserTarget db who userId campaign = some (user, resource)) :
    Courses.RemovalTarget db who userId user resource := by
  unfold Courses.unsubscribeuserTarget at h
  split at h
  · rename_i admin u ha hu
    have hlogin : currentUser db who ≠ none := by
      rw [ha]
      simp
    obtain ⟨hmem, hid⟩ := Table.get_eq_some_iff.1 hu
    split_ifs at h with ht
    · split at h
      · cases h
      · cases h
        exact ⟨hlogin, hmem, hid, ht.symm⟩
    · cases h
      exact ⟨hlogin, hmem, hid, by simp [ht]⟩
  · cases h

/-! ## Deleting a campaign -/

/-- the active subscribers of a campaign -/
def activeUsers (db : Db) (campaign : ℕ) : List (Rec User) :=
  db.user.all fun u => u.cols.courseId = some campaign ∧ u.cols.status = some 2

/-- the loop over the subscribers, with the counts of successes and failures so far -/
def Courses.unsubscribeAll (key : Option String) : List (Option String) → ℕ → ℕ → StripeProg (ℕ × ℕ)
  | [], success, failure => pure (success, failure)
  | sub :: subs, success, failure => do
    let ok ← Courses.unsubscribeUser key sub
    if ok then Courses.unsubscribeAll key subs (success + 1) failure
    else Courses.unsubscribeAll key subs success (failure + 1)

theorem Courses.exec_unsubscribeAll (stripe : ℕ → Reply) (key : Option String) (subs : List (Option String))
    (success failure n : ℕ) (k : Option String) :
    ∃ counts, Prog.exec stripe (Courses.unsubscribeAll key subs success failure) n k =
      ⟨.ok counts, if subs = [] then k else key,
        subs.mapIdx fun i sub => ⟨key, .subscriptionDelete sub, stripe (n + i)⟩⟩ := by
  induction subs generalizing success failure n k with
  | nil => exact ⟨_, rfl⟩
  | cons sub subs ih =>
    unfold Courses.unsubscribeAll Courses.unsubscribeUser
    simp only [Prog.exec_bind, exec_cancelSubscription]
    have hidx : ∀ i, n + 1 + i = n + (i + 1) := fun i => by omega
    cases (stripe n).isOk
    · obtain ⟨counts, hc⟩ := ih success (failure + 1) (n + 1) key
      exact ⟨counts, by simp [hc, List.mapIdx_cons, hidx]⟩
    · obtain ⟨counts, hc⟩ := ih (success + 1) failure (n + 1) key
      exact ⟨counts, by simp [hc, List.mapIdx_cons, hidx]⟩

def Courses.deleteCampaign (w : World) (who : Option ℕ) (campaign : ℕ) (stripe : ℕ → Reply) : Out :=
  loginRequired w who fun _ =>
    match w.db.course.get campaign with
    | none => { world := w, resp := .redirect .usersDashboard, flash := [("Campaign not found", "error")] }
    | some resource =>
      let subs := (activeUsers w.db resource.id).map fun u => u.cols.paymentIntentId
      let ran := Prog.exec stripe (Courses.unsubscribeAll resource.cols.stripeApiKey subs 0 0) 0 w.apiKey
      let message := match ran.val with
        | .ok (success, failure) => "Unsubscribed " ++ toString success ++ " users, " ++ toString failure ++ " failures."
        | .error _ => ""
      { world :=
          { w with
            apiKey := ran.reg
            db := { w.db with course := w.db.course.modify resource.id fun c => { c with status := 0 } } }
        resp := .redirect .usersDashboard, calls := ran.calls, flash := [(message, "info")] }

theorem Courses.deleteCampaign_world (w : World) (who : Option ℕ) (campaign : ℕ) (stripe : ℕ → Reply) :
    (Courses.deleteCampaign w who campaign stripe).world =
      match currentUser w.db who, w.db.course.get campaign with
      | some _, some resource =>
        { w with
          apiKey := if activeUsers w.db resource.id = [] then w.apiKey else resource.cols.stripeApiKey
          db := { w.db with course := w.db.course.modify resource.id fun c => { c with status := 0 } } }
      | _, _ => w := by
  unfold Courses.deleteCampaign loginRequired
  cases currentUser w.db who with
  | none => rfl
  | some admin =>
    cases w.db.course.get campaign with
    | none => rfl
    | some resource =>
      obtain ⟨counts, hx⟩ := Courses.exec_unsubscribeAll stripe resource.cols.stripeApiKey
        ((activeUsers w.db resource.id).map fun u => u.cols.paymentIntentId) 0 0 0 w.apiKey
      simp only [hx, List.map_eq_nil_iff]

end Newsletter
