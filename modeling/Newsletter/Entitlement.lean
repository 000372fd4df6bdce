/-
Why a subscriber is active.

From a database without subscribers, whatever requests are served and whatever they contain, an active row has one of
three grounds in the past of the run: `add_user` made it, or `register` made it while its campaign was free, or a webhook
delivery named its customer, reported a payment and passed the signature check under the secret that its own campaign had
at that moment (`Entitles`). The signature check is any predicate of payload, header and secret.

The webhook picks the row from a payload it has not verified yet and verifies it with a secret found through that row, so
the step lemma `entitles_of_turn` is about the row that becomes active; `active_entitled` carries it along a run with the
fact that rows keep their customer and campaign (`row_persists`).
-/
import Newsletter.App

namespace Newsletter

open Newsletter.Core Auth Courses

/-- the request makes the row of this id -/
def Creates (L : Lib) (w : World) (r : Request) (id : ℕ) : Prop :=
  w.db.user.get id = none ∧ (((app L).next w r).db.user.get id).isSome

/-- a ground for the row `u` to be active: the request `r`, served in `w` -/
inductive Entitles (L : Lib) (w : World) (u : Rec User) : Request → Prop
  | added {form : Option (String × ℕ)} (h : Creates L w (.addUser form) u.id) : Entitles L w u (.addUser form)
  | free {code : String} {form : Option (Option String)} {stripe : ℕ → Reply} {commit : Bool} {course : Rec Course}
      (h : Creates L w (.register code form stripe commit) u.id)
      (hc : u.cols.courseId.bind w.db.course.get = some course) (hf : course.cols.free = true) :
      Entitles L w u (.register code form stripe commit)
  | paid {payload : String} {sigHeader : Option String} {stripe : ℕ → Reply} {event : Event} {object : EventObject}
      {customer : String} {course : Rec Course} (hp : L.parse payload = some event)
      (ho : event.object = some object) (hcu : object.customer = some customer)
      (hu : u.cols.customerId = some customer)
      (ht : event.type = some .checkoutSessionCompleted ∨ event.type = some .invoicePaymentSucceeded)
      (hc : u.cols.courseId.bind w.db.course.get = some course)
      (hv : L.constructEvent payload sigHeader course.cols.endpointSecret = .ok) :
      Entitles L w u (.handleWebhook payload sigHeader stripe)

/-- the columns that the grounds mention are kept -/
theorem Entitles.kept {L : Lib} {w : World} {u v : Rec User} {r : Request} (h : Entitles L w v r) (hid : u.id = v.id)
    (hk : Kept v.cols u.cols) : Entitles L w u r := by
  cases h with
  | added h => exact .added (hid ▸ h)
  | free h hc hf => exact .free (hid ▸ h) (hk.courseId ▸ hc) hf
  | paid hp ho hcu hu ht hc hv => exact .paid hp ho hcu (hk.customerId.trans hu) ht (hk.courseId ▸ hc) hv

/-- a request that inserts a row makes the row of the next id -/
theorem creates_of_enrol {L : Lib} {w : World} {r : Request} {x : User} (h : change L w r = .enrol x) :
    Creates L w r w.db.user.next := by
  refine ⟨Table.get_eq_none_iff.2 fun u hu => Nat.ne_of_lt (w.db.user.below u hu), ?_⟩
  rw [next_user, h]
  simp only [Change.apply, Table.get_insert_self, Option.isSome_some]

/-- **Step.** The request that makes a row active is a ground for it. -/
theorem entitles_of_turn {L : Lib} {w : World} {r : Request} {v : Rec User}
    (h0 : ¬ ∃ u ∈ w.db.user.rows, u.id = v.id ∧ u.cols.status = some 2)
    (hv : v ∈ ((app L).next w r).db.user.rows) (h2 : v.cols.status = some 2) : Entitles L w v r := by
  have hcause := change_cause L w r
  rw [next_user] at hv
  rcases (change L w r).active_origin hv h2 with ⟨u, hu, hid, hs, _⟩ | ⟨x, hx, rfl⟩ | ⟨u, hu, hx, rfl⟩
  · exact absurd ⟨u, hu, hid, hs⟩ h0
  · have hnew := creates_of_enrol hx
    rw [hx] at hcause
    cases hcause with
    | added hc => exact .added hnew
    | free ha hf => exact .free hnew (Table.get_of_mem (Table.first_mem (admitted_course ha).1)) hf
    | pending ha hf => exact absurd h2 (by simp [pendingUser])
  · rw [hx] at hcause
    generalize hk : u.id = k at hcause
    cases hcause with
    | payment ha hp =>
      obtain ⟨hcu, hfirst, hcourse, _, hverdict⟩ := accepted_spec ha
      obtain ⟨hparse, hobject, hcustomer⟩ := customerOf_spec hcu
      have hsame := w.db.user.id_inj hu (Table.first_mem hfirst) hk
      have hown := Table.first_prop hfirst
      simp only [decide_eq_true_eq] at hown
      subst hsame
      exact .paid hparse hobject hcustomer hown hp hcourse hverdict

/-- **Entitlement.** In every state reached from a database without subscribers, every active row has a ground among the
requests served so far. -/
theorem active_entitled (L : Lib) (w : World) (h0 : w.db.user.rows = []) (reqs : List Request) (u : Rec User)
    (hu : u ∈ ((app L).run w reqs).db.user.rows) (h2 : u.cols.status = some 2) :
    ∃ pre r post, reqs = pre ++ r :: post ∧ Entitles L ((app L).run w pre) u r := by
  have hstart : ¬ ∃ v ∈ w.db.user.rows, v.id = u.id ∧ v.cols.status = some 2 := by
    rw [h0]
    simp
  obtain ⟨pre, r, post, rfl, hbefore, v, hv, hid, hv2⟩ :=
    (app L).exists_turn (P := fun w => ∃ v ∈ w.db.user.rows, v.id = u.id ∧ v.cols.status = some 2) hstart
      ⟨u, hu, rfl, h2⟩
  rw [← hid] at hbefore
  have hent := entitles_of_turn hbefore hv hv2
  obtain ⟨v', hv', hid', hk⟩ := row_persists L hv post
  rw [Machine.run_append, Machine.run_cons] at hu
  have hsame := Table.id_inj _ hv' hu (hid'.trans hid)
  subst hsame
  exact ⟨pre, r, post, rfl, hent.kept hid' hk⟩

theorem active_entitled_ann :
    Sample.start.db.user.rows = [] ∧
      ∃ pre r post, [Sample.registration, Sample.subscription, Sample.checkout] = pre ++ r :: post ∧
        Entitles Sample.lib ((app Sample.lib).run Sample.start pre) Sample.ann r := by
  have hrows := Sample.subscribed_rows
  unfold Sample.subscribed at hrows
  have hann : Sample.ann ∈ ((app Sample.lib).run Sample.start
      [Sample.registration, Sample.subscription, Sample.checkout]).db.user.rows := by
    rw [hrows]
    exact List.mem_singleton_self _
  exact ⟨rfl, active_entitled Sample.lib Sample.start rfl _ Sample.ann hann rfl⟩

end Newsletter
