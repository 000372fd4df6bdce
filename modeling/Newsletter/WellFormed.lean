/-
The database stays well formed.

The tables refer to each other by id, and several columns only make sense together. `WellFormed` collects what the
application relies on; `wellFormed_run` says that no run of requests, threads and scheduled sends leaves it, whatever the
clients send and whatever fails:
- `subscriber`: a subscriber belongs to an existing campaign, is pending or active, has an amount exactly if it has a Stripe
  customer, and a subscription only if it has a customer;
- `owner`, `author`, `resource`: campaigns and templates belong to existing accounts, resources to existing campaigns;
- `link`, `links`: every campaign has a registration link, and no two campaigns share one;
- `email`: a generated email belongs to an existing template, has no header and no footer, and has a conversation;
- `address`: no two accounts share an email address.

`email_templates.compaign` is not a foreign key: a POST to the dashboard of a campaign that does not exist creates a template
for it, so nothing is said about that column.
-/
import Newsletter.Database

namespace Newsletter

open Newsletter.Core Auth Courses

/-- what holds of the columns of a subscriber row -/
structure User.WellFormed (u : User) : Prop where
  status : u.status = some 1 ∨ u.status = some 2
  amount : u.amount.isSome = u.customerId.isSome
  subscription : u.paymentIntentId.isSome → u.customerId.isSome

structure WellFormed (db : Db) : Prop where
  subscriber : db.user.Every fun u => u.WellFormed ∧ db.course.Refers u.courseId
  owner : db.course.Every fun c => db.adminuser.Refers c.ownerId
  author : db.emailTemplates.Every fun t => db.adminuser.Refers t.ownerId
  resource : db.courseResource.Every fun r => db.course.Refers r.course
  link : db.course.Every fun c => c.url.isSome
  links : (db.course.column Course.url).Nodup
  email : db.generatedEmails.Every fun g => (db.emailTemplates.get g.templateId).isSome ∧ g.header = "" ∧ g.footer = "" ∧
    g.conversation.isSome
  address : (db.adminuser.column Adminuser.email).Nodup

/-! ## One write -/

section Writes

variable {L : Lib} {w : World}

/-- a new subscriber is well formed and belongs to a campaign -/
theorem enrol_wellFormed {r : Request} {u : User} (h : Cause L w r (.enrol u)) :
    u.WellFormed ∧ w.db.course.Refers u.courseId := by
  cases h with
  | added hc => exact ⟨⟨Or.inr rfl, rfl, by simp [addedUser]⟩, _, rfl, hc⟩
  | free ha hf =>
    have hrow := Table.get_of_mem (Table.first_mem (admitted_course ha).1)
    exact ⟨⟨Or.inr rfl, rfl, by simp [freeUser]⟩, Table.refers_of_get hrow⟩
  | pending ha hf =>
    have hrow := Table.get_of_mem (Table.first_mem (admitted_course ha).1)
    exact ⟨⟨Or.inl rfl, rfl, by simp [pendingUser]⟩, Table.refers_of_get hrow⟩

/-- a subscription is linked to a row found by its customer id -/
theorem link_customer {r : Request} {k : ℕ} {s : String} (h : Cause L w r (.link k s)) {u : Rec User}
    (hu : w.db.user.get k = some u) : u.cols.customerId.isSome := by
  cases h with
  | subscription ha _ _ =>
    have hfirst := (accepted_spec ha).2.1
    obtain rfl := Option.some.inj (hu.symm.trans (Table.get_of_mem (Table.first_mem hfirst)))
    have hcustomer := Table.first_prop hfirst
    rw [of_decide_eq_true hcustomer]
    rfl

theorem subscriber_wellFormed {r : Request} {c : Change} (cause : Cause L w r c) (h : WellFormed w.db) :
    WellFormed ((Write.subscriber c).apply w.db) := by
  refine { h with subscriber := ?_ }
  cases c with
  | none => exact h.subscriber
  | enrol u => exact h.subscriber.insert (enrol_wellFormed cause)
  | activate k =>
    refine h.subscriber.modify fun u _ hu => ⟨?_, hu.2⟩
    exact { hu.1 with status := Or.inr rfl }
  | link k s =>
    refine h.subscriber.modify fun u hrow hu => ⟨?_, hu.2⟩
    exact { hu.1 with subscription := fun _ => link_customer cause hrow }
  | cancel k =>
    refine h.subscriber.modify fun u _ hu => ⟨?_, hu.2⟩
    exact { hu.1 with status := Or.inl rfl }

/-- a write that keeps owner and link of a campaign -/
theorem course_wellFormed {db : Db} (h : WellFormed db) (k : ℕ) {f : Course → Course}
    (howner : ∀ c, (f c).ownerId = c.ownerId) (hurl : ∀ c, (f c).url = c.url) :
    WellFormed { db with course := db.course.modify k f } where
  subscriber := h.subscriber.mono fun u hu => ⟨hu.1, hu.2.modify k f⟩
  owner := h.owner.modify fun c _ hc => howner c.cols ▸ hc
  author := h.author
  resource := h.resource.mono fun r hr => hr.modify k f
  link := h.link.modify fun c _ hc => hurl c.cols ▸ hc
  links := by rw [Table.column_modify _ _ hurl]; exact h.links
  email := h.email
  address := h.address

/-- the accounts may be extended and rewritten, as long as none disappears -/
theorem adminuser_wellFormed {db : Db} (h : WellFormed db) {t : Table Adminuser}
    (hrefers : ∀ k, db.adminuser.Refers k → t.Refers k) (haddress : (t.column Adminuser.email).Nodup) :
    WellFormed { db with adminuser := t } :=
  { h with
    owner := h.owner.mono fun _ => hrefers _
    author := h.author.mono fun _ => hrefers _
    address := haddress }

/-- a row of a login -/
theorem refers_currentUser {db : Db} {who : Option ℕ} {admin : Rec Adminuser} (h : currentUser db who = some admin) :
    db.adminuser.Refers (some admin.id) := by
  obtain ⟨k, _, hk⟩ := Option.bind_eq_some_iff.1 h
  exact Table.refers_of_get (Table.get_of_mem (Table.get_eq_some_iff.1 hk).1)

theorem newCourse_wellFormed {db : Db} (h : WellFormed db) {admin : ℕ} (howner : db.adminuser.Refers (some admin))
    {draws : List String} {code : String} (drawn : Users.newCode db draws = some code) (type : ℕ) (name : String) :
    WellFormed ((Write.newCourse { type := some type, name := some name, ownerId := some admin, url := some code }).apply
      db) := by
  have hunused : ∀ c ∈ db.course.rows, c.cols.url ≠ some code := by
    intro c hc
    have hfree : (linkedCampaign db code).isNone = true :=
      List.find?_some (p := fun url => (linkedCampaign db url).isNone) drawn
    simpa using Table.first_eq_none_iff.1 (Option.isNone_iff_eq_none.1 hfree) c hc
  exact
    { h with
      subscriber := h.subscriber.mono fun u hu => ⟨hu.1, hu.2.insert _⟩
      owner := h.owner.insert howner
      resource := h.resource.mono fun r hr => hr.insert _
      link := h.link.insert rfl
      links := Table.nodup_column_insert h.links hunused }

/-- a template goes with its generated emails -/
theorem dropTemplate_wellFormed {db : Db} (h : WellFormed db) (k : ℕ) : WellFormed ((Write.dropTemplate k).apply db) := by
  refine { h with author := h.author.erase _, email := ?_ }
  intro g hg
  obtain ⟨hmem, hne⟩ := List.mem_filter.1 hg
  obtain ⟨htemplate, hrest⟩ := h.email g hmem
  refine ⟨?_, hrest⟩
  obtain ⟨t, ht⟩ := Option.isSome_iff_exists.1 htemplate
  have hid : t.id ≠ k := by simpa [(Table.get_eq_some_iff.1 ht).2] using hne
  simp only [Write.apply, Table.get_erase, ht]
  simp [hid]

/-- what a generation stores -/
theorem emailsToSave_wellFormed {templateId : ℕ} {env : GenerateEnv} {e : GeneratedEmail}
    (h : e ∈ emailsToSave L (w.db.emailTemplates.get templateId) env.api) :
    (w.db.emailTemplates.get e.templateId).isSome ∧ e.header = "" ∧ e.footer = "" ∧ e.conversation.isSome := by
  obtain ⟨step, _, hstep⟩ := List.mem_filterMap.1 h
  obtain ⟨t, content, ht, _, rfl⟩ := (generateStep_eq_some_iff L).1 hstep
  have hrow := Table.get_of_mem (Table.get_eq_some_iff.1 ht).1
  exact ⟨by simp [hrow], rfl, rfl, rfl⟩

theorem writes_wellFormed {r : Request} {x : Write} (hx : Writes L w r x) (h : WellFormed w.db) :
    WellFormed (x.apply w.db) := by
  cases hx with
  | nothing => exact h
  | subscriber cause => exact subscriber_wellFormed cause h
  | registered unused =>
    refine adminuser_wellFormed h (fun k hk => hk.insert _) (Table.nodup_column_insert h.address fun a ha => ?_)
    simpa using Table.first_eq_none_iff.1 unused a ha
  | verified issued row =>
    refine adminuser_wellFormed h (fun k hk => hk.modify _ _) ?_
    rw [Table.column_modify (g := setVerified) _ _ fun _ => rfl]
    exact h.address
  | created login drawn => exact newCourse_wellFormed h (refers_currentUser login) drawn _ _
  | customized campaign written => exact course_wellFormed h campaign (fun _ => rfl) fun _ => rfl
  | configured id written => exact course_wellFormed h id (fun _ => rfl) fun _ => rfl
  | closed login campaign stripe => exact course_wellFormed h campaign (fun _ => rfl) fun _ => rfl
  | posted post login hbody hfooter =>
    exact
      { h with
        author := h.author.insert (refers_currentUser login)
        email := h.email.mono fun g hg => ⟨Table.isSome_get_insert hg.1 _, hg.2⟩ }
  | droppedAll compaign => exact dropTemplate_wellFormed h compaign
  | dropped compaign unused => exact dropTemplate_wellFormed h _
  | uploaded row =>
    refine { h with resource := h.resource.insert ?_ }
    exact Table.refers_of_get (Table.get_of_mem (Table.get_eq_some_iff.1 row).1)
  | removed who resource => exact { h with resource := h.resource.erase _ }
  | generated regenerate thread new =>
    exact { h with email := (h.email.erase _).foldl_insert fun e he => emailsToSave_wellFormed (new he) }
  | regenerated generate thread answer => exact { h with email := h.email.modify fun g _ hg => ⟨hg.1, hg.2.1, hg.2.2.1, rfl⟩ }
  | sent env reached => exact { h with email := h.email.modify fun g _ hg => hg }

end Writes

/-! ## Runs -/

theorem wellFormed_next (L : Lib) (w : World) (r : Request) (h : WellFormed w.db) : WellFormed ((app L).next w r).db := by
  obtain ⟨x, hx, hdb⟩ := next_db L w r
  rw [hdb]
  exact writes_wellFormed hx h

/-- **The database stays well formed.** -/
theorem wellFormed_run (L : Lib) {w : World} (h : WellFormed w.db) (reqs : List Request) :
    WellFormed ((app L).run w reqs).db :=
  (app L).run_inv (I := fun w => WellFormed w.db) (wellFormed_next L) h reqs

/-- the small installation is well formed -/
theorem Sample.start_wellFormed : WellFormed start.db where
  subscriber := by simp [Table.Every, start, Table.empty]
  owner := by
    intro c hc
    have hown : ∀ c ∈ start.db.course.rows, c.cols.ownerId = some 2 ∨ c.cols.ownerId = some 3 := by decide
    rcases hown c hc with h | h
    · exact ⟨2, h, by decide⟩
    · exact ⟨3, h, by decide⟩
  author := by simp [Table.Every, start, Table.empty]
  resource := by simp [Table.Every, start, Table.empty]
  link := by
    show ∀ c ∈ start.db.course.rows, c.cols.url.isSome
    decide
  links := by decide
  email := by simp [Table.Every, start, Table.empty]
  address := by decide

end Newsletter
