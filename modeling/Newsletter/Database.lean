/-
What a request writes to the database.

Every request, thread and run of the scheduled sender commits at most one of the writes below (`Write`), whatever it is sent
and whatever fails on the way. `Writes` says which request makes which write, with what the handler has checked before it;
`next_db` is the connection with the handlers: the database after a request is the database before it with such a write
applied. Results about the database over whole runs are case analyses over the writes and never look at a handler again.

A template is dropped together with its generated emails: `delete_email_template` deletes them, and `delete_compain` succeeds
only if there are none.
-/
import Newsletter.App
import Newsletter.Failures

namespace Newsletter

open Newsletter.Core Auth Courses

inductive Write where
  | none
  | subscriber (c : Change)
  | newAdmin (a : Adminuser)
  | verify (admin : ℕ)
  | newCourse (c : Course)
  | customize (course : ℕ) (f : CustomizeForm)
  | config (course : ℕ) (f : OpenAiForm)
  | close (course : ℕ)
  | newTemplate (t : EmailTemplate)
  | dropTemplate (template : ℕ)
  | newResource (r : CourseResource)
  | dropResource (resource : ℕ)
  | replace (template : ℕ) (emails : List GeneratedEmail)
  | rewrite (email : ℕ) (body conversation : String)
  | markSent (email : ℕ)
deriving DecidableEq, Repr

def setVerified (a : Adminuser) : Adminuser := { a with isVerified := true }

def setClosed (c : Course) : Course := { c with status := 0 }

def setText (body conversation : String) (g : GeneratedEmail) : GeneratedEmail :=
  { g with body := body, conversation := some conversation, isSent := false }

def Write.apply (db : Db) : Write → Db
  | .none => db
  | .subscriber c => { db with user := c.apply db.user }
  | .newAdmin a => { db with adminuser := db.adminuser.insert a }
  | .verify k => { db with adminuser := db.adminuser.modify k setVerified }
  | .newCourse c => { db with course := db.course.insert c }
  | .customize k f => { db with course := db.course.modify k f.write }
  | .config k f => { db with course := db.course.modify k f.write }
  | .close k => { db with course := db.course.modify k setClosed }
  | .newTemplate t => { db with emailTemplates := db.emailTemplates.insert t }
  | .dropTemplate k =>
    { db with
      generatedEmails := db.generatedEmails.erase fun g => g.cols.templateId = k
      emailTemplates := db.emailTemplates.erase fun t => t.id = k }
  | .newResource r => { db with courseResource := db.courseResource.insert r }
  | .dropResource k => { db with courseResource := db.courseResource.erase fun r => r.id = k }
  | .replace k emails =>
    { db with
      generatedEmails := emails.foldl Table.insert (db.generatedEmails.erase fun g => g.cols.templateId = k) }
  | .rewrite k body conversation => { db with generatedEmails := db.generatedEmails.modify k (setText body conversation) }
  | .markSent k => { db with generatedEmails := db.generatedEmails.modify k setSent }

/-! ## Which request makes which write -/

/-- the session, the campaign and the form of a POST that creates a template -/
def Request.posts : Request → Option (Option ℕ × Option ℕ × TemplateForm)
  | .dashboard who course (some f) | .generateAllEmails who course (some f) => some (who, some course, f)
  | .usersDashboard who (some f) => some (who, none, f)
  | _ => none

inductive Writes (L : Lib) (w : World) : Request → Write → Prop
  | nothing (r : Request) : Writes L w r .none
  | subscriber {r : Request} {c : Change} (cause : Cause L w r c) : Writes L w r (.subscriber c)
  | registered {email : String} {username : Option String}
      (unused : (w.db.adminuser.first fun a => a.cols.email = email) = none) :
      Writes L w (.registerAdmin (some (email, username))) (.newAdmin { email := email, username := username })
  | verified {token : String} {id : ℕ} {user : Rec Adminuser} (issued : L.verifyToken token = some id)
      (row : w.db.adminuser.get id = some user) : Writes L w (.verifyEmail token) (.verify id)
  | created {who : Option ℕ} {admin : Rec Adminuser} {type : ℕ} {name : String} {draws : List String} {code : String}
      (login : currentUser w.db who = some admin) (drawn : Users.newCode w.db draws = some code) :
      Writes L w (.addcourse who (some (type, name)) draws)
        (.newCourse { type := some type, name := some name, ownerId := some admin.id, url := some code })
  | customized (campaign : ℕ) {form : Option CustomizeForm} {commit : Bool} {f : CustomizeForm}
      (written : committedCustomize form commit = some f) :
      Writes L w (.customize campaign form commit) (.customize campaign f)
  | configured {who : Option ℕ} (id : ℕ) {form : Option OpenAiForm} {commit : Bool} {f : OpenAiForm}
      (written : committedConfig w.db who form commit = some f) : Writes L w (.config who id form commit) (.config id f)
  | closed {who : Option ℕ} {admin : Rec Adminuser} (login : currentUser w.db who = some admin) (campaign : ℕ)
      (stripe : ℕ → Reply) : Writes L w (.deleteCampaign who campaign stripe) (.close campaign)
  | posted {r : Request} {who compaign : Option ℕ} {f : TemplateForm} {admin : Rec Adminuser} {body footer : String}
      (post : r.posts = some (who, compaign, f)) (login : currentUser w.db who = some admin)
      (hbody : f.body = some body) (hfooter : f.footer = some footer) :
      Writes L w r (.newTemplate
        { header := f.header, body := body, footer := footer, compaign := compaign, ownerId := some admin.id })
  | droppedAll (compaign : ℕ) : Writes L w (.deleteEmailTemplate compaign) (.dropTemplate compaign)
  | dropped {who : Option ℕ} {id : ℕ} (compaign : ℕ) (unused : emailsOf w.db id = []) :
      Writes L w (.deleteCompain who compaign (some id)) (.dropTemplate id)
  | uploaded {who : Option ℕ} {campaign : ℕ} {course : Rec Course} {f : ResourceForm} {advert : Option String}
      (row : w.db.course.get campaign = some course) :
      Writes L w (.resources who campaign (some f)) (.newResource
        { position := some f.position, title := f.title, course := some course.id
          courseDescription := f.courseDescription, advert := advert })
  | removed (who : Option ℕ) (resource : ℕ) : Writes L w (.deleteResource who resource) (.dropResource resource)
  | generated {i templateId : ℕ} {campaignId : Option ℕ} {generate : GenerateEnv} {emails : List GeneratedEmail}
      (regenerate : RegenerateEnv) (thread : w.threads[i]? = some (.generateAndSaveEmails templateId campaignId))
      (new : emails ⊆ emailsToSave L (w.db.emailTemplates.get templateId) generate.api) :
      Writes L w (.thread i generate regenerate) (.replace templateId emails)
  | regenerated {i id : ℕ} {key body conversation : String} {regenerate : RegenerateEnv} (generate : GenerateEnv)
      (thread : w.threads[i]? = some (.regenerateEmailTask id key))
      (answer : regenerated L w.db id regenerate = .ok (body, conversation)) :
      Writes L w (.thread i generate regenerate) (.rewrite id body conversation)
  | sent {who : Option ℕ} {id compaign : ℕ} {attachment : Option (String × List UInt8)} (env : SendEnv)
      (reached : sendGeneratedEmailReaches L w who id compaign attachment = true) (committed : env.commit = true) :
      Writes L w (.sendGeneratedEmail who id compaign attachment env) (.markSent id)

/-! ## The connection with the handlers -/

/-- the database after a request is the one before it with a write of the request applied -/
def Wrote (L : Lib) (w : World) (r : Request) (db : Db) : Prop := ∃ x, Writes L w r x ∧ db = x.apply w.db

theorem Courses.SameButEmails.db {w w' : World} (h : SameButEmails w w') :
    w'.db = { w.db with generatedEmails := w'.db.generatedEmails } := by
  simp only [← h.adminuser, ← h.user, ← h.course, ← h.courseResource, ← h.emailTemplates]

section Handlers

variable (L : Lib) (w : World)

theorem wrote_nothing (r : Request) : Wrote L w r w.db := ⟨.none, .nothing r, rfl⟩

/-- the requests of `Newsletter.Subscriptions` -/
theorem wrote_subscriber {r : Request} (hr : r.scope.subscriptions = true)
    (hother : ∀ who campaign stripe, r ≠ .deleteCampaign who campaign stripe) : Wrote L w r (serve L w r).world.db := by
  rw [serve_subscriptions L w hr hother]
  exact ⟨.subscriber (change L w r), .subscriber (change_cause L w r), rfl⟩

theorem wrote_registerAdmin (form : Option (String × Option String)) :
    Wrote L w (.registerAdmin form) (Auth.registerAdmin w form).world.db := by
  unfold Auth.registerAdmin
  rcases form with _ | ⟨email, username⟩
  · exact wrote_nothing L w _
  · simp only
    split
    · exact wrote_nothing L w _
    · rename_i hunused
      exact ⟨_, .registered hunused, rfl⟩

theorem wrote_verifyEmail (token : String) : Wrote L w (.verifyEmail token) (Auth.verifyEmail L w token).world.db := by
  unfold Auth.verifyEmail
  split
  · exact wrote_nothing L w _
  · rename_i user huser
    obtain ⟨id, hid, hrow⟩ := Option.bind_eq_some_iff.1 huser
    obtain rfl : user.id = id := (Table.get_eq_some_iff.1 hrow).2
    exact ⟨_, .verified hid hrow, rfl⟩

theorem wrote_addcourse (who : Option ℕ) (form : Option (ℕ × String)) (draws : List String) :
    Wrote L w (.addcourse who form draws) (Users.addcourse w who form draws).world.db := by
  cases hwho : currentUser w.db who with
  | none =>
    simp only [Users.addcourse, loginRequired, hwho]
    exact wrote_nothing L w _
  | some admin =>
    rcases form with _ | ⟨type, name⟩
    · simp only [Users.addcourse, loginRequired, hwho]
      exact wrote_nothing L w _
    · cases hcode : Users.newCode w.db draws with
      | none =>
        simp only [Users.addcourse, loginRequired, hwho, hcode]
        exact wrote_nothing L w _
      | some code =>
        rw [Users.addcourse_created hwho hcode]
        exact ⟨_, .created hwho hcode, rfl⟩

theorem wrote_customize (campaign : ℕ) (form : Option CustomizeForm) (commit : Bool) :
    Wrote L w (.customize campaign form commit) (Courses.customize w campaign form commit).world.db := by
  rw [customize_world]
  cases hform : committedCustomize form commit with
  | none => exact wrote_nothing L w _
  | some f => exact ⟨_, .customized campaign hform, rfl⟩

theorem wrote_config (who : Option ℕ) (id : ℕ) (form : Option OpenAiForm) (commit : Bool) :
    Wrote L w (.config who id form commit) (Courses.config w who id form commit).world.db := by
  rw [config_world]
  cases hform : committedConfig w.db who form commit with
  | none => exact wrote_nothing L w _
  | some f => exact ⟨_, .configured id hform, rfl⟩

theorem wrote_deleteCampaign (who : Option ℕ) (campaign : ℕ) (stripe : ℕ → Reply) :
    Wrote L w (.deleteCampaign who campaign stripe) (Courses.deleteCampaign w who campaign stripe).world.db := by
  rw [deleteCampaign_world]
  cases hwho : currentUser w.db who with
  | none => exact wrote_nothing L w _
  | some admin =>
    cases hrow : w.db.course.get campaign with
    | none => exact wrote_nothing L w _
    | some resource =>
      obtain rfl : resource.id = campaign := (Table.get_eq_some_iff.1 hrow).2
      exact ⟨_, .closed hwho resource.id stripe, rfl⟩

/-- a POST that creates a template -/
theorem wrote_template {r : Request} {who compaign : Option ℕ} {f : TemplateForm} {admin : Rec Adminuser}
    (post : r.posts = some (who, compaign, f)) (login : currentUser w.db who = some admin) {db : Db}
    (h : db = (createTemplate w.db admin.id compaign f).getD w.db) : Wrote L w r db := by
  subst h
  unfold createTemplate
  split
  · rename_i body footer hbody hfooter
    exact ⟨_, .posted post login hbody hfooter, rfl⟩
  · exact wrote_nothing L w r

theorem startGeneration_db (owner course : ℕ) (f : TemplateForm) (resp : Response) :
    (startGeneration w owner course f resp).world.db = (createTemplate w.db owner (some course) f).getD w.db := by
  unfold startGeneration
  cases createTemplate w.db owner (some course) f <;> rfl

theorem wrote_dashboard (who : Option ℕ) (course : ℕ) (form : Option TemplateForm) :
    Wrote L w (.dashboard who course form) (Courses.dashboard w who course form).world.db := by
  unfold Courses.dashboard loginRequired
  cases hwho : currentUser w.db who with
  | none => exact wrote_nothing L w _
  | some admin =>
    cases form with
    | none => cases w.db.course.get course <;> exact wrote_nothing L w _
    | some f => exact wrote_template L w rfl hwho (startGeneration_db ..)

theorem wrote_generateAllEmails (who : Option ℕ) (course : ℕ) (form : Option TemplateForm) :
    Wrote L w (.generateAllEmails who course form) (Courses.generateAllEmails w who course form).world.db := by
  unfold Courses.generateAllEmails loginRequired
  cases hwho : currentUser w.db who with
  | none => exact wrote_nothing L w _
  | some admin =>
    cases form with
    | none => exact wrote_nothing L w _
    | some f => exact wrote_template L w rfl hwho (startGeneration_db ..)

theorem wrote_usersDashboard (who : Option ℕ) (form : Option TemplateForm) :
    Wrote L w (.usersDashboard who form) (Users.dashboard w who form).world.db := by
  unfold Users.dashboard loginRequired
  cases hwho : currentUser w.db who with
  | none => exact wrote_nothing L w _
  | some admin =>
    cases form with
    | none => exact wrote_nothing L w _
    | some f =>
      refine wrote_template L w rfl hwho ?_
      simp only
      cases createTemplate w.db admin.id none f <;> rfl

theorem wrote_deleteEmailTemplate (compaign : ℕ) :
    Wrote L w (.deleteEmailTemplate compaign) (Courses.deleteEmailTemplate w compaign).world.db := by
  unfold Courses.deleteEmailTemplate
  cases hrow : w.db.emailTemplates.get compaign with
  | none => exact wrote_nothing L w _
  | some template =>
    obtain rfl : template.id = compaign := (Table.get_eq_some_iff.1 hrow).2
    exact ⟨_, .droppedAll template.id, rfl⟩

theorem wrote_deleteCompain (who : Option ℕ) (compaign : ℕ) (templateId : Option ℕ) :
    Wrote L w (.deleteCompain who compaign templateId) (Courses.deleteCompain w who compaign templateId).world.db := by
  unfold Courses.deleteCompain loginRequired
  cases currentUser w.db who with
  | none => exact wrote_nothing L w _
  | some admin =>
    cases templateId with
    | none => exact wrote_nothing L w _
    | some id =>
      simp only
      cases w.db.emailTemplates.get id with
      | none => exact wrote_nothing L w _
      | some template =>
        simp only
        split_ifs with hnone
        · have hsame : (w.db.generatedEmails.erase fun g => g.cols.templateId = id) = w.db.generatedEmails :=
            Table.erase_of_all_nil hnone
          exact ⟨_, .dropped compaign hnone, by rw [Write.apply, hsame]⟩
        · exact wrote_nothing L w _

theorem wrote_resources (who : Option ℕ) (campaign : ℕ) (form : Option ResourceForm) :
    Wrote L w (.resources who campaign form) (Courses.resources L w who campaign form).world.db := by
  unfold Courses.resources loginRequired
  cases currentUser w.db who with
  | none => exact wrote_nothing L w _
  | some admin =>
    cases form with
    | none => cases w.db.course.get campaign <;> exact wrote_nothing L w _
    | some f =>
      simp only
      cases saveUpload L w.adverts f.advert with
      | none => exact wrote_nothing L w _
      | some p =>
        simp only
        cases hrow : w.db.course.get campaign with
        | none => exact wrote_nothing L w _
        | some course => exact ⟨_, .uploaded hrow, rfl⟩

theorem wrote_deleteResource (who : Option ℕ) (resource : ℕ) :
    Wrote L w (.deleteResource who resource) (Courses.deleteResource w who resource).world.db := by
  unfold Courses.deleteResource loginRequired
  cases currentUser w.db who with
  | none => exact wrote_nothing L w _
  | some admin =>
    cases hrow : w.db.courseResource.get resource with
    | none => exact wrote_nothing L w _
    | some row =>
      obtain rfl : row.id = resource := (Table.get_eq_some_iff.1 hrow).2
      exact ⟨_, .removed who row.id, rfl⟩

theorem wrote_sendGeneratedEmail (who : Option ℕ) (id compaign : ℕ) (attachment : Option (String × List UInt8))
    (env : SendEnv) :
    Wrote L w (.sendGeneratedEmail who id compaign attachment env)
      (Courses.sendGeneratedEmail L w who id compaign attachment env).world.db := by
  cases hreach : sendGeneratedEmailReaches L w who id compaign attachment with
  | false =>
    rw [(sendGeneratedEmail_refused env hreach).2]
    exact wrote_nothing L w _
  | true =>
    obtain ⟨_, _, _, _, _, _, _, _, hdb⟩ := sendGeneratedEmail_reached env hreach
    rw [hdb]
    split_ifs with hcommit
    · exact ⟨_, .sent env hreach hcommit, rfl⟩
    · exact wrote_nothing L w _

theorem wrote_generation (w' : World) {i templateId : ℕ} {campaignId : Option ℕ} {generate : GenerateEnv}
    (regenerate : RegenerateEnv) (thread : w.threads[i]? = some (.generateAndSaveEmails templateId campaignId))
    (hdb : w'.db = w.db) :
    Wrote L w (.thread i generate regenerate) (generateAndSaveEmails L w' templateId campaignId generate).db := by
  obtain ⟨text, _, hending⟩ := generate_ending L w' templateId campaignId generate
  have hnew : emailsToSave L (w'.db.emailTemplates.get templateId) generate.api =
      emailsToSave L (w.db.emailTemplates.get templateId) generate.api := by rw [hdb]
  rw [(generateAndSaveEmails_frame L w' templateId campaignId generate).1.db]
  generalize (generateAndSaveEmails L w' templateId campaignId generate).db.generatedEmails = table at hending
  have hwrote : ∀ emails ⊆ emailsToSave L (w.db.emailTemplates.get templateId) generate.api,
      table = emails.foldl Table.insert (cleared w' templateId) →
      Wrote L w (.thread i generate regenerate) { w'.db with generatedEmails := table } := by
    rintro emails hsub rfl
    exact ⟨_, .generated regenerate thread hsub, by rw [cleared, hdb]; rfl⟩
  cases hending with
  | early => exact hdb.symm ▸ wrote_nothing L w _
  | empty | lost => exact hwrote [] (List.nil_subset _) rfl
  | saved => exact hwrote _ (fun e he => hnew ▸ he) rfl

/-- a thread changes the generated emails only -/
theorem wrote_thread (i : ℕ) (generate : GenerateEnv) (regenerate : RegenerateEnv) :
    Wrote L w (.thread i generate regenerate) (runThread L w i generate regenerate).world.db := by
  unfold runThread
  cases hthread : w.threads[i]? with
  | none => exact wrote_nothing L w _
  | some t =>
    cases t with
    | generateAndSaveEmails templateId campaignId =>
      exact wrote_generation L w { w with threads := w.threads.eraseIdx i } regenerate hthread rfl
    | regenerateEmailTask id key =>
      simp only [regenerateEmailTask]
      split
      · exact wrote_nothing L w _
      · rename_i body conversation hanswer
        split_ifs
        · exact ⟨_, .regenerated generate hthread hanswer, rfl⟩
        · exact wrote_nothing L w _

end Handlers

/-- **Writes.** The database after a request is the one before it with a write applied that the request makes. -/
theorem next_db (L : Lib) (w : World) (r : Request) :
    ∃ x, Writes L w r x ∧ ((app L).next w r).db = x.apply w.db := by
  rw [app_next]
  cases r with
  | register | handleWebhook | unsubscribe | unsubscribeuser | addUser =>
    exact wrote_subscriber L w rfl fun who campaign stripe h => by cases h
  | registerAdmin form => exact wrote_registerAdmin L w form
  | verifyEmail token => exact wrote_verifyEmail L w token
  | usersDashboard who form => exact wrote_usersDashboard L w who form
  | addcourse who form draws => exact wrote_addcourse L w who form draws
  | usersUsers who =>
    simp only [serve, Users.users, loginRequired]
    cases currentUser w.db who <;> exact wrote_nothing L w _
  | dashboard who course form => exact wrote_dashboard L w who course form
  | generateAllEmails who course form => exact wrote_generateAllEmails L w who course form
  | customize campaign form commit => exact wrote_customize L w campaign form commit
  | resources who campaign form => exact wrote_resources L w who campaign form
  | users who id =>
    simp only [serve, Courses.users, loginRequired]
    repeat' split
    all_goals exact wrote_nothing L w _
  | config who id form commit => exact wrote_config L w who id form commit
  | deleteCompain who compaign templateId => exact wrote_deleteCompain L w who compaign templateId
  | deleteResource who resource => exact wrote_deleteResource L w who resource
  | deleteCampaign who campaign stripe => exact wrote_deleteCampaign L w who campaign stripe
  | sendeditedemail who compaign content attachment env =>
    simp only [serve, Courses.sendeditedemail, loginRequired]
    repeat' split
    all_goals exact wrote_nothing L w _
  | sendemail who compaign form attachment env =>
    simp only [serve, Courses.sendemail, loginRequired]
    repeat' split
    all_goals exact wrote_nothing L w _
  | sendGeneratedEmail who id compaign attachment env => exact wrote_sendGeneratedEmail L w who id compaign attachment env
  | regenerateEmail who id =>
    simp only [serve, Courses.regenerateEmail, loginRequired]
    split <;> exact wrote_nothing L w _
  | regenerateAllEmails who templateId =>
    simp only [serve, Courses.regenerateAllEmails, loginRequired]
    repeat' split
    all_goals exact wrote_nothing L w _
  | deleteEmailTemplate compaign => exact wrote_deleteEmailTemplate L w compaign
  | thread i generate regenerate => exact wrote_thread L w i generate regenerate
  | main env => exact wrote_nothing L w _

end Newsletter
