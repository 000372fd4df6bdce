/-
Which requests leave a campaign's data alone.

No handler of the course blueprint compares the owner of what it writes with the logged-in admin, and three of them
(`customize`, `add_user`, `delete_email_template`) do not even ask for a login. So an admin who does not own a campaign
can rewrite it (`other_admin_reconfigures`). What does protect the data of a campaign `c` is that a request only writes
what its ids lead to: `Foreign c` requests are those that stop at `login_required`, or whose ids lead to no campaign,
resource, template, generated email or subscriber of `c` (`touches`).

`foreign_untouched` is the step (one case a handler, the started threads included), `foreign_run_keeps_data` the run:
after any sequence of such requests, whoever sends them, `dataOf c` is what it was.
-/
import Newsletter.App

namespace Newsletter

open Newsletter.Core Auth Courses

/-! ## The data of a campaign -/

/-- the rows that belong to a campaign -/
structure CampaignData where
  course : Option (Rec Course)
  resources : List (Rec CourseResource)
  templates : List (Rec EmailTemplate)
  emails : List (Rec GeneratedEmail)
  subscribers : List (Rec User)
deriving DecidableEq

/-- the id is that of a template of the campaign -/
def isTemplateOf (db : Db) (c templateId : ℕ) : Bool := (templatesOf db c).any fun t => t.id = templateId

def dataOf (db : Db) (c : ℕ) : CampaignData where
  course := db.course.get c
  resources := resourcesOf db c
  templates := templatesOf db c
  emails := db.generatedEmails.all fun g => isTemplateOf db c g.cols.templateId
  subscribers := db.user.all fun u => u.cols.courseId = some c

theorem dataOf_congr {db db' : Db} {c : ℕ} (hcourse : db'.course.get c = db.course.get c)
    (hres : resourcesOf db' c = resourcesOf db c) (htemp : templatesOf db' c = templatesOf db c)
    (hmail : (db'.generatedEmails.all fun g => isTemplateOf db c g.cols.templateId) =
      db.generatedEmails.all fun g => isTemplateOf db c g.cols.templateId)
    (huser : (db'.user.all fun u => u.cols.courseId = some c) = db.user.all fun u => u.cols.courseId = some c) :
    dataOf db' c = dataOf db c := by
  have hpred : isTemplateOf db' c = isTemplateOf db c := by
    funext k
    rw [isTemplateOf, htemp, isTemplateOf]
  simp only [dataOf, hcourse, hres, htemp, hpred, hmail, huser]

theorem isTemplateOf_iff {db : Db} {c k : ℕ} : isTemplateOf db c k = true ↔ k ∈ (templatesOf db c).map Rec.id := by
  simp [isTemplateOf]

theorem not_isTemplateOf {db : Db} {c k : ℕ} (h : k ∉ (templatesOf db c).map Rec.id) : isTemplateOf db c k = false :=
  Bool.eq_false_iff.2 fun h' => h (isTemplateOf_iff.1 h')

/-- a generated email outside the campaign's data is of a template outside it -/
theorem not_isTemplateOf_email {db : Db} {c k : ℕ} (h : k ∉ (dataOf db c).emails.map Rec.id) {g : Rec GeneratedEmail}
    (hg : g ∈ db.generatedEmails.rows) (hid : g.id = k) : isTemplateOf db c g.cols.templateId = false :=
  Bool.eq_false_iff.2 fun h' => h (List.mem_map.2 ⟨g, List.mem_filter.2 ⟨hg, h'⟩, hid⟩)

/-- the thread works on a template or a generated email of the campaign -/
def Thread.touches (d : CampaignData) : Thread → Prop
  | .generateAndSaveEmails templateId _ => templateId ∈ d.templates.map Rec.id
  | .regenerateEmailTask generatedEmailId _ => generatedEmailId ∈ d.emails.map Rec.id

/-- the ids of the request lead to something of the campaign `c`, whose data is `d` -/
def Request.touches (c : ℕ) (d : CampaignData) : Request → Prop
  | .customize campaign .. => campaign = c
  | .config _ id .. => id = c
  | .resources _ campaign _ => campaign = c
  | .deleteCampaign _ campaign _ => campaign = c
  | .generateAllEmails _ course _ => course = c
  | .addUser form => form.map Prod.snd = some c
  | .unsubscribeuser _ userId _ _ => userId ∈ d.subscribers.map Rec.id
  | .deleteResource _ resource => resource ∈ d.resources.map Rec.id
  | .deleteCompain _ _ templateId => ∃ id ∈ templateId, id ∈ d.templates.map Rec.id
  | .deleteEmailTemplate compaign => compaign ∈ d.templates.map Rec.id
  | .regenerateAllEmails _ templateId => templateId ∈ d.templates.map Rec.id
  | .regenerateEmail _ generatedEmailId => generatedEmailId ∈ d.emails.map Rec.id
  | .sendGeneratedEmail _ generatedEmailId _ _ _ => generatedEmailId ∈ d.emails.map Rec.id
  | _ => True

/-- a request of the course blueprint that stops at `login_required` or leads to nothing of `c`, or the run of a thread -/
def Foreign (c : ℕ) (w : World) (r : Request) : Prop :=
  match r with
  | .customize .. | .addUser .. | .deleteEmailTemplate .. => ¬ r.touches c (dataOf w.db c)
  | .config who .. | .resources who .. | .deleteCampaign who .. | .generateAllEmails who .. | .unsubscribeuser who ..
  | .deleteResource who .. | .deleteCompain who .. | .regenerateAllEmails who .. | .regenerateEmail who ..
  | .sendGeneratedEmail who .. => currentUser w.db who = none ∨ ¬ r.touches c (dataOf w.db c)
  | .thread .. => True
  | _ => False

/-! ## One request -/

/-- the data of `c` stays, and no thread is added that works on it -/
def Untouched (c : ℕ) (w w' : World) : Prop :=
  dataOf w'.db c = dataOf w.db c ∧ ∀ t ∈ w'.threads, t ∈ w.threads ∨ ¬ t.touches (dataOf w.db c)

theorem Untouched.refl (c : ℕ) (w : World) : Untouched c w w := ⟨rfl, fun _ ht => Or.inl ht⟩

/-- a handler behind `login_required` -/
theorem loginRequired_untouched {c : ℕ} {w : World} {who : Option ℕ} {h : Rec Adminuser → Out} {p : Prop}
    (hwho : currentUser w.db who = none ∨ p) (hp : p → ∀ admin, Untouched c w (h admin).world) :
    Untouched c w (loginRequired w who h).world := by
  unfold loginRequired
  split
  · exact Untouched.refl c w
  · rename_i admin ha
    rcases hwho with hnone | h'
    · rw [hnone] at ha
      cases ha
    · exact hp h' admin

theorem setCourse_untouched {c : ℕ} {w : World} {t : Table Course} (h : t.get c = w.db.course.get c) :
    Untouched c w (setCourse w t) := ⟨dataOf_congr h rfl rfl rfl rfl, fun _ ht => Or.inl ht⟩

theorem setUser_untouched {c : ℕ} {w : World} {t : Table User}
    (h : (t.all fun u => u.cols.courseId = some c) = w.db.user.all fun u => u.cols.courseId = some c) :
    Untouched c w (w.setUser t) := ⟨dataOf_congr rfl rfl rfl rfl h, fun _ ht => Or.inl ht⟩

theorem customize_untouched {c campaign : ℕ} (hne : campaign ≠ c) (w : World) (form : Option CustomizeForm) (commit : Bool) :
    Untouched c w (customize w campaign form commit).world := by
  rw [customize_world]
  refine setCourse_untouched ?_
  cases committedCustomize form commit with
  | none => rfl
  | some f => exact Table.get_modify_of_ne _ _ (Ne.symm hne)

theorem config_untouched {c id : ℕ} {w : World} {who : Option ℕ} (h : currentUser w.db who = none ∨ id ≠ c)
    (form : Option OpenAiForm) (commit : Bool) : Untouched c w (config w who id form commit).world := by
  rw [config_world]
  refine setCourse_untouched ?_
  cases hform : committedConfig w.db who form commit with
  | none => rfl
  | some f =>
    have hlogin := (committedConfig_eq_some hform).1
    have hne : id ≠ c := h.resolve_left fun hnone => by simp [hnone] at hlogin
    exact Table.get_modify_of_ne _ _ (Ne.symm hne)

theorem deleteCampaign_untouched {c campaign : ℕ} {w : World} {who : Option ℕ}
    (h : currentUser w.db who = none ∨ campaign ≠ c) (stripe : ℕ → Reply) :
    Untouched c w (deleteCampaign w who campaign stripe).world := by
  rw [deleteCampaign_world]
  cases hwho : currentUser w.db who with
  | none => exact Untouched.refl c w
  | some admin =>
    have hne : campaign ≠ c := h.resolve_left (by simp [hwho])
    cases hc : w.db.course.get campaign with
    | none => exact Untouched.refl c w
    | some resource =>
      have hid : resource.id = campaign := (Table.get_eq_some_iff.1 hc).2
      refine ⟨dataOf_congr (Table.get_modify_of_ne _ _ ?_) rfl rfl rfl rfl, fun _ ht => Or.inl ht⟩
      rw [hid]
      exact Ne.symm hne

theorem addUser_untouched {c : ℕ} {form : Option (String × ℕ)} (h : form.map Prod.snd ≠ some c) (w : World) :
    Untouched c w (addUser w form).world := by
  rw [addUser_world]
  refine setUser_untouched ?_
  unfold addUserChange
  cases form with
  | none => rfl
  | some p =>
    simp only
    split_ifs
    · refine Table.all_insert_of_not ?_
      simpa [addedUser] using h
    · rfl

theorem unsubscribeuser_untouched {c userId : ℕ} {w : World} {who : Option ℕ}
    (h : currentUser w.db who = none ∨ userId ∉ (dataOf w.db c).subscribers.map Rec.id) (campaign : ℕ)
    (stripe : ℕ → Reply) : Untouched c w (unsubscribeuser w who userId campaign stripe).world := by
  cases ht : unsubscribeuserTarget w.db who userId campaign with
  | none =>
    rw [(unsubscribeuser_none ht).1]
    exact Untouched.refl c w
  | some p =>
    obtain ⟨user, resource⟩ := p
    have htarget := unsubscribeuserTarget_spec ht
    have hnot := h.resolve_left htarget.login
    rw [(unsubscribeuser_out ht).1]
    refine ⟨dataOf_congr rfl rfl rfl rfl (Table.all_modify_of_not fun u hu hk => ?_), fun _ ht => Or.inl ht⟩
    have hc : u.cols.courseId ≠ some c := by
      intro hc
      refine hnot (List.mem_map.2 ⟨u, List.mem_filter.2 ⟨hu, by simpa using hc⟩, ?_⟩)
      rw [hk, htarget.id]
    simp only [decide_eq_false_iff_not]
    exact ⟨hc, hc⟩

theorem resources_untouched (L : Lib) {c campaign : ℕ} {w : World} {who : Option ℕ}
    (h : currentUser w.db who = none ∨ campaign ≠ c) (form : Option ResourceForm) :
    Untouched c w (resources L w who campaign form).world := by
  refine loginRequired_untouched h fun hne admin => ?_
  cases form with
  | none =>
    simp only
    split <;> exact Untouched.refl c w
  | some f =>
    simp only
    split
    · exact Untouched.refl c w
    · split
      · exact ⟨rfl, fun _ ht => Or.inl ht⟩
      · rename_i course hc
        have hid : course.id = campaign := (Table.get_eq_some_iff.1 hc).2
        refine ⟨dataOf_congr rfl (Table.all_insert_of_not ?_) rfl rfl rfl, fun _ ht => Or.inl ht⟩
        simpa [hid] using hne

theorem deleteResource_untouched {c resource : ℕ} {w : World} {who : Option ℕ}
    (h : currentUser w.db who = none ∨ resource ∉ (dataOf w.db c).resources.map Rec.id) :
    Untouched c w (deleteResource w who resource).world := by
  refine loginRequired_untouched h fun hnot admin => ?_
  split
  · exact Untouched.refl c w
  · rename_i r hr
    obtain ⟨hmem, hid⟩ := Table.get_eq_some_iff.1 hr
    refine ⟨dataOf_congr rfl (Table.all_erase_of_not fun x hx hxr => ?_) rfl rfl rfl, fun _ ht => Or.inl ht⟩
    by_contra hp
    refine hnot (List.mem_map.2 ⟨x, List.mem_filter.2 ⟨hx, by simpa using hp⟩, ?_⟩)
    rw [← hid]
    simpa using hxr

/-- erasing a template that is not of the campaign -/
theorem templatesOf_erase {c id : ℕ} {db : Db} (h : id ∉ (templatesOf db c).map Rec.id) :
    ((db.emailTemplates.erase fun t => t.id = id).all fun t => t.cols.compaign = some c) = templatesOf db c := by
  refine Table.all_erase_of_not fun t ht hid => ?_
  by_contra hp
  refine h (List.mem_map.2 ⟨t, List.mem_filter.2 ⟨ht, by simpa using hp⟩, by simpa using hid⟩)

theorem deleteCompain_untouched {c : ℕ} {w : World} {who templateId : Option ℕ}
    (h : currentUser w.db who = none ∨ ¬ ∃ id ∈ templateId, id ∈ (dataOf w.db c).templates.map Rec.id)
    (compaign : ℕ) : Untouched c w (deleteCompain w who compaign templateId).world := by
  refine loginRequired_untouched h fun hnot admin => ?_
  cases templateId with
  | none => exact Untouched.refl c w
  | some id =>
    simp only
    split
    · exact Untouched.refl c w
    · split_ifs
      · have hid : id ∉ (templatesOf w.db c).map Rec.id := fun hmem => hnot ⟨id, rfl, hmem⟩
        exact ⟨dataOf_congr rfl rfl (templatesOf_erase hid) rfl rfl, fun _ ht => Or.inl ht⟩
      · exact Untouched.refl c w

theorem deleteEmailTemplate_untouched {c compaign : ℕ} {w : World}
    (h : compaign ∉ (dataOf w.db c).templates.map Rec.id) : Untouched c w (deleteEmailTemplate w compaign).world := by
  unfold deleteEmailTemplate
  split
  · exact Untouched.refl c w
  · rename_i template ht
    have hid : template.id = compaign := (Table.get_eq_some_iff.1 ht).2
    rw [← hid] at h
    refine ⟨dataOf_congr rfl rfl (templatesOf_erase h) (Table.all_erase_of_not fun g _ hg => ?_) rfl,
      fun _ ht => Or.inl ht⟩
    simp only [decide_eq_true_eq] at hg
    rw [hg]
    exact not_isTemplateOf h

theorem generateAllEmails_untouched {c course : ℕ} {w : World} {who : Option ℕ}
    (h : currentUser w.db who = none ∨ course ≠ c) (form : Option TemplateForm) :
    Untouched c w (generateAllEmails w who course form).world := by
  refine loginRequired_untouched h fun hne admin => ?_
  cases form with
  | none => exact Untouched.refl c w
  | some f =>
    simp only [startGeneration, createTemplate]
    rcases f with ⟨header, _ | body, _ | footer⟩
    · exact Untouched.refl c w
    · exact Untouched.refl c w
    · exact Untouched.refl c w
    · refine ⟨dataOf_congr rfl rfl (Table.all_insert_of_not (by simpa using hne)) rfl rfl, fun t ht => ?_⟩
      rcases List.mem_append.1 ht with ht | ht
      · exact Or.inl ht
      · -- the new thread works on the new template, which is of another campaign
        rw [List.mem_singleton] at ht
        subst ht
        refine Or.inr fun htouch => ?_
        obtain ⟨t, ht, hid⟩ := List.mem_map.1 htouch
        exact absurd hid (Nat.ne_of_lt (w.db.emailTemplates.below t (List.mem_filter.1 ht).1))

theorem regenerateEmail_untouched {c generatedEmailId : ℕ} {w : World} {who : Option ℕ}
    (h : currentUser w.db who = none ∨ generatedEmailId ∉ (dataOf w.db c).emails.map Rec.id) :
    Untouched c w (regenerateEmail w who generatedEmailId).world := by
  refine loginRequired_untouched h fun hnot admin => ⟨rfl, fun t ht => ?_⟩
  rcases List.mem_append.1 ht with ht | ht
  · exact Or.inl ht
  · rw [List.mem_singleton] at ht
    subst ht
    exact Or.inr hnot

theorem regenerateAllEmails_untouched {c templateId : ℕ} {w : World} {who : Option ℕ}
    (h : currentUser w.db who = none ∨ templateId ∉ (dataOf w.db c).templates.map Rec.id) :
    Untouched c w (regenerateAllEmails w who templateId).world := by
  refine loginRequired_untouched h fun hnot admin => ?_
  split
  · exact Untouched.refl c w
  · refine ⟨rfl, fun t ht => ?_⟩
    rcases List.mem_append.1 ht with ht | ht
    · exact Or.inl ht
    · rw [List.mem_singleton] at ht
      subst ht
      exact Or.inr hnot

theorem sendGeneratedEmail_untouched (L : Lib) {c generatedEmailId : ℕ} {w : World} {who : Option ℕ}
    (h : currentUser w.db who = none ∨ generatedEmailId ∉ (dataOf w.db c).emails.map Rec.id) (compaign : ℕ)
    (attachment : Option (String × List UInt8)) (env : SendEnv) :
    Untouched c w (sendGeneratedEmail L w who generatedEmailId compaign attachment env).world := by
  refine loginRequired_untouched h fun hnot admin => ?_
  split
  · exact Untouched.refl c w
  · rename_i email hemail
    split
    · exact Untouched.refl c w
    · split
      · exact Untouched.refl c w
      · dsimp only
        split_ifs
        swap
        · exact ⟨dataOf_congr rfl rfl rfl rfl rfl, fun _ ht => Or.inl ht⟩
        refine ⟨dataOf_congr rfl rfl rfl (Table.all_modify_of_not fun g hg hid => ?_) rfl, fun _ ht => Or.inl ht⟩
        have hfalse := not_isTemplateOf_email hnot hg (hid.trans (Table.get_eq_some_iff.1 hemail).2)
        exact ⟨hfalse, hfalse⟩

/-- a thread that leaves the generated emails of the campaign's templates alone leaves all of its data alone -/
theorem untouched_of_sameButEmails {c i : ℕ} {w w' : World}
    (hframe : SameButEmails { w with threads := w.threads.eraseIdx i } w')
    (hemails : (w'.db.generatedEmails.all fun g => isTemplateOf w.db c g.cols.templateId) =
      w.db.generatedEmails.all fun g => isTemplateOf w.db c g.cols.templateId) : Untouched c w w' := by
  have hres : resourcesOf w'.db c = resourcesOf w.db c := by
    rw [resourcesOf, hframe.courseResource]
    rfl
  have htemp : templatesOf w'.db c = templatesOf w.db c := by
    rw [templatesOf, hframe.emailTemplates]
    rfl
  refine ⟨dataOf_congr (by rw [hframe.course]) hres htemp hemails (by rw [hframe.user]), fun t ht => Or.inl ?_⟩
  rw [hframe.threads] at ht
  exact List.mem_of_mem_eraseIdx ht

/-- a thread that does not work on the campaign's templates and emails leaves its data alone -/
theorem runThread_untouched (L : Lib) {c : ℕ} {w : World} (h : ∀ t ∈ w.threads, ¬ t.touches (dataOf w.db c)) (i : ℕ)
    (generate : GenerateEnv) (regenerate : RegenerateEnv) :
    Untouched c w (runThread L w i generate regenerate).world := by
  unfold runThread
  cases hi : w.threads[i]? with
  | none => exact Untouched.refl c w
  | some t =>
    have hnot := h t (List.mem_of_getElem? hi)
    cases t with
    | generateAndSaveEmails templateId campaignId =>
      obtain ⟨hframe, hemails⟩ := generateAndSaveEmails_frame L { w with threads := w.threads.eraseIdx i }
        templateId campaignId generate
      exact untouched_of_sameButEmails hframe (hemails _ (not_isTemplateOf hnot))
    | regenerateEmailTask generatedEmailId redisKey =>
      obtain ⟨hframe, hemails⟩ := regenerateEmailTask_frame L { w with threads := w.threads.eraseIdx i }
        generatedEmailId redisKey regenerate
      exact untouched_of_sameButEmails hframe (hemails _ fun g hg hid => not_isTemplateOf_email hnot hg hid)

/-- **Step.** A foreign request leaves the data of `c` alone and starts no thread that works on it. -/
theorem foreign_untouched (L : Lib) {c : ℕ} {w : World} {r : Request}
    (hthreads : ∀ t ∈ w.threads, ¬ t.touches (dataOf w.db c)) (h : Foreign c w r) :
    Untouched c w ((app L).next w r) := by
  rw [app_next]
  cases r with
  | customize campaign form commit => exact customize_untouched h w form commit
  | config who id form commit => exact config_untouched h form commit
  | resources who campaign form => exact resources_untouched L h form
  | deleteCampaign who campaign stripe => exact deleteCampaign_untouched h stripe
  | generateAllEmails who course form => exact generateAllEmails_untouched h form
  | addUser form => exact addUser_untouched h w
  | unsubscribeuser who userId campaign stripe => exact unsubscribeuser_untouched h campaign stripe
  | deleteResource who resource => exact deleteResource_untouched h
  | deleteCompain who compaign templateId => exact deleteCompain_untouched h compaign
  | deleteEmailTemplate compaign => exact deleteEmailTemplate_untouched h
  | regenerateAllEmails who templateId => exact regenerateAllEmails_untouched h
  | regenerateEmail who generatedEmailId => exact regenerateEmail_untouched h
  | sendGeneratedEmail who generatedEmailId compaign attachment env =>
    exact sendGeneratedEmail_untouched L h compaign attachment env
  | thread i generate regenerate => exact runThread_untouched L hthreads i generate regenerate
  | _ => exact absurd h (by simp [Foreign])

/-! ## Runs -/

/-- **Integrity.** If no pending thread works on the campaign, every sequence of foreign requests and runs of the
threads they start leaves its course row, resources, templates, generated emails and subscribers as they were. -/
theorem foreign_run_keeps_data (L : Lib) (c : ℕ) (w : World) (reqs : List Request)
    (hthreads : ∀ t ∈ w.threads, ¬ t.touches (dataOf w.db c)) (h : (app L).Along (Foreign c) w reqs) :
    dataOf ((app L).run w reqs).db c = dataOf w.db c := by
  have hinv := Machine.Along.inv (M := app L)
    (I := fun w' => dataOf w'.db c = dataOf w.db c ∧ ∀ t ∈ w'.threads, ¬ t.touches (dataOf w.db c))
    (fun w' r hw' hr => ?_) ⟨rfl, hthreads⟩ h
  · exact hinv.1
  · obtain ⟨hdata, hpending⟩ := hw'
    rw [← hdata] at hpending
    obtain ⟨hdata', hnew⟩ := foreign_untouched L hpending hr
    refine ⟨hdata'.trans hdata, fun t ht => ?_⟩
    rw [← hdata]
    rcases hnew t ht with hold | hnot
    · exact hpending t hold
    · exact hnot

/-- the settings form of `config`, filled in by somebody else -/
def Sample.hijack : OpenAiForm where
  key := "sk_3"
  productId := "prod_3"
  endpointSecret := "whsec_3"
  openaiKey := none

/-- the owner of the second campaign configures it; an anonymous visitor tries the first one -/
theorem foreign_run_keeps_data_second :
    dataOf ((app Sample.lib).run Sample.start
      [.config (some 3) 2 (some Sample.hijack) true, .config none 1 (some Sample.hijack) true]).db 1 =
        dataOf Sample.start.db 1 := by
  refine foreign_run_keeps_data Sample.lib 1 Sample.start _ (fun t ht => absurd ht List.not_mem_nil) ⟨?_, ?_, trivial⟩
  · exact Or.inr (show ¬ 2 = 1 by decide)
  · exact Or.inl rfl

/-- the first campaign belongs to admin 2; admin 3 gives it other keys -/
theorem other_admin_reconfigures :
    (Sample.start.db.course.get 1).bind (fun c => c.cols.ownerId) = some 2 ∧
      ((dataOf ((app Sample.lib).run Sample.start [.config (some 3) 1 (some Sample.hijack) true]).db 1).course.map
        fun c => c.cols.stripeApiKey) = some (some "sk_3") ∧
      dataOf ((app Sample.lib).run Sample.start [.config (some 3) 1 (some Sample.hijack) true]).db 1 ≠
        dataOf Sample.start.db 1 := by
  decide

end Newsletter
