/-
What the background tasks leave behind when something fails (`app/course/route.py`, lines 620-740 and 824-888).

`generate_and_save_emails` commits the deletion of the old emails before it asks for new ones, swallows the exceptions of
its three steps and reports `completed` whatever they gave. `generate_response` signals a failure by returning one of two
error texts, which both tasks store like any other content.

- `GenerateEnding`: the four ways in which a run of `generate_and_save_emails` ends, and `generate_ending`: it ends in one of
  them;
- `replacement_clean_iff`: when a run ends with three new emails, or with the old ones;
- `response_cases`: what the retry helper returns and what it has received, by the outcomes of its POSTs;
- `only_real_content_iff`: when what the two tasks store is what the API has answered.
-/
import Newsletter.App
import Newsletter.Courses.Retry

namespace Newsletter

open Newsletter.Core Courses

/-! ## How a generation ends -/

/-- the text of a status -/
def statusText (w : World) (key : String) : Option String := (w.redis key).map Status.text

section Generate

variable (L : Lib) (w : World) (templateId : ℕ) (campaignId : Option ℕ) (env : GenerateEnv)

/-- the look-ups answer, the campaign exists and the deletion is committed -/
def Deletes : Prop := env.lookup = true ∧ (campaignId.bind w.db.course.get).isSome = true ∧ env.delete = true

instance : Decidable (Deletes w campaignId env) := by unfold Deletes; infer_instance

/-- the table without the emails of the template -/
def cleared : Table GeneratedEmail := w.db.generatedEmails.erase fun g => g.cols.templateId = templateId

/-- how a run ends: the emails it leaves and the status it writes -/
inductive GenerateEnding : Table GeneratedEmail → String → Prop
  | early (h : ¬ Deletes w campaignId env) : GenerateEnding w.db.generatedEmails "failed"
  /-- every step has raised -/
  | empty (h : Deletes w campaignId env) (he : emailsToSave L (w.db.emailTemplates.get templateId) env.api = []) :
      GenerateEnding (cleared w templateId) "completed"
  | saved (h : Deletes w campaignId env) (he : emailsToSave L (w.db.emailTemplates.get templateId) env.api ≠ [])
      (hs : env.save = true) :
      GenerateEnding ((emailsToSave L (w.db.emailTemplates.get templateId) env.api).foldl Table.insert (cleared w templateId))
        "completed"
  /-- the last commit has failed -/
  | lost (h : Deletes w campaignId env) (he : emailsToSave L (w.db.emailTemplates.get templateId) env.api ≠ [])
      (hs : env.save = false) :
      GenerateEnding (cleared w templateId) "failed"

theorem statusText_written (w : World) (key text : String) :
    statusText (redisExpire (redisSet w key text) key) key = some text := by
  rw [statusText, redisExpire_text, redisSet_self, Option.map_some]

theorem generate_ending :
    ∃ text, statusText (generateAndSaveEmails L w templateId campaignId env) (statusKey templateId) = some text ∧
      GenerateEnding L w templateId campaignId env
        (generateAndSaveEmails L w templateId campaignId env).db.generatedEmails text := by
  unfold generateAndSaveEmails
  simp only
  split
  · rename_i campaign hlookup hcampaign hdelete
    have hreach : Deletes w campaignId env := ⟨hlookup, Option.isSome_iff_exists.2 ⟨campaign, hcampaign⟩, hdelete⟩
    split_ifs with hnil hsave
    · exact ⟨_, statusText_written .., .empty hreach hnil⟩
    · exact ⟨_, statusText_written .., .saved hreach hnil hsave⟩
    · exact ⟨_, statusText_written .., .lost hreach hnil (by simpa using hsave)⟩
  · rename_i hnot
    refine ⟨_, statusText_written .., .early fun h => ?_⟩
    obtain ⟨campaign, hcampaign⟩ := Option.isSome_iff_exists.1 h.2.1
    exact hnot campaign h.1 hcampaign h.2.2

end Generate

/-! ## Steps that raise -/

/-- a 429, on which `time.sleep` raises, or an exception of the request -/
def breaks : Attempt → Bool
  | .rateLimited | .raises _ => true
  | _ => false

/-- a step raises: its first outcome that is not a time-out is a 429 or an exception -/
def StepRaises (api : ℕ → Attempt) : Prop := ∃ o, firstOutcome answers api 3 = some o ∧ breaks o = true

theorem generateResponse_error_iff (api : ℕ → Attempt) : (∃ e, generateResponse api 3 = .error e) ↔ StepRaises api := by
  rw [generateResponse_eq, StepRaises]
  cases firstOutcome answers api 3 with
  | none => simp
  | some o => cases o <;> simp [routeVerdict, breaks]

theorem generateStep_isSome_iff (L : Lib) (template : Option (Rec EmailTemplate)) (api : ℕ → Attempt) :
    (generateStep L template api).isSome = true ↔ template.isSome = true ∧ ¬ StepRaises api := by
  rw [← generateResponse_error_iff]
  unfold generateStep
  cases template with
  | none => simp
  | some t => cases generateResponse api 3 <;> simp

/-! ## Replacing the emails of a template -/

/-- the two clean endings: three new emails, or the old ones -/
def CleanEnd (w w' : World) (templateId : ℕ) : Prop :=
  (statusText w' (statusKey templateId) = some "completed" ∧ (emailsOf w'.db templateId).length = 3 ∧
      ∀ g ∈ emailsOf w'.db templateId, w.db.generatedEmails.next ≤ g.id) ∨
    statusText w' (statusKey templateId) = some "failed" ∧ emailsOf w'.db templateId = emailsOf w.db templateId

section Replace

variable {L : Lib} {w : World} {templateId : ℕ} {env : GenerateEnv}

theorem emailsToSave_length_iff :
    (emailsToSave L (w.db.emailTemplates.get templateId) env.api).length = 3 ↔
      (w.db.emailTemplates.get templateId).isSome = true ∧ ∀ step < 3, ¬ StepRaises (env.api step) := by
  have hall : (emailsToSave L (w.db.emailTemplates.get templateId) env.api).length = 3 ↔
      ∀ step ∈ [0, 1, 2], (generateStep L (w.db.emailTemplates.get templateId) (env.api step)).isSome = true :=
    List.filterMap_length_eq_length
  rw [hall]
  constructor
  · intro h
    have hstep : ∀ step < 3, (w.db.emailTemplates.get templateId).isSome = true ∧ ¬ StepRaises (env.api step) := by
      intro step hlt
      exact (generateStep_isSome_iff L _ _).1 (h step (by simp; omega))
    exact ⟨(hstep 0 (by omega)).1, fun step hlt => (hstep step hlt).2⟩
  · rintro ⟨htemplate, hsteps⟩ step hmem
    refine (generateStep_isSome_iff L _ _).2 ⟨htemplate, hsteps step ?_⟩
    simp at hmem
    omega

theorem emailsToSave_ne_nil_iff :
    emailsToSave L (w.db.emailTemplates.get templateId) env.api ≠ [] ↔
      (w.db.emailTemplates.get templateId).isSome = true ∧ ∃ step < 3, ¬ StepRaises (env.api step) := by
  rw [emailsToSave, Ne, List.filterMap_eq_nil_iff]
  push Not
  constructor
  · rintro ⟨step, hmem, hstep⟩
    obtain ⟨htemplate, hno⟩ := (generateStep_isSome_iff L _ _).1 (Option.isSome_iff_ne_none.2 hstep)
    refine ⟨htemplate, step, ?_, hno⟩
    simp at hmem
    omega
  · rintro ⟨htemplate, step, hlt, hno⟩
    refine ⟨step, by simp; omega, ?_⟩
    exact Option.isSome_iff_ne_none.1 ((generateStep_isSome_iff L _ _).2 ⟨htemplate, hno⟩)

theorem cleared_emails : ((cleared w templateId).all fun g => g.cols.templateId = templateId) = [] :=
  Table.all_erase_self ..

/-- the emails of the template after a run that saves -/
theorem saved_emails :
    (((emailsToSave L (w.db.emailTemplates.get templateId) env.api).foldl Table.insert (cleared w templateId)).all
        fun g => g.cols.templateId = templateId) =
      (emailsToSave L (w.db.emailTemplates.get templateId) env.api).mapIdx fun i e => ⟨w.db.generatedEmails.next + i, e⟩ := by
  rw [Table.all_foldl_insert _ _ fun e he _ => decide_eq_true (emailsToSave_templateId he), cleared_emails, List.nil_append]
  rfl

/-- the same in terms of the emails of the three steps -/
theorem cleanEnd_iff (L : Lib) (w : World) (templateId : ℕ) (campaignId : Option ℕ) (env : GenerateEnv) :
    CleanEnd w (generateAndSaveEmails L w templateId campaignId env) templateId ↔
      ¬ Deletes w campaignId env ∨ ((emailsToSave L (w.db.emailTemplates.get templateId) env.api).length = 3 ∧ env.save = true) ∨
        emailsOf w.db templateId = [] ∧ emailsToSave L (w.db.emailTemplates.get templateId) env.api ≠ [] ∧ env.save = false := by
  obtain ⟨text, htext, hend⟩ := generate_ending L w templateId campaignId env
  unfold CleanEnd emailsOf
  rw [htext]
  generalize (generateAndSaveEmails L w templateId campaignId env).db.generatedEmails = after at hend
  cases hend with
  | early h => simp [h]
  | empty h he => simp [h, he, cleared_emails]
  | saved h he hs =>
    rw [saved_emails]
    have hnew : ∀ g ∈ (emailsToSave L (w.db.emailTemplates.get templateId) env.api).mapIdx fun i e =>
        (⟨w.db.generatedEmails.next + i, e⟩ : Rec GeneratedEmail), w.db.generatedEmails.next ≤ g.id := by
      intro g hg
      obtain ⟨i, _, rfl⟩ := List.mem_mapIdx.1 hg
      exact Nat.le_add_right _ _
    rw [List.length_mapIdx, and_iff_left hnew]
    simp [h, hs]
  | lost h he hs =>
    rw [cleared_emails, eq_comm (a := [])]
    simp [h, hs, he]

/-- **Clean replacement.** A run of `generate_and_save_emails` ends with status `completed` and three new emails, or with
status `failed` and the old ones, exactly if
- it does not get past the deletion, or
- the template exists, no step raises and the new emails are committed, or
- there were no emails before, the template exists, some step does not raise and the new emails are not committed. -/
theorem replacement_clean_iff (L : Lib) (w : World) (templateId : ℕ) (campaignId : Option ℕ) (env : GenerateEnv) :
    CleanEnd w (generateAndSaveEmails L w templateId campaignId env) templateId ↔
      ¬ Deletes w campaignId env ∨
        ((w.db.emailTemplates.get templateId).isSome = true ∧ (∀ step < 3, ¬ StepRaises (env.api step)) ∧
          env.save = true) ∨
        emailsOf w.db templateId = [] ∧ (w.db.emailTemplates.get templateId).isSome = true ∧
          (∃ step < 3, ¬ StepRaises (env.api step)) ∧ env.save = false := by
  rw [cleanEnd_iff, emailsToSave_length_iff, emailsToSave_ne_nil_iff]
  simp only [and_assoc]

end Replace

namespace Sample

/-- the first campaign has an API key, a template and one generated email, which has been sent -/
def written : World :=
  { start with
    db :=
      { start.db with
        course := start.db.course.modify 1 fun c => { c with openaiKey := some "sk-1" }
        emailTemplates := Table.empty.insert
          { header := some "News", body := "Hello", footer := "Bye", ownerId := some 2, compaign := some 1 }
        generatedEmails := Table.empty.insert
          { header := "", body := "Good news", footer := "", templateId := 1, isSent := true, conversation := some "[]" } } }

end Sample

/-- the API cannot be reached: the email of the template is gone, and the status is `completed` -/
theorem unreachable_api_empties :
    let w := generateAndSaveEmails Sample.lib Sample.written 1 (some 1) ⟨true, true, fun _ _ => .raises .other, true⟩
    (emailsOf Sample.written.db 1).length = 1 ∧ emailsOf w.db 1 = [] ∧ statusText w (statusKey 1) = some "completed" ∧
      ¬ CleanEnd Sample.written w 1 := by
  intro w
  have hnone : emailsOf w.db 1 = [] := rfl
  have hstatus : statusText w (statusKey 1) = some "completed" := rfl
  refine ⟨rfl, hnone, hstatus, ?_⟩
  rintro (⟨_, hlength, _⟩ | ⟨hfailed, _⟩)
  · rw [hnone] at hlength
    cases hlength
  · rw [hstatus] at hfailed
    exact absurd hfailed (by decide)

/-! ## What the API has answered -/

/-- the content of a 200, if it is not empty -/
def contentOf : Attempt → Option String
  | .answered text => if strip text.toList = [] then none else some (String.ofList (strip text.toList))
  | _ => none

/-- the contents received in the POSTs of a call of the helper -/
def contents (calls : List (Call Unit Completion Attempt)) : List String := calls.filterMap fun c => contentOf c.ans

/-- the call of the helper for a prompt, with its three attempts -/
def ask (conversation : List ChatMessage) (key : Option String) (api : ℕ → Attempt) :
    Ran Unit Completion Attempt Exn String :=
  Prog.exec api (routeResponse conversation ("Bearer " ++ pyStr key) 700 3) 0 ()

/-- the error text returned instead of a content, by the first outcome that is not a time-out -/
def errorText : Option Attempt → Option String
  | none => some retriesExceeded
  | some (.refused _) => some contentError
  | some (.answered text) => if strip text.toList = [] then some contentError else none
  | some _ => none

/-- the helper returns the error text `text` -/
def FallsBack (api : ℕ → Attempt) (text : String) : Prop := errorText (firstOutcome answers api 3) = some text

theorem mem_contents_iff (conversation : List ChatMessage) (key : Option String) (api : ℕ → Attempt) {c : String} :
    c ∈ contents (ask conversation key api).calls ↔ (firstOutcome answers api 3).bind contentOf = some c := by
  have hanswers : ∀ o, contentOf o = some c → answers o = true := by
    intro o ho
    cases o with
    | timeout => cases ho
    | answered | rateLimited | refused | raises => rfl
  rw [contents, List.mem_filterMap, Option.bind_eq_some_iff]
  constructor
  · rintro ⟨call, hcall, hcontent⟩
    exact ⟨call.ans, (mem_routeResponse_calls_iff _ _ _ _ _ (hanswers _ hcontent)).1 ⟨call, hcall, rfl⟩, hcontent⟩
  · rintro ⟨o, hfirst, hcontent⟩
    obtain ⟨call, hcall, rfl⟩ := (mem_routeResponse_calls_iff conversation ("Bearer " ++ pyStr key) 700 _ _
      (hanswers _ hcontent)).2 hfirst
    exact ⟨call, hcall, hcontent⟩

/-- **The helper by its outcomes.** It raises, or returns an error text, or returns the content of a 200; only in the last
case has it received one. -/
theorem response_cases (conversation : List ChatMessage) (key : Option String) (api : ℕ → Attempt) :
    (StepRaises api ∧ (∀ text, ¬ FallsBack api text) ∧ ∃ e, generateResponse api 3 = .error e) ∨
      (∃ text, FallsBack api text ∧ generateResponse api 3 = .ok text ∧ contents (ask conversation key api).calls = []) ∨
      (∀ text, ¬ FallsBack api text) ∧
        ∃ c, generateResponse api 3 = .ok c ∧ c ∈ contents (ask conversation key api).calls := by
  simp only [mem_contents_iff, List.eq_nil_iff_forall_not_mem, generateResponse_eq, StepRaises, FallsBack]
  cases hfirst : firstOutcome answers api 3 with
  | none => exact Or.inr (Or.inl ⟨retriesExceeded, rfl, rfl, fun c h => by cases h⟩)
  | some o =>
    cases o with
    | rateLimited | raises => exact Or.inl ⟨⟨_, rfl, rfl⟩, by simp [errorText], _, rfl⟩
    | refused code => exact Or.inr (Or.inl ⟨contentError, rfl, rfl, fun c h => by cases h⟩)
    | timeout => exact absurd (firstOutcome_some hfirst).1 (by decide)
    | answered text =>
      by_cases hempty : strip text.toList = []
      · refine Or.inr (Or.inl ⟨contentError, ?_, ?_, fun c h => ?_⟩)
        · simp [errorText, hempty]
        · simp [routeVerdict, responseText, hempty]
        · simp [contentOf, hempty] at h
      · refine Or.inr (Or.inr ⟨fun t h => ?_, String.ofList (strip text.toList), ?_, ?_⟩)
        · simp [errorText, hempty] at h
        · simp [routeVerdict, responseText, hempty]
        · simp [contentOf, hempty]

/-! ## Emails generated from what was received -/

section Generate

variable (L : Lib) (w : World) (templateId : ℕ) (campaignId : Option ℕ) (env : GenerateEnv)

/-- the contents received in a run of `generate_and_save_emails` -/
def generateReceived : List String :=
  match campaignId.bind w.db.course.get, w.db.emailTemplates.get templateId with
  | some campaign, some template =>
    if Deletes w campaignId env then
      [0, 1, 2].flatMap fun step =>
        contents (ask (conversationFor template.cols.header) campaign.cols.openaiKey (env.api step)).calls
    else []
  | _, _ => []

/-- the rows that are new in a table have the formatted contents that were received as bodies -/
def StoresReal (before after : Table GeneratedEmail) (received : List String) : Prop :=
  ∀ g ∈ after.rows, before.next ≤ g.id → ∃ c ∈ received, g.cols.body = formatBody c

/-- if the run saves, an error text that a step gives has the body of a content that was received -/
def NoErrorSaved : Prop :=
  Deletes w campaignId env → (w.db.emailTemplates.get templateId).isSome = true → env.save = true →
    ∀ step < 3, ∀ text, FallsBack (env.api step) text →
      ∃ c ∈ generateReceived w templateId campaignId env, formatBody text = formatBody c

theorem storesReal_of_subset {before after : Table GeneratedEmail} (h : ∀ g ∈ after.rows, g ∈ before.rows)
    (received : List String) : StoresReal before after received := by
  intro g hg hid
  have hlt := before.below g (h g hg)
  omega

theorem cleared_subset : ∀ g ∈ (cleared w templateId).rows, g ∈ w.db.generatedEmails.rows := fun _ hg =>
  (List.mem_filter.1 hg).1

/-- the new rows of a run that saves are its emails -/
theorem storesReal_saved_iff (received : List String) :
    StoresReal w.db.generatedEmails
        ((emailsToSave L (w.db.emailTemplates.get templateId) env.api).foldl Table.insert (cleared w templateId)) received ↔
      ∀ e ∈ emailsToSave L (w.db.emailTemplates.get templateId) env.api, ∃ c ∈ received, e.body = formatBody c := by
  have hnext : (cleared w templateId).next = w.db.generatedEmails.next := rfl
  rw [StoresReal, Table.foldl_insert_rows, hnext]
  constructor
  · intro h e he
    obtain ⟨i, hi, rfl⟩ := List.getElem_of_mem he
    exact h ⟨w.db.generatedEmails.next + i, (emailsToSave L (w.db.emailTemplates.get templateId) env.api)[i]⟩
      (List.mem_append_right _ (List.mem_mapIdx.2 ⟨i, hi, rfl⟩)) (Nat.le_add_right _ _)
  · intro h g hg hid
    rcases List.mem_append.1 hg with hold | hnew
    · have hlt := w.db.generatedEmails.below g (cleared_subset w templateId g hold)
      omega
    · obtain ⟨i, hi, rfl⟩ := List.mem_mapIdx.1 hnew
      exact h _ (List.getElem_mem hi)

theorem emailsToSave_real_iff (hdeletes : Deletes w campaignId env) :
    (∀ e ∈ emailsToSave L (w.db.emailTemplates.get templateId) env.api,
        ∃ c ∈ generateReceived w templateId campaignId env, e.body = formatBody c) ↔
      ((w.db.emailTemplates.get templateId).isSome = true → ∀ step < 3, ∀ text, FallsBack (env.api step) text →
        ∃ c ∈ generateReceived w templateId campaignId env, formatBody text = formatBody c) := by
  obtain ⟨campaign, hcampaign⟩ := Option.isSome_iff_exists.1 hdeletes.2.1
  unfold emailsToSave
  cases htemplate : w.db.emailTemplates.get templateId with
  | none => simp [generateStep]
  | some template =>
    have hreceived : ∀ step < 3, ∀ c ∈ contents (ask (conversationFor template.cols.header) campaign.cols.openaiKey
        (env.api step)).calls, c ∈ generateReceived w templateId campaignId env := by
      intro step hlt c hc
      simp only [generateReceived, hcampaign, htemplate, if_pos hdeletes]
      exact List.mem_flatMap.2 ⟨step, by simp; omega, hc⟩
    constructor
    · intro h _ step hlt text hfalls
      rcases response_cases (conversationFor template.cols.header) campaign.cols.openaiKey (env.api step) with
        ⟨_, hno, _⟩ | ⟨text', hfalls', hval, _⟩ | ⟨hno, _⟩
      · exact absurd hfalls (hno text)
      · obtain rfl : text = text' := Option.some.inj (hfalls.symm.trans hfalls')
        have hstep : generateStep L (some template) (env.api step) = some _ :=
          (generateStep_eq_some_iff L).2 ⟨template, text, rfl, hval, rfl⟩
        exact h _ (List.mem_filterMap.2 ⟨step, by simp; omega, hstep⟩)
      · exact absurd hfalls (hno text)
    · intro h e he
      obtain ⟨step, hmem, hstep⟩ := List.mem_filterMap.1 he
      have hlt : step < 3 := by
        simp at hmem
        omega
      obtain ⟨_, content, _, hcontent, rfl⟩ := (generateStep_eq_some_iff L).1 hstep
      rcases response_cases (conversationFor template.cols.header) campaign.cols.openaiKey (env.api step) with
        ⟨_, _, exn, hval⟩ | ⟨text, hfalls, hval, _⟩ | ⟨_, c, hval, hc⟩
      · rw [hval] at hcontent
        cases hcontent
      · obtain rfl : text = content := Except.ok.inj (hval.symm.trans hcontent)
        exact h rfl step hlt text hfalls
      · obtain rfl : c = content := Except.ok.inj (hval.symm.trans hcontent)
        exact ⟨c, hreceived step hlt c hc, rfl⟩

theorem generate_real_iff :
    StoresReal w.db.generatedEmails (generateAndSaveEmails L w templateId campaignId env).db.generatedEmails
        (generateReceived w templateId campaignId env) ↔ NoErrorSaved w templateId campaignId env := by
  obtain ⟨text, _, hend⟩ := generate_ending L w templateId campaignId env
  generalize (generateAndSaveEmails L w templateId campaignId env).db.generatedEmails = after at hend
  unfold NoErrorSaved
  cases hend with
  | early h => exact iff_of_true (storesReal_of_subset (fun _ hg => hg) _) fun hd => absurd hd h
  | empty h he =>
    refine iff_of_true (storesReal_of_subset (cleared_subset w templateId) _) fun hd ht _ => ?_
    refine (emailsToSave_real_iff L w templateId campaignId env hd).1 (fun e hmem => ?_) ht
    rw [he] at hmem
    exact absurd hmem List.not_mem_nil
  | saved h he hs =>
    rw [storesReal_saved_iff, emailsToSave_real_iff L w templateId campaignId env h]
    exact ⟨fun hreal _ ht _ => hreal ht, fun hreal ht => hreal h ht hs⟩
  | lost h he hs =>
    refine iff_of_true (storesReal_of_subset (cleared_subset w templateId) _) fun _ _ hsave => ?_
    rw [hs] at hsave
    cases hsave

end Generate

/-! ## An email regenerated from what was received -/

section Regenerate

variable (L : Lib)

/-- the contents received in a run of `regenerate_email_task` -/
def regenerateReceived (w : World) (id : ℕ) (env : RegenerateEnv) : List String :=
  match regenerateAsks L w.db id env.lookup with
  | .error _ => []
  | .ok (conversation, key) => contents (ask conversation key env.api).calls

/-- a status that a poll answers with `failed` and the error behind the colon -/
def ReportsFailure (w : World) (key : String) : Prop :=
  ∃ text, statusText w key = some text ∧ "failed:".toList <+: text.toList

/-- what a run of `regenerate_email_task` stores is a content it has received, and without one it changes nothing -/
structure RegeneratesReal (before after : World) (id : ℕ) (redisKey : String) (received : List String) : Prop where
  stored : ∀ g, after.db.generatedEmails.get id = some g →
    before.db.generatedEmails.get id = some g ∨ ∃ c ∈ received, g.cols.body = formatBody c
  kept : received = [] →
    after.db.generatedEmails.get id = before.db.generatedEmails.get id ∧ ReportsFailure after redisKey

theorem reportsFailure_written (w : World) (key : String) {text : String} (rest : String)
    (h : "failed:".toList <+: text.toList) : ReportsFailure (redisExpire (redisSet w key (text ++ rest)) key) key := by
  refine ⟨text ++ rest, statusText_written .., h.trans ?_⟩
  rw [String.toList_append]
  exact List.prefix_append ..

variable {L}

/-- a run that ends before its commit changes no row and reports a failure -/
theorem regenerate_unstored {w : World} {id : ℕ} {env : RegenerateEnv} (redisKey : String)
    (h : ∀ p, regenerated L w.db id env = .ok p → env.commit = false) :
    (regenerateEmailTask L w id redisKey env).db.generatedEmails = w.db.generatedEmails ∧
      ReportsFailure (regenerateEmailTask L w id redisKey env) redisKey := by
  unfold regenerateEmailTask
  cases hres : regenerated L w.db id env with
  | error e => exact ⟨rfl, reportsFailure_written _ _ _ (by decide)⟩
  | ok p =>
    have hcommit := h p hres
    simp only [hcommit]
    exact ⟨rfl, reportsFailure_written _ _ _ (by decide)⟩

/-- a run that commits stores the formatted text and reports `completed` -/
theorem regenerate_stored {w : World} {id : ℕ} {env : RegenerateEnv} (redisKey : String) {p : String × String}
    (h : regenerated L w.db id env = .ok p) (hcommit : env.commit = true) :
    statusText (regenerateEmailTask L w id redisKey env) redisKey = some "completed" ∧
      ∀ g, (regenerateEmailTask L w id redisKey env).db.generatedEmails.get id = some g → g.cols.body = p.1 := by
  unfold regenerateEmailTask
  simp only [h, hcommit, if_true]
  refine ⟨statusText_written .., ?_⟩
  intro g hg
  obtain ⟨email, _, _, _, _, hemail, _⟩ := regenerated_spec h
  cases (Table.get_modify_self hemail _).symm.trans hg
  rfl

theorem not_reportsFailure_completed {w : World} {key : String} (h : statusText w key = some "completed") :
    ¬ ReportsFailure w key := by
  rintro ⟨text, htext, hprefix⟩
  obtain rfl : "completed" = text := Option.some.inj (h.symm.trans htext)
  exact absurd hprefix (by decide)

theorem regenerate_real_iff (w : World) (id : ℕ) (redisKey : String) (env : RegenerateEnv) :
    RegeneratesReal w (regenerateEmailTask L w id redisKey env) id redisKey (regenerateReceived L w id env) ↔
      ((∃ p, regenerateAsks L w.db id env.lookup = .ok p) → env.commit = true → ∀ text, ¬ FallsBack env.api text) := by
  have hres := regenerated.eq_def L w.db id env
  have hunstored : (∀ p, regenerated L w.db id env = .ok p → env.commit = false) →
      RegeneratesReal w (regenerateEmailTask L w id redisKey env) id redisKey (regenerateReceived L w id env) := by
    intro h
    obtain ⟨hrows, hfailed⟩ := regenerate_unstored redisKey h
    refine ⟨fun g hg => ?_, fun _ => ⟨by rw [hrows], hfailed⟩⟩
    rw [hrows] at hg
    exact Or.inl hg
  cases hasks : regenerateAsks L w.db id env.lookup with
  | error e =>
    refine iff_of_true (hunstored fun p hp => ?_) (by simp)
    rw [hres, hasks] at hp
    cases hp
  | ok p =>
    obtain ⟨conversation, key⟩ := p
    rw [hasks] at hres
    have hreceived : regenerateReceived L w id env = contents (ask conversation key env.api).calls := by
      rw [regenerateReceived, hasks]
    cases hcommit : env.commit with
    | false => exact iff_of_true (hunstored fun _ _ => hcommit) (by simp)
    | true =>
      rcases response_cases conversation key env.api with
        ⟨_, hno, e, hval⟩ | ⟨text, hfalls, hval, hnone⟩ | ⟨hno, c, hval, hc⟩
      · refine iff_of_true (hunstored fun p hp => ?_) fun _ _ => hno
        simp only [hres, hval] at hp
        cases hp
      · simp only [hval] at hres
        obtain ⟨hstatus, _⟩ := regenerate_stored redisKey hres hcommit
        refine iff_of_false (fun h => ?_) fun h => h ⟨_, rfl⟩ rfl text hfalls
        exact not_reportsFailure_completed hstatus (h.kept (hreceived.trans hnone)).2
      · simp only [hval] at hres
        obtain ⟨_, hbody⟩ := regenerate_stored redisKey hres hcommit
        refine iff_of_true ⟨fun g hg => Or.inr ⟨c, hreceived ▸ hc, hbody g hg⟩, fun hnil => ?_⟩ fun _ _ => hno
        rw [← hreceived, hnil] at hc
        exact absurd hc List.not_mem_nil

end Regenerate

/-- **Only real content.** A run of `generate_and_save_emails` stores formatted contents of 200 responses only, exactly if
it saves no error text; and a run of `regenerate_email_task` does so, and leaves the email alone and reports a failure if it
has received no content, exactly if it commits no error text. -/
theorem only_real_content_iff (L : Lib) (w : World) :
    (∀ templateId campaignId env,
      StoresReal w.db.generatedEmails (generateAndSaveEmails L w templateId campaignId env).db.generatedEmails
          (generateReceived w templateId campaignId env) ↔ NoErrorSaved w templateId campaignId env) ∧
      ∀ id redisKey env,
        RegeneratesReal w (regenerateEmailTask L w id redisKey env) id redisKey (regenerateReceived L w id env) ↔
          ((∃ p, regenerateAsks L w.db id env.lookup = .ok p) → env.commit = true → ∀ text, ¬ FallsBack env.api text) :=
  ⟨generate_real_iff L w, regenerate_real_iff w⟩

/-- conversations can be loaded -/
def Sample.conversing : Lib :=
  { lib with loads := fun _ => some [⟨"system", "You write newsletters"⟩, ⟨"user", "Write one"⟩] }

/-- the API answers the regeneration with a 500: the error text replaces the sent newsletter, ready to be sent again, and the
status is `completed` -/
theorem error_text_stored :
    let env : RegenerateEnv := ⟨true, fun _ => .refused 500, true⟩
    let w := regenerateEmailTask Sample.conversing Sample.written 1 (statusKey 1) env
    regenerateReceived Sample.conversing Sample.written 1 env = [] ∧
      (Sample.written.db.generatedEmails.get 1).map (fun g => (g.cols.body, g.cols.isSent)) = some ("Good news", true) ∧
      (w.db.generatedEmails.get 1).map (fun g => (g.cols.body, g.cols.isSent)) =
        some ("<p>Error in content generation.</p>", false) ∧
      statusText w (statusKey 1) = some "completed" ∧
      ¬ RegeneratesReal Sample.written w 1 (statusKey 1) (regenerateReceived Sample.conversing Sample.written 1 env) := by
  intro env w
  have hreceived : regenerateReceived Sample.conversing Sample.written 1 env = [] := rfl
  have hstatus : statusText w (statusKey 1) = some "completed" := by decide +kernel
  refine ⟨hreceived, rfl, by decide +kernel, hstatus, fun h => ?_⟩
  exact not_reportsFailure_completed hstatus (h.kept hreceived).2

end Newsletter
