/-
The conversation of a generated email (`app/course/route.py`, lines 637-676 and 824-888).

`generate_and_save_emails` stores the two messages of its prompt as JSON; each run of `regenerate_email_task` loads them, adds a
sentence to the second by an unchecked index, and stores the result with the new text. Runs may overlap: two that have read
the same conversation both store one more sentence than they have read, and the later commit wins. Whatever overlaps and fails,
what is stored is the prompt with at most as many sentences more as there were commits (`conversation_kept`), so reading it and
indexing into it do not fail.

`emailsAfter_row` says once what a step can do to a row: leave the conversation, replace it by the one that a regeneration has
prepared, or insert the row from the list that a generation has prepared. The invariant (`Conversing`) is about the three places
in which conversations are: rows, lists to be inserted, and prepared commits.
-/
import Newsletter.Concurrency.Tasks

namespace Newsletter.Concurrency

open Newsletter.Core Courses

/-- a step of a task; no other request is served meanwhile -/
def OfTask : TaskEvent → Prop
  | .request _ => False
  | _ => True

/-! ## Conversations -/

/-- the messages of the prompt for a header, with `k` requests for another version -/
def prompted (header : Option String) (k : ℕ) : List ChatMessage :=
  [systemPrompt, { role := "user", content := basePrompt header ++ String.join (List.replicate k differentVersion) }]

theorem prompted_zero (header : Option String) : prompted header 0 = conversationFor header := by
  simp [prompted, conversationFor]

theorem askAgain_prompted (header : Option String) (k : ℕ) :
    askAgain (prompted header k) = some (prompted header (k + 1)) := by
  have hjoin : String.join (List.replicate (k + 1) differentVersion) =
      String.join (List.replicate k differentVersion) ++ differentVersion := by
    rw [List.replicate_succ', String.join_append]
    simp
  rw [prompted, prompted, hjoin, ← String.append_assoc]
  rfl

/-- the conversation is the prompt for the template's header, with at most `bound` requests for another version -/
def Asked (L : Lib) (templates : Table EmailTemplate) (bound templateId : ℕ) (conversation : Option String) : Prop :=
  ∃ template k, templates.get templateId = some template ∧ k ≤ bound ∧
    conversation = some (L.dumps (prompted template.cols.header k))

theorem Asked.mono {L : Lib} {templates : Table EmailTemplate} {a b templateId : ℕ} {conversation : Option String}
    (h : Asked L templates a templateId conversation) (hab : a ≤ b) : Asked L templates b templateId conversation := by
  obtain ⟨template, k, htemplate, hk, hconversation⟩ := h
  exact ⟨template, k, htemplate, hk.trans hab, hconversation⟩

/-- what a generation prepares -/
theorem asked_emailsToSave {L : Lib} {templates : Table EmailTemplate} {t : ℕ} {found : Bool} {api : ℕ → ℕ → Attempt}
    {e : GeneratedEmail} (h : e ∈ emailsToSave L (if found then templates.get t else none) api) :
    Asked L templates 0 e.templateId e.conversation := by
  obtain ⟨step, _, hstep⟩ := List.mem_filterMap.1 h
  obtain ⟨template, content, htemplate, _, rfl⟩ := (generateStep_eq_some_iff L).1 hstep
  cases found with
  | false => cases htemplate
  | true =>
    have hget := Table.get_of_mem (Table.get_eq_some_iff.1 htemplate).1
    exact ⟨template, 0, hget, le_rfl, by rw [prompted_zero]⟩

/-- a regeneration prepares one more request than it has read -/
theorem asked_regenerated {L : Lib} (hjson : ∀ c, L.loads (L.dumps c) = some c) {templates : Table EmailTemplate} {db : Db}
    {id bound : ℕ} {env : RegenerateEnv} {p : String × String} {email : Rec GeneratedEmail}
    (h : regenerated L db id env = .ok p) (hemail : db.generatedEmails.get id = some email)
    (hasked : Asked L templates bound email.cols.templateId email.cols.conversation) :
    Asked L templates (bound + 1) email.cols.templateId (some p.2) := by
  obtain ⟨email', text, read, asked, content, hemail', htext, hread, hagain, _, rfl⟩ := regenerated_spec h
  obtain rfl : email = email' := Option.some.inj (hemail.symm.trans hemail')
  obtain ⟨template, k, htemplate, hk, hconversation⟩ := hasked
  obtain rfl : text = L.dumps (prompted template.cols.header k) := Option.some.inj (htext.symm.trans hconversation)
  obtain rfl : prompted template.cols.header k = read := Option.some.inj ((hjson _).symm.trans hread)
  obtain rfl : prompted template.cols.header (k + 1) = asked := Option.some.inj ((askAgain_prompted ..).symm.trans hagain)
  exact ⟨template, k + 1, htemplate, Nat.succ_le_succ hk, rfl⟩

/-! ## What a step does to a row -/

/-- the step commits a regeneration of the row `g` that has prepared `conversation` -/
def Stores (g : ℕ) (conversation : String) (s : Tasks) (e : TaskEvent) : Prop :=
  ∃ n r loaded body, e = .regenerate n true ∧ s.regenerating n = some r ∧ r.generatedEmailId = g ∧
    r.point = .write loaded body conversation

/-- a row after a step that was there before -/
def Same (s : Tasks) (e : TaskEvent) (row row' : Rec GeneratedEmail) : Prop :=
  row.id = row'.id ∧ row.cols.templateId = row'.cols.templateId ∧
    (row'.cols.conversation = row.cols.conversation ∨
      ∃ conversation, Stores row.id conversation s e ∧ row'.cols.conversation = some conversation)

theorem Same.refl (s : Tasks) (e : TaskEvent) (row : Rec GeneratedEmail) : Same s e row row := ⟨rfl, rfl, Or.inl rfl⟩

theorem same_setAt {s : Tasks} {e : TaskEvent} {id : ℕ} {loaded new : GeneratedEmail}
    (htemplate : new.templateId = loaded.templateId)
    (hconversation : new.conversation = loaded.conversation ∨
      ∃ conversation, Stores id conversation s e ∧ new.conversation = some conversation) (row : Rec GeneratedEmail) :
    Same s e row (Table.setAt id (flush loaded new) row) := by
  by_cases hid : row.id = id
  · rw [Table.setAt_of_eq hid]
    refine ⟨rfl, (flush_templateId htemplate _).symm, ?_⟩
    by_cases hsame : new.conversation = loaded.conversation
    · exact Or.inl (if_pos hsame)
    · obtain ⟨conversation, hstores, hnew⟩ := hconversation.resolve_left hsame
      exact Or.inr ⟨conversation, hid ▸ hstores, (if_neg hsame).trans hnew⟩
  · rw [Table.setAt_of_ne hid]
    exact Same.refl s e row

variable {L : Lib} {s : Tasks} {e : TaskEvent}

theorem OfTask.ne_request (he : OfTask e) (r : Request) : e ≠ .request r := by
  rintro rfl
  exact he

/-- **Step.** A row after a step was there before, with the same template and either its conversation or the one that the step
stores; or it is new and from the list that the step inserts. -/
theorem emailsAfter_row (he : OfTask e) {row' : Rec GeneratedEmail} (h : row' ∈ (emailsAfter L s e).rows) :
    (∃ row ∈ s.world.db.generatedEmails.rows, Same s e row row') ∨
      s.world.db.generatedEmails.next ≤ row'.id ∧
        ∃ n g emails, s.generating n = some g ∧ g.point = .save emails ∧ row'.cols ∈ emails := by
  have heffect := emailsAfter_effect L s he.ne_request
  generalize emailsAfter L s e = table at h heffect
  have hkept : row' ∈ s.world.db.generatedEmails.rows → ∃ row ∈ s.world.db.generatedEmails.rows, Same s e row row' :=
    fun hrow => ⟨row', hrow, Same.refl s e row'⟩
  cases heffect with
  | keep => exact Or.inl (hkept h)
  | delete => exact Or.inl (hkept (List.mem_filter.1 h).1)
  | @save n _ g emails run point =>
    rw [Table.foldl_insert_rows] at h
    rcases List.mem_append.1 h with hold | hnew
    · exact Or.inl (hkept hold)
    · obtain ⟨i, hi, rfl⟩ := List.mem_mapIdx.1 hnew
      exact Or.inr ⟨Nat.le_add_right _ _, n, g, emails, run, point, List.getElem_mem hi⟩
  | @rewrite n r loaded body conversation run point =>
    obtain ⟨row, hrow, rfl⟩ := Table.mem_modify.1 h
    have hstores : Stores r.generatedEmailId conversation s (.regenerate n true) :=
      ⟨n, r, loaded, body, rfl, run, rfl, point⟩
    refine Or.inl ⟨row, hrow, same_setAt ?_ (Or.inr ⟨conversation, hstores, ?_⟩) row⟩
    · rfl
    · rfl
  | mark =>
    obtain ⟨row, hrow, rfl⟩ := Table.mem_modify.1 h
    refine Or.inl ⟨row, hrow, same_setAt ?_ (Or.inl ?_) row⟩
    · rfl
    · rfl

theorem emailsAfter_next (he : OfTask e) : s.world.db.generatedEmails.next ≤ (emailsAfter L s e).next :=
  (emailsAfter_effect L s he.ne_request).next_le

/-! ## The invariant -/

/-- how often a step commits a regeneration of the row `g` -/
def committed (g : ℕ) (s : Tasks) : TaskEvent → ℕ
  | .regenerate n true =>
    match s.regenerating n with
    | some ⟨id, .write ..⟩ => if id = g ∧ (s.world.db.generatedEmails.get g).isSome then 1 else 0
    | _ => 0
  | _ => 0

theorem committed_of_stores {conversation : String} {row : Rec GeneratedEmail} (hrow : row ∈ s.world.db.generatedEmails.rows)
    (h : Stores row.id conversation s e) : committed row.id s e = 1 := by
  obtain ⟨n, ⟨id, point⟩, loaded, body, rfl, hn, hid, hpoint⟩ := h
  simp only at hid hpoint
  simp only [committed, hn, hpoint, hid, Table.get_of_mem hrow, Option.isSome_some, and_self, if_true]

/-- the rows from `first` on, the lists to be inserted and the prepared commits hold conversations as they should, `count` being
the commits so far -/
structure Conversing (L : Lib) (templates : Table EmailTemplate) (first : ℕ) (count : ℕ → ℕ) (s : Tasks) : Prop where
  kept : s.world.db.emailTemplates = templates
  fresh : first ≤ s.world.db.generatedEmails.next
  rows : ∀ row ∈ s.world.db.generatedEmails.rows, first ≤ row.id →
    Asked L templates (count row.id) row.cols.templateId row.cols.conversation
  saving : ∀ n g emails, s.generating n = some g → g.point = .save emails →
    ∀ x ∈ emails, Asked L templates 0 x.templateId x.conversation
  /-- a prepared commit is for the row that was read, if it is still there: its id is not given again -/
  writing : ∀ n r loaded body conversation, s.regenerating n = some r → r.point = .write loaded body conversation →
    first ≤ r.generatedEmailId → r.generatedEmailId < s.world.db.generatedEmails.next ∧
      ∀ row ∈ s.world.db.generatedEmails.rows, row.id = r.generatedEmailId →
        Asked L templates (count row.id + 1) row.cols.templateId (some conversation)

section Step

variable {templates : Table EmailTemplate} {first : ℕ} {count : ℕ → ℕ}

theorem rows_next (he : OfTask e) (h : Conversing L templates first count s) {row' : Rec GeneratedEmail}
    (hrow' : row' ∈ (emailsAfter L s e).rows) (hfirst : first ≤ row'.id) :
    Asked L templates (count row'.id + committed row'.id s e) row'.cols.templateId row'.cols.conversation := by
  rcases emailsAfter_row he hrow' with ⟨row, hrow, hid, htemplate, hconversation⟩ | ⟨_, n, g, emails, hg, hpoint, hmem⟩
  · rw [← hid] at hfirst ⊢
    rw [← htemplate]
    rcases hconversation with hkept | ⟨conversation, hstores, hnew⟩
    · rw [hkept]
      exact (h.rows row hrow hfirst).mono (Nat.le_add_right _ _)
    · rw [hnew, committed_of_stores hrow hstores]
      obtain ⟨n, r, loaded, body, _, hn, hrid, hpoint⟩ := hstores
      exact (h.writing n r loaded body conversation hn hpoint (hrid ▸ hfirst)).2 row hrow hrid.symm
  · exact (h.saving n g emails hg hpoint _ hmem).mono (Nat.zero_le _)

theorem saving_next (h : Conversing L templates first count s) {n : ℕ} {g : Generating} {emails : List GeneratedEmail}
    (hg : ((tasks L).next s e).generating n = some g) (hpoint : g.point = .save emails) :
    ∀ x ∈ emails, Asked L templates 0 x.templateId x.conversation := by
  rcases generating_cases L s hg with ⟨hold, _⟩ | ⟨t, c, _, _, rfl⟩ | ⟨env, g0, _, hold, rfl⟩
  · exact h.saving n g emails hold hpoint
  · cases hpoint
  · obtain ⟨t, c, point, saved⟩ := g0
    cases point with
    | generate found =>
      simp only [Generating.move, h.kept] at hpoint
      generalize hprepared : emailsToSave L (if found then templates.get t else none) env.api = prepared at hpoint
      split_ifs at hpoint
      cases hpoint
      intro x hx
      rw [← hprepared] at hx
      exact asked_emailsToSave hx
    | lookUp | delete | save =>
      simp only [Generating.move] at hpoint
      split_ifs at hpoint
    | complete | fail | expire | ended => cases hpoint

theorem writing_next (hjson : ∀ c, L.loads (L.dumps c) = some c) (he : OfTask e) (h : Conversing L templates first count s)
    {n : ℕ} {r : Regenerating} {loaded : GeneratedEmail} {body conversation : String}
    (hr : ((tasks L).next s e).regenerating n = some r) (hpoint : r.point = .write loaded body conversation)
    (hfirst : first ≤ r.generatedEmailId) :
    r.generatedEmailId < (emailsAfter L s e).next ∧
      ∀ row ∈ (emailsAfter L s e).rows, row.id = r.generatedEmailId →
        Asked L templates (count row.id + committed row.id s e + 1) row.cols.templateId (some conversation) := by
  rcases regenerating_cases L s hr with ⟨hold, _⟩ | ⟨id, env, rfl, _, rfl⟩ | ⟨ok, r0, _, _, rfl⟩
  · obtain ⟨hbelow, hasked⟩ := h.writing n r loaded body conversation hold hpoint hfirst
    refine ⟨hbelow.trans_le (emailsAfter_next he), fun row' hrow' hid' => ?_⟩
    rcases emailsAfter_row he hrow' with ⟨row, hrow, hid, htemplate, _⟩ | ⟨hnew, _⟩
    · rw [← hid, ← htemplate]
      exact (hasked row hrow (hid.trans hid')).mono (by omega)
    · omega
  · -- the run has just read the row
    simp only [Regenerating.read] at hpoint hfirst
    split at hpoint
    · rename_i email hok hemail
      cases hpoint
      obtain ⟨hmem, hid⟩ := Table.get_eq_some_iff.1 hemail
      have hread : Asked L templates (count id) email.cols.templateId email.cols.conversation := by
        rw [← hid] at hfirst ⊢
        exact h.rows email hmem hfirst
      refine ⟨hid ▸ s.world.db.generatedEmails.below email hmem, fun row hrow hrid => ?_⟩
      obtain rfl : email = row := s.world.db.generatedEmails.id_inj hmem hrow (hid.trans hrid.symm)
      rw [hid]
      exact asked_regenerated hjson hok hemail hread
    · cases hpoint
    · cases hpoint
  · obtain ⟨id, point⟩ := r0
    cases point with
    | write =>
      simp only [Regenerating.move] at hpoint
      split_ifs at hpoint
    | complete | fail | expire | ended => cases hpoint

theorem conversing_next (hjson : ∀ c, L.loads (L.dumps c) = some c) (he : OfTask e)
    (h : Conversing L templates first count s) :
    Conversing L templates first (fun g => count g + committed g s e) ((tasks L).next s e) := by
  have hemails := next_emails L s e
  refine ⟨?_, ?_, ?_, fun n g emails => saving_next h, ?_⟩
  · rw [next_db]
    cases e with
    | request r => exact absurd he id
    | _ => exact h.kept
  · rw [hemails]
    exact h.fresh.trans (emailsAfter_next he)
  · rw [hemails]
    intro row hrow hfirst
    exact rows_next he h hrow hfirst
  · rw [hemails]
    intro n r loaded body conversation hr hpoint hfirst
    exact writing_next hjson he h hr hpoint hfirst

end Step

/-- **The conversation is kept.** After any steps of generations, regenerations and sends, overlapping and failing as they may,
every row that was created meanwhile stores the prompt for its template's header, with at most as many requests for another
version as regenerations of it were committed; so it can be loaded and has a second message. -/
theorem conversation_kept (L : Lib) (hjson : ∀ c, L.loads (L.dumps c) = some c) (w : World) (schedule : List TaskEvent)
    (htasks : ∀ e ∈ schedule, OfTask e) (row : Rec GeneratedEmail)
    (hrow : row ∈ ((tasks L).run (atRest w) schedule).world.db.generatedEmails.rows)
    (hnew : w.db.generatedEmails.next ≤ row.id) :
    ∃ template k text, w.db.emailTemplates.get row.cols.templateId = some template ∧
      k ≤ (tasks L).total (committed row.id) (atRest w) schedule ∧
      row.cols.conversation = some text ∧ text = L.dumps (prompted template.cols.header k) ∧
      ∃ messages, L.loads text = some messages ∧ (askAgain messages).isSome = true := by
  have hstart : Conversing L w.db.emailTemplates w.db.generatedEmails.next (fun _ => 0) (atRest w) := by
    refine ⟨rfl, le_rfl, fun row hrow hid => ?_, fun n g emails hg => ?_, fun n r loaded body conversation hr => ?_⟩
    · exact absurd hid (not_le.2 (w.db.generatedEmails.below row hrow))
    · cases hg
    · cases hr
  have hend := (tasks L).run_inv_total (f := committed) (fun c s e he h => conversing_next hjson he h) htasks hstart
  obtain ⟨template, k, htemplate, hk, hconversation⟩ := hend.rows row hrow hnew
  rw [Nat.zero_add] at hk
  refine ⟨template, k, _, htemplate, hk, hconversation, rfl, _, hjson _, ?_⟩
  rw [askAgain_prompted]
  rfl

/-! ## A generation and a regeneration -/

namespace Sample

/-- the drafted template, and an API key of its campaign -/
def keyedDraft : World :=
  { drafted with
    db := { drafted.db with course := drafted.db.course.modify 1 fun c => { c with openaiKey := some "sk-1" } } }

def template : Rec EmailTemplate :=
  ⟨1, { header := "News", body := "Hello", footer := "Bye", compaign := some 1, ownerId := some 2 }⟩

/-- the three emails are generated -/
def generation : List TaskEvent := .beginGenerate 0 1 (some 1) :: steps [0, 0, 0, 0]

def newVersion : RegenerateEnv := ⟨true, fun _ => .answered "Better news", true⟩

/-- and the first of them is regenerated -/
def regeneration : List TaskEvent := .beginRegenerate 1 1 newVersion :: [newVersion.commit, true, true].map (.regenerate 1)

theorem generation_ofTask : ∀ e ∈ generation, OfTask e := by
  intro e he
  simp only [generation, steps, List.map_cons, List.map_nil, List.mem_cons, List.not_mem_nil, or_false] at he
  rcases he with rfl | rfl | rfl | rfl | rfl <;> exact trivial

theorem regeneration_ofTask : ∀ e ∈ regeneration, OfTask e := by
  intro e he
  simp only [regeneration, List.map_cons, List.map_nil, List.mem_cons, List.not_mem_nil, or_false] at he
  rcases he with rfl | rfl | rfl | rfl <;> exact trivial

/-- a regeneration by itself of an email that has the prompt stores the prompt with one request more -/
theorem regeneration_row {s : Tasks} {row : Rec GeneratedEmail} (template : Rec EmailTemplate) {campaign : Rec Course}
    {k : ℕ} (hidle : s.regenerating 1 = none) (hrow : s.world.db.generatedEmails.get 1 = some row)
    (htemplate : s.world.db.emailTemplates.get row.cols.templateId = some template)
    (hcampaign : template.cols.compaign.bind s.world.db.course.get = some campaign)
    (hkey : truthy campaign.cols.openaiKey = true)
    (hasked : row.cols.conversation = some (Newsletter.Sample.json.dumps (prompted template.cols.header k))) :
    ∃ row', ((tasks Newsletter.Sample.json).run s regeneration).world.db.generatedEmails.get 1 = some row' ∧
      row'.cols.body = formatBody "Better news" ∧
      row'.cols.conversation = some (Newsletter.Sample.json.dumps (prompted template.cols.header (k + 1))) := by
  have hcontent : generateResponse newVersion.api 3 = .ok "Better news" := rfl
  have hanswer : regenerated Newsletter.Sample.json s.world.db 1 newVersion = .ok (formatBody "Better news",
      Newsletter.Sample.json.dumps (prompted template.cols.header (k + 1))) :=
    regenerated_of_asks rfl hrow hasked (Newsletter.Sample.json_loads _) htemplate hcampaign hkey (askAgain_prompted _ _) hcontent
  rw [regeneration, regenerate_alone _ hidle 1 newVersion, regenerateEmailTask]
  simp only [show (takeThread s.world (.regenerateEmailTask 1 (statusKey 1))).db = s.world.db from rfl, hanswer]
  exact ⟨_, Table.get_modify_self hrow _, rfl, rfl⟩

end Sample

/-- three emails are generated and the first of them is regenerated: its conversation has one request for another version -/
theorem conversation_kept_first :
    let L := Newsletter.Sample.json
    let w := Sample.keyedDraft
    let schedule := Sample.generation ++ Sample.regeneration
    ∃ row ∈ ((tasks L).run (atRest w) schedule).world.db.generatedEmails.rows, w.db.generatedEmails.next ≤ row.id ∧
      row.cols.conversation = some (L.dumps (prompted "News" 1)) ∧
      ∃ template k text, w.db.emailTemplates.get row.cols.templateId = some template ∧
        k ≤ (tasks L).total (committed row.id) (atRest w) schedule ∧
        row.cols.conversation = some text ∧ text = L.dumps (prompted template.cols.header k) ∧
        ∃ messages, L.loads text = some messages ∧ (askAgain messages).isSome = true := by
  intro L w schedule
  have hsome : ((tasks L).run (atRest w) Sample.generation).world.db.generatedEmails.get 1 ≠ none := by decide +kernel
  have hidle : ((tasks L).run (atRest w) Sample.generation).regenerating 1 = none := rfl
  have hof : (((tasks L).run (atRest w) Sample.generation).world.db.generatedEmails.get 1).map (fun g => g.cols.templateId) =
      some 1 := by decide +kernel
  have hloaded : w.db.emailTemplates.get 1 = some Sample.template := rfl
  have htemplate : ((tasks L).run (atRest w) Sample.generation).world.db.emailTemplates.get 1 = some Sample.template :=
    rfl
  have hkeyed : (((tasks L).run (atRest w) Sample.generation).world.db.course.get 1).map (fun c => truthy c.cols.openaiKey) =
      some true := by decide +kernel
  have hnone : (tasks L).total (committed 1) (atRest w) Sample.generation = 0 := by decide +kernel
  generalize hs : (tasks L).run (atRest w) Sample.generation = s at hsome hidle hof htemplate hkeyed
  obtain ⟨row, hrow⟩ := Option.ne_none_iff_exists'.1 hsome
  obtain ⟨hmem, hid⟩ := Table.get_eq_some_iff.1 hrow
  obtain ⟨campaign, hcampaign, hkey⟩ := Option.map_eq_some_iff.1 hkeyed
  have htemplateId : row.cols.templateId = 1 := by
    rw [hrow] at hof
    exact Option.some.inj hof
  have hfirst : w.db.generatedEmails.next ≤ 1 := le_refl 1
  -- what the generation has stored
  obtain ⟨template, k, text, hget, hk, htext, rfl, _⟩ := conversation_kept L Newsletter.Sample.json_loads w Sample.generation
    Sample.generation_ofTask row (hs ▸ hmem) (hid ▸ hfirst)
  rw [htemplateId, hloaded] at hget
  cases hget
  rw [hid, hnone, Nat.le_zero] at hk
  subst hk
  obtain ⟨row', hrow', _, hconversation⟩ :=
    Sample.regeneration_row Sample.template hidle hrow (htemplateId ▸ htemplate) hcampaign hkey htext
  obtain ⟨hmem', hid'⟩ := Table.get_eq_some_iff.1 hrow'
  have hend : row' ∈ ((tasks L).run (atRest w) schedule).world.db.generatedEmails.rows := by
    rw [Machine.run_append, hs]
    exact hmem'
  have htasks : ∀ e ∈ schedule, OfTask e :=
    List.forall_mem_append.2 ⟨Sample.generation_ofTask, Sample.regeneration_ofTask⟩
  exact ⟨row', hend, hid' ▸ hfirst, hconversation,
    conversation_kept L Newsletter.Sample.json_loads w schedule htasks row' hend (hid' ▸ hfirst)⟩

end Newsletter.Concurrency
