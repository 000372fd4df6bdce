/-
Generated emails and who has got them (`send_generated_email`, `app/course/route.py`, lines 743-804).

The mark. `send_emails` swallows a file that does not open and a message that the mailer does not take, and returns nothing; the
caller marks the row after its loop in any case, and commits. `sent_means_delivered_iff`: the mark means that every subscriber was
sent the body and the attachment exactly if no file and no delivery failed, or there is no mark because its commit failed
(`undelivered_marked`).

The second press. The handler does not look at the mark, and the dashboard's test for disabling the button reads
`generated_email.sent`, a name the model does not have (the column is `is_sent`), so the button is never disabled.
`sent_once_per_version`: if every send that gets to its loop finds its email unmarked and commits the mark, and a regeneration of
a marked email that commits brings another text, then between two changes of a body each subscriber is mailed it at most once.
Without that, twice (`pressed_twice`).
-/
import Newsletter.App

namespace Newsletter

open Newsletter.Core Courses

/-! ## The mark -/

/-- the file of an upload, as it is attached -/
def attached (L : Lib) (upload : Option (String × List UInt8)) : Option (String × List UInt8) :=
  upload.map fun file => (L.secureFilename file.1, file.2)

/-- one message to the subscriber was accepted, with this body and this attachment -/
def Delivered (mails : List Mail) (u : Rec User) (body : String) (attachment : Option (String × List UInt8)) : Prop :=
  ∃ m, mails.filter (fun m => m.accepted && decide (m.user = u.id)) = [m] ∧ m.recipient = u.cols.email ∧ m.body = body ∧
    m.attachment = attachment

theorem nodup_activeUsers (db : Db) (compaign : ℕ) : ((activeUsers db compaign).map Rec.id).Nodup :=
  List.Pairwise.map _ (fun _ _ h => h.ne) (db.user.all_sorted _)

/-- the subscriber at position `i` is delivered to exactly if the mailer took the message and it has the attachment -/
theorem delivered_sends_iff {env : SendEnv} {w : World} {letter : Letter} {compaign : ℕ} {name : Option String} {i : ℕ}
    {u : Rec User} (hu : (activeUsers w.db compaign)[i]? = some u) (file : Option (String × List UInt8)) :
    Delivered (sends env w letter compaign name) u letter.body file ↔
      env.takes i = true ∧ (sendEmails env w.uploads letter compaign name i u).attachment = file := by
  have hmem : sendEmails env w.uploads letter compaign name i u ∈ sends env w letter compaign name := by
    refine List.mem_of_getElem? (i := i) ?_
    rw [sends, List.getElem?_mapIdx, hu, Option.map_some]
  have hnodup : ((sends env w letter compaign name).map Mail.user).Nodup := by
    rw [sends_users]
    exact nodup_activeUsers w.db compaign
  have hone : (sends env w letter compaign name).filter (fun m => m.accepted && decide (m.user = u.id)) =
      [sendEmails env w.uploads letter compaign name i u].filter Mail.accepted := by
    rw [← List.filter_filter]
    exact congrArg (List.filter Mail.accepted) (filter_eq_singleton_of_nodup hnodup hmem)
  unfold Delivered
  rw [hone, List.filter_singleton]
  cases htakes : env.takes i with
  | false => simp [sendEmails, htakes]
  | true => simp [sendEmails, htakes]

/-- the message has the uploaded file exactly if it could be opened -/
theorem attachment_eq_attached_iff {L : Lib} {before uploads : Files} {upload : Option (String × List UInt8)}
    {name : Option String} (h : saveUpload L before upload = some (uploads, name)) (env : SendEnv) (letter : Letter)
    (compaign i : ℕ) (u : Rec User) :
    (sendEmails env uploads letter compaign name i u).attachment = attached L upload ↔
      (upload.isSome = true → env.opens i = true) := by
  cases upload with
  | none =>
    cases h
    simp [sendEmails, attached]
  | some file =>
    obtain ⟨filename, content⟩ := file
    simp only [saveUpload] at h
    split_ifs at h
    cases h
    cases hopens : env.opens i with
    | false => simp [sendEmails, attached, hopens]
    | true => simp [sendEmails, attached, hopens]

section Mark

variable (L : Lib) (w : World) (who : Option ℕ) (generatedEmailId compaign : ℕ) (attachment : Option (String × List UInt8))
  (env : SendEnv)

/-- if the row is marked after the request, each active subscriber of the campaign was sent its body and the attachment -/
def SentMeansDelivered : Prop :=
  ∀ g, (sendGeneratedEmail L w who generatedEmailId compaign attachment env).world.db.generatedEmails.get generatedEmailId =
      some g →
    g.cols.isSent = true → ∀ u ∈ activeUsers w.db compaign,
      Delivered (sendGeneratedEmail L w who generatedEmailId compaign attachment env).mails u g.cols.body
        (attached L attachment)

theorem not_delivered_nil (u : Rec User) (body : String) (file : Option (String × List UInt8)) : ¬ Delivered [] u body file := by
  rintro ⟨m, hm, _⟩
  cases hm

/-- the mailer took every message and, with an upload, the file could be opened for each -/
def NothingFails : Prop :=
  ∀ i < (activeUsers w.db compaign).length, env.takes i = true ∧ (attachment.isSome = true → env.opens i = true)

/-- every subscriber was sent the letter and the attachment exactly if nothing failed -/
theorem delivered_all_iff (letter : Letter) {uploads : Files} {name : Option String}
    (hupload : saveUpload L w.uploads attachment = some (uploads, name)) :
    (∀ u ∈ activeUsers w.db compaign,
        Delivered (sends env { w with uploads := uploads } letter compaign name) u letter.body (attached L attachment)) ↔
      NothingFails w compaign attachment env := by
  have hdelivered : ∀ i u, (activeUsers w.db compaign)[i]? = some u →
      (Delivered (sends env { w with uploads := uploads } letter compaign name) u letter.body (attached L attachment) ↔
        env.takes i = true ∧ (attachment.isSome = true → env.opens i = true)) := by
    intro i u hu
    rw [delivered_sends_iff (w := { w with uploads := uploads }) hu, attachment_eq_attached_iff hupload]
  constructor
  · intro hall i hi
    have hu : (activeUsers w.db compaign)[i]? = some (activeUsers w.db compaign)[i] := List.getElem?_eq_getElem hi
    exact (hdelivered i _ hu).1 (hall _ (List.getElem_mem hi))
  · intro hall u hu
    obtain ⟨i, hi⟩ := List.mem_iff_getElem?.1 hu
    exact (hdelivered i u hi).2 (hall i (List.getElem?_eq_some_iff.1 hi).1)

/-- **The mark means delivered** exactly if the mailer took every message and, with an upload, the file could be opened for each,
unless the commit of the mark fails and the row was not marked before; for a request that does not get to its loop, if the row was
not marked before or nobody was to be mailed. -/
theorem sent_means_delivered_iff :
    SentMeansDelivered L w who generatedEmailId compaign attachment env ↔
      if sendGeneratedEmailReaches L w who generatedEmailId compaign attachment then
        (env.commit = true ∨ ∃ g, w.db.generatedEmails.get generatedEmailId = some g ∧ g.cols.isSent = true) →
          NothingFails w compaign attachment env
      else
        (∀ g, w.db.generatedEmails.get generatedEmailId = some g → g.cols.isSent = false) ∨
          activeUsers w.db compaign = [] := by
  unfold SentMeansDelivered
  split_ifs with hreaches
  · obtain ⟨email, letter, uploads, name, hemail, hbody, hupload, hmails, hdb⟩ := sendGeneratedEmail_reached env hreaches
    have hall := delivered_all_iff L w compaign attachment env letter hupload
    rw [hmails, hdb]
    cases hcommit : env.commit with
    | true =>
      simp only [if_true, Table.get_modify_self hemail, Option.some.injEq, forall_eq', true_or, forall_const, setSent, ← hbody]
      exact hall
    | false =>
      simp only [Bool.false_eq_true, if_false, hemail, Option.some.injEq, forall_eq', false_or, exists_eq_left', ← hbody]
      exact ⟨fun h hsent => hall.1 (h hsent), fun h hsent => hall.2 (h hsent)⟩
  · obtain ⟨hmails, hworld⟩ := sendGeneratedEmail_refused env (by simpa using hreaches)
    rw [hmails, hworld]
    constructor
    · intro hall
      rw [or_iff_not_imp_right]
      intro hsome g hg
      obtain ⟨u, hu⟩ := List.exists_mem_of_ne_nil _ hsome
      cases hsent : g.cols.isSent with
      | false => rfl
      | true => exact absurd (hall g hg hsent u hu) (not_delivered_nil u _ _)
    · rintro (hunmarked | hnobody) g hg hsent u hu
      · rw [hunmarked g hg] at hsent
        cases hsent
      · rw [hnobody] at hu
        exact absurd hu List.not_mem_nil

end Mark

/-- a campaign with one subscriber and a generated email -/
def Sample.ready : World :=
  { start with
    db :=
      { start.db with
        user := Table.empty.insert ann.cols
        generatedEmails := Table.empty.insert
          { header := "", body := "Good news", footer := "", templateId := 1, conversation := none } } }

/-- a mailer that takes nothing -/
def Sample.offline : SendEnv := ⟨fun _ => true, fun _ => false, true⟩

/-- the only subscriber gets nothing, and the email is marked as sent -/
theorem undelivered_marked :
    activeUsers Sample.ready.db 1 = [Sample.ann] ∧
      (sendGeneratedEmail Sample.lib Sample.ready (some 2) 1 1 none Sample.offline).mails.map
        (fun m => (m.user, m.accepted)) = [(1, false)] ∧
      ((sendGeneratedEmail Sample.lib Sample.ready (some 2) 1 1 none Sample.offline).world.db.generatedEmails.get 1).map
        (fun g => g.cols.isSent) = some true ∧
      ¬ SentMeansDelivered Sample.lib Sample.ready (some 2) 1 1 none Sample.offline := by
  have husers : activeUsers Sample.ready.db 1 = [Sample.ann] := by decide
  have hmarked : ((sendGeneratedEmail Sample.lib Sample.ready (some 2) 1 1 none
      Sample.offline).world.db.generatedEmails.get 1).map (fun g => g.cols.isSent) = some true := rfl
  have hnone : (sendGeneratedEmail Sample.lib Sample.ready (some 2) 1 1 none Sample.offline).mails.filter
      (fun m => m.accepted && decide (m.user = Sample.ann.id)) = [] := rfl
  refine ⟨husers, rfl, hmarked, fun h => ?_⟩
  obtain ⟨g, hg, hsent⟩ := Option.map_eq_some_iff.1 hmarked
  have hann : Sample.ann ∈ activeUsers Sample.ready.db 1 := by
    rw [husers]
    exact List.mem_cons_self
  obtain ⟨m, hm, _⟩ := h g hg hsent Sample.ann hann
  rw [hnone] at hm
  cases hm

/-! ## The second press -/

/-- a press of Send, or a run of `regenerate_email_task` -/
inductive Press where
  | send (who : Option ℕ) (generatedEmailId compaign : ℕ) (attachment : Option (String × List UInt8)) (env : SendEnv)
  | regenerate (generatedEmailId : ℕ) (redisKey : String) (env : RegenerateEnv)

/-- presses and runs, one after the other, with the messages of each -/
def presses (L : Lib) : Machine World Press (List Mail) where
  step w
    | .send who id compaign attachment env =>
      ((sendGeneratedEmail L w who id compaign attachment env).world,
        (sendGeneratedEmail L w who id compaign attachment env).mails)
    | .regenerate id redisKey env => (regenerateEmailTask L w id redisKey env, [])

section Presses

variable (L : Lib) (w : World) (who : Option ℕ) (id compaign : ℕ) (attachment : Option (String × List UInt8))

theorem next_send (env : SendEnv) :
    (presses L).next w (.send who id compaign attachment env) =
      (sendGeneratedEmail L w who id compaign attachment env).world := rfl

theorem out_send (env : SendEnv) :
    (presses L).out w (.send who id compaign attachment env) =
      (sendGeneratedEmail L w who id compaign attachment env).mails := rfl

theorem next_regenerate (redisKey : String) (env : RegenerateEnv) :
    (presses L).next w (.regenerate id redisKey env) = regenerateEmailTask L w id redisKey env := rfl

end Presses

/-- the body of the generated email `e` -/
def bodyOf (db : Db) (e : ℕ) : Option String := (db.generatedEmails.get e).map fun g => g.cols.body

/-- the generated email `e` has the body `body` and is marked as sent -/
def MarkedSent (e : ℕ) (body : String) (w : World) : Prop :=
  ∃ g, w.db.generatedEmails.get e = some g ∧ g.cols.body = body ∧ g.cols.isSent = true

/-- how many messages of the email `e` are handed over for the subscriber `u` -/
def mailed (L : Lib) (e u : ℕ) (w : World) (p : Press) : ℕ :=
  match p with
  | .send _ id .. => if id = e then (((presses L).out w p).filter fun m => m.user = u).length else 0
  | .regenerate .. => 0

/-- a send that gets to its loop finds the email unmarked and commits; a regeneration of a marked email that commits brings another
text -/
def Fresh (L : Lib) (w : World) : Press → Prop
  | .send who id compaign attachment env =>
    sendGeneratedEmailReaches L w who id compaign attachment = true →
      env.commit = true ∧ ∀ g, w.db.generatedEmails.get id = some g → g.cols.isSent = false
  | .regenerate id _ env =>
    ∀ g, w.db.generatedEmails.get id = some g → g.cols.isSent = true → env.commit = true →
      ∀ content, generateResponse env.api 3 = .ok content → formatBody content ≠ g.cols.body

section Press

variable {L : Lib} {e : ℕ} {body : String} {w : World}

/-- what a run of `regenerate_email_task` does to the generated emails -/
theorem regenerate_emails (L : Lib) (w : World) (id : ℕ) (redisKey : String) (env : RegenerateEnv) :
    (regenerateEmailTask L w id redisKey env).db.generatedEmails = w.db.generatedEmails ∨
      env.commit = true ∧ ∃ content conversation, generateResponse env.api 3 = .ok content ∧
        (regenerateEmailTask L w id redisKey env).db.generatedEmails = w.db.generatedEmails.modify id fun g =>
          { g with body := formatBody content, conversation := some conversation, isSent := false } := by
  unfold regenerateEmailTask
  cases hres : regenerated L w.db id env with
  | error e => exact Or.inl rfl
  | ok p =>
    cases hcommit : env.commit with
    | false => exact Or.inl rfl
    | true =>
      obtain ⟨_, _, _, asked, content, _, _, _, _, hcontent, rfl⟩ := regenerated_spec hres
      exact Or.inr ⟨rfl, content, L.dumps asked, hcontent, rfl⟩

theorem mails_nodup (L : Lib) (w : World) (p : Press) : (((presses L).out w p).map Mail.user).Nodup := by
  cases p with
  | send who id compaign attachment env =>
    rw [out_send, sendGeneratedEmail_users]
    split_ifs
    · exact nodup_activeUsers w.db compaign
    · exact List.nodup_nil
  | regenerate id redisKey env => exact List.nodup_nil

theorem mailed_le_one (L : Lib) (e u : ℕ) (w : World) (p : Press) : mailed L e u w p ≤ 1 := by
  unfold mailed
  cases p with
  | send who id compaign attachment env =>
    simp only
    split_ifs
    · have hcount := List.nodup_iff_count_le_one.1 (mails_nodup L w (.send who id compaign attachment env)) u
      rwa [List.count, List.countP_map, List.countP_eq_length_filter] at hcount
    · exact Nat.zero_le 1
  | regenerate id redisKey env => exact Nat.zero_le 1

/-- a press that does not get to its loop, or is for another email, mails nothing of `e` and leaves its row alone -/
theorem press_idle {who : Option ℕ} {id compaign : ℕ} {attachment : Option (String × List UInt8)} {env : SendEnv}
    (h : sendGeneratedEmailReaches L w who id compaign attachment = true → id ≠ e) (u : ℕ) :
    mailed L e u w (.send who id compaign attachment env) = 0 ∧
      ((presses L).next w (.send who id compaign attachment env)).db.generatedEmails.get e =
        w.db.generatedEmails.get e := by
  cases hreaches : sendGeneratedEmailReaches L w who id compaign attachment with
  | false =>
    obtain ⟨hmails, hworld⟩ := sendGeneratedEmail_refused env hreaches
    rw [mailed, out_send, hmails, next_send, hworld]
    exact ⟨ite_self 0, rfl⟩
  | true =>
    have hne : id ≠ e := h hreaches
    obtain ⟨_, _, _, _, _, _, _, _, hdb⟩ := sendGeneratedEmail_reached env hreaches
    rw [mailed, next_send, hdb]
    refine ⟨if_neg hne, ?_⟩
    cases env.commit with
    | false => rfl
    | true => exact Table.get_modify_of_ne _ _ hne.symm

/-- **Step, unmarked.** A press mails each subscriber at most once, and if it mails one and commits, it marks the email. -/
theorem mailed_marks (u : ℕ) {p : Press} (hfresh : Fresh L w p) (hbody : bodyOf w.db e = some body) :
    mailed L e u w p = 0 ∨ mailed L e u w p = 1 ∧ MarkedSent e body ((presses L).next w p) := by
  cases p with
  | regenerate id redisKey env => exact Or.inl rfl
  | send who id compaign attachment env =>
    by_cases hidle : sendGeneratedEmailReaches L w who id compaign attachment = true → id ≠ e
    · exact Or.inl (press_idle hidle u).1
    · obtain ⟨hreaches, rfl⟩ : sendGeneratedEmailReaches L w who id compaign attachment = true ∧ id = e := by
        simpa using hidle
      obtain ⟨email, _, _, _, hemail, _, _, _, hdb⟩ := sendGeneratedEmail_reached env hreaches
      have hmarked : MarkedSent id body ((presses L).next w (.send who id compaign attachment env)) := by
        rw [bodyOf, hemail] at hbody
        rw [MarkedSent, next_send, hdb, if_pos (hfresh hreaches).1, Table.get_modify_self hemail]
        exact ⟨_, rfl, Option.some.inj hbody, rfl⟩
      have hle := mailed_le_one L id u w (.send who id compaign attachment env)
      rcases Nat.le_one_iff_eq_zero_or_eq_one.1 hle with h0 | h1
      · exact Or.inl h0
      · exact Or.inr ⟨h1, hmarked⟩

/-- **Step, marked.** While the body of a marked email stays, a press that meets the condition mails nobody and keeps the mark. -/
theorem mailed_marked (u : ℕ) {p : Press} (hmarked : MarkedSent e body w) (hfresh : Fresh L w p)
    (hbody : bodyOf ((presses L).next w p).db e = some body) :
    mailed L e u w p = 0 ∧ MarkedSent e body ((presses L).next w p) := by
  obtain ⟨g, hg, rfl, hsent⟩ := hmarked
  cases p with
  | send who id compaign attachment env =>
    have hidle : sendGeneratedEmailReaches L w who id compaign attachment = true → id ≠ e := by
      rintro hreaches rfl
      have hunmarked := (hfresh hreaches).2 g hg
      rw [hsent] at hunmarked
      cases hunmarked
    obtain ⟨hzero, hrow⟩ := press_idle hidle u
    exact ⟨hzero, g, hrow.trans hg, rfl, hsent⟩
  | regenerate id redisKey env =>
    refine ⟨rfl, ?_⟩
    rw [next_regenerate] at hbody ⊢
    rcases regenerate_emails L w id redisKey env with hsame | ⟨hcommit, content, conversation, hcontent, hemails⟩
    · rw [MarkedSent, hsame]
      exact ⟨g, hg, rfl, hsent⟩
    · by_cases hid : e = id
      · -- a commit would have changed the body
        subst hid
        rw [bodyOf, hemails, Table.get_modify_self hg] at hbody
        have hsame : formatBody content = g.cols.body := Option.some.inj hbody
        exact absurd hsame (hfresh g hg hsent hcommit content hcontent)
      · rw [MarkedSent, hemails, Table.get_modify_of_ne _ _ hid]
        exact ⟨g, hg, rfl, hsent⟩

/-- **Run, marked.** While the body of a marked email stays, nobody is mailed it. -/
theorem total_marked (u : ℕ) {ps : List Press} (hmarked : MarkedSent e body w) (hfresh : (presses L).Along (Fresh L) w ps)
    (hbody : (presses L).Always (fun w => bodyOf w.db e = some body) w ps) :
    (presses L).total (mailed L e u) w ps = 0 := by
  induction ps generalizing w with
  | nil => rfl
  | cons p ps ih =>
    obtain ⟨_, hrest⟩ := (presses L).always_cons.1 hbody
    obtain ⟨hzero, hnext⟩ := mailed_marked u hmarked hfresh.1 hrest.start
    rw [Machine.total, hzero, ih hnext hfresh.2 hrest]

/-- **Run.** While the body of an email stays, each subscriber is mailed it at most once. -/
theorem total_le_one (u : ℕ) {ps : List Press} (hfresh : (presses L).Along (Fresh L) w ps)
    (hbody : (presses L).Always (fun w => bodyOf w.db e = some body) w ps) :
    (presses L).total (mailed L e u) w ps ≤ 1 := by
  induction ps generalizing w with
  | nil => exact Nat.zero_le 1
  | cons p ps ih =>
    obtain ⟨hstart, hrest⟩ := (presses L).always_cons.1 hbody
    rw [Machine.total]
    rcases mailed_marks u hfresh.1 hstart with hzero | ⟨hone, hmarked⟩
    · rw [hzero, Nat.zero_add]
      exact ih hfresh.2 hrest
    · rw [hone, total_marked u hmarked hfresh.2 hrest]

end Press

/-- **At most once per version.** In a run in which every send that gets to its loop finds its email unmarked and commits, and
every regeneration of a marked email that commits brings another text, each subscriber is mailed a body at most once while it
stays: over every stretch of the run, every email and every subscriber. -/
theorem sent_once_per_version (L : Lib) (w : World) (ps : List Press) (hfresh : (presses L).Along (Fresh L) w ps) :
    ∀ pre mid post, ps = pre ++ (mid ++ post) → ∀ e body u,
      (presses L).Always (fun w => bodyOf w.db e = some body) ((presses L).run w pre) mid →
        (presses L).total (mailed L e u) ((presses L).run w pre) mid ≤ 1 := by
  rintro pre mid post rfl e body u hbody
  have hmid := ((presses L).along_append.1 ((presses L).along_append.1 hfresh).2).1
  exact total_le_one u hmid hbody

/-- Send pressed for the sample email -/
def Sample.press : Press := .send (some 2) 1 1 none ⟨fun _ => true, fun _ => true, true⟩

namespace Sample

/-- the same with an API key and the template of the email, which can be regenerated -/
def regenerable : World :=
  { ready with
    db :=
      { ready.db with
        course := ready.db.course.modify 1 fun c => { c with openaiKey := some "sk-1" }
        emailTemplates := Table.empty.insert
          { header := "News", body := "", footer := "", ownerId := some 2, compaign := some 1 }
        generatedEmails := Table.empty.insert
          { header := "", body := "Good news", footer := "", templateId := 1
            conversation := some (json.dumps [⟨"system", "Be brief"⟩, ⟨"user", "News"⟩]) } } }

/-- a regeneration that commits a new text -/
def rewriting : Press := .regenerate 1 (statusKey 1) ⟨true, fun _ => .answered "Better news", true⟩

theorem rewriting_fresh {w : World} (h : bodyOf w.db 1 = some "Good news") : Fresh json w rewriting := by
  intro g hg _ _ content hcontent
  have hanswer : generateResponse (fun _ => .answered "Better news") 3 = .ok "Better news" := rfl
  obtain rfl : "Better news" = content := Except.ok.inj (hanswer.symm.trans hcontent)
  obtain ⟨g', hg', hbody⟩ := Option.map_eq_some_iff.1 h
  cases hg.symm.trans hg'
  rw [hbody]
  decide +kernel

theorem press_fresh {w : World} (h : (w.db.generatedEmails.get 1).map (fun g => g.cols.isSent) = some false) :
    Fresh json w press := by
  refine fun _ => ⟨rfl, fun g hg => ?_⟩
  rw [hg] at h
  exact Option.some.inj h

end Sample

/-- an email is sent, regenerated and sent again: two messages, but one of each text -/
theorem sent_once_per_version_press :
    let ps := [Sample.press, Sample.rewriting, Sample.press]
    (presses Sample.json).Along (Fresh Sample.json) Sample.regenerable ps ∧
      (presses Sample.json).total (mailed Sample.json 1 Sample.ann.id) Sample.regenerable ps = 2 ∧
      ∀ pre mid post, ps = pre ++ (mid ++ post) → ∀ e body u,
        (presses Sample.json).Always (fun w => bodyOf w.db e = some body) ((presses Sample.json).run Sample.regenerable pre) mid →
          (presses Sample.json).total (mailed Sample.json e u) ((presses Sample.json).run Sample.regenerable pre) mid ≤ 1 := by
  intro ps
  have hfresh : (presses Sample.json).Along (Fresh Sample.json) Sample.regenerable ps :=
    ⟨Sample.press_fresh rfl, Sample.rewriting_fresh rfl,
      Sample.press_fresh rfl, trivial⟩
  exact ⟨hfresh, rfl, sent_once_per_version _ _ _ hfresh⟩

/-- Send pressed twice: the body stays, and the subscriber is mailed it twice -/
theorem pressed_twice :
    (presses Sample.lib).Always (fun w => bodyOf w.db 1 = some "Good news") Sample.ready [Sample.press, Sample.press] ∧
      (presses Sample.lib).total (mailed Sample.lib 1 Sample.ann.id) Sample.ready [Sample.press, Sample.press] = 2 := by
  simp only [Machine.always_cons, Machine.always_nil]
  decide

end Newsletter
