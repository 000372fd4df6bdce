/-
Failures in one execution of the scheduled sender (`sendingmail.py`, lines 12-187).

`main` has three nested loops: campaigns of type 1, templates, active subscribers. The three completions of a template and
the connection that `send_email` sets up are outside of every `try`, so an exception of theirs ends all three loops; only
the delivery itself is caught.

The loops are the same whatever is logged (`mainLoop`). `main` logs the messages; here every call of `send_email` is logged,
also one that fails to connect (`sendCalls`). Both are one loop over the whole work of an execution (`mainLoop_eq_work`).

- `scheduled_calls_iff`: every subscriber of a template whose completions succeed gets exactly one call, exactly if no
  failing completion and no failing connection comes before such a call;
- `failure_ends_all`: a failure of one campaign, and the subscriber of another gets nothing.
-/
import Newsletter.App

namespace Newsletter

open Newsletter.Core Courses

/-! ## The loops of `main` -/

section Loops

variable {β : Type} (send : ℕ → Rec EmailTemplate → String × String × String → Rec User → List β × Bool)
  (env : MainEnv) (db : Db)

def templateLoop (campaign : ℕ) (template : Rec EmailTemplate) : List β × Bool :=
  match env.complete campaign template.id with
  | none => ([], true)
  | some texts => untilRaise (send campaign template texts) (activeUsers db campaign)

def campaignLoop (campaign : Rec Course) : List β × Bool :=
  if campaign.cols.openaiKey = none then ([], false)
  else if templatesOf db campaign.id = [] ∨ activeUsers db campaign.id = [] then ([], false)
  else untilRaise (templateLoop send env db campaign.id) (templatesOf db campaign.id)

def mainLoop : List β × Bool :=
  untilRaise (campaignLoop send env db) (db.course.all fun c => c.cols.type = some 1)

/-- the loops with a log that is computed from another one -/
theorem mainLoop_log {γ : Type} (h : β → List γ) :
    mainLoop (fun campaign template texts user =>
        ((send campaign template texts user).1.flatMap h, (send campaign template texts user).2)) env db =
      ((mainLoop send env db).1.flatMap h, (mainLoop send env db).2) := by
  unfold mainLoop
  rw [← untilRaise_log]
  congr 1
  funext c
  unfold campaignLoop
  split_ifs
  · rfl
  · rfl
  · rw [← untilRaise_log]
    congr 1
    funext t
    unfold templateLoop
    cases env.complete c.id t.id with
    | none => rfl
    | some texts => exact untilRaise_log ..

end Loops

theorem main_eq_mainLoop (w : World) (env : MainEnv) :
    main w env =
      { world := w, resp := if (mainLoop (mainSend env) env w.db).2 then .raised .other else .text ""
        mails := (mainLoop (mainSend env) env w.db).1 } := rfl

/-! ## Calls of `send_email` -/

/-- a call of `send_email`: for which subscriber, and the message it hands over if it can connect -/
structure SendCall where
  campaign : ℕ
  template : ℕ
  user : ℕ
  mail : Option Mail
deriving DecidableEq, Repr

def SendCall.triple (c : SendCall) : ℕ × ℕ × ℕ := (c.campaign, c.template, c.user)

def sendCall (env : MainEnv) (campaign : ℕ) (template : Rec EmailTemplate) (texts : String × String × String)
    (user : Rec User) : List SendCall × Bool :=
  ([⟨campaign, template.id, user.id, (mainSend env campaign template texts user).1.head?⟩],
    (mainSend env campaign template texts user).2)

/-- the calls of `send_email` in one execution of `main` -/
def sendCalls (w : World) (env : MainEnv) : List SendCall := (mainLoop (sendCall env) env w.db).1

/-- the messages of an execution are those of its calls -/
theorem main_mails_eq (w : World) (env : MainEnv) :
    (main w env).mails = (sendCalls w env).flatMap fun c => c.mail.toList := by
  have hlog : mainSend env = fun campaign template texts user =>
      ((sendCall env campaign template texts user).1.flatMap fun c => c.mail.toList,
        (sendCall env campaign template texts user).2) := by
    funext campaign template texts user
    simp only [sendCall, mainSend]
    split_ifs <;> rfl
  rw [main_eq_mainLoop, sendCalls, hlog, mainLoop_log]

/-! ## All the work of an execution -/

/-- the completions of a template, or a call of `send_email` -/
inductive Work where
  | complete (campaign template : ℕ)
  | send (campaign template user : ℕ)
deriving DecidableEq, Repr

namespace Work

def campaign : Work → ℕ
  | .complete c _ | .send c _ _ => c

def template : Work → ℕ
  | .complete _ t | .send _ t _ => t

def call : Work → Option (ℕ × ℕ × ℕ)
  | .complete _ _ => none
  | .send c t u => some (c, t, u)

/-- a completion fails, or the connection cannot be set up -/
def raises (env : MainEnv) : Work → Bool
  | .complete c t => (env.complete c t).isNone
  | .send c t u => !env.connect c t u

/-- a call for a template whose three completions succeed -/
def wanted (env : MainEnv) : Work → Bool
  | .complete _ _ => false
  | .send c t _ => (env.complete c t).isSome

end Work

def templateWork (db : Db) (campaign template : ℕ) : List Work :=
  .complete campaign template :: (activeUsers db campaign).map fun u => .send campaign template u.id

def campaignWork (db : Db) (campaign : Rec Course) : List Work :=
  if campaign.cols.openaiKey = none then []
  else if templatesOf db campaign.id = [] ∨ activeUsers db campaign.id = [] then []
  else (templatesOf db campaign.id).flatMap fun t => templateWork db campaign.id t.id

/-- everything `main` does if nothing fails, in order -/
def work (db : Db) : List Work := (db.course.all fun c => c.cols.type = some 1).flatMap (campaignWork db)

/-- **The loops as one.** -/
theorem mainLoop_eq_work (env : MainEnv) (db : Db) :
    mainLoop (fun campaign template _ user =>
        ([(campaign, template.id, user.id)], !env.connect campaign template.id user.id)) env db =
      untilRaise (fun x => (x.call.toList, x.raises env)) (work db) := by
  rw [mainLoop, work, untilRaise_flatMap]
  congr 1
  funext c
  unfold campaignLoop campaignWork
  split_ifs
  · rfl
  · rfl
  · rw [untilRaise_flatMap]
    congr 1
    funext t
    rw [templateLoop, templateWork, untilRaise_cons, untilRaise_map]
    cases hc : env.complete c.id t.id with
    | none => simp only [Work.call, Work.raises, hc]; rfl
    | some texts => simp only [Work.call, Work.raises, hc]; rfl

theorem sendCalls_triples (w : World) (env : MainEnv) :
    (sendCalls w env).map SendCall.triple = (upto (Work.raises env) (work w.db)).filterMap Work.call := by
  have hlog : (fun (campaign : ℕ) (template : Rec EmailTemplate) (_ : String × String × String) (user : Rec User) =>
      ([(campaign, template.id, user.id)], !env.connect campaign template.id user.id)) =
      fun campaign template texts user =>
        ((sendCall env campaign template texts user).1.flatMap fun c => [c.triple],
          (sendCall env campaign template texts user).2) := by
    funext campaign template texts user
    simp only [sendCall, mainSend]
    split_ifs with hc <;> simp [SendCall.triple, hc]
  have hloop := mainLoop_eq_work env w.db
  rw [hlog, mainLoop_log] at hloop
  have hfst := congrArg Prod.fst hloop
  rw [untilRaise_eq_upto, ← List.filterMap_eq_flatMap_toList] at hfst
  rw [← hfst, sendCalls, ← List.map_eq_flatMap]

theorem mem_templateWork {db : Db} {campaign template : ℕ} {x : Work} (h : x ∈ templateWork db campaign template) :
    x.campaign = campaign ∧ x.template = template := by
  rcases List.mem_cons.1 h with rfl | h
  · exact ⟨rfl, rfl⟩
  · obtain ⟨u, _, rfl⟩ := List.mem_map.1 h
    exact ⟨rfl, rfl⟩

/-- nothing is to be done twice -/
theorem work_nodup (db : Db) : (work db).Nodup := by
  refine Table.nodup_flatMap Work.campaign (db.course.all_sorted _) (fun c _ => ?_) fun c _ x hx => ?_
  · unfold campaignWork
    split_ifs
    · exact List.nodup_nil
    · exact List.nodup_nil
    · refine Table.nodup_flatMap Work.template (db.emailTemplates.all_sorted _) (fun t _ => ?_) fun t _ x hx =>
        (mem_templateWork hx).2
      have hids : ((activeUsers db c.id).map fun u => Work.send c.id t.id u.id).Nodup :=
        List.pairwise_map.2 ((db.user.all_sorted _).imp fun {a b} hab heq => absurd (Work.send.inj heq).2.2 (ne_of_lt hab))
      refine List.nodup_cons.2 ⟨fun hmem => ?_, hids⟩
      obtain ⟨u, _, hu⟩ := List.mem_map.1 hmem
      cases hu
  · unfold campaignWork at hx
    split_ifs at hx
    · cases hx
    · cases hx
    · obtain ⟨t, _, ht⟩ := List.mem_flatMap.1 hx
      exact (mem_templateWork ht).1

theorem send_mem_work {db : Db} {campaign template user : ℕ} :
    Work.send campaign template user ∈ work db ↔
      ∃ c ∈ db.course.rows, c.cols.type = some 1 ∧ c.cols.openaiKey ≠ none ∧ c.id = campaign ∧
        (∃ t ∈ templatesOf db c.id, t.id = template) ∧ ∃ u ∈ activeUsers db c.id, u.id = user := by
  constructor
  · intro h
    obtain ⟨c, hc, hx⟩ := List.mem_flatMap.1 h
    obtain ⟨hrow, htype⟩ := List.mem_filter.1 hc
    unfold campaignWork at hx
    split_ifs at hx with hkey
    · cases hx
    · cases hx
    · obtain ⟨t, ht, hx⟩ := List.mem_flatMap.1 hx
      rcases List.mem_cons.1 hx with hx | hx
      · cases hx
      · obtain ⟨u, hu, heq⟩ := List.mem_map.1 hx
        cases heq
        exact ⟨c, hrow, by simpa using htype, hkey, rfl, ⟨t, ht, rfl⟩, u, hu, rfl⟩
  · rintro ⟨c, hrow, htype, hkey, rfl, ⟨t, ht, rfl⟩, u, hu, rfl⟩
    have hempty : ¬ (templatesOf db c.id = [] ∨ activeUsers db c.id = []) := by
      rintro (h | h)
      · rw [h] at ht
        cases ht
      · rw [h] at hu
        cases hu
    refine List.mem_flatMap.2 ⟨c, List.mem_filter.2 ⟨hrow, by simpa using htype⟩, ?_⟩
    rw [campaignWork, if_neg hkey, if_neg hempty]
    refine List.mem_flatMap.2 ⟨t, ht, List.mem_cons_of_mem _ (List.mem_map.2 ⟨u, hu, rfl⟩)⟩

/-! ## Isolation of failures -/

/-- each active subscriber of a campaign of type 1 with a key gets exactly one call for each template whose three completions
succeed -/
def AllCalled (w : World) (env : MainEnv) : Prop :=
  ∀ c ∈ w.db.course.rows, c.cols.type = some 1 → c.cols.openaiKey ≠ none →
    ∀ t ∈ templatesOf w.db c.id, (env.complete c.id t.id).isSome = true → ∀ u ∈ activeUsers w.db c.id,
      ((sendCalls w env).map SendCall.triple).count (c.id, t.id, u.id) = 1

theorem triple_count (w : World) (env : MainEnv) (campaign template user : ℕ) :
    ((sendCalls w env).map SendCall.triple).count (campaign, template, user) = 1 ↔
      Work.send campaign template user ∈ upto (Work.raises env) (work w.db) := by
  have hinj : ∀ (x y : Work) k, k ∈ x.call → k ∈ y.call → x = y := by
    intro x y k hx hy
    cases x with
    | complete => cases hx
    | send c t u =>
      cases y with
      | complete => cases hy
      | send c' t' u' =>
        cases hx
        cases hy
        rfl
  have hnodup : ((upto (Work.raises env) (work w.db)).filterMap Work.call).Nodup :=
    ((work_nodup w.db).sublist (upto_sublist _ _)).filterMap hinj
  rw [sendCalls_triples, hnodup.count]
  constructor
  · intro h
    split_ifs at h with hmem
    obtain ⟨x, hx, hcall⟩ := List.mem_filterMap.1 hmem
    rwa [hinj (.send campaign template user) x _ rfl hcall]
  · intro h
    have hmem : (campaign, template, user) ∈ (upto (Work.raises env) (work w.db)).filterMap Work.call :=
      List.mem_filterMap.2 ⟨.send campaign template user, h, rfl⟩
    exact if_pos hmem

/-- **Isolation.** Everyone gets exactly one call exactly if, in the order of the loops, no failing completion and no failing
connection comes before a call for a template whose completions succeed. -/
theorem scheduled_calls_iff (w : World) (env : MainEnv) :
    AllCalled w env ↔ (work w.db).Pairwise fun x y => x.raises env = true → y.wanted env = false := by
  rw [← reached_iff_pairwise _ _ (work_nodup w.db)]
  constructor
  · intro h y hy hwanted
    cases y with
    | complete => cases hwanted
    | send campaign template user =>
      obtain ⟨c, hrow, htype, hkey, rfl, ⟨t, ht, rfl⟩, u, hu, rfl⟩ := send_mem_work.1 hy
      exact (triple_count ..).1 (h c hrow htype hkey t ht hwanted u hu)
  · intro h c hrow htype hkey t ht hcomplete u hu
    have hmem : Work.send c.id t.id u.id ∈ work w.db :=
      send_mem_work.2 ⟨c, hrow, htype, hkey, rfl, ⟨t, ht, rfl⟩, u, hu, rfl⟩
    exact (triple_count ..).2 (h _ hmem hcomplete)

/-- the two sample campaigns with a key, a template and a subscriber each -/
def Sample.scheduled : World :=
  let keyed (c : Course) : Course := { c with openaiKey := some "sk-openai" }
  let template (campaign : ℕ) : EmailTemplate :=
    { header := some "News", body := "of the day", footer := "Bye", compaign := some campaign, ownerId := some (campaign + 1) }
  { start with
    db :=
      { start.db with
        course := (start.db.course.modify 1 keyed).modify 2 keyed
        emailTemplates := (Table.empty.insert (template 1)).insert (template 2)
        user := (Table.empty.insert (addedUser "ann@example.com" 1)).insert (addedUser "ben@example.com" 2) } }

/-- the completions for the first campaign fail, those for the second would succeed, and the mail server works -/
def Sample.halfOpenAi : MainEnv where
  complete campaign _ := if campaign = 1 then none else some ("News", "Good news", "Bye")
  connect _ _ _ := true
  takes _ _ _ := true

/-- everything works but the connection for the first subscriber -/
def Sample.firstUnconnected : MainEnv where
  complete _ _ := some ("News", "Good news", "Bye")
  connect _ _ user := user ≠ 1
  takes _ _ _ := true

/-- a failure in the first campaign, of a completion or of a connection: the second one's subscriber is not mailed -/
theorem failure_ends_all :
    (work Sample.scheduled.db).filterMap Work.call = [(1, 1, 1), (2, 2, 2)] ∧
      sendCalls Sample.scheduled Sample.halfOpenAi = [] ∧ ¬ AllCalled Sample.scheduled Sample.halfOpenAi ∧
      sendCalls Sample.scheduled Sample.firstUnconnected = [⟨1, 1, 1, none⟩] ∧
      ¬ AllCalled Sample.scheduled Sample.firstUnconnected := by
  unfold AllCalled
  decide

end Newsletter
