/-
Newsletter tasks in progress: the background tasks `generate_and_save_emails` and `regenerate_email_task`, and the
senders `sendemail`, `sendeditedemail` and `send_generated_email` (`app/course/route.py`), interleaved step by step.

A step of a task is one access to something shared: the reads of a transaction (`World.snapshot`) or its commit, a write of a Redis
key, the saved upload, one message. What a task does next is its `point`. For each kind of task `move` is the next point, `commit`
what the step does to the generated emails and `note` what it writes to Redis, so that a property of one of these is
proved from one function. The other requests run as a whole (`serve`). A key with a time to live may `lapse`.

A commit of the mapper is column-wise (`flush`): it writes the columns that differ from the row as it was loaded, and
raises if the row is gone.

- `emailsAfter_effect`: what a step of a task can do to the generated emails, guards included;
- `generate_alone`, `regenerate_alone`, `send_alone`: a task that nothing disturbs does what its sequential model does.
-/
import Newsletter.App
import Newsletter.Core.Pool

namespace Newsletter.Concurrency

open Newsletter.Core Courses

/-! ## `generate_and_save_emails` -/

/-- what the environment decides in one step: whether the database answers, and the API by step and attempt -/
structure StepEnv where
  ok : Bool
  api : ℕ → ℕ → Attempt

inductive GeneratePoint where
  /-- the two look-ups -/
  | lookUp
  /-- the delete and its commit; whether the template was found -/
  | delete (found : Bool)
  /-- the three completions, for which the template is loaded again -/
  | generate (found : Bool)
  /-- the commit of the new rows -/
  | save (emails : List GeneratedEmail)
  | complete
  | fail
  | expire
  | ended
deriving DecidableEq, Repr

structure Generating where
  templateId : ℕ
  campaignId : Option ℕ
  point : GeneratePoint
  /-- the rows it has inserted -/
  saved : List ℕ := []
deriving DecidableEq, Repr

theorem emailsToSave_found {L : Lib} {t : Table EmailTemplate} {k : ℕ} {found : Bool} {api : ℕ → ℕ → Attempt}
    {e : GeneratedEmail} (h : e ∈ emailsToSave L (if found then t.get k else none) api) : e.templateId = k := by
  cases found with
  | true => exact emailsToSave_templateId h
  | false => simp [emailsToSave, generateStep] at h

namespace Generating

def move (L : Lib) (db : Db) (env : StepEnv) (g : Generating) : Generating :=
  match g.point with
  | .lookUp =>
    { g with
      point := if env.ok ∧ (g.campaignId.bind db.course.get).isSome then .delete (db.emailTemplates.get g.templateId).isSome
        else .fail }
  | .delete found => { g with point := if env.ok then .generate found else .fail }
  | .generate found =>
    let emails := emailsToSave L (if found then db.emailTemplates.get g.templateId else none) env.api
    { g with point := if emails = [] then .complete else .save emails }
  | .save emails =>
    if env.ok then { g with point := .complete, saved := List.range' db.generatedEmails.next emails.length }
    else { g with point := .fail }
  | .complete | .fail => { g with point := .expire }
  | .expire | .ended => { g with point := .ended }

def commit (env : StepEnv) (g : Generating) (t : Table GeneratedEmail) : Table GeneratedEmail :=
  match g.point, env.ok with
  | .delete _, true => t.erase fun e => e.cols.templateId = g.templateId
  | .save emails, true => emails.foldl Table.insert t
  | _, _ => t

def note (g : Generating) (w : World) : World :=
  match g.point with
  | .complete => redisSet w (statusKey g.templateId) "completed"
  | .fail => redisSet w (statusKey g.templateId) "failed"
  | .expire => redisExpire w (statusKey g.templateId)
  | _ => w

end Generating

/-- the world with another table of generated emails -/
def setEmails (w : World) (t : Table GeneratedEmail) : World := { w with db := { w.db with generatedEmails := t } }

def Generating.effect (env : StepEnv) (g : Generating) (w : World) : World :=
  g.note (setEmails w (g.commit env w.db.generatedEmails))

/-! ## `regenerate_email_task` -/

/-- a commit of a row that was `loaded` and then set to `new`: a column that was not changed is not written -/
def flush (loaded new current : GeneratedEmail) : GeneratedEmail where
  header := if new.header = loaded.header then current.header else new.header
  body := if new.body = loaded.body then current.body else new.body
  footer := if new.footer = loaded.footer then current.footer else new.footer
  templateId := if new.templateId = loaded.templateId then current.templateId else new.templateId
  isSent := if new.isSent = loaded.isSent then current.isSent else new.isSent
  conversation := if new.conversation = loaded.conversation then current.conversation else new.conversation

/-- a commit raises `StaleDataError` if there is something to write and the row is gone -/
def stale (t : Table GeneratedEmail) (id : ℕ) (loaded new : GeneratedEmail) : Bool :=
  new ≠ loaded ∧ t.get id = none

inductive RegeneratePoint where
  /-- the commit, the row having been read and the completion answered -/
  | write (loaded : GeneratedEmail) (body conversation : String)
  | complete
  | fail (text : String)
  | expire
  | ended
deriving DecidableEq, Repr

structure Regenerating where
  generatedEmailId : ℕ
  point : RegeneratePoint
deriving DecidableEq, Repr

def unexpectedError (L : Lib) (e : Exn) : String := "failed:Unexpected error occurred: " ++ L.repr e

def databaseError (L : Lib) : String := "failed:Database error occurred: " ++ L.repr .other

/-- `generated_email` with its three assignments -/
def rewritten (loaded : GeneratedEmail) (body conversation : String) : GeneratedEmail :=
  { loaded with body := body, conversation := some conversation, isSent := false }

namespace Regenerating

/-- the reads of the task, all in one transaction, and the completion -/
def read (L : Lib) (db : Db) (generatedEmailId : ℕ) (env : RegenerateEnv) : Regenerating where
  generatedEmailId := generatedEmailId
  point :=
    match regenerated L db generatedEmailId env, db.generatedEmails.get generatedEmailId with
    | .ok (body, conversation), some email => .write email.cols body conversation
    -- not reached: `regenerated` has found the row
    | .ok _, none => .fail (unexpectedError L .valueError)
    | .error e, _ => .fail (unexpectedError L e)

def move (L : Lib) (db : Db) (ok : Bool) (r : Regenerating) : Regenerating :=
  match r.point with
  | .write loaded body conversation =>
    { r with
      point :=
        if ok then
          if stale db.generatedEmails r.generatedEmailId loaded (rewritten loaded body conversation) then
            .fail (unexpectedError L .other)
          else .complete
        else .fail (databaseError L) }
  | .complete | .fail _ => { r with point := .expire }
  | .expire | .ended => { r with point := .ended }

def commit (ok : Bool) (r : Regenerating) (t : Table GeneratedEmail) : Table GeneratedEmail :=
  match r.point, ok with
  | .write loaded body conversation, true =>
    t.modify r.generatedEmailId (flush loaded (rewritten loaded body conversation))
  | _, _ => t

def note (r : Regenerating) (w : World) : World :=
  match r.point with
  | .complete => redisSet w (statusKey r.generatedEmailId) "completed"
  | .fail text => redisSet w (statusKey r.generatedEmailId) text
  | .expire => redisExpire w (statusKey r.generatedEmailId)
  | _ => w

def effect (ok : Bool) (r : Regenerating) (w : World) : World :=
  r.note (setEmails w (r.commit ok w.db.generatedEmails))

end Regenerating

/-! ## Senders -/

inductive SendPoint where
  /-- `attachment.save`; the subscribers have been read -/
  | save (users : List (Rec User))
  /-- the loop over the subscribers, and after the last of them the commit; the stored name of the attachment -/
  | loop (attachment : Option String) (users : List (Rec User))
  | ended
deriving DecidableEq, Repr

structure Sending where
  compaign : ℕ
  letter : Letter
  /-- name and content of the uploaded file -/
  upload : Option (String × List UInt8)
  /-- the generated email, as it was read, if it is one that is sent -/
  email : Option (Rec GeneratedEmail)
  point : SendPoint
deriving DecidableEq, Repr

inductive SendRequest where
  | sendemail (who : Option ℕ) (compaign : ℕ) (form : Option (Option SendForm)) (upload : Option (String × List UInt8))
  | sendeditedemail (who : Option ℕ) (compaign : ℕ) (emailContent : Option String)
      (upload : Option (String × List UInt8))
  | sendGeneratedEmail (who : Option ℕ) (generatedEmailId compaign : ℕ) (upload : Option (String × List UInt8))

/-- the checks and reads of a sender; `none` if it ends there -/
def SendRequest.read (db : Db) : SendRequest → Option Sending
  | .sendemail who compaign form upload =>
    match currentUser db who, form with
    | some _, some (some f) =>
      some { compaign := compaign, letter := ⟨some f.subject, some f.header, f.body, f.footer⟩, upload := upload
             email := none, point := .save (activeUsers db compaign) }
    | _, _ => none
  | .sendeditedemail who compaign emailContent upload =>
    match currentUser db who, db.course.get compaign, emailContent with
    | some _, some campaign, some body =>
      some { compaign := compaign, letter := ⟨campaign.cols.name, some "", body, ""⟩, upload := upload
             email := none, point := .save (activeUsers db compaign) }
    | _, _, _ => none
  | .sendGeneratedEmail who generatedEmailId compaign upload =>
    match currentUser db who, db.generatedEmails.get generatedEmailId, db.course.get compaign with
    | some _, some email, some campaign =>
      some { compaign := compaign
             letter := ⟨campaign.cols.name, some email.cols.header, email.cols.body, email.cols.footer⟩
             upload := upload, email := some email, point := .save (activeUsers db compaign) }
    | _, _, _ => none

/-- something a step does that the outside sees -/
inductive Happened where
  | nothing
  /-- the request `n` hands a message to the mailer -/
  | mailed (n : ℕ) (m : Mail)
  /-- a generated email has been sent and its mark committed -/
  | sent (generatedEmailId : ℕ) (body : String)
deriving DecidableEq, Repr

namespace Sending

def move (L : Lib) (uploads : Files) (x : Sending) : Sending :=
  match x.point with
  | .save users =>
    match saveUpload L uploads x.upload with
    -- `OSError`
    | none => { x with point := .ended }
    | some (_, attachment) => { x with point := .loop attachment users }
  | .loop attachment (_ :: users) => { x with point := .loop attachment users }
  | .loop _ [] | .ended => { x with point := .ended }

def store (L : Lib) (x : Sending) (uploads : Files) : Files :=
  match x.point with
  | .save _ => ((saveUpload L uploads x.upload).map Prod.fst).getD uploads
  | _ => uploads

def commit (ok : Bool) (x : Sending) (t : Table GeneratedEmail) : Table GeneratedEmail :=
  match x.point, x.email, ok with
  | .loop _ [], some email, true => t.modify email.id (flush email.cols (setSent email.cols))
  | _, _, _ => t

/-- `opens` and `ok` decide for a recipient whether the attachment opens and the mailer takes the message, and `ok` for the
last step whether the commit succeeds -/
def happens (opens ok : Bool) (n : ℕ) (x : Sending) (w : World) : Happened :=
  match x.point with
  | .loop attachment (user :: _) =>
    .mailed n (sendEmails ⟨fun _ => opens, fun _ => ok, ok⟩ w.uploads x.letter x.compaign attachment 0 user)
  | .loop _ [] =>
    match x.email, ok with
    | some email, true =>
      if stale w.db.generatedEmails email.id email.cols (setSent email.cols) then .nothing
      else .sent email.id x.letter.body
    | _, _ => .nothing
  | _ => .nothing

def effect (L : Lib) (ok : Bool) (x : Sending) (w : World) : World :=
  { setEmails w (x.commit ok w.db.generatedEmails) with uploads := x.store L w.uploads }

end Sending

/-! ## Schedules -/

/-- the world and the tasks in progress; a task that has ended keeps its name -/
structure Tasks where
  world : World
  generating : Pool Generating
  regenerating : Pool Regenerating
  sending : Pool Sending

inductive TaskEvent where
  | request (r : Request)
  /-- a started thread takes its first step: `generate_and_save_emails` sets its status, `regenerate_email_task` reads -/
  | beginGenerate (n templateId : ℕ) (campaignId : Option ℕ)
  | beginRegenerate (n generatedEmailId : ℕ) (env : RegenerateEnv)
  | beginSend (n : ℕ) (r : SendRequest)
  | generate (n : ℕ) (env : StepEnv)
  | regenerate (n : ℕ) (ok : Bool)
  | send (n : ℕ) (opens ok : Bool)
  /-- the time to live of a key has passed -/
  | lapse (key : String)

/-- a started thread has begun -/
def takeThread (w : World) (t : Thread) : World := { w with threads := w.threads.erase t }

/-- the key is gone, if it has been given a time to live -/
def redisLapse (w : World) (key : String) : World :=
  { w with redis := Function.update w.redis key ((w.redis key).filter fun s => !s.expires) }

theorem redisLapse_self (w : World) (key : String) :
    (redisLapse w key).redis key = (w.redis key).filter fun s => !s.expires := Function.update_self ..

theorem redisLapse_of_ne (w : World) {key k : String} (h : k ≠ key) : (redisLapse w key).redis k = w.redis k :=
  Function.update_of_ne h ..

def taskStep (L : Lib) (s : Tasks) : TaskEvent → Tasks × Happened
  | .request r => ({ s with world := (serve L s.world r).world }, .nothing)
  | .beginGenerate n templateId campaignId =>
    match s.generating n with
    | some _ => (s, .nothing)
    | none =>
      let w := takeThread s.world (.generateAndSaveEmails templateId campaignId)
      ({ s with
         world := redisSet w (statusKey templateId) "in-progress"
         generating := s.generating.put n (some { templateId := templateId, campaignId := campaignId, point := .lookUp }) },
       .nothing)
  | .beginRegenerate n generatedEmailId env =>
    match s.regenerating n with
    | some _ => (s, .nothing)
    | none =>
      ({ s with
         world := takeThread s.world (.regenerateEmailTask generatedEmailId (statusKey generatedEmailId))
         regenerating := s.regenerating.put n (some (.read L s.world.snapshot generatedEmailId env)) },
       .nothing)
  | .beginSend n r =>
    match s.sending n, r.read s.world.snapshot with
    | none, some x => ({ s with sending := s.sending.put n (some x) }, .nothing)
    | _, _ => (s, .nothing)
  | .generate n env =>
    match s.generating n with
    | none => (s, .nothing)
    | some g =>
      ({ s with
         world := g.effect env s.world
         generating := s.generating.put n (some (g.move L s.world.db env)) },
       .nothing)
  | .regenerate n ok =>
    match s.regenerating n with
    | none => (s, .nothing)
    | some r =>
      ({ s with
         world := r.effect ok s.world
         regenerating := s.regenerating.put n (some (r.move L s.world.db ok)) },
       .nothing)
  | .send n opens ok =>
    match s.sending n with
    | none => (s, .nothing)
    | some x =>
      ({ s with
         world := x.effect L ok s.world
         sending := s.sending.put n (some (x.move L s.world.uploads)) },
       x.happens opens ok n s.world)
  | .lapse key => ({ s with world := redisLapse s.world key }, .nothing)

def tasks (L : Lib) : Machine Tasks TaskEvent Happened := ⟨taskStep L⟩

/-- no task in progress -/
def atRest (w : World) : Tasks := ⟨w, .empty, .empty, .empty⟩

/-! ## The rows of a template -/

/-- the generated emails of a template, in the order of their ids -/
def rowsOf (t : Table GeneratedEmail) (template : ℕ) : List (Rec GeneratedEmail) :=
  t.all fun g => g.cols.templateId = template

section Rows

variable (t : Table GeneratedEmail) {template : ℕ}

theorem rowsOf_erase_self : rowsOf (t.erase fun g => g.cols.templateId = template) template = [] :=
  Table.all_erase_self t _

theorem rowsOf_erase_ne {other : ℕ} (h : other ≠ template) :
    rowsOf (t.erase fun g => g.cols.templateId = other) template = rowsOf t template := by
  refine Table.all_erase_of_not fun g _ hg => ?_
  simp only [decide_eq_true_eq] at hg
  simpa only [hg, decide_eq_false_iff_not] using h

theorem rowsOf_insert_self {emails : List GeneratedEmail} (h : ∀ e ∈ emails, e.templateId = template) :
    rowsOf (emails.foldl Table.insert t) template =
      rowsOf t template ++ emails.mapIdx fun i e => ⟨t.next + i, e⟩ :=
  Table.all_foldl_insert emails t fun e he _ => decide_eq_true (h e he)

theorem rowsOf_insert_ne {emails : List GeneratedEmail} (h : ∀ e ∈ emails, e.templateId ≠ template) :
    rowsOf (emails.foldl Table.insert t) template = rowsOf t template :=
  Table.all_foldl_insert_of_not emails t fun e he _ => decide_eq_false (h e he)

theorem rowsOf_modify (id : ℕ) {f : GeneratedEmail → GeneratedEmail} (hf : ∀ g, (f g).templateId = g.templateId) :
    rowsOf (t.modify id f) template = (rowsOf t template).map (Table.setAt id f) := by
  simp only [rowsOf, Table.all, Table.modify_rows, List.filter_map]
  congr 1
  refine List.filter_congr fun r _ => ?_
  simp only [Function.comp, Table.setAt]
  split_ifs
  · simp only [hf]
  · rfl

end Rows

theorem flush_templateId {loaded new : GeneratedEmail} (h : new.templateId = loaded.templateId) (g : GeneratedEmail) :
    (flush loaded new g).templateId = g.templateId := if_pos h

/-- the columns of a row that a regeneration or a send commits: the row stays with its template -/
theorem Regenerating.commit_cases (ok : Bool) (r : Regenerating) (t : Table GeneratedEmail) :
    r.commit ok t = t ∨ ∃ loaded body conversation, r.point = .write loaded body conversation ∧ ok = true ∧
      r.commit ok t = t.modify r.generatedEmailId (flush loaded (rewritten loaded body conversation)) := by
  unfold Regenerating.commit
  split
  · rename_i loaded body conversation hp
    exact Or.inr ⟨loaded, body, conversation, hp, rfl, rfl⟩
  · exact Or.inl rfl

/-- what the commit of a regeneration does to a row -/
def Regenerating.rewrite (ok : Bool) (r : Regenerating) (row : Rec GeneratedEmail) : Rec GeneratedEmail :=
  match r.point, ok with
  | .write loaded body conversation, true =>
    Table.setAt r.generatedEmailId (flush loaded (rewritten loaded body conversation)) row
  | _, _ => row

theorem Regenerating.commit_get (ok : Bool) (r : Regenerating) (t : Table GeneratedEmail) (k : ℕ) :
    (r.commit ok t).get k = (t.get k).map (r.rewrite ok) := by
  obtain ⟨id, point⟩ := r
  cases point with
  | write loaded body conversation =>
    cases ok with
    | true => exact Table.get_modify ..
    | false => exact Option.map_id'.symm
  | complete | fail | expire | ended => exact Option.map_id'.symm

theorem Regenerating.commit_next (ok : Bool) (r : Regenerating) (T : Table GeneratedEmail) :
    (r.commit ok T).next = T.next := by
  unfold Regenerating.commit
  split <;> rfl

theorem Regenerating.rewrite_templateId (ok : Bool) (r : Regenerating) (row : Rec GeneratedEmail) :
    (r.rewrite ok row).cols.templateId = row.cols.templateId := by
  unfold Regenerating.rewrite
  split
  · unfold Table.setAt
    split_ifs
    · exact flush_templateId rfl _
    · rfl
  · rfl

theorem Regenerating.rewrite_of_ne {ok : Bool} {r : Regenerating} {row : Rec GeneratedEmail}
    (h : row.id ≠ r.generatedEmailId) : r.rewrite ok row = row := by
  unfold Regenerating.rewrite
  split
  · exact Table.setAt_of_ne h
  · rfl

theorem Sending.commit_cases (ok : Bool) (x : Sending) (t : Table GeneratedEmail) :
    x.commit ok t = t ∨ ∃ attachment email, x.point = .loop attachment [] ∧ x.email = some email ∧ ok = true ∧
      x.commit ok t = t.modify email.id (flush email.cols (setSent email.cols)) := by
  unfold Sending.commit
  split
  · rename_i attachment email hp he
    exact Or.inr ⟨attachment, email, hp, he, rfl, rfl⟩
  · exact Or.inl rfl

/-! ## The requests that start a run -/

/-- `dashboard`, `generate_all_emails` and `regenerate_all_emails` -/
def Starts : Request → Prop
  | .dashboard .. | .generateAllEmails .. | .regenerateAllEmails .. => True
  | _ => False

/-- the templates after a request that starts a run of `generate_and_save_emails`, and the run: its template and campaign -/
def startsRun (w : World) : Request → Option (Table EmailTemplate × ℕ × Option ℕ)
  | .dashboard who course (some f) | .generateAllEmails who course (some f) =>
    (currentUser w.db who).bind fun admin => (createTemplate w.db admin.id (some course) f).map fun db =>
      (db.emailTemplates, w.db.emailTemplates.next, some course)
  | .regenerateAllEmails who templateId =>
    (currentUser w.db who).bind fun _ => (w.db.emailTemplates.get templateId).map fun template =>
      (w.db.emailTemplates, templateId, template.cols.compaign)
  | _ => none

theorem startGeneration_world (w : World) (owner course : ℕ) (f : TemplateForm) (resp : Response) :
    (startGeneration w owner course f resp).world =
      match createTemplate w.db owner (some course) f with
      | none => w
      | some db =>
        { w with
          db := { w.db with emailTemplates := db.emailTemplates }
          threads := w.threads ++ [.generateAndSaveEmails w.db.emailTemplates.next (some course)] } := by
  unfold startGeneration createTemplate
  cases f.body <;> cases f.footer <;> rfl

/-- such a request adds a template at most, and a thread; it does not touch the status keys -/
theorem starts_world (L : Lib) (w : World) {r : Request} (h : Starts r) :
    (serve L w r).world =
      match startsRun w r with
      | none => w
      | some (templates, t, c) =>
        { w with
          db := { w.db with emailTemplates := templates }
          threads := w.threads ++ [.generateAndSaveEmails t c] } := by
  cases r with
  | dashboard who course form =>
    simp only [serve, Courses.dashboard, loginRequired]
    rcases form with _ | f
    · cases currentUser w.db who with
      | none => rfl
      | some admin =>
        simp only [startsRun]
        cases w.db.course.get course <;> rfl
    · cases hu : currentUser w.db who with
      | none => simp only [startsRun, hu]; rfl
      | some admin =>
        simp only [startsRun, hu, startGeneration_world, Option.bind_some]
        cases createTemplate w.db admin.id (some course) f <;> rfl
  | generateAllEmails who course form =>
    simp only [serve, Courses.generateAllEmails, loginRequired]
    rcases form with _ | f
    · cases currentUser w.db who <;> rfl
    · cases hu : currentUser w.db who with
      | none => simp only [startsRun, hu]; rfl
      | some admin =>
        simp only [startsRun, hu, startGeneration_world, Option.bind_some]
        cases createTemplate w.db admin.id (some course) f <;> rfl
  | regenerateAllEmails who templateId =>
    simp only [serve, Courses.regenerateAllEmails, loginRequired, startsRun]
    cases currentUser w.db who with
    | none => rfl
    | some admin => cases w.db.emailTemplates.get templateId <;> rfl
  | _ => exact absurd h id

theorem createTemplate_keeps {db db' : Db} {owner : ℕ} {compaign : Option ℕ} {f : TemplateForm}
    (h : createTemplate db owner compaign f = some db') {k : ℕ} {row : Rec EmailTemplate}
    (hk : db.emailTemplates.get k = some row) : db'.emailTemplates.get k = some row := by
  unfold createTemplate at h
  split at h
  · cases h
    exact Table.get_insert_of_some hk _
  · cases h

/-- and it keeps every template -/
theorem startsRun_keeps {w : World} {r : Request} {templates : Table EmailTemplate} {t : ℕ} {c : Option ℕ}
    (h : startsRun w r = some (templates, t, c)) {k : ℕ} {row : Rec EmailTemplate}
    (hk : w.db.emailTemplates.get k = some row) : templates.get k = some row := by
  unfold startsRun at h
  split at h
  · obtain ⟨admin, _, hadmin⟩ := Option.bind_eq_some_iff.1 h
    obtain ⟨db, hdb, heq⟩ := Option.map_eq_some_iff.1 hadmin
    cases heq
    exact createTemplate_keeps hdb hk
  · obtain ⟨admin, _, hadmin⟩ := Option.bind_eq_some_iff.1 h
    obtain ⟨db, hdb, heq⟩ := Option.map_eq_some_iff.1 hadmin
    cases heq
    exact createTemplate_keeps hdb hk
  · obtain ⟨admin, _, hadmin⟩ := Option.bind_eq_some_iff.1 h
    obtain ⟨template, _, heq⟩ := Option.map_eq_some_iff.1 hadmin
    cases heq
    exact hk
  · cases h

/-! ## What a step changes -/

section Step

variable (L : Lib) (s : Tasks)

@[simp] theorem note_db (g : Generating) (w : World) : (g.note w).db = w.db := by
  unfold Generating.note
  split <;> rfl

@[simp] theorem note_threads (g : Generating) (w : World) : (g.note w).threads = w.threads := by
  unfold Generating.note
  split <;> rfl

theorem note_redis_of_ne (g : Generating) (w : World) {k : String} (h : k ≠ statusKey g.templateId) :
    (g.note w).redis k = w.redis k := by
  unfold Generating.note
  split
  · exact redisSet_of_ne w _ h
  · exact redisSet_of_ne w _ h
  · exact redisExpire_of_ne w h
  · rfl

theorem move_templateId (db : Db) (env : StepEnv) (g : Generating) : (g.move L db env).templateId = g.templateId := by
  unfold Generating.move
  split
  case h_4 => split_ifs <;> rfl
  all_goals rfl

theorem Regenerating.note_redis_of_ne (r : Regenerating) (w : World) {k : String}
    (h : k ≠ statusKey r.generatedEmailId) : (r.note w).redis k = w.redis k := by
  unfold Regenerating.note
  split
  · exact redisSet_of_ne w _ h
  · exact redisSet_of_ne w _ h
  · exact redisExpire_of_ne w h
  · rfl

theorem Regenerating.move_id (db : Db) (ok : Bool) (r : Regenerating) :
    (r.move L db ok).generatedEmailId = r.generatedEmailId := by
  unfold Regenerating.move
  split <;> rfl

/-- a step of a sender changes its point only -/
theorem Sending.move_eq (uploads : Files) (x : Sending) :
    x.move L uploads = { x with point := (x.move L uploads).point } := by
  unfold Sending.move
  split
  · split <;> rfl
  all_goals rfl

@[simp] theorem Regenerating.note_db (r : Regenerating) (w : World) : (r.note w).db = w.db := by
  unfold Regenerating.note
  split <;> rfl

theorem Generating.effect_db (env : StepEnv) (g : Generating) (w : World) :
    (g.effect env w).db = { w.db with generatedEmails := g.commit env w.db.generatedEmails } := note_db g _

theorem Regenerating.effect_db (ok : Bool) (r : Regenerating) (w : World) :
    (r.effect ok w).db = { w.db with generatedEmails := r.commit ok w.db.generatedEmails } := r.note_db _

section Idle

variable {s} {n : ℕ}

theorem next_generate {g : Generating} (h : s.generating n = some g) (env : StepEnv) :
    (tasks L).next s (.generate n env) =
      { s with world := g.effect env s.world, generating := s.generating.put n (some (g.move L s.world.db env)) } := by
  simp only [Machine.next, tasks, taskStep, h]

/-- a task that has not begun takes no step -/
theorem next_generate_none (h : s.generating n = none) (env : StepEnv) : (tasks L).next s (.generate n env) = s := by
  simp only [Machine.next, tasks, taskStep, h]

theorem next_regenerate_none (h : s.regenerating n = none) (ok : Bool) : (tasks L).next s (.regenerate n ok) = s := by
  simp only [Machine.next, tasks, taskStep, h]

theorem next_send_none (h : s.sending n = none) (opens ok : Bool) : (tasks L).next s (.send n opens ok) = s := by
  simp only [Machine.next, tasks, taskStep, h]

/-- and one that has begun does not begin again -/
theorem next_beginGenerate_some {g : Generating} (h : s.generating n = some g) (t : ℕ) (c : Option ℕ) :
    (tasks L).next s (.beginGenerate n t c) = s := by
  simp only [Machine.next, tasks, taskStep, h]

theorem next_beginRegenerate_some {r : Regenerating} (h : s.regenerating n = some r) (id : ℕ) (env : RegenerateEnv) :
    (tasks L).next s (.beginRegenerate n id env) = s := by
  simp only [Machine.next, tasks, taskStep, h]

end Idle

/-- a run after a step: unchanged, just begun, or moved by its own step -/
theorem generating_cases {e : TaskEvent} {m : ℕ} {g' : Generating} (h : ((tasks L).next s e).generating m = some g') :
    (s.generating m = some g' ∧ ∀ env, e ≠ .generate m env) ∨
      (∃ t c, e = .beginGenerate m t c ∧ s.generating m = none ∧ g' = ⟨t, c, .lookUp, []⟩) ∨
      ∃ env g, e = .generate m env ∧ s.generating m = some g ∧ g' = g.move L s.world.db env := by
  cases e with
  | beginGenerate n t c =>
    simp only [Machine.next, tasks, taskStep] at h
    split at h
    · exact Or.inl ⟨h, by simp⟩
    · rename_i hn
      rcases Pool.put_cases h with ⟨_, hm⟩ | ⟨rfl, hm⟩
      · exact Or.inl ⟨hm, by simp⟩
      · cases hm
        exact Or.inr (Or.inl ⟨t, c, rfl, hn, rfl⟩)
  | generate n env =>
    simp only [Machine.next, tasks, taskStep] at h
    split at h
    · rename_i hn
      refine Or.inl ⟨h, fun env' he => ?_⟩
      cases he
      rw [hn] at h
      cases h
    · rename_i g hg
      rcases Pool.put_cases h with ⟨hne, hm⟩ | ⟨rfl, hm⟩
      · refine Or.inl ⟨hm, fun env' he => ?_⟩
        cases he
        exact hne rfl
      · cases hm
        exact Or.inr (Or.inr ⟨env, g, rfl, hg, rfl⟩)
  | request r => exact Or.inl ⟨h, by simp⟩
  | lapse key => exact Or.inl ⟨h, by simp⟩
  | beginRegenerate n id env | beginSend n r | regenerate n ok | send n opens ok =>
    simp only [Machine.next, tasks, taskStep] at h
    split at h <;> exact Or.inl ⟨h, by simp⟩

/-- a regeneration after a step: unchanged, just begun, or moved by its own step -/
theorem regenerating_cases {e : TaskEvent} {m : ℕ} {r' : Regenerating}
    (h : ((tasks L).next s e).regenerating m = some r') :
    (s.regenerating m = some r' ∧ ∀ ok, e ≠ .regenerate m ok) ∨
      (∃ id env, e = .beginRegenerate m id env ∧ s.regenerating m = none ∧ r' = .read L s.world.db id env) ∨
      ∃ ok r, e = .regenerate m ok ∧ s.regenerating m = some r ∧ r' = r.move L s.world.db ok := by
  cases e with
  | beginRegenerate n id env =>
    simp only [Machine.next, tasks, taskStep] at h
    split at h
    · exact Or.inl ⟨h, by simp⟩
    · rename_i hn
      rcases Pool.put_cases h with ⟨_, hm⟩ | ⟨rfl, hm⟩
      · exact Or.inl ⟨hm, by simp⟩
      · cases hm
        exact Or.inr (Or.inl ⟨id, env, rfl, hn, rfl⟩)
  | regenerate n ok =>
    simp only [Machine.next, tasks, taskStep] at h
    split at h
    · rename_i hn
      refine Or.inl ⟨h, fun ok' he => ?_⟩
      cases he
      rw [hn] at h
      cases h
    · rename_i r hr
      rcases Pool.put_cases h with ⟨hne, hm⟩ | ⟨rfl, hm⟩
      · refine Or.inl ⟨hm, fun ok' he => ?_⟩
        cases he
        exact hne rfl
      · cases hm
        exact Or.inr (Or.inr ⟨ok, r, rfl, hr, rfl⟩)
  | request r => exact Or.inl ⟨h, by simp⟩
  | lapse key => exact Or.inl ⟨h, by simp⟩
  | beginGenerate n t c | beginSend n r | generate n env | send n opens ok =>
    simp only [Machine.next, tasks, taskStep] at h
    split at h <;> exact Or.inl ⟨h, by simp⟩

/-- a sending request after a step: unchanged, just begun, or moved by its own step -/
theorem sending_cases {e : TaskEvent} {m : ℕ} {x' : Sending} (h : ((tasks L).next s e).sending m = some x') :
    (s.sending m = some x' ∧ ∀ opens ok, e ≠ .send m opens ok) ∨
      (∃ r, e = .beginSend m r ∧ s.sending m = none ∧ r.read s.world.db = some x') ∨
      ∃ opens ok x, e = .send m opens ok ∧ s.sending m = some x ∧ x' = x.move L s.world.uploads := by
  cases e with
  | beginSend n r =>
    simp only [Machine.next, tasks, taskStep] at h
    split at h
    · rename_i x hn hx
      rcases Pool.put_cases h with ⟨_, hm⟩ | ⟨rfl, hm⟩
      · exact Or.inl ⟨hm, by simp⟩
      · cases hm
        exact Or.inr (Or.inl ⟨r, rfl, hn, hx⟩)
    · exact Or.inl ⟨h, by simp⟩
  | send n opens ok =>
    simp only [Machine.next, tasks, taskStep] at h
    split at h
    · rename_i hn
      refine Or.inl ⟨h, fun opens' ok' he => ?_⟩
      cases he
      rw [hn] at h
      cases h
    · rename_i x hx
      rcases Pool.put_cases h with ⟨hne, hm⟩ | ⟨rfl, hm⟩
      · refine Or.inl ⟨hm, fun opens' ok' he => ?_⟩
        cases he
        exact hne rfl
      · cases hm
        exact Or.inr (Or.inr ⟨opens, ok, x, rfl, hx, rfl⟩)
  | request r => exact Or.inl ⟨h, by simp⟩
  | lapse key => exact Or.inl ⟨h, by simp⟩
  | beginGenerate n t c | beginRegenerate n id env | generate n env | regenerate n ok =>
    simp only [Machine.next, tasks, taskStep] at h
    split at h <;> exact Or.inl ⟨h, by simp⟩

theorem generating_persists (e : TaskEvent) {m : ℕ} {g : Generating} (h : s.generating m = some g) :
    (((tasks L).next s e).generating m = some g ∧ ∀ env, e ≠ .generate m env) ∨
      ∃ env, e = .generate m env ∧ ((tasks L).next s e).generating m = some (g.move L s.world.db env) := by
  have hm : (s.generating m).isSome := by rw [h]; rfl
  have hsome : (((tasks L).next s e).generating m).isSome := by
    cases e with
    | request r => exact hm
    | lapse key => exact hm
    | beginGenerate n t c | generate n env =>
      simp only [Machine.next, tasks, taskStep]
      split
      · exact hm
      · exact Pool.isSome_put hm ..
    | beginRegenerate n id env | beginSend n r | regenerate n ok | send n opens ok =>
      simp only [Machine.next, tasks, taskStep]
      split <;> exact hm
  obtain ⟨g', hg'⟩ := Option.isSome_iff_exists.1 hsome
  rcases generating_cases L s hg' with ⟨h1, hne⟩ | ⟨t, c, _, h1, _⟩ | ⟨env, g0, he, h1, rfl⟩
  · cases h1.symm.trans h
    exact Or.inl ⟨hg', hne⟩
  · rw [h] at h1
    cases h1
  · cases h1.symm.trans h
    exact Or.inr ⟨env, he, hg'⟩

/-- what a step does to the generated emails -/
def emailsAfter (e : TaskEvent) : Table GeneratedEmail :=
  match e with
  | .request r => (serve L s.world r).world.db.generatedEmails
  | .generate n env => (s.generating n).elim s.world.db.generatedEmails (·.commit env s.world.db.generatedEmails)
  | .regenerate n ok => (s.regenerating n).elim s.world.db.generatedEmails (·.commit ok s.world.db.generatedEmails)
  | .send n _ ok => (s.sending n).elim s.world.db.generatedEmails (·.commit ok s.world.db.generatedEmails)
  | _ => s.world.db.generatedEmails

theorem next_db (e : TaskEvent) :
    ((tasks L).next s e).world.db =
      match e with
      | .request r => (serve L s.world r).world.db
      | _ => { s.world.db with generatedEmails := emailsAfter L s e } := by
  cases e with
  | request r => rfl
  | lapse key => rfl
  | beginGenerate n t c | beginRegenerate n id env | beginSend n r =>
    simp only [Machine.next, tasks, taskStep]
    split <;> rfl
  | generate n env | regenerate n ok | send n opens ok =>
    simp only [Machine.next, tasks, taskStep, emailsAfter]
    split
    · rename_i hn
      rw [hn]
      rfl
    · rename_i x hx
      rw [hx]
      simp only [Option.elim_some, Generating.effect_db, Regenerating.effect_db, Sending.effect, setEmails]

theorem next_emails (e : TaskEvent) : ((tasks L).next s e).world.db.generatedEmails = emailsAfter L s e := by
  rw [next_db]
  cases e <;> rfl

/-- what a step of a task can do to the generated emails: nothing, the delete or the save of a generation, the commit of a
regeneration or the mark of a send -/
inductive EmailEffect (s : Tasks) : TaskEvent → Table GeneratedEmail → Prop
  | keep (e : TaskEvent) : EmailEffect s e s.world.db.generatedEmails
  | delete {n : ℕ} {env : StepEnv} {g : Generating} {found : Bool} (run : s.generating n = some g)
      (point : g.point = .delete found) (answers : env.ok = true) :
      EmailEffect s (.generate n env) (s.world.db.generatedEmails.erase fun e => e.cols.templateId = g.templateId)
  | save {n : ℕ} {env : StepEnv} {g : Generating} {emails : List GeneratedEmail} (run : s.generating n = some g)
      (point : g.point = .save emails) (answers : env.ok = true) :
      EmailEffect s (.generate n env) (emails.foldl Table.insert s.world.db.generatedEmails)
  | rewrite {n : ℕ} {r : Regenerating} {loaded : GeneratedEmail} {body conversation : String}
      (run : s.regenerating n = some r) (point : r.point = .write loaded body conversation) :
      EmailEffect s (.regenerate n true)
        (s.world.db.generatedEmails.modify r.generatedEmailId (flush loaded (rewritten loaded body conversation)))
  | mark {n : ℕ} {opens : Bool} {x : Sending} {attachment : Option String} {email : Rec GeneratedEmail}
      (run : s.sending n = some x) (point : x.point = .loop attachment []) (source : x.email = some email) :
      EmailEffect s (.send n opens true)
        (s.world.db.generatedEmails.modify email.id (flush email.cols (setSent email.cols)))

theorem emailsAfter_effect {e : TaskEvent} (he : ∀ r, e ≠ .request r) : EmailEffect s e (emailsAfter L s e) := by
  cases e with
  | request r => exact absurd rfl (he r)
  | lapse | beginGenerate | beginRegenerate | beginSend => exact .keep _
  | generate n env =>
    simp only [emailsAfter]
    cases hn : s.generating n with
    | none => exact .keep _
    | some g =>
      simp only [Option.elim_some, Generating.commit]
      split
      · rename_i found hpoint hok
        exact .delete hn hpoint hok
      · rename_i emails hpoint hok
        exact .save hn hpoint hok
      · exact .keep _
  | regenerate n ok =>
    simp only [emailsAfter]
    cases hn : s.regenerating n with
    | none => exact .keep _
    | some r =>
      rcases r.commit_cases ok s.world.db.generatedEmails with hsame | ⟨loaded, body, conversation, hpoint, rfl, hmodify⟩
      · rw [Option.elim_some, hsame]
        exact .keep _
      · rw [Option.elim_some, hmodify]
        exact .rewrite hn hpoint
  | send n opens ok =>
    simp only [emailsAfter]
    cases hn : s.sending n with
    | none => exact .keep _
    | some x =>
      rcases x.commit_cases ok s.world.db.generatedEmails with hsame | ⟨attachment, email, hpoint, hemail, rfl, hmodify⟩
      · rw [Option.elim_some, hsame]
        exact .keep _
      · rw [Option.elim_some, hmodify]
        exact .mark hn hpoint hemail

variable {s}

/-- no step of a task gives an id back -/
theorem EmailEffect.next_le {e : TaskEvent} {t : Table GeneratedEmail} (h : EmailEffect s e t) :
    s.world.db.generatedEmails.next ≤ t.next := by
  cases h with
  | keep | delete | rewrite | mark => exact le_rfl
  | save =>
    rw [Table.foldl_insert_next]
    exact Nat.le_add_right _ _

end Step

/-! ## Names -/

/-- a task that is in progress was begun in the schedule -/
theorem begun_of_generating (L : Lib) {w : World} {schedule : List TaskEvent} {n : ℕ} {g : Generating}
    (h : ((tasks L).run (atRest w) schedule).generating n = some g) : ∃ t c, .beginGenerate n t c ∈ schedule := by
  obtain ⟨pre, e, post, rfl, hpre, hpost⟩ := (tasks L).exists_turn (P := fun s => (s.generating n).isSome) (s := atRest w)
    (by simp [atRest]) (Option.isSome_iff_exists.2 ⟨g, h⟩)
  obtain ⟨g', hg'⟩ := Option.isSome_iff_exists.1 hpost
  rcases generating_cases L _ hg' with ⟨hg, _⟩ | ⟨t, c, rfl, _, _⟩ | ⟨env, g0, rfl, hg, _⟩
  · exact absurd (Option.isSome_iff_exists.2 ⟨g', hg⟩) hpre
  · exact ⟨t, c, by simp⟩
  · exact absurd (Option.isSome_iff_exists.2 ⟨g0, hg⟩) hpre

theorem begun_of_sending (L : Lib) {w : World} {schedule : List TaskEvent} {n : ℕ} {x : Sending}
    (h : ((tasks L).run (atRest w) schedule).sending n = some x) : ∃ r, .beginSend n r ∈ schedule := by
  obtain ⟨pre, e, post, rfl, hpre, hpost⟩ := (tasks L).exists_turn (P := fun s => (s.sending n).isSome) (s := atRest w)
    (by simp [atRest]) (Option.isSome_iff_exists.2 ⟨x, h⟩)
  obtain ⟨x', hx'⟩ := Option.isSome_iff_exists.1 hpost
  rcases sending_cases L _ hx' with ⟨hx, _⟩ | ⟨r, rfl, _, _⟩ | ⟨_, _, x0, _, hx, _⟩
  · exact absurd (Option.isSome_iff_exists.2 ⟨x', hx⟩) hpre
  · exact ⟨r, by simp⟩
  · exact absurd (Option.isSome_iff_exists.2 ⟨x0, hx⟩) hpre

theorem begun_of_regenerating (L : Lib) {w : World} {schedule : List TaskEvent} {n : ℕ} {r : Regenerating}
    (h : ((tasks L).run (atRest w) schedule).regenerating n = some r) : ∃ id env, .beginRegenerate n id env ∈ schedule := by
  obtain ⟨pre, e, post, rfl, hpre, hpost⟩ := (tasks L).exists_turn (P := fun s => (s.regenerating n).isSome)
    (s := atRest w) (by simp [atRest]) (Option.isSome_iff_exists.2 ⟨r, h⟩)
  obtain ⟨r', hr'⟩ := Option.isSome_iff_exists.1 hpost
  rcases regenerating_cases L _ hr' with ⟨hr, _⟩ | ⟨id, env, rfl, _, _⟩ | ⟨_, r0, _, hr, _⟩
  · exact absurd (Option.isSome_iff_exists.2 ⟨r', hr⟩) hpre
  · exact ⟨id, env, by simp⟩
  · exact absurd (Option.isSome_iff_exists.2 ⟨r0, hr⟩) hpre

/-! ## A task that nothing disturbs -/

@[simp] theorem setEmails_self (w : World) : setEmails w w.db.generatedEmails = w := rfl

/-- one step of a run of `generate_and_save_emails`, with the world -/
def Generating.advance (L : Lib) (p : World × Generating) (env : StepEnv) : World × Generating :=
  (p.2.effect env p.1, p.2.move L p.1.db env)

theorem run_generate (L : Lib) {n : ℕ} (envs : List StepEnv) {s : Tasks} {g : Generating} (h : s.generating n = some g) :
    ((tasks L).run s (envs.map (.generate n))).world = (envs.foldl (Generating.advance L) (s.world, g)).1 := by
  have hsim := (tasks L).run_map_simulates (R := fun s p => s.world = p.1 ∧ s.generating n = some p.2)
    (f := .generate n) (g := Generating.advance L) ?_ (t := (s.world, g)) ⟨rfl, h⟩ envs
  · exact hsim.1
  · rintro s ⟨w, g⟩ env ⟨rfl, hg⟩
    simp only [Machine.next, tasks, taskStep, hg]
    exact ⟨rfl, Pool.put_self ..⟩

theorem advance_ended (L : Lib) (w : World) (t : ℕ) (c : Option ℕ) (saved : List ℕ) (envs : List StepEnv) :
    envs.foldl (Generating.advance L) (w, ⟨t, c, .ended, saved⟩) = (w, ⟨t, c, .ended, saved⟩) := by
  induction envs with
  | nil => rfl
  | cons env envs ih => exact ih

/-- the last two steps of a run that completes -/
theorem advance_complete (L : Lib) (w : World) (t : ℕ) (c : Option ℕ) (saved : List ℕ) (e1 e2 : StepEnv)
    (envs : List StepEnv) :
    ((e1 :: e2 :: envs).foldl (Generating.advance L) (w, ⟨t, c, .complete, saved⟩)).1 =
      redisExpire (redisSet w (statusKey t) "completed") (statusKey t) :=
  congrArg Prod.fst (advance_ended L _ t c saved envs)

/-- and of one that fails -/
theorem advance_fail (L : Lib) (w : World) (t : ℕ) (c : Option ℕ) (saved : List ℕ) (e1 e2 : StepEnv)
    (envs : List StepEnv) :
    ((e1 :: e2 :: envs).foldl (Generating.advance L) (w, ⟨t, c, .fail, saved⟩)).1 =
      redisExpire (redisSet w (statusKey t) "failed") (statusKey t) :=
  congrArg Prod.fst (advance_ended L _ t c saved envs)

theorem advance_lookUp (L : Lib) (w : World) (t : ℕ) (c : Option ℕ) (saved : List ℕ) (env : StepEnv) :
    Generating.advance L (w, ⟨t, c, .lookUp, saved⟩) env =
      (w, ⟨t, c, if env.ok ∧ (c.bind w.db.course.get).isSome then .delete (w.db.emailTemplates.get t).isSome else .fail,
        saved⟩) := rfl

theorem advance_delete (L : Lib) (w : World) (t : ℕ) (c : Option ℕ) (saved : List ℕ) (found : Bool) (env : StepEnv) :
    Generating.advance L (w, ⟨t, c, .delete found, saved⟩) env =
      if env.ok then
        (setEmails w (w.db.generatedEmails.erase fun g => g.cols.templateId = t), ⟨t, c, .generate found, saved⟩)
      else (w, ⟨t, c, .fail, saved⟩) := by
  obtain ⟨ok, api⟩ := env
  cases ok <;> rfl

/-- the template is loaded again for the completions, and is still there -/
theorem advance_generate (L : Lib) {w : World} {t : ℕ} (c : Option ℕ) (saved : List ℕ) (env : StepEnv)
    {template : Option (Rec EmailTemplate)} (h : w.db.emailTemplates.get t = template) :
    Generating.advance L (w, ⟨t, c, .generate template.isSome, saved⟩) env =
      (w, ⟨t, c, if emailsToSave L template env.api = [] then .complete else .save (emailsToSave L template env.api),
        saved⟩) := by
  have hfound : (if template.isSome then template else none) = template := by
    cases template <;> rfl
  simp only [Generating.advance, Generating.move, h, hfound]
  rfl

theorem advance_save (L : Lib) (w : World) (t : ℕ) (c : Option ℕ) (saved : List ℕ) (emails : List GeneratedEmail)
    (env : StepEnv) :
    Generating.advance L (w, ⟨t, c, .save emails, saved⟩) env =
      if env.ok then
        (setEmails w (emails.foldl Table.insert w.db.generatedEmails),
          ⟨t, c, .complete, List.range' w.db.generatedEmails.next emails.length⟩)
      else (w, ⟨t, c, .fail, saved⟩) := by
  obtain ⟨ok, api⟩ := env
  cases ok <;> rfl

/-- the environment of a run of `generate_and_save_emails`, step by step -/
def stepEnvs (env : GenerateEnv) : List StepEnv :=
  [⟨env.lookup, env.api⟩, ⟨env.delete, env.api⟩, ⟨true, env.api⟩, ⟨env.save, env.api⟩, ⟨true, env.api⟩, ⟨true, env.api⟩]

theorem generate_alone (L : Lib) {s : Tasks} {n : ℕ} (hn : s.generating n = none) (templateId : ℕ)
    (campaignId : Option ℕ) (env : GenerateEnv) :
    ((tasks L).run s (.beginGenerate n templateId campaignId :: (stepEnvs env).map (.generate n))).world =
      generateAndSaveEmails L (takeThread s.world (.generateAndSaveEmails templateId campaignId)) templateId campaignId
        env := by
  have hbegin : ∃ s', (tasks L).next s (.beginGenerate n templateId campaignId) = s' ∧
      s'.generating n = some ⟨templateId, campaignId, .lookUp, []⟩ ∧
      s'.world = redisSet (takeThread s.world (.generateAndSaveEmails templateId campaignId)) (statusKey templateId)
        "in-progress" := by
    simp only [Machine.next, tasks, taskStep, hn]
    exact ⟨_, rfl, Pool.put_self .., rfl⟩
  obtain ⟨s', hs', hg, hw⟩ := hbegin
  rw [Machine.run_cons, hs', run_generate L _ hg, hw]
  unfold generateAndSaveEmails
  simp only
  generalize redisSet (takeThread s.world (.generateAndSaveEmails templateId campaignId)) (statusKey templateId)
    "in-progress" = w
  split
  · rename_i campaign hlookup hc hdelete
    have hfound : env.lookup = true ∧ (campaignId.bind w.db.course.get).isSome = true := ⟨hlookup, by rw [hc]; rfl⟩
    have htemplate : (setEmails w (w.db.generatedEmails.erase fun g => g.cols.templateId = templateId)).db.emailTemplates.get
        templateId = w.db.emailTemplates.get templateId := rfl
    rw [stepEnvs, List.foldl_cons, advance_lookUp, if_pos hfound, List.foldl_cons, advance_delete, if_pos hdelete,
      List.foldl_cons, advance_generate L campaignId [] _ htemplate]
    by_cases he : emailsToSave L (w.db.emailTemplates.get templateId) env.api = []
    · rw [if_pos he, if_pos he]
      exact advance_complete L ..
    · rw [if_neg he, if_neg he, List.foldl_cons, advance_save]
      cases hsave : env.save with
      | true =>
        rw [if_pos rfl]
        exact advance_complete L ..
      | false =>
        rw [if_neg Bool.false_ne_true]
        exact advance_fail L ..
  · rename_i hfail
    by_cases hfound : env.lookup = true ∧ (campaignId.bind w.db.course.get).isSome = true
    · obtain ⟨campaign, hc⟩ := Option.isSome_iff_exists.1 hfound.2
      have hdelete : ¬ env.delete = true := fun h => hfail campaign hfound.1 hc h
      rw [stepEnvs, List.foldl_cons, advance_lookUp, if_pos hfound, List.foldl_cons, advance_delete, if_neg hdelete]
      exact advance_fail L ..
    · rw [stepEnvs, List.foldl_cons, advance_lookUp, if_neg hfound]
      exact advance_fail L ..

theorem flush_loaded (loaded new : GeneratedEmail) : flush loaded new loaded = new := by
  obtain ⟨header, body, footer, templateId, isSent, conversation⟩ := new
  simp only [flush, GeneratedEmail.mk.injEq]
  refine ⟨?_, ?_, ?_, ?_, ?_, ?_⟩
  all_goals split_ifs with h
  all_goals first | exact h.symm | rfl

/-- a row that nothing has changed since it was loaded becomes the new one -/
theorem modify_flush {t : Table GeneratedEmail} {id : ℕ} {email : Rec GeneratedEmail} (h : t.get id = some email)
    (f : GeneratedEmail → GeneratedEmail) : t.modify id (flush email.cols (f email.cols)) = t.modify id f := by
  refine Table.modify_congr fun r hr => ?_
  cases h.symm.trans hr
  exact flush_loaded ..

theorem stale_of_get {t : Table GeneratedEmail} {id : ℕ} {email : Rec GeneratedEmail} (h : t.get id = some email)
    (loaded new : GeneratedEmail) : stale t id loaded new = false := by
  simp [stale, h]

theorem regenerated_row {L : Lib} {db : Db} {id : ℕ} {env : RegenerateEnv} {p : String × String}
    (h : regenerated L db id env = .ok p) : ∃ email, db.generatedEmails.get id = some email := by
  obtain ⟨email, _, _, _, _, hemail, _⟩ := regenerated_spec h
  exact ⟨email, hemail⟩

/-- a regeneration depends on the columns of its row, the template of the row and the campaigns -/
theorem regenerated_congr (L : Lib) {db db' : Db} {id id' : ℕ} {row row' : Rec GeneratedEmail}
    (hrow : db.generatedEmails.get id = some row) (hrow' : db'.generatedEmails.get id' = some row')
    (hcols : row.cols = row'.cols)
    (ht : db.emailTemplates.get row'.cols.templateId = db'.emailTemplates.get row'.cols.templateId)
    (hc : db.course = db'.course) (env : RegenerateEnv) : regenerated L db id env = regenerated L db' id' env := by
  have hasks : regenerateAsks L db id env.lookup = regenerateAsks L db' id' env.lookup := by
    unfold regenerateAsks
    rw [hrow, hrow', hc]
    cases env.lookup with
    | false => rfl
    | true => simp only [hcols, ht]
  rw [regenerated, regenerated, hasks]

def Regenerating.advance (L : Lib) (p : World × Regenerating) (ok : Bool) : World × Regenerating :=
  (p.2.effect ok p.1, p.2.move L p.1.db ok)

theorem run_regenerate (L : Lib) {n : ℕ} (oks : List Bool) {s : Tasks} {r : Regenerating} (h : s.regenerating n = some r) :
    ((tasks L).run s (oks.map (.regenerate n))).world = (oks.foldl (Regenerating.advance L) (s.world, r)).1 := by
  have hsim := (tasks L).run_map_simulates (R := fun s p => s.world = p.1 ∧ s.regenerating n = some p.2)
    (f := .regenerate n) (g := Regenerating.advance L) ?_ (t := (s.world, r)) ⟨rfl, h⟩ oks
  · exact hsim.1
  · rintro s ⟨w, r⟩ ok ⟨rfl, hr⟩
    simp only [Machine.next, tasks, taskStep, hr]
    exact ⟨rfl, Pool.put_self ..⟩

theorem regenerate_alone (L : Lib) {s : Tasks} {n : ℕ} (hn : s.regenerating n = none) (id : ℕ) (env : RegenerateEnv) :
    ((tasks L).run s (.beginRegenerate n id env :: [env.commit, true, true].map (.regenerate n))).world =
      regenerateEmailTask L (takeThread s.world (.regenerateEmailTask id (statusKey id))) id (statusKey id) env := by
  have hbegin : ∃ s', (tasks L).next s (.beginRegenerate n id env) = s' ∧
      s'.regenerating n = some (.read L s.world.db id env) ∧
      s'.world = takeThread s.world (.regenerateEmailTask id (statusKey id)) := by
    simp only [Machine.next, tasks, taskStep, hn]
    exact ⟨_, rfl, Pool.put_self .., rfl⟩
  obtain ⟨s', hs', hr, hw⟩ := hbegin
  have hdb : (takeThread s.world (.regenerateEmailTask id (statusKey id))).db = s.world.db := rfl
  rw [Machine.run_cons, hs', run_regenerate L _ hr, hw, ← hdb]
  generalize takeThread s.world (.regenerateEmailTask id (statusKey id)) = w
  rw [regenerateEmailTask]
  cases hres : regenerated L w.db id env with
  | error e =>
    simp only [Regenerating.read, hres]
    rfl
  | ok p =>
    obtain ⟨body, conversation⟩ := p
    obtain ⟨email, hemail⟩ := regenerated_row hres
    simp only [Regenerating.read, hres, hemail]
    cases hcommit : env.commit with
    | true =>
      have hwrite : Regenerating.advance L (w, ⟨id, .write email.cols body conversation⟩) true =
          (setEmails w (w.db.generatedEmails.modify id fun g => rewritten g body conversation), ⟨id, .complete⟩) := by
        simp only [Regenerating.advance, Regenerating.effect, Regenerating.commit, Regenerating.move, Regenerating.note,
          modify_flush hemail fun g => rewritten g body conversation, stale_of_get hemail]
        rfl
      rw [List.foldl_cons, hwrite]
      rfl
    | false => rfl

/-- the sequential model of a sender -/
def SendRequest.out (L : Lib) (w : World) (env : SendEnv) : SendRequest → Out
  | .sendemail who compaign form upload => Courses.sendemail L w who compaign form upload env
  | .sendeditedemail who compaign emailContent upload => Courses.sendeditedemail L w who compaign emailContent upload env
  | .sendGeneratedEmail who generatedEmailId compaign upload =>
    Courses.sendGeneratedEmail L w who generatedEmailId compaign upload env

def SendRequest.compaign : SendRequest → ℕ
  | .sendemail _ compaign _ _ | .sendeditedemail _ compaign _ _ | .sendGeneratedEmail _ _ compaign _ => compaign

def Happened.mails : Happened → List Mail
  | .mailed _ m => [m]
  | _ => []

/-- what is left of a world after the loop: the mark, if it was a generated email and the commit succeeds -/
def marked (w : World) (email : Option (Rec GeneratedEmail)) (commit : Bool) : World :=
  match email, commit with
  | some e, true => setEmails w (w.db.generatedEmails.modify e.id setSent)
  | _, _ => w

/-- the world and the messages a sender leaves that has read `x` -/
def sendResult (L : Lib) (w : World) (env : SendEnv) : Option Sending → World × List Mail
  | none => (w, [])
  | some x =>
    match saveUpload L w.uploads x.upload with
    | none => (w, [])
    | some (uploads, attachment) =>
      (marked { w with uploads := uploads } x.email env.commit,
        sends env { w with uploads := uploads } x.letter x.compaign attachment)

/-- the sequential senders read, and then do one and the same thing -/
theorem out_eq_sendResult (L : Lib) (w : World) (env : SendEnv) (r : SendRequest) :
    ((r.out L w env).world, (r.out L w env).mails) = sendResult L w env (r.read w.db) := by
  cases r with
  | sendemail who compaign form upload =>
    simp only [SendRequest.out, SendRequest.read, sendemail, loginRequired]
    cases currentUser w.db who with
    | none => rfl
    | some admin =>
      rcases form with _ | _ | f
      · rfl
      · rfl
      · simp only [sendResult]
        cases saveUpload L w.uploads upload <;> rfl
  | sendeditedemail who compaign emailContent upload =>
    simp only [SendRequest.out, SendRequest.read, sendeditedemail, loginRequired]
    cases currentUser w.db who with
    | none => rfl
    | some admin =>
      cases w.db.course.get compaign with
      | none => rfl
      | some campaign =>
        cases emailContent with
        | none => rfl
        | some body =>
          simp only [sendResult]
          cases saveUpload L w.uploads upload <;> rfl
  | sendGeneratedEmail who id compaign upload =>
    simp only [SendRequest.out, SendRequest.read, sendGeneratedEmail, loginRequired]
    cases currentUser w.db who with
    | none => rfl
    | some admin =>
      cases w.db.generatedEmails.get id with
      | none => rfl
      | some email =>
        cases w.db.course.get compaign with
        | none => rfl
        | some campaign =>
          simp only [sendResult]
          cases saveUpload L w.uploads upload with
          | none => rfl
          | some p => cases env.commit <;> rfl

theorem read_spec {db : Db} {r : SendRequest} {x : Sending} (h : r.read db = some x) :
    x.point = .save (activeUsers db x.compaign) ∧ x.compaign = r.compaign ∧
      ∀ e, x.email = some e → db.generatedEmails.get e.id = some e ∧ x.letter.body = e.cols.body := by
  cases r with
  | sendemail who compaign form upload =>
    simp only [SendRequest.read] at h
    split at h
    · cases h
      exact ⟨rfl, rfl, by simp⟩
    · cases h
  | sendeditedemail who compaign emailContent upload =>
    simp only [SendRequest.read] at h
    split at h
    · cases h
      exact ⟨rfl, rfl, by simp⟩
    · cases h
  | sendGeneratedEmail who id compaign upload =>
    simp only [SendRequest.read] at h
    split at h
    · rename_i admin email campaign _ he _
      cases h
      refine ⟨rfl, rfl, fun e hee => ?_⟩
      cases hee
      have hid : email.id = id := (Table.get_eq_some_iff.1 he).2
      exact ⟨hid ▸ he, rfl⟩
    · cases h

/-- the messages along a schedule -/
def mails (L : Lib) (s : Tasks) (schedule : List TaskEvent) : List Mail :=
  (tasks L).collected (fun s e => ((tasks L).out s e).mails) s schedule

theorem mails_cons (L : Lib) (s : Tasks) (e : TaskEvent) (schedule : List TaskEvent) :
    mails L s (e :: schedule) = ((tasks L).out s e).mails ++ mails L ((tasks L).next s e) schedule := rfl

theorem step_send (L : Lib) {s : Tasks} {n : ℕ} {x : Sending} (h : s.sending n = some x) (opens ok : Bool) :
    (tasks L).step s (.send n opens ok) =
      ({ s with world := x.effect L ok s.world, sending := s.sending.put n (some (x.move L s.world.uploads)) },
        x.happens opens ok n s.world) := by
  simp only [tasks, taskStep, h]

/-- the steps of the loop over the subscribers, the first of them having position `k` -/
def loopSteps (n : ℕ) (env : SendEnv) (k count : ℕ) : List TaskEvent :=
  (List.range' k count).map fun i => .send n (env.opens i) (env.takes i)

/-- a request that has ended, or never began, does nothing -/
theorem send_idle (L : Lib) {s : Tasks} {n : ℕ} (h : ∀ x, s.sending n = some x → x.point = .ended)
    (steps : List (Bool × Bool)) :
    ((tasks L).run s (steps.map fun p => .send n p.1 p.2)).world = s.world ∧
      mails L s (steps.map fun p => .send n p.1 p.2) = [] := by
  induction steps generalizing s with
  | nil => exact ⟨rfl, rfl⟩
  | cons p steps ih =>
    cases hx : s.sending n with
    | none =>
      have hstep : (tasks L).step s (.send n p.1 p.2) = (s, .nothing) := by simp only [tasks, taskStep, hx]
      rw [List.map_cons, Machine.run_cons, mails_cons, Machine.next, Machine.out, hstep]
      exact ih h
    | some x =>
      have hstep := step_send L hx p.1 p.2
      have hend : x.point = .ended := h x hx
      have hw : x.effect L p.2 s.world = s.world := by simp [Sending.effect, Sending.commit, Sending.store, hend]
      have ho : x.happens p.1 p.2 n s.world = .nothing := by simp [Sending.happens, hend]
      rw [hw, ho] at hstep
      rw [List.map_cons, Machine.run_cons, mails_cons, Machine.next, Machine.out, hstep]
      obtain ⟨h1, h2⟩ := ih (s := { s with sending := s.sending.put n (some (x.move L s.world.uploads)) }) fun y hy => by
        simp only [Pool.put_self, Option.some.injEq] at hy
        rw [← hy, Sending.move, hend]
      exact ⟨h1, h2⟩

theorem send_loop (L : Lib) {s : Tasks} {n : ℕ} {x : Sending} {attachment : Option String} {users : List (Rec User)}
    (h : s.sending n = some x) (hx : x.point = .loop attachment users) (env : SendEnv) (k : ℕ) :
    ((tasks L).run s (loopSteps n env k users.length)).world = s.world ∧
      ((tasks L).run s (loopSteps n env k users.length)).sending n = some { x with point := .loop attachment [] } ∧
      mails L s (loopSteps n env k users.length) =
        users.mapIdx fun i => sendEmails env s.world.uploads x.letter x.compaign attachment (k + i) := by
  induction users generalizing s x k with
  | nil =>
    obtain ⟨compaign, letter, upload, email, point⟩ := x
    cases hx
    exact ⟨rfl, h, rfl⟩
  | cons u users ih =>
    have hstep := step_send L h (env.opens k) (env.takes k)
    have hw : x.effect L (env.takes k) s.world = s.world := by
      simp [Sending.effect, Sending.commit, Sending.store, hx]
    have hm : x.move L s.world.uploads = { x with point := .loop attachment users } := by
      simp [Sending.move, hx]
    have ho : x.happens (env.opens k) (env.takes k) n s.world =
        .mailed n (sendEmails env s.world.uploads x.letter x.compaign attachment k u) := by
      simp only [Sending.happens, hx]
      rfl
    rw [hw, hm, ho] at hstep
    have hsteps : loopSteps n env k (u :: users).length =
        .send n (env.opens k) (env.takes k) :: loopSteps n env (k + 1) users.length := rfl
    rw [hsteps, Machine.run_cons, mails_cons, Machine.next, Machine.out, hstep]
    obtain ⟨h1, h2, h3⟩ := ih (s := { s with sending := s.sending.put n (some { x with point := .loop attachment users }) })
      (x := { x with point := .loop attachment users }) (Pool.put_self ..) rfl (k + 1)
    refine ⟨h1, h2, ?_⟩
    rw [h3, List.mapIdx_cons]
    simp only [Happened.mails, List.singleton_append, Nat.add_zero]
    congr 2
    funext i
    rw [Nat.add_assoc, Nat.add_comm 1 i]

/-- the schedule of one sending request: the upload, the loop, the commit -/
def sendSteps (n : ℕ) (env : SendEnv) (count : ℕ) : List TaskEvent :=
  .send n true true :: (loopSteps n env 0 count ++ [.send n true env.commit])

theorem sendSteps_eq (n : ℕ) (env : SendEnv) (count : ℕ) :
    sendSteps n env count = ((true, true) :: ((List.range' 0 count).map (fun i => (env.opens i, env.takes i)) ++
      [(true, env.commit)])).map fun p => TaskEvent.send n p.1 p.2 := by
  simp [sendSteps, loopSteps]

/-- the step after the loop -/
theorem send_last (L : Lib) (n : ℕ) {x : Sending} {attachment : Option String} {w : World}
    (hpoint : x.point = .loop attachment []) (hemail : ∀ e, x.email = some e → w.db.generatedEmails.get e.id = some e)
    (ok : Bool) : x.effect L ok w = marked w x.email ok ∧ (x.happens true ok n w).mails = [] := by
  cases he : x.email with
  | none => exact ⟨by simp [Sending.effect, Sending.commit, Sending.store, hpoint, he, marked],
      by simp [Sending.happens, hpoint, he, Happened.mails]⟩
  | some e =>
    have hrow := hemail e he
    cases ok with
    | false =>
      simp only [Sending.effect, Sending.commit, Sending.store, hpoint, he, marked, Sending.happens]
      exact ⟨rfl, rfl⟩
    | true =>
      constructor
      · simp only [Sending.effect, Sending.commit, Sending.store, hpoint, he, marked, modify_flush hrow setSent]
        rfl
      · simp only [Sending.happens, hpoint, he, stale_of_get hrow]
        rfl

/-- a request that has read its data and goes on alone -/
theorem send_from_save (L : Lib) {s : Tasks} {n : ℕ} {x : Sending} (h : s.sending n = some x)
    (hpoint : x.point = .save (activeUsers s.world.db x.compaign))
    (hemail : ∀ e, x.email = some e → s.world.db.generatedEmails.get e.id = some e) (env : SendEnv) :
    ((tasks L).run s (sendSteps n env (activeUsers s.world.db x.compaign).length)).world =
        (sendResult L s.world env (some x)).1 ∧
      mails L s (sendSteps n env (activeUsers s.world.db x.compaign).length) =
        (sendResult L s.world env (some x)).2 := by
  have hsave := step_send L h true true
  have ho : x.happens true true n s.world = .nothing := by simp only [Sending.happens, hpoint]
  rw [ho] at hsave
  cases hup : saveUpload L s.world.uploads x.upload with
  | none =>
    have hw : x.effect L true s.world = s.world := by
      simp [Sending.effect, Sending.commit, Sending.store, hpoint, hup]
    have hm : x.move L s.world.uploads = { x with point := .ended } := by simp [Sending.move, hpoint, hup]
    rw [hw, hm] at hsave
    have hidle := send_idle L (s := { s with sending := s.sending.put n (some { x with point := .ended }) }) (n := n)
      (fun y hy => by
        simp only [Pool.put_self, Option.some.injEq] at hy
        rw [← hy])
      ((List.range' 0 (activeUsers s.world.db x.compaign).length).map (fun i => (env.opens i, env.takes i)) ++
        [(true, env.commit)])
    simp only [sendResult, hup]
    rw [sendSteps_eq, List.map_cons, Machine.run_cons, mails_cons, Machine.next, Machine.out, hsave]
    exact hidle
  | some p =>
    obtain ⟨uploads, attachment⟩ := p
    have hw : x.effect L true s.world = { s.world with uploads := uploads } := by
      simp [Sending.effect, Sending.commit, Sending.store, hpoint, hup]
    have hm : x.move L s.world.uploads = { x with point := .loop attachment (activeUsers s.world.db x.compaign) } := by
      simp [Sending.move, hpoint, hup]
    rw [hw, hm] at hsave
    simp only [sendResult, hup]
    rw [sendSteps, Machine.run_cons, mails_cons, Machine.next, Machine.out, hsave, Machine.run_append, mails,
      Machine.collected_append, ← mails, ← mails]
    generalize hs1 : ({ s with
      world := { s.world with uploads := uploads }
      sending := s.sending.put n (some { x with point := .loop attachment (activeUsers s.world.db x.compaign) }) } :
        Tasks) = s1
    have hx1 : s1.sending n = some { x with point := .loop attachment (activeUsers s.world.db x.compaign) } := by
      rw [← hs1]
      exact Pool.put_self ..
    have hw1 : s1.world = { s.world with uploads := uploads } := by rw [← hs1]
    obtain ⟨hw2, hx2, hm2⟩ := send_loop L hx1 rfl env 0
    rw [hw1] at hw2 hm2
    obtain ⟨hw3, ho3⟩ := send_last L n rfl hemail env.commit (x := { x with point := .loop attachment [] })
      (w := { s.world with uploads := uploads })
    have hlast := step_send L hx2 true env.commit
    rw [hw2, hw3] at hlast
    rw [Machine.run_cons, Machine.run_nil, mails_cons, Machine.next, Machine.out, hlast, hm2, ho3]
    refine ⟨rfl, ?_⟩
    simp only [Nat.zero_add, mails, Machine.collected, List.nil_append, List.append_nil, Happened.mails]
    rfl

theorem send_alone (L : Lib) {s : Tasks} {n : ℕ} (hn : s.sending n = none) (r : SendRequest) (env : SendEnv) :
    ((tasks L).run s (.beginSend n r :: sendSteps n env (activeUsers s.world.db r.compaign).length)).world =
        (r.out L s.world env).world ∧
      mails L s (.beginSend n r :: sendSteps n env (activeUsers s.world.db r.compaign).length) =
        (r.out L s.world env).mails := by
  obtain ⟨hworld, hmails⟩ := Prod.mk.inj (out_eq_sendResult L s.world env r)
  rw [hworld, hmails, Machine.run_cons, mails_cons, Machine.next, Machine.out]
  cases hr : r.read s.world.db with
  | none =>
    have hbegin : (tasks L).step s (.beginSend n r) = (s, .nothing) := by simp only [tasks, taskStep, hn, hr]
    rw [hbegin, sendSteps_eq]
    exact send_idle L (fun x hx => by rw [hn] at hx; cases hx) _
  | some x =>
    obtain ⟨hpoint, hcompaign, hemail⟩ := read_spec hr
    have hbegin : (tasks L).step s (.beginSend n r) = ({ s with sending := s.sending.put n (some x) }, .nothing) := by
      simp only [tasks, taskStep, hn, hr]
    rw [hbegin, ← hcompaign]
    exact send_from_save L (s := { s with sending := s.sending.put n (some x) }) (Pool.put_self ..) hpoint
      (fun e he => (hemail e he).1) env

/-! ## A subscriber and a template in the small installation -/

namespace Sample

/-- `ann` has subscribed to the first campaign -/
def oneSubscriber : World :=
  { Newsletter.Sample.start with
    db := { Newsletter.Sample.start.db with user := Table.empty.insert Newsletter.Sample.ann.cols } }

/-- the owner of the first campaign has made a template; the run that generates its emails has been started -/
def drafted : World :=
  (serve Newsletter.Sample.lib Newsletter.Sample.start
    (.generateAllEmails (some 2) 1 (some ⟨some "News", some "Hello", some "Bye"⟩))).world

/-- a step in which nothing fails -/
def fine : StepEnv := ⟨true, fun _ _ => .answered "Good news"⟩

/-- steps of the runs with these names, in this order -/
def steps (names : List ℕ) : List TaskEvent := names.map fun n => .generate n fine

end Sample

end Newsletter.Concurrency
