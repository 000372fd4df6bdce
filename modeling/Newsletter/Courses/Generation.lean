/-
Newsletter generation (`app/course/route.py`, lines 620-740 and 805-906): the retry loop around the completion API, the
formatting of an answer, and the two background tasks, with the requests that start them.

The tasks run in threads. A request that starts one appends it to `World.threads`; here a task is a function from the
world in which it runs to the world it leaves, and what the environment decides (API answers, failing look-ups and
commits) is its argument. `generate_response` calls `time.sleep` on a 429, and the module does not import `time`: the
answer to a rate limit is a `NameError`.

- `generateAndSaveEmails_frame`, `regenerateEmailTask_frame`: a task changes generated emails of one template and one
  status key, and nothing else.
-/
import Newsletter.Core.Text
import Newsletter.Schema

namespace Newsletter.Courses

open Newsletter.Core

/-! ## Formatting -/

def stars : List Char := ['*', '*']

/-- `while '**' in content`: two replacements a round, the second of which may find nothing -/
def convertBoldToHtml (content : List Char) : List Char :=
  match _h : replaceFirst stars "<b>".toList content with
  | none => content
  | some opened => convertBoldToHtml ((replaceFirst stars "</b>".toList opened).getD opened)
termination_by content.count '*'
decreasing_by
  have hopen : opened.count '*' + 2 = content.count '*' := by simpa [stars] using replaceFirst_count _h '*'
  cases hclose : replaceFirst stars "</b>".toList opened with
  | none => simp only [Option.getD_none]; omega
  | some closed =>
    have hclosed : closed.count '*' + 2 = opened.count '*' := by simpa [stars] using replaceFirst_count hclose '*'
    simp only [Option.getD_some]
    omega

/-- `convert_bold_to_html(content.replace('\n', '<br>\n').strip())` -/
def formatBody (content : String) : String :=
  String.ofList (convertBoldToHtml (strip (replaceChar '\n' "<br>\n".toList content.toList)))

/-! ## The completion API -/

/-- one POST to the completion API -/
inductive Attempt where
  /-- status 200, with the content of the first choice -/
  | answered (content : String)
  /-- status 429 -/
  | rateLimited
  /-- any other status -/
  | refused (code : ℕ)
  | timeout
  /-- any other exception of the request or of the decoding -/
  | raises (e : Exn)
deriving DecidableEq, Repr

def contentError : String := "<p>Error in content generation.</p>"

def retriesExceeded : String := "<p>Failed to generate content after multiple attempts.</p>"

/-- the `for` loop, `n` rounds being left and the next one having number `i` -/
def attemptLoop (api : ℕ → Attempt) : ℕ → ℕ → Except Exn String
  | 0, _ => .ok retriesExceeded
  | n + 1, i =>
    match api i with
    | .answered text =>
      let content := strip text.toList
      if content = [] then .ok contentError else .ok (String.ofList content)
    -- `time.sleep`, with no `import time`
    | .rateLimited => .error .nameError
    | .refused _ => .ok contentError
    | .timeout => attemptLoop api n (i + 1)
    | .raises e => .error e

def generateResponse (api : ℕ → Attempt) (maxRetries : ℕ) : Except Exn String := attemptLoop api maxRetries 0

/-! ## Prompts -/

def systemPrompt : ChatMessage where
  role := "system"
  content := "Eres un redactor profesional de newsletters. Tu tarea es generar un boletín informativo " ++
    "atractivo y profesional, dirigido a una audiencia real y específica."

def basePrompt (header : Option String) : String :=
  "Genera un boletín informativo completo basado en este tema: " ++ pyStr header ++ ". El contenido debe incluir:" ++
  "\n- Un mensaje inicial atractivo que capte la atención del lector." ++
  "\n- Un desarrollo claro y estructurado con detalles relevantes, como introducción, subtítulos naturales ('Nuestra Misión', 'Logros', etc.), y un llamado a la acción al final." ++
  "\n- Un cierre profesional que invite a la interacción, todo en un formato fluido y natural." ++
  "\nNo uses variables o marcadores de posición como '[Su nombre]', '[nombre de tu revista/empresa]', '[Email de Contacto]', etc." ++
  "\nEl texto debe ser lo más detallado y profesional posible, pero siempre usando información ficticia realista si necesitas ejemplos." ++
  "\nAñade emojis para captar atención y mantener el interés del lector." ++
  "\nAsegúrate de que el texto esté limpio y que no contenga elementos genéricos que requieran reemplazo posterior."

def differentVersion : String :=
  " Genera una versión completamente diferente de la que proporcionaste anteriormente. " ++
  "El boletín debe incluir un mensaje inicial atractivo, un desarrollo claro y bien estructurado, y un cierre profesional que invite a la interacción. " ++
  "Asegúrate de que sea un texto fluido, profesional y suficientemente detallado, sin etiquetas o separaciones explícitas como 'Encabezado', 'Cuerpo' o 'Pie de página'. " ++
  "No incluyas nombres personales ni información identificable de individuos."

def conversationFor (header : Option String) : List ChatMessage :=
  [systemPrompt, { role := "user", content := basePrompt header }]

/-- `conversation_data[1]['content'] += ...`; `none` if there is no second message -/
def askAgain : List ChatMessage → Option (List ChatMessage)
  | m0 :: m1 :: ms => some (m0 :: { m1 with content := m1.content ++ differentVersion } :: ms)
  | _ => none

/-! ## Status keys -/

def statusKey (id : ℕ) : String := "email_generation_status:" ++ toString id

/-- a key names its id -/
theorem statusKey_inj {a b : ℕ} (h : statusKey a = statusKey b) : a = b := by
  have hs : toString a = toString b := (String.append_right_inj _).1 h
  rw [Nat.toString_eq_ofList_toDigits, Nat.toString_eq_ofList_toDigits, String.ofList_inj] at hs
  have hd := congrArg (fun l => Nat.ofDigitChars 10 l 0) hs
  simpa only [Nat.ofDigitChars_ten_toDigits] using hd

def redisSet (w : World) (key text : String) : World :=
  { w with redis := Function.update w.redis key (some ⟨text, false⟩) }

/-- `redis_client.expire(key, 3600)` -/
def redisExpire (w : World) (key : String) : World :=
  { w with redis := Function.update w.redis key ((w.redis key).map fun s => { s with expires := true }) }

theorem redisSet_self (w : World) (key text : String) : (redisSet w key text).redis key = some ⟨text, false⟩ :=
  Function.update_self ..

theorem redisSet_of_ne (w : World) {key k : String} (text : String) (h : k ≠ key) :
    (redisSet w key text).redis k = w.redis k := Function.update_of_ne h ..

theorem redisExpire_of_ne (w : World) {key k : String} (h : k ≠ key) : (redisExpire w key).redis k = w.redis k :=
  Function.update_of_ne h ..

theorem redisExpire_text (w : World) (key k : String) :
    ((redisExpire w key).redis k).map Status.text = (w.redis k).map Status.text := by
  by_cases h : k = key
  · subst h
    simp only [redisExpire, Function.update_self, Option.map_map]
    rfl
  · rw [redisExpire_of_ne w h]

/-! ## Generating the emails of a template -/

/-- what the environment decides in a run of `generate_and_save_emails` -/
structure GenerateEnv where
  /-- the two look-ups answer -/
  lookup : Bool
  /-- the delete is committed -/
  delete : Bool
  /-- the API, by step and attempt -/
  api : ℕ → ℕ → Attempt
  /-- the new rows are committed -/
  save : Bool

/-- one of the three steps; `none` if an exception is swallowed -/
def generateStep (L : Lib) (template : Option (Rec EmailTemplate)) (api : ℕ → Attempt) : Option GeneratedEmail :=
  match template with
  | none => none
  | some t =>
    match generateResponse api 3 with
    | .error _ => none
    | .ok content =>
      some { header := "", body := formatBody content, footer := "", templateId := t.id
             conversation := some (L.dumps (conversationFor t.cols.header)) }

/-- the emails of the three steps -/
def emailsToSave (L : Lib) (template : Option (Rec EmailTemplate)) (api : ℕ → ℕ → Attempt) : List GeneratedEmail :=
  [0, 1, 2].filterMap fun step => generateStep L template (api step)

def generateAndSaveEmails (L : Lib) (w : World) (templateId : ℕ) (campaignId : Option ℕ) (env : GenerateEnv) : World :=
  let key := statusKey templateId
  let w := redisSet w key "in-progress"
  let failed (w : World) : World := redisExpire (redisSet w key "failed") key
  let template := w.db.emailTemplates.get templateId
  match env.lookup, campaignId.bind w.db.course.get, env.delete with
  | true, some _, true =>
    let kept := w.db.generatedEmails.erase fun g => g.cols.templateId = templateId
    let w := { w with db := { w.db with generatedEmails := kept } }
    let emails := emailsToSave L template env.api
    if emails = [] then redisExpire (redisSet w key "completed") key
    else if env.save then
      let w := { w with db := { w.db with generatedEmails := emails.foldl Table.insert kept } }
      redisExpire (redisSet w key "completed") key
    else failed w
  -- a failing look-up or commit, or `None.openai_key`
  | _, _, _ => failed w

/-! ## Regenerating one email -/

/-- what the environment decides in a run of `regenerate_email_task` -/
structure RegenerateEnv where
  lookup : Bool
  api : ℕ → Attempt
  commit : Bool

/-- the conversation and the API key of the POSTs of `regenerate_email_task`, or the exception that ends it before them -/
def regenerateAsks (L : Lib) (db : Db) (generatedEmailId : ℕ) (lookup : Bool) :
    Except Exn (List ChatMessage × Option String) :=
  match lookup, db.generatedEmails.get generatedEmailId with
  | false, _ => .error .other
  | true, none => .error .valueError
  | true, some email =>
    match email.cols.conversation with
    | none => .error .typeError
    | some text =>
      match L.loads text with
      | none => .error .valueError
      | some conversation =>
        match db.emailTemplates.get email.cols.templateId with
        | none => .error .attributeError
        | some template =>
          match template.cols.compaign.bind db.course.get with
          | none => .error .valueError
          | some campaign =>
            if truthy campaign.cols.openaiKey then
              match askAgain conversation with
              | none => .error .other
              | some conversation => .ok (conversation, campaign.cols.openaiKey)
            else .error .valueError

/-- the new body and conversation of a generated email, or the exception that ends the task before its commit -/
def regenerated (L : Lib) (db : Db) (generatedEmailId : ℕ) (env : RegenerateEnv) : Except Exn (String × String) :=
  match regenerateAsks L db generatedEmailId env.lookup with
  | .error e => .error e
  | .ok (conversation, _) =>
    match generateResponse env.api 3 with
    | .error e => .error e
    | .ok content => .ok (formatBody content, L.dumps conversation)

/-- what a run that gets to its POSTs has read -/
theorem regenerateAsks_spec {L : Lib} {db : Db} {id : ℕ} {lookup : Bool} {asked : List ChatMessage} {key : Option String}
    (h : regenerateAsks L db id lookup = .ok (asked, key)) :
    ∃ email text read, db.generatedEmails.get id = some email ∧ email.cols.conversation = some text ∧
      L.loads text = some read ∧ askAgain read = some asked := by
  unfold regenerateAsks at h
  split at h
  · cases h
  · cases h
  · rename_i email hemail
    split at h
    · cases h
    · rename_i text htext
      split at h
      · cases h
      · rename_i read hread
        split at h
        · cases h
        · split at h
          · cases h
          · split_ifs at h
            split at h
            · cases h
            · rename_i hasked
              cases h
              exact ⟨email, text, read, hemail, htext, hread, hasked⟩

/-- what a run that gets to its commit has read and received -/
theorem regenerated_spec {L : Lib} {db : Db} {id : ℕ} {env : RegenerateEnv} {p : String × String}
    (h : regenerated L db id env = .ok p) :
    ∃ email text read asked content, db.generatedEmails.get id = some email ∧ email.cols.conversation = some text ∧
      L.loads text = some read ∧ askAgain read = some asked ∧ generateResponse env.api 3 = .ok content ∧
      p = (formatBody content, L.dumps asked) := by
  unfold regenerated at h
  split at h
  · cases h
  · rename_i asked key hasks
    obtain ⟨email, text, read, hemail, htext, hread, hasked⟩ := regenerateAsks_spec hasks
    split at h
    · cases h
    · rename_i content hcontent
      cases h
      exact ⟨email, text, read, asked, content, hemail, htext, hread, hasked, hcontent, rfl⟩

/-- and a run that reads and receives this gets to its commit -/
theorem regenerated_of_asks {L : Lib} {db : Db} {id : ℕ} {env : RegenerateEnv} {email : Rec GeneratedEmail} {text content : String}
    {read asked : List ChatMessage} {template : Rec EmailTemplate} {campaign : Rec Course} (hlookup : env.lookup = true)
    (hemail : db.generatedEmails.get id = some email) (htext : email.cols.conversation = some text)
    (hread : L.loads text = some read) (htemplate : db.emailTemplates.get email.cols.templateId = some template)
    (hcampaign : template.cols.compaign.bind db.course.get = some campaign)
    (hkey : truthy campaign.cols.openaiKey = true) (hasked : askAgain read = some asked)
    (hcontent : generateResponse env.api 3 = .ok content) :
    regenerated L db id env = .ok (formatBody content, L.dumps asked) := by
  simp only [regenerated, regenerateAsks, hlookup, hemail, htext, hread, htemplate, hcampaign, hkey, hasked, hcontent, if_true]

def regenerateEmailTask (L : Lib) (w : World) (generatedEmailId : ℕ) (redisKey : String) (env : RegenerateEnv) : World :=
  match regenerated L w.db generatedEmailId env with
  | .error e => redisExpire (redisSet w redisKey ("failed:Unexpected error occurred: " ++ L.repr e)) redisKey
  | .ok (body, conversation) =>
    if env.commit then
      let rows := w.db.generatedEmails.modify generatedEmailId fun g =>
        { g with body := body, conversation := some conversation, isSent := false }
      redisExpire (redisSet { w with db := { w.db with generatedEmails := rows } } redisKey "completed") redisKey
    else redisExpire (redisSet w redisKey ("failed:Database error occurred: " ++ L.repr .other)) redisKey

/-! ## The requests that start a task -/

def regenerateEmail (w : World) (who : Option ℕ) (generatedEmailId : ℕ) : Out :=
  loginRequired w who fun _ =>
    let key := statusKey generatedEmailId
    let w := redisSet w key "in-progress"
    { world := { w with threads := w.threads ++ [.regenerateEmailTask generatedEmailId key] }
      resp := .json [("message", "Regeneration initiated successfully.")] 200 }

def regenerateAllEmails (w : World) (who : Option ℕ) (templateId : ℕ) : Out :=
  loginRequired w who fun _ =>
    match w.db.emailTemplates.get templateId with
    -- the 404 of `get_or_404` is caught
    | none =>
      { world := w
        resp := .json [("error", "404 Not Found: The requested URL was not found on the server. If you entered the " ++
          "URL manually please check your spelling and try again.")] 500 }
    | some template =>
      { world := { w with threads := w.threads ++ [.generateAndSaveEmails templateId template.cols.compaign] }
        resp := .json [("message", "Regeneration initiated successfully."), ("template_id", toString templateId)] 200 }

/-! ## Polls -/

/-- the answer to a poll of one key; `status[len("failed:"):]` is the error -/
def statusAnswer (status : Option Status) : Response :=
  match status with
  | none => .json [("status", "not_found")] 404
  | some s =>
    if s.text = "" then .json [("status", "not_found")] 404
    else if "failed:".toList <+: s.text.toList then
      .json [("status", "failed"), ("error", String.ofList (s.text.toList.drop "failed:".length))] 200
    else .json [("status", s.text)] 200

def generateAllEmailsStatus (w : World) (who : Option ℕ) (templateId : ℕ) : Out :=
  loginRequired w who fun _ => { world := w, resp := statusAnswer (w.redis (statusKey templateId)) }

/-- the same body as `generate_all_emails_status`, the parameter being the id of a generated email -/
def emailStatus (w : World) (who : Option ℕ) (templateId : ℕ) : Out :=
  loginRequired w who fun _ => { world := w, resp := statusAnswer (w.redis (statusKey templateId)) }

/-- a poll by a logged-in admin answers "completed" exactly if that is the stored text -/
theorem statusAnswer_completed_iff {status : Option Status} :
    statusAnswer status = .json [("status", "completed")] 200 ↔ status.map Status.text = some "completed" := by
  unfold statusAnswer
  split
  · simp
  · rename_i s
    split_ifs with hempty hfailed
    · simp [hempty]
    · simp only [Option.map_some, Option.some.injEq]
      refine ⟨fun h => by simp at h, fun h => ?_⟩
      rw [h] at hfailed
      exact absurd hfailed (by decide)
    · simp

/-! ## Frames -/

/-- `w'` has the tables of `w` except for generated emails, and its key, folders and threads -/
structure SameButEmails (w w' : World) : Prop where
  adminuser : w'.db.adminuser = w.db.adminuser
  user : w'.db.user = w.db.user
  course : w'.db.course = w.db.course
  courseResource : w'.db.courseResource = w.db.courseResource
  emailTemplates : w'.db.emailTemplates = w.db.emailTemplates
  apiKey : w'.apiKey = w.apiKey
  uploads : w'.uploads = w.uploads
  adverts : w'.adverts = w.adverts
  threads : w'.threads = w.threads

theorem SameButEmails.refl (w : World) : SameButEmails w w := ⟨rfl, rfl, rfl, rfl, rfl, rfl, rfl, rfl, rfl⟩

/-- what a step gives, by the text the helper returns -/
theorem generateStep_eq_some_iff (L : Lib) {template : Option (Rec EmailTemplate)} {api : ℕ → Attempt} {g : GeneratedEmail} :
    generateStep L template api = some g ↔
      ∃ t content, template = some t ∧ generateResponse api 3 = .ok content ∧
        g = { header := "", body := formatBody content, footer := "", templateId := t.id
              conversation := some (L.dumps (conversationFor t.cols.header)) } := by
  unfold generateStep
  cases template with
  | none => simp
  | some t =>
    cases generateResponse api 3 with
    | error e => simp
    | ok content => simp [eq_comm]

theorem generateStep_template {L : Lib} {template : Option (Rec EmailTemplate)} {api : ℕ → Attempt}
    {g : GeneratedEmail} (h : generateStep L template api = some g) : ∃ t, template = some t ∧ g.templateId = t.id := by
  obtain ⟨t, content, htemplate, _, rfl⟩ := (generateStep_eq_some_iff L).1 h
  exact ⟨t, htemplate, rfl⟩

theorem emailsToSave_templateId {L : Lib} {t : Table EmailTemplate} {k : ℕ} {api : ℕ → ℕ → Attempt} {e : GeneratedEmail}
    (h : e ∈ emailsToSave L (t.get k) api) : e.templateId = k := by
  obtain ⟨step, _, hstep⟩ := List.mem_filterMap.1 h
  obtain ⟨template, htemplate, hid⟩ := generateStep_template hstep
  exact hid.trans (Table.get_eq_some_iff.1 htemplate).2

/-- a run of `generate_and_save_emails` changes no table but the generated emails, and there no other template's rows -/
theorem generateAndSaveEmails_frame (L : Lib) (w : World) (templateId : ℕ) (campaignId : Option ℕ) (env : GenerateEnv) :
    SameButEmails w (generateAndSaveEmails L w templateId campaignId env) ∧
      ∀ p : ℕ → Bool, p templateId = false →
        ((generateAndSaveEmails L w templateId campaignId env).db.generatedEmails.all fun g => p g.cols.templateId) =
          w.db.generatedEmails.all fun g => p g.cols.templateId := by
  have herase : ∀ p : ℕ → Bool, p templateId = false →
      ((w.db.generatedEmails.erase fun g => g.cols.templateId = templateId).all fun g => p g.cols.templateId) =
        w.db.generatedEmails.all fun g => p g.cols.templateId := by
    intro p hp
    refine Table.all_erase_of_not fun g _ hg => ?_
    simp only [decide_eq_true_eq] at hg
    rw [hg, hp]
  unfold generateAndSaveEmails
  simp only
  split
  · split_ifs with hnil hsave
    · exact ⟨⟨rfl, rfl, rfl, rfl, rfl, rfl, rfl, rfl, rfl⟩, herase⟩
    · refine ⟨⟨rfl, rfl, rfl, rfl, rfl, rfl, rfl, rfl, rfl⟩, fun p hp => ?_⟩
      refine (Table.all_foldl_insert_of_not _ _ fun g hg k => ?_).trans (herase p hp)
      obtain ⟨step, _, hstep⟩ := List.mem_filterMap.1 hg
      obtain ⟨t, ht, hid⟩ := generateStep_template hstep
      have htid : t.id = templateId := (Table.get_eq_some_iff.1 ht).2
      simp only [hid, htid, hp]
    · exact ⟨⟨rfl, rfl, rfl, rfl, rfl, rfl, rfl, rfl, rfl⟩, herase⟩
  · exact ⟨⟨rfl, rfl, rfl, rfl, rfl, rfl, rfl, rfl, rfl⟩, fun _ _ => rfl⟩

/-- a run of `regenerate_email_task` changes no table but the generated emails, and there only its own row, which stays
with its template -/
theorem regenerateEmailTask_frame (L : Lib) (w : World) (id : ℕ) (key : String) (env : RegenerateEnv) :
    SameButEmails w (regenerateEmailTask L w id key env) ∧
      ∀ p : ℕ → Bool, (∀ g ∈ w.db.generatedEmails.rows, g.id = id → p g.cols.templateId = false) →
        ((regenerateEmailTask L w id key env).db.generatedEmails.all fun g => p g.cols.templateId) =
          w.db.generatedEmails.all fun g => p g.cols.templateId := by
  unfold regenerateEmailTask
  split
  · exact ⟨⟨rfl, rfl, rfl, rfl, rfl, rfl, rfl, rfl, rfl⟩, fun _ _ => rfl⟩
  · split_ifs
    · refine ⟨⟨rfl, rfl, rfl, rfl, rfl, rfl, rfl, rfl, rfl⟩, fun p hp => ?_⟩
      exact Table.all_modify_of_not fun g hg hid => ⟨hp g hg hid, hp g hg hid⟩
    · exact ⟨⟨rfl, rfl, rfl, rfl, rfl, rfl, rfl, rfl, rfl⟩, fun _ _ => rfl⟩

end Newsletter.Courses
