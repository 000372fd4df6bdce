/-
Sending: `send_emails` and the three interactive senders (`app/course/route.py`, lines 50-141, 529-598 and 743-804), and
the scheduled `main` of `sendingmail.py` (lines 12-187).

The interactive senders take the active subscribers of the campaign in the URL, save the attachment under its sanitised
name and hand one message for each subscriber to the mailer; `send_emails` swallows a failing attachment or delivery.
None of them, and not `main`, looks at the campaign's status. In `main` only the delivery itself is inside a `try`: an
exception of a completion or of the connection ends the whole run.

- `sendemail_users`, `sendeditedemail_users`, `sendGeneratedEmail_users`: an interactive sender hands over one message
  for each active subscriber of the campaign in the URL if it gets to its loop, and else nothing;
- `main_mails`: every message of `main` is for an active subscriber of a campaign of type 1 with a key and a template.
-/
import Newsletter.Core.Loops
import Newsletter.Courses.Content

namespace Newsletter.Courses

open Newsletter.Core

/-- what the environment decides for a sender: for each recipient, by position, whether the attachment opens and the mailer takes
the message, and whether the mark of `send_generated_email` is committed -/
structure SendEnv where
  opens : ℕ → Bool
  takes : ℕ → Bool
  commit : Bool

/-- the texts of a newsletter -/
structure Letter where
  subject : Option String
  header : Option String
  body : String
  footer : String
deriving DecidableEq, Repr

/-- `send_emails` for the recipient at position `i`; the HTML is a fixed frame around these fields and the link to
`unsubscribe/{user}/{campaign}` -/
def sendEmails (env : SendEnv) (uploads : Files) (letter : Letter) (campaign : ℕ) (attachment : Option String) (i : ℕ)
    (user : Rec User) : Mail where
  recipient := user.cols.email
  subject := letter.subject
  header := letter.header
  body := letter.body
  footer := letter.footer
  user := user.id
  campaign := campaign
  attachment := if env.opens i then attachment.bind fun name => (uploads name).map fun content => (name, content)
    else none
  accepted := env.takes i

/-- the loop over the subscribers -/
def sends (env : SendEnv) (w : World) (letter : Letter) (compaign : ℕ) (attachment : Option String) : List Mail :=
  (activeUsers w.db compaign).mapIdx (sendEmails env w.uploads letter compaign attachment)

theorem sends_users (env : SendEnv) (w : World) (letter : Letter) (compaign : ℕ) (attachment : Option String) :
    (sends env w letter compaign attachment).map Mail.user = (activeUsers w.db compaign).map Rec.id := by
  refine List.ext_getElem? fun i => ?_
  simp only [sends, List.getElem?_map, List.getElem?_mapIdx, Option.map_map]
  rfl

/-! ## Interactive senders -/

structure SendForm where
  subject : String
  header : String
  body : String
  footer : String
deriving DecidableEq, Repr

/-- `form` is `none` for a GET and else the fields, if none is missing -/
def sendemail (L : Lib) (w : World) (who : Option ℕ) (compaign : ℕ) (form : Option (Option SendForm))
    (attachment : Option (String × List UInt8)) (env : SendEnv) : Out :=
  loginRequired w who fun _ =>
    match form with
    -- `campaign` is not a name of this function
    | none => { world := w, resp := .raised .nameError }
    | some none => { world := w, resp := .badRequest }
    | some (some f) =>
      match saveUpload L w.uploads attachment with
      | none => { world := w, resp := .raised .osError }
      | some (uploads, attachmentFilename) =>
        let w := { w with uploads := uploads }
        { world := w, resp := .redirect (.coursesDashboard compaign)
          mails := sends env w ⟨some f.subject, some f.header, f.body, f.footer⟩ compaign attachmentFilename
          flash := [("Emails sent successfully", "success")] }

/-- the request gets to the loop over the subscribers -/
def sendemailReaches (L : Lib) (w : World) (who : Option ℕ) (form : Option (Option SendForm))
    (attachment : Option (String × List UInt8)) : Bool :=
  (currentUser w.db who).isSome && (form.bind id).isSome && (saveUpload L w.uploads attachment).isSome

theorem sendemail_users (L : Lib) (w : World) (who : Option ℕ) (compaign : ℕ) (form : Option (Option SendForm))
    (attachment : Option (String × List UInt8)) (env : SendEnv) :
    (sendemail L w who compaign form attachment env).mails.map Mail.user =
      if sendemailReaches L w who form attachment then (activeUsers w.db compaign).map Rec.id else [] := by
  unfold sendemail loginRequired sendemailReaches
  cases currentUser w.db who with
  | none => rfl
  | some admin =>
    rcases form with _ | _ | f
    · rfl
    · rfl
    · cases saveUpload L w.uploads attachment with
      | none => rfl
      | some p => exact sends_users ..

/-- `emailContent` is the field of that name, if it was sent -/
def sendeditedemail (L : Lib) (w : World) (who : Option ℕ) (compaign : ℕ) (emailContent : Option String)
    (attachment : Option (String × List UInt8)) (env : SendEnv) : Out :=
  loginRequired w who fun _ =>
    match w.db.course.get compaign, emailContent with
    | none, _ => { world := w, resp := .raised .attributeError }
    | some _, none => { world := w, resp := .badRequest }
    | some campaign, some body =>
      match saveUpload L w.uploads attachment with
      | none => { world := w, resp := .raised .osError }
      | some (uploads, attachmentFilename) =>
        let w := { w with uploads := uploads }
        { world := w, resp := .redirect (.coursesDashboard compaign)
          mails := sends env w ⟨campaign.cols.name, some "", body, ""⟩ compaign attachmentFilename
          flash := [("Emails sent successfully!", "success")] }

def sendeditedemailReaches (L : Lib) (w : World) (who : Option ℕ) (compaign : ℕ) (emailContent : Option String)
    (attachment : Option (String × List UInt8)) : Bool :=
  (currentUser w.db who).isSome && (w.db.course.get compaign).isSome && emailContent.isSome &&
    (saveUpload L w.uploads attachment).isSome

theorem sendeditedemail_users (L : Lib) (w : World) (who : Option ℕ) (compaign : ℕ) (emailContent : Option String)
    (attachment : Option (String × List UInt8)) (env : SendEnv) :
    (sendeditedemail L w who compaign emailContent attachment env).mails.map Mail.user =
      if sendeditedemailReaches L w who compaign emailContent attachment then (activeUsers w.db compaign).map Rec.id
      else [] := by
  unfold sendeditedemail loginRequired sendeditedemailReaches
  cases currentUser w.db who with
  | none => rfl
  | some admin =>
    cases w.db.course.get compaign with
    | none => rfl
    | some campaign =>
      cases emailContent with
      | none => rfl
      | some body =>
        cases saveUpload L w.uploads attachment with
        | none => rfl
        | some p => exact sends_users ..

def setSent (g : GeneratedEmail) : GeneratedEmail := { g with isSent := true }

def sendGeneratedEmail (L : Lib) (w : World) (who : Option ℕ) (generatedEmailId compaign : ℕ)
    (attachment : Option (String × List UInt8)) (env : SendEnv) : Out :=
  loginRequired w who fun _ =>
    match w.db.generatedEmails.get generatedEmailId with
    | none =>
      { world := w, resp := .redirect (.coursesDashboard compaign), flash := [("Generated email not found!", "danger")] }
    | some email =>
      match w.db.course.get compaign with
      | none =>
        { world := w, resp := .redirect (.coursesDashboard compaign), flash := [("Campaign not found!", "danger")] }
      | some campaign =>
        match saveUpload L w.uploads attachment with
        | none => { world := w, resp := .raised .osError }
        | some (uploads, attachmentFilename) =>
          let w := { w with uploads := uploads }
          let letter : Letter := ⟨campaign.cols.name, some email.cols.header, email.cols.body, email.cols.footer⟩
          let mails := sends env w letter compaign attachmentFilename
          if env.commit then
            let rows := w.db.generatedEmails.modify email.id setSent
            { world := { w with db := { w.db with generatedEmails := rows } }
              resp := .redirect (.coursesDashboard compaign)
              mails := mails
              flash := [("Generated email sent successfully!", "success")] }
          -- the messages are out by now
          else { world := w, resp := .raised .other, mails := mails }

def sendGeneratedEmailReaches (L : Lib) (w : World) (who : Option ℕ) (generatedEmailId compaign : ℕ)
    (attachment : Option (String × List UInt8)) : Bool :=
  (currentUser w.db who).isSome && (w.db.generatedEmails.get generatedEmailId).isSome &&
    (w.db.course.get compaign).isSome && (saveUpload L w.uploads attachment).isSome

theorem sendGeneratedEmail_users (L : Lib) (w : World) (who : Option ℕ) (generatedEmailId compaign : ℕ)
    (attachment : Option (String × List UInt8)) (env : SendEnv) :
    (sendGeneratedEmail L w who generatedEmailId compaign attachment env).mails.map Mail.user =
      if sendGeneratedEmailReaches L w who generatedEmailId compaign attachment then
        (activeUsers w.db compaign).map Rec.id
      else [] := by
  unfold sendGeneratedEmail loginRequired sendGeneratedEmailReaches
  cases currentUser w.db who with
  | none => rfl
  | some admin =>
    cases w.db.generatedEmails.get generatedEmailId with
    | none => rfl
    | some email =>
      cases w.db.course.get compaign with
      | none => rfl
      | some campaign =>
        cases saveUpload L w.uploads attachment with
        | none => rfl
        | some p =>
          dsimp only
          cases env.commit <;> exact sends_users ..

theorem sendGeneratedEmail_refused {L : Lib} {w : World} {who : Option ℕ} {generatedEmailId compaign : ℕ}
    {attachment : Option (String × List UInt8)} (env : SendEnv)
    (h : sendGeneratedEmailReaches L w who generatedEmailId compaign attachment = false) :
    (sendGeneratedEmail L w who generatedEmailId compaign attachment env).mails = [] ∧
      (sendGeneratedEmail L w who generatedEmailId compaign attachment env).world = w := by
  unfold sendGeneratedEmailReaches at h
  unfold sendGeneratedEmail loginRequired
  cases hwho : currentUser w.db who with
  | none => exact ⟨rfl, rfl⟩
  | some admin =>
    cases hemail : w.db.generatedEmails.get generatedEmailId with
    | none => exact ⟨rfl, rfl⟩
    | some email =>
      cases hcampaign : w.db.course.get compaign with
      | none => exact ⟨rfl, rfl⟩
      | some campaign =>
        cases hupload : saveUpload L w.uploads attachment with
        | none => exact ⟨rfl, rfl⟩
        | some p => simp [hwho, hemail, hcampaign, hupload] at h

/-- what a request that gets to its loop has read, hands over and leaves behind -/
theorem sendGeneratedEmail_reached {L : Lib} {w : World} {who : Option ℕ} {generatedEmailId compaign : ℕ}
    {attachment : Option (String × List UInt8)} (env : SendEnv)
    (h : sendGeneratedEmailReaches L w who generatedEmailId compaign attachment = true) :
    ∃ (email : Rec GeneratedEmail) (letter : Letter) (uploads : Files) (name : Option String),
      w.db.generatedEmails.get generatedEmailId = some email ∧ letter.body = email.cols.body ∧
      saveUpload L w.uploads attachment = some (uploads, name) ∧
      (sendGeneratedEmail L w who generatedEmailId compaign attachment env).mails =
        sends env { w with uploads := uploads } letter compaign name ∧
      (sendGeneratedEmail L w who generatedEmailId compaign attachment env).world.db =
        if env.commit then { w.db with generatedEmails := w.db.generatedEmails.modify generatedEmailId setSent }
        else w.db := by
  unfold sendGeneratedEmailReaches at h
  simp only [Bool.and_eq_true, Option.isSome_iff_exists] at h
  obtain ⟨⟨⟨⟨admin, hwho⟩, email, hemail⟩, campaign, hcampaign⟩, ⟨uploads, name⟩, hupload⟩ := h
  have hid : email.id = generatedEmailId := (Table.get_eq_some_iff.1 hemail).2
  refine ⟨email, ⟨campaign.cols.name, some email.cols.header, email.cols.body, email.cols.footer⟩, uploads, name,
    hemail, rfl, hupload, ?_⟩
  unfold sendGeneratedEmail loginRequired
  simp only [hwho, hemail, hcampaign, hupload, hid]
  cases env.commit with
  | false => exact ⟨rfl, rfl⟩
  | true => exact ⟨rfl, rfl⟩

/-! ## The scheduled sender -/

/-- what the environment decides in one execution of `sendingmail.main`, by campaign, template and subscriber -/
structure MainEnv where
  /-- header, body and footer, unless one of the three completions raises -/
  complete : ℕ → ℕ → Option (String × String × String)
  connect : ℕ → ℕ → ℕ → Bool
  takes : ℕ → ℕ → ℕ → Bool

def mainSend (env : MainEnv) (campaign : ℕ) (template : Rec EmailTemplate) (texts : String × String × String)
    (user : Rec User) : List Mail × Bool :=
  if env.connect campaign template.id user.id then
    let mail : Mail :=
      { recipient := user.cols.email, subject := some texts.1, header := template.cols.header, body := texts.2.1
        footer := texts.2.2, user := user.id, campaign := campaign
        accepted := env.takes campaign template.id user.id }
    ([mail], false)
  else ([], true)

def mainTemplate (env : MainEnv) (db : Db) (campaign : ℕ) (template : Rec EmailTemplate) : List Mail × Bool :=
  match env.complete campaign template.id with
  | none => ([], true)
  | some texts => untilRaise (mainSend env campaign template texts) (activeUsers db campaign)

def templatesOf (db : Db) (campaign : ℕ) : List (Rec EmailTemplate) :=
  db.emailTemplates.all fun t => t.cols.compaign = some campaign

def mainCampaign (env : MainEnv) (db : Db) (campaign : Rec Course) : List Mail × Bool :=
  if campaign.cols.openaiKey = none then ([], false)
  else if templatesOf db campaign.id = [] ∨ activeUsers db campaign.id = [] then ([], false)
  else untilRaise (mainTemplate env db campaign.id) (templatesOf db campaign.id)

def main (w : World) (env : MainEnv) : Out :=
  let ran := untilRaise (mainCampaign env w.db) (w.db.course.all fun c => c.cols.type = some 1)
  { world := w, resp := if ran.2 then .raised .other else .text "", mails := ran.1 }

/-- **Messages of the scheduled sender.** Each is for an active subscriber of a campaign of type 1 that has a key and a
template. -/
theorem main_mails {w : World} {env : MainEnv} {m : Mail} (h : m ∈ (main w env).mails) :
    ∃ c ∈ w.db.course.rows, c.cols.type = some 1 ∧ c.cols.openaiKey ≠ none ∧ templatesOf w.db c.id ≠ [] ∧
      m.campaign = c.id ∧ ∃ u ∈ activeUsers w.db c.id, m.user = u.id := by
  obtain ⟨c, hc, hm⟩ := mem_untilRaise h
  obtain ⟨hmem, htype⟩ := List.mem_filter.1 hc
  unfold mainCampaign at hm
  split_ifs at hm with hkey hnone
  · simp at hm
  · simp at hm
  obtain ⟨t, _, hm⟩ := mem_untilRaise hm
  unfold mainTemplate at hm
  split at hm
  · simp at hm
  · obtain ⟨u, hu, hm⟩ := mem_untilRaise hm
    unfold mainSend at hm
    split_ifs at hm
    · simp only [List.mem_singleton] at hm
      subst hm
      exact ⟨c, hmem, by simpa using htype, hkey, (not_or.1 hnone).1, rfl, u, hu, rfl⟩
    · simp at hm

end Newsletter.Courses
