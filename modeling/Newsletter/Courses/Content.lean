/-
Templates, resources and the pages that show them: `dashboard`, `generate_all_emails`, `resources`, `users`,
`delete_compain`, `delete_resource` and `delete_email_template` (`app/course/route.py`, lines 147-232, 329-417, 450-471
and 910-924), and `dashboard` and `users` of `app/user/route.py`.

Every page of a campaign is given the campaigns of the logged-in admin (filtered by owner) and `this_campaign`, the row
of whatever id is in the URL (not filtered). The forms of the shared base template print the keys of `this_campaign`.

Deleting a template with the mapper's default cascade sets `template_id` of its generated emails to null, which the
column refuses: `delete_compain` works only on a template without generated emails. `delete_email_template` deletes
them first.
-/
import Newsletter.Courses.Generation
import Newsletter.Unsubscribe

namespace Newsletter.Courses

open Newsletter.Core

/-! ## Templates -/

/-- the fields of `Emailstemplate`; none has a validator, so each may be missing -/
structure TemplateForm where
  header : Option String
  body : Option String
  footer : Option String
deriving DecidableEq, Repr

/-- insert a template; `body` and `footer` are not nullable -/
def createTemplate (db : Db) (owner : ℕ) (compaign : Option ℕ) (f : TemplateForm) : Option Db :=
  match f.body, f.footer with
  | some body, some footer =>
    let template : EmailTemplate :=
      { header := f.header, body := body, footer := footer, compaign := compaign, ownerId := some owner }
    some { db with emailTemplates := db.emailTemplates.insert template }
  | _, _ => none

/-- the common part of `dashboard` and `generate_all_emails`: a new template and the thread that generates its emails -/
def startGeneration (w : World) (owner course : ℕ) (f : TemplateForm) (resp : Response) : Out :=
  match createTemplate w.db owner (some course) f with
  | none => { world := w, resp := .raised .integrityError }
  | some db =>
    { world :=
        { w with
          db := db
          threads := w.threads ++ [.generateAndSaveEmails w.db.emailTemplates.next (some course)] }
      resp := resp }

def generateAllEmails (w : World) (who : Option ℕ) (course : ℕ) (form : Option TemplateForm) : Out :=
  loginRequired w who fun admin =>
    match form with
    | none => { world := w, resp := .json [("errors", "")] 400 }
    | some f =>
      startGeneration w admin.id course f
        (.json [("message", "Email generation started successfully!"),
          ("template_id", toString w.db.emailTemplates.next)] 200)

/-- the generated emails of a template -/
def emailsOf (db : Db) (template : ℕ) : List (Rec GeneratedEmail) :=
  db.generatedEmails.all fun g => g.cols.templateId = template

/-- `templateId` is `none` if the form field is missing or not a number -/
def deleteCompain (w : World) (who : Option ℕ) (compaign : ℕ) (templateId : Option ℕ) : Out :=
  loginRequired w who fun _ =>
    match templateId with
    | none => { world := w, resp := .raised .typeError }
    | some id =>
      match w.db.emailTemplates.get id with
      | none => { world := w, resp := .raised .other }
      | some _ =>
        if emailsOf w.db id = [] then
          { world := { w with db := { w.db with emailTemplates := w.db.emailTemplates.erase fun t => t.id = id } }
            -- the campaign is only looked at after the commit
            resp := match w.db.course.get compaign with
              | some campaign => .redirect (.coursesDashboard campaign.id)
              | none => .raised .attributeError }
        else { world := w, resp := .raised .integrityError }

/-- the URL parameter is called `compaign` and holds the id of a template -/
def deleteEmailTemplate (w : World) (compaign : ℕ) : Out :=
  match w.db.emailTemplates.get compaign with
  | none => { world := w, resp := .notFound }
  | some template =>
    { world := { w with db := { w.db with
        generatedEmails := w.db.generatedEmails.erase fun g => g.cols.templateId = template.id
        emailTemplates := w.db.emailTemplates.erase fun t => t.id = template.id } }
      resp := match template.cols.compaign with
        | some c => .redirect (.coursesDashboard c)
        | none => .raised .buildError
      flash := [("Template and associated emails deleted successfully.", "success")] }

/-! ## Pages -/

/-- the campaigns listed on every page of an admin -/
def ownCourses (db : Db) (admin : ℕ) : List (Rec Course) :=
  db.course.all fun c => c.cols.ownerId = some admin ∧ c.cols.status = 1

def colorOf (c : Course) : Option String := if truthy c.color then c.color else some "#fffff"

def dashboardPage (db : Db) (admin : Rec Adminuser) (course : ℕ) (thisCampaign : Rec Course) : CampaignPage where
  compaignId := course
  url := thisCampaign.cols.url
  color := colorOf thisCampaign.cols
  email := some admin.cols.email
  checkKey := thisCampaign.cols.stripeApiKey
  courses := ownCourses db admin.id
  thisCampaign := thisCampaign
  emailTemplates :=
    (db.emailTemplates.all fun t => t.cols.ownerId = some admin.id ∧ t.cols.compaign = some course).map fun t =>
      (t, emailsOf db t.id)

def dashboard (w : World) (who : Option ℕ) (course : ℕ) (form : Option TemplateForm) : Out :=
  loginRequired w who fun admin =>
    match form with
    | some f => startGeneration w admin.id course f (.redirect (.coursesDashboard course))
    | none =>
      match w.db.course.get course with
      | none => { world := w, resp := .raised .attributeError }
      | some thisCampaign =>
        { world := w, resp := .page (.campaignDashboard (dashboardPage w.db admin course thisCampaign)) }

def users (w : World) (who : Option ℕ) (id : ℕ) : Out :=
  loginRequired w who fun admin =>
    match w.db.course.get id with
    | none => { world := w, resp := .raised .attributeError }
    | some thisCampaign =>
      { world := w
        resp := .page (.campaignUsers
          { compaignId := id, url := thisCampaign.cols.url, color := colorOf thisCampaign.cols
            checkKey := thisCampaign.cols.stripeApiKey, courses := ownCourses w.db admin.id
            thisCampaign := thisCampaign, users := activeUsers w.db id }) }

/-! ## Resources -/

structure ResourceForm where
  title : Option String
  courseDescription : Option String
  /-- file name and content, if a file was chosen -/
  advert : Option (String × List UInt8)
  position : String
deriving DecidableEq, Repr

def resourcesOf (db : Db) (campaign : ℕ) : List (Rec CourseResource) :=
  db.courseResource.all fun r => r.cols.course = some campaign

/-- a folder and the stored name after an upload; a name that sanitises to nothing cannot be saved -/
def saveUpload (L : Lib) (folder : Files) (upload : Option (String × List UInt8)) : Option (Files × Option String) :=
  match upload with
  | none => some (folder, none)
  | some (filename, content) =>
    let name := L.secureFilename filename
    if name = "" then none else some (Function.update folder name (some content), some name)

def resources (L : Lib) (w : World) (who : Option ℕ) (campaign : ℕ) (form : Option ResourceForm) : Out :=
  loginRequired w who fun admin =>
    match form with
    | some f =>
      match saveUpload L w.adverts f.advert with
      | none => { world := w, resp := .raised .osError }
      | some (adverts, advertFilename) =>
        let w := { w with adverts := adverts }
        match w.db.course.get campaign with
        | none => { world := w, resp := .raised .attributeError }
        | some course =>
          let resource : CourseResource :=
            { position := some f.position, title := f.title, course := some course.id
              courseDescription := f.courseDescription, advert := advertFilename }
          { world := { w with db := { w.db with courseResource := w.db.courseResource.insert resource } }
            resp := .redirect (.coursesResources campaign) }
    | none =>
      match w.db.course.get campaign with
      | none => { world := w, resp := .raised .attributeError }
      | some thisCampaign =>
        { world := w
          resp := .page (.campaignResources
            { compaignId := campaign, url := thisCampaign.cols.url, courses := ownCourses w.db admin.id
              thisCampaign := thisCampaign, resources := resourcesOf w.db campaign }) }

def deleteResource (w : World) (who : Option ℕ) (resource : ℕ) : Out :=
  loginRequired w who fun _ =>
    match w.db.courseResource.get resource with
    | none => { world := w, resp := .raised .attributeError }
    | some r =>
      { world := { w with db := { w.db with courseResource := w.db.courseResource.erase fun x => x.id = r.id } }
        -- `url_for` takes no null
        resp := match r.cols.course with
          | some campaign => .redirect (.coursesResources campaign)
          | none => .raised .buildError }

end Newsletter.Courses

namespace Newsletter.Users

open Newsletter.Core Courses

/-- `users.dashboard`; a template made here belongs to no campaign -/
def dashboard (w : World) (who : Option ℕ) (form : Option TemplateForm) : Out :=
  loginRequired w who fun admin =>
    match form with
    | some f =>
      match createTemplate w.db admin.id none f with
      | none => { world := w, resp := .raised .integrityError }
      | some db => { world := { w with db := db }, resp := .redirect .usersDashboard }
    | none =>
      { world := w
        resp := .page (.dashboard admin.cols.email
          (w.db.emailTemplates.all fun t => t.cols.ownerId = some admin.id ∧ t.cols.compaign = none)
          (ownCourses w.db admin.id)) }

/-- `users.users` -/
def users (w : World) (who : Option ℕ) : Out :=
  loginRequired w who fun _ =>
    { world := w, resp := .page (.allUsers (w.db.user.all fun u => u.cols.status = some 2)) }

end Newsletter.Users
