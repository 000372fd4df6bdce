/-
Campaign settings, manual subscribers and accounts: `customize`, `add_user` and `config` (`app/course/route.py`, lines
267-306 and 419-448), `addcourse` (`app/user/route.py`, lines 91-136), `register_admin` and `verify_email`
(`app/auth/route.py`, lines 721-772).

A form argument is `none` when the form does not validate (or the request is a GET). `customize` and `add_user` have no
`login_required`. The foreign key of `user.course_id` makes the commit of `add_user` fail for a campaign that does not
exist; the commits of `customize` and `config` fail for what does not fit into the columns.
-/
import Newsletter.Subscriptions

namespace Newsletter.Courses

open Newsletter.Core

/-! ## Settings -/

/-- what a `DecimalField` makes of its text: `Decimal` also reads NaN and the infinities -/
inductive FieldDecimal where
  | number (q : ℚ)
  | nan
  | infinity (negative : Bool)
deriving DecidableEq, Repr

structure CustomizeForm where
  title : Option String
  color : Option String
  price : Option FieldDecimal
  free : Bool
  link : Option String
  currency : String
deriving DecidableEq, Repr

/-- the price as a value of the column, which has no NaN and no infinities -/
def CustomizeForm.columnPrice (f : CustomizeForm) : Option ℚ :=
  match f.price with
  | some (.number q) => some q
  | _ => none

def CustomizeForm.storable (f : CustomizeForm) : Bool :=
  match f.price with
  | some .nan | some (.infinity _) => false
  | _ => true

/-- the assignments of `customize` -/
def CustomizeForm.write (f : CustomizeForm) (c : Course) : Course :=
  { c with
    title := f.title, color := f.color, price := f.columnPrice, courselink := f.link, currency := some f.currency
    free := f.free }

/-- `commit` is whether the database takes the update, which may be too long for a column or out of its range; it never takes a
price that is not storable -/
def customize (w : World) (campaign : ℕ) (form : Option CustomizeForm) (commit : Bool) : Out :=
  match form with
  -- there is no `customize.html`
  | none => { world := w, resp := .raised .templateNotFound }
  | some f =>
    match w.db.course.get campaign with
    | some course =>
      if f.storable && commit then
        { world := { w with db := { w.db with course := w.db.course.modify course.id f.write } }
          resp := .redirect (.coursesDashboard campaign) }
      else { world := w, resp := .raised .other }
    -- `url_for('courses.dashboard')` lacks the campaign
    | none => { world := w, resp := .raised .buildError, flash := [("Course not found", "danger")] }

structure OpenAiForm where
  key : String
  productId : String
  endpointSecret : String
  openaiKey : Option String
deriving DecidableEq, Repr

/-- the assignments of `config` -/
def OpenAiForm.write (f : OpenAiForm) (c : Course) : Course :=
  { c with
    stripeApiKey := some f.key, productId := some f.productId, endpointSecret := some f.endpointSecret
    openaiKey := f.openaiKey }

def config (w : World) (who : Option ℕ) (id : ℕ) (form : Option OpenAiForm) (commit : Bool) : Out :=
  loginRequired w who fun _ =>
    match form with
    -- the view returns nothing
    | none => { world := w, resp := .raised .typeError }
    | some f =>
      match w.db.course.get id with
      | none => { world := w, resp := .raised .attributeError }
      | some compain =>
        if commit then
          { world := { w with db := { w.db with course := w.db.course.modify compain.id f.write } }
            resp := .redirect (.coursesDashboard id) }
        else { world := w, resp := .raised .other }

/-! ## Manual subscribers -/

/-- the row `add_user` inserts -/
def addedUser (email : String) (compaign : ℕ) : User := { email := email, status := some 2, courseId := some compaign }

/-- `form` is `none` if the email or the campaign field is missing -/
def addUser (w : World) (form : Option (String × ℕ)) : Out :=
  match form with
  | none => { world := w, resp := .badRequest }
  | some (email, compaign) =>
    match w.db.course.get compaign with
    | none => { world := w, resp := .raised .integrityError }
    | some _ =>
      { world := w.setUser (w.db.user.insert (addedUser email compaign)), resp := .redirect (.coursesDashboard compaign)
        flash := [("User added successfully!", "success")] }

/-! ## What these requests leave behind -/

/-- the world with another campaign table -/
def setCourse (w : World) (t : Table Course) : World := { w with db := { w.db with course := t } }

/-- the form that is written, if the update is committed -/
def committedCustomize (form : Option CustomizeForm) (commit : Bool) : Option CustomizeForm :=
  form.filter fun f => f.storable && commit

theorem customize_world (w : World) (campaign : ℕ) (form : Option CustomizeForm) (commit : Bool) :
    (customize w campaign form commit).world = setCourse w
      (match committedCustomize form commit with
      | none => w.db.course
      | some f => w.db.course.modify campaign f.write) := by
  unfold customize committedCustomize
  cases form with
  | none => rfl
  | some f =>
    rw [Option.filter_some]
    cases hc : w.db.course.get campaign with
    | some course =>
      simp only [(Table.get_eq_some_iff.1 hc).2]
      split_ifs <;> rfl
    | none =>
      split_ifs
      · simp only [Table.modify_of_get_none hc]
        rfl
      · rfl

/-- the form that is written, if there is a login and the update is committed -/
def committedConfig (db : Db) (who : Option ℕ) (form : Option OpenAiForm) (commit : Bool) : Option OpenAiForm :=
  form.filter fun _ => (currentUser db who).isSome && commit

theorem committedConfig_eq_some {db : Db} {who : Option ℕ} {form : Option OpenAiForm} {commit : Bool} {f : OpenAiForm}
    (h : committedConfig db who form commit = some f) : (currentUser db who).isSome ∧ form = some f ∧ commit = true := by
  obtain ⟨hform, hok⟩ := Option.filter_eq_some_iff.1 h
  exact ⟨(Bool.and_eq_true_iff.1 hok).1, hform, (Bool.and_eq_true_iff.1 hok).2⟩

theorem config_world (w : World) (who : Option ℕ) (id : ℕ) (form : Option OpenAiForm) (commit : Bool) :
    (config w who id form commit).world = setCourse w
      (match committedConfig w.db who form commit with
      | none => w.db.course
      | some f => w.db.course.modify id f.write) := by
  unfold config loginRequired committedConfig
  cases currentUser w.db who with
  | none => cases form <;> rfl
  | some admin =>
    cases form with
    | none => rfl
    | some f =>
      rw [Option.filter_some]
      cases hc : w.db.course.get id with
      | some course =>
        simp only [(Table.get_eq_some_iff.1 hc).2]
        cases commit <;> rfl
      | none =>
        cases commit with
        | false => rfl
        | true =>
          simp only [Table.modify_of_get_none hc]
          rfl

/-- the change of the subscriber table by `add_user` -/
def addUserChange (db : Db) (form : Option (String × ℕ)) : Change :=
  match form with
  | none => .none
  | some (email, compaign) => if (db.course.get compaign).isSome then .enrol (addedUser email compaign) else .none

theorem addUser_world (w : World) (form : Option (String × ℕ)) :
    (addUser w form).world = w.setUser ((addUserChange w.db form).apply w.db.user) := by
  unfold addUser addUserChange
  cases form with
  | none => rfl
  | some p =>
    obtain ⟨email, compaign⟩ := p
    simp only
    cases w.db.course.get compaign with
    | none => rfl
    | some c => rfl

end Newsletter.Courses

namespace Newsletter.Users

open Newsletter.Core Courses

/-! ## New campaigns -/

/-- the code a new campaign gets: the first one drawn that no campaign has -/
def newCode (db : Db) (draws : List String) : Option String :=
  draws.find? fun url => (linkedCampaign db url).isNone

/-- `draws` are the codes that `generate_code` returns, one a round of the loop; the first unused one is taken -/
def addcourse (w : World) (who : Option ℕ) (form : Option (ℕ × String)) (draws : List String) : Out :=
  loginRequired w who fun admin =>
    match form with
    | none => { world := w, resp := .raised .typeError }
    | some (type, name) =>
      match newCode w.db draws with
      -- the loop has not found a code yet
      | none => { world := w, resp := .redirect .usersDashboard }
      | some url =>
        let compain : Course := { type := some type, name := some name, ownerId := some admin.id, url := some url }
        { world := { w with db := { w.db with course := w.db.course.insert compain } }
          resp := .redirect .usersDashboard }

theorem addcourse_created {w : World} {who : Option ℕ} {admin : Rec Adminuser} {draws : List String} {code : String}
    (hwho : currentUser w.db who = some admin) (hcode : newCode w.db draws = some code) (type : ℕ) (name : String) :
    (addcourse w who (some (type, name)) draws).world = setCourse w (w.db.course.insert
      { type := some type, name := some name, ownerId := some admin.id, url := some code }) := by
  unfold addcourse loginRequired
  simp only [hwho, hcode]
  rfl

end Newsletter.Users

namespace Newsletter.Auth

open Newsletter.Core

/-! ## Accounts -/

/-- anyone may open an account; the email column is unique -/
def registerAdmin (w : World) (form : Option (String × Option String)) : Out :=
  match form with
  | none => { world := w, resp := .page .adminRegister }
  | some (email, username) =>
    match w.db.adminuser.first fun a => a.cols.email = email with
    | some _ => { world := w, resp := .raised .integrityError }
    | none =>
      { world := { w with db := { w.db with adminuser := w.db.adminuser.insert { email := email, username := username } } }
        resp := .redirect .authLogin
        flash := [("Admin user created successfully! Please verify your email before logging in.", "success")] }

def verifyEmail (L : Lib) (w : World) (token : String) : Out :=
  match (L.verifyToken token).bind w.db.adminuser.get with
  | none =>
    { world := w, resp := .redirect .authLogin
      flash := [("The verification link is invalid or has expired.", "message")] }
  | some user =>
    { world := { w with db := { w.db with
        adminuser := w.db.adminuser.modify user.id fun a => { a with isVerified := true } } }
      resp := .redirect .authLogin
      flash := [("Your email has been verified. You can now log in.", "message")] }

end Newsletter.Auth
