/-
Data model of the newsletter application: the tables of `app/auth/model.py`, `app/course/model.py` and
`app/emails/models.py`, the state of the serving process, and what a request leaves behind.

Conventions:
- a nullable column is an `Option`; ids in URLs and forms are the numbers the database compares them with;
- `World` is everything that outlives a request: the database, the process-global `stripe.api_key`, the Redis status
  keys, the two upload folders and the background threads not yet run;
- Stripe is a service: a handler's calls are a `Prog` over the register `stripe.api_key` (`Core.Prog`), and every call
  is kept in `Out.calls` with the key in force;
- `Lib` collects the library functions the handlers depend on (JSON, Stripe's event and signature code,
  `secure_filename`, the token serializer).

Left out: columns no handler below reads (`password`, `unsubsciption_reason`, `sender_email`, `sender_password`,
`created_at`), log and print output, and the HTML around the data a page shows.
-/
import Mathlib.Data.Rat.Defs
import Newsletter.Core.Table
import Newsletter.Core.Prog

namespace Newsletter

open Newsletter.Core

/-! ## Tables -/

inductive AdminRole where
  | admin
  | superAdmin
deriving DecidableEq, Repr

structure Adminuser where
  email : String
  username : Option String := none
  isVerified : Bool := false
  role : AdminRole := .admin
  stripeAccountId : Option String := none
deriving DecidableEq, Repr

/-- a subscriber; status 1 is "payment pending" and also "unsubscribed", status 2 is active -/
structure User where
  email : String
  customerId : Option String := none
  /-- the subscription id, once `customer.subscription.created` has arrived -/
  paymentIntentId : Option String := none
  amount : Option ℤ := none
  status : Option ℕ
  courseId : Option ℕ
deriving DecidableEq, Repr

/-- a campaign; status 0 is deleted -/
structure Course where
  type : Option ℕ := none
  name : Option String := none
  openaiKey : Option String := none
  stripeApiKey : Option String := none
  ownerId : Option ℕ := none
  url : Option String := none
  color : Option String := none
  title : Option String := none
  free : Bool := false
  price : Option ℚ := none
  courselink : Option String := none
  productId : Option String := none
  endpointSecret : Option String := none
  currency : Option String := some "USD"
  status : ℕ := 1
deriving DecidableEq, Repr

structure CourseResource where
  position : Option String
  title : Option String
  course : Option ℕ
  courseDescription : Option String
  advert : Option String
deriving DecidableEq, Repr

structure EmailTemplate where
  header : Option String
  body : String
  footer : String
  compaign : Option ℕ
  ownerId : Option ℕ
deriving DecidableEq, Repr

structure GeneratedEmail where
  header : String
  body : String
  footer : String
  templateId : ℕ
  isSent : Bool := false
  /-- JSON text of the chat messages that produced the body -/
  conversation : Option String
deriving DecidableEq, Repr

structure Db where
  adminuser : Table Adminuser
  user : Table User
  course : Table Course
  courseResource : Table CourseResource
  emailTemplates : Table EmailTemplate
  generatedEmails : Table GeneratedEmail
deriving DecidableEq, Repr

/-- Python truth of a nullable text column -/
def truthy : Option String → Bool
  | none => false
  | some s => s ≠ ""

/-- `str()` of a nullable text column inside an f-string -/
def pyStr : Option String → String
  | none => "None"
  | some s => s

/-! ## Stripe -/

/-- exceptions, as far as a handler tells them apart or a caller sees them -/
inductive Exn where
  | stripeError
  | attributeError
  | keyError
  | typeError
  | valueError
  | nameError
  | integrityError
  | buildError
  | templateNotFound
  | osError
  | other
deriving DecidableEq, Repr

/-- the fields read of an object that Stripe returns -/
structure StripeObject where
  id : String
  url : Option String := none
  unitAmount : Option ℤ := none
  currency : Option String := none
deriving DecidableEq, Repr

inductive Mode where
  | payment
  | subscription
deriving DecidableEq, Repr

inductive StripeOp where
  | customerCreate (email : String)
  /-- `recurring` prices are monthly, with exclusive tax behaviour -/
  | priceCreate (product : Option String) (unitAmount : ℤ) (currency : String) (courseId : ℕ) (recurring : Bool)
  | productModify (product : Option String) (defaultPrice : String)
  | priceRetrieve (price : Option String)
  | ivaPriceCreate (unitAmount : ℤ) (currency : String) (courseId : ℕ)
  | sessionCreate (mode : Mode) (courseId : ℕ) (customer : String) (prices : List (Option String)) (quantity : ℕ)
  | subscriptionDelete (subscription : Option String)
  | transferCreate (amount : ℤ) (currency destination transferGroup : String)
deriving DecidableEq, Repr

/-- a request that makes a new object in the Stripe account -/
def StripeOp.creates : StripeOp → Bool
  | .customerCreate _ | .priceCreate .. | .ivaPriceCreate .. | .sessionCreate .. | .transferCreate .. => true
  | _ => false

abbrev Reply := Except Exn StripeObject

abbrev StripeProg := Prog (Option String) StripeOp Reply Exn

abbrev StripeCall := Call (Option String) StripeOp Reply


inductive EventType where
  | checkoutSessionCompleted
  | invoicePaymentSucceeded
  | customerSubscriptionCreated
  | other (name : String)
deriving DecidableEq, Repr

/-- `event['data']['object']`, the fields read -/
structure EventObject where
  id : Option String
  customer : Option String
  amountTotal : Option ℤ
  currency : Option String
deriving DecidableEq, Repr

structure Event where
  id : Option String
  type : Option EventType
  object : Option EventObject
deriving DecidableEq, Repr

/-- how `stripe.Webhook.construct_event` ends -/
inductive Verdict where
  | ok
  /-- `ValueError` or `SignatureVerificationError` -/
  | refused
  /-- any other exception -/
  | raised
deriving DecidableEq, Repr

structure ChatMessage where
  role : String
  content : String
deriving DecidableEq, Repr

/-- library code the handlers call -/
structure Lib where
  /-- `json.loads`, then `stripe.Event.construct_from`; `none` if one of them raises -/
  parse : String → Option Event
  /-- payload, `Stripe-Signature` header, endpoint secret -/
  constructEvent : String → Option String → Option String → Verdict
  /-- `json.dumps` and `json.loads` of a conversation -/
  dumps : List ChatMessage → String
  loads : String → Option (List ChatMessage)
  secureFilename : String → String
  /-- `repr` of an exception -/
  repr : Exn → String
  /-- the account a verification token was issued for, unless it is invalid or has expired -/
  verifyToken : String → Option ℕ

/-! ## The process and what a request leaves behind -/

abbrev Files := String → Option (List UInt8)

/-- a Redis value and whether it has been given a time to live -/
structure Status where
  text : String
  expires : Bool
deriving DecidableEq, Repr

/-- a background thread that has been started -/
inductive Thread where
  | generateAndSaveEmails (templateId : ℕ) (campaignId : Option ℕ)
  | regenerateEmailTask (generatedEmailId : ℕ) (redisKey : String)
deriving DecidableEq, Repr

structure World where
  db : Db
  /-- `stripe.api_key` -/
  apiKey : Option String
  redis : String → Option Status
  /-- `UPLOAD_FOLDER`, the mail attachments -/
  uploads : Files
  adverts : Files
  threads : List Thread

/-- What all reads of a transaction see whose first read is made now. The database is at its default isolation level, REPEATABLE
READ: what others commit is not seen before the transaction ends, and its own commit writes to the tables as they are then.
Wherever a handler or a task takes its steps among others, what it has read is taken from this. -/
abbrev World.snapshot (w : World) : Db := w.db

/-- a message handed to the mailer -/
structure Mail where
  recipient : String
  subject : Option String
  header : Option String
  body : String
  footer : String
  user : ℕ
  campaign : ℕ
  attachment : Option (String × List UInt8) := none
  /-- whether the mailer took it -/
  accepted : Bool
deriving DecidableEq, Repr

/-- targets of a redirect -/
inductive Endpoint where
  | authError (type : ℕ)
  | authSuccess
  | authConfirm
  | authLogin
  | usersDashboard
  | coursesDashboard (course : ℕ)
  | coursesUsers (id : ℕ)
  | coursesResources (campaign : ℕ)
  | checkout (url : String)
deriving DecidableEq, Repr

/-- what `compaignbase.html` and the page that extends it are given -/
structure CampaignPage where
  compaignId : ℕ
  url : Option String
  color : Option String := none
  email : Option String := none
  checkKey : Option String := none
  courses : List (Rec Course)
  thisCampaign : Rec Course
  emailTemplates : List (Rec EmailTemplate × List (Rec GeneratedEmail)) := []
  users : List (Rec User) := []
  resources : List (Rec CourseResource) := []
deriving DecidableEq, Repr

inductive Page where
  | registration (color title : Option String) (code : String) (resources : List (Rec CourseResource))
  | unsubscribeConfirm (user campaign : ℕ)
  | campaignDashboard (v : CampaignPage)
  | campaignUsers (v : CampaignPage)
  | campaignResources (v : CampaignPage)
  | allUsers (users : List (Rec User))
  | dashboard (email : String) (emailTemplates : List (Rec EmailTemplate)) (courses : List (Rec Course))
  | adminRegister
deriving DecidableEq, Repr

inductive Response where
  | redirect (target : Endpoint)
  | page (p : Page)
  | json (fields : List (String × String)) (code : ℕ)
  | text (s : String)
  | unauthorized
  | badRequest
  | notFound
  /-- an exception leaves the handler: the server answers 500 -/
  | raised (e : Exn)
deriving DecidableEq, Repr

structure Out where
  world : World
  resp : Response
  calls : List StripeCall := []
  mails : List Mail := []
  /-- flashed messages and their categories -/
  flash : List (String × String) := []

/-- the world with another subscriber table -/
def World.setUser (w : World) (t : Table User) : World := { w with db := { w.db with user := t } }

/-- the row of the logged-in admin, if the session names one -/
def currentUser (db : Db) (who : Option ℕ) : Option (Rec Adminuser) := who.bind db.adminuser.get

/-- the campaign behind a registration link -/
def linkedCampaign (db : Db) (code : String) : Option (Rec Course) := db.course.first fun c => c.cols.url = some code

/-- the `login_required` decorator -/
def loginRequired (w : World) (who : Option ℕ) (h : Rec Adminuser → Out) : Out :=
  match currentUser w.db who with
  | none => { world := w, resp := .unauthorized }
  | some admin => h admin

end Newsletter
