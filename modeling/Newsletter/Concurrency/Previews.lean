/-
Previews of a newsletter: `generate_email_body` (`app/course/route.py`, lines 927-1037).

The admin chooses a template, and the page shows the three texts that the API writes for it. The key of the campaign is assigned to
`openai.api_key`, a global of the process, and the three completions are sent with whatever it holds when they are sent. The
assignment comes before the look-up of the template, so that a request for a template that does not exist changes the key, too.

A preview takes its steps among other previews and requests: the assignment with the look-up, one completion at a time, and the
page. It commits nothing, so that all its reads are from one snapshot.

- `preview_alone`: a preview that nothing disturbs does what the sequential handler does;
- `previews_pay_own_iff`: at every point of an interleaving every completion that may be sent next is sent with the key of its own
  campaign, exactly if whenever a preview assigns the key, the previews that have completions left are for campaigns with that key.
-/
import Newsletter.App
import Newsletter.Core.Shared
import Newsletter.Core.Text

namespace Newsletter

open Newsletter.Core

namespace Courses

/-- the parts of a newsletter, in the order in which they are asked for -/
inductive LetterPart where
  | header
  | body
  | footer
deriving DecidableEq, Repr

def letterParts : List LetterPart := [.header, .body, .footer]

/-- what the prompt for the part says about the template -/
def LetterPart.prompt (t : EmailTemplate) : LetterPart → String
  | .header => pyStr t.header
  | .body => t.body
  | .footer => t.footer

/-- a completion: the key it is sent with, what it asks for, and the content of the answer, unless it raises -/
structure AskedPart where
  key : Option String
  part : LetterPart
  prompt : String
  answer : Option String
deriving DecidableEq, Repr

/-- `completion.choices[0].message['content'].strip()` -/
def AskedPart.text (c : AskedPart) : Option String := c.answer.map fun s => String.ofList (strip s.toList)

structure GeneratedPage where
  header : String
  body : String
  footer : String
  activeCompaignId : ℕ
  url : Option String
  color : String
  checkKey : Option String
  courses : List (Rec Course)
  thisCampaign : Rec Course
deriving DecidableEq, Repr

inductive PreviewResponse where
  | unauthorized
  | raised (e : Exn)
  | page (p : GeneratedPage)
deriving DecidableEq, Repr

/-- who asks, for which campaign, and the field `template_i`: missing, no number, or a number -/
structure PreviewRequest where
  who : Option ℕ
  compaign : ℕ
  templateI : Option (Option ℕ)
deriving DecidableEq, Repr

/-- `int(request.form.get('template_i'))` -/
def templateId : Option (Option ℕ) → Except Exn ℕ
  | none => .error .typeError
  | some none => .error .valueError
  | some (some t) => .ok t

def generatedPage (db : Db) (admin : Rec Adminuser) (campaign : Rec Course) (header body footer : String) : GeneratedPage where
  header := header
  body := body
  footer := footer
  activeCompaignId := campaign.id
  url := campaign.cols.url
  color := if truthy campaign.cols.color then pyStr campaign.cols.color else "#ffffff"
  checkKey := campaign.cols.stripeApiKey
  courses := ownCourses db admin.id
  thisCampaign := campaign

/-- the page for the texts of the three completions; one that raises ends the request -/
def previewResponse (db : Db) (admin : Rec Adminuser) (campaign : Rec Course) : List AskedPart → PreviewResponse
  | [h, b, f] =>
    match h.text, b.text, f.text with
    | some header, some body, some footer => .page (generatedPage db admin campaign header body footer)
    | _, _, _ => .raised .other
  | _ => .raised .other

structure PreviewOut where
  /-- `openai.api_key` afterwards -/
  key : Option String
  asked : List AskedPart
  resp : PreviewResponse
deriving DecidableEq, Repr

/-- `generate_email_body`, `key` being the value of `openai.api_key` before and `openai` the answers of the API -/
def generateEmailBody (db : Db) (key : Option String) (q : PreviewRequest) (openai : LetterPart → Option String) : PreviewOut :=
  match currentUser db q.who, templateId q.templateI, db.course.get q.compaign with
  | none, _, _ => ⟨key, [], .unauthorized⟩
  | some _, .error e, _ => ⟨key, [], .raised e⟩
  | some _, .ok _, none => ⟨key, [], .raised .attributeError⟩
  | some admin, .ok t, some campaign =>
    match db.emailTemplates.get t with
    | none => ⟨campaign.cols.openaiKey, [], .raised .attributeError⟩
    | some template =>
      let asked := (untilRaise (fun part =>
        ([⟨campaign.cols.openaiKey, part, part.prompt template.cols, openai part⟩], (openai part).isNone)) letterParts).1
      ⟨campaign.cols.openaiKey, asked, previewResponse db admin campaign asked⟩

end Courses

namespace Concurrency

open Courses

/-! ## Schedules -/

inductive PreviewPoint where
  /-- the assignment of the key, and the look-up -/
  | assign
  /-- the next of the completions, those before having been answered -/
  | ask (template : Rec EmailTemplate) (asked : List AskedPart) (rest : List LetterPart)
  | ended (resp : PreviewResponse)
deriving DecidableEq, Repr

/-- a preview in progress, with what it has read -/
structure Preview where
  db : Db
  admin : Rec Adminuser
  campaign : Rec Course
  templateId : ℕ
  point : PreviewPoint

/-- the checks and reads at the beginning; `none` if the request ends there -/
def readPreview (db : Db) (q : PreviewRequest) : Option Preview :=
  match currentUser db q.who, templateId q.templateI, db.course.get q.compaign with
  | some admin, .ok t, some campaign => some ⟨db, admin, campaign, t, .assign⟩
  | _, _, _ => none

namespace Preview

/-- the completion that is sent next, the global key being `key` -/
def sends (p : Preview) (key answer : Option String) : Option AskedPart :=
  match p.point with
  | .ask template _ (part :: _) => some ⟨key, part, part.prompt template.cols, answer⟩
  | _ => none

def move (p : Preview) (key answer : Option String) : Preview :=
  match p.point with
  | .assign =>
    match p.db.emailTemplates.get p.templateId with
    | none => { p with point := .ended (.raised .attributeError) }
    | some template => { p with point := .ask template [] letterParts }
  | .ask template asked (part :: rest) =>
    match answer with
    | none => { p with point := .ended (.raised .other) }
    | some _ => { p with point := .ask template (asked ++ [⟨key, part, part.prompt template.cols, answer⟩]) rest }
  | .ask _ asked [] => { p with point := .ended (previewResponse p.db p.admin p.campaign asked) }
  | .ended _ => p

/-- the key that the step assigns -/
def assigns (p : Preview) : Option (Option String) :=
  match p.point with
  | .assign => some p.campaign.cols.openaiKey
  | _ => none

/-- the preview has completions left to send -/
def Asking (p : Preview) : Prop := ∃ template asked part rest, p.point = .ask template asked (part :: rest)

end Preview

/-- the web server, its `openai.api_key`, and the previews; one that has ended keeps its name -/
structure Previews where
  world : World
  key : Option String
  previews : Pool Preview

inductive PreviewEvent where
  | request (r : Request)
  | begin (n : ℕ) (q : PreviewRequest)
  /-- the preview `n` takes its next step; `answer` is the API's if that is a completion -/
  | step (n : ℕ) (answer : Option String)

/-- the output is the completion that is sent -/
def previewStep (L : Lib) (s : Previews) : PreviewEvent → Previews × Option AskedPart
  | .request r => ({ s with world := (serve L s.world r).world }, none)
  | .begin n q =>
    match s.previews n, readPreview s.world.snapshot q with
    | none, some p => ({ s with previews := s.previews.put n (some p) }, none)
    | _, _ => (s, none)
  | .step n answer =>
    match s.previews n with
    | none => (s, none)
    | some p =>
      ({ s with key := p.assigns.getD s.key, previews := s.previews.put n (some (p.move s.key answer)) }, p.sends s.key answer)

def previewing (L : Lib) : Machine Previews PreviewEvent (Option AskedPart) := ⟨previewStep L⟩

def noPreviews (w : World) (key : Option String) : Previews := ⟨w, key, .empty⟩

/-! ## One preview -/

section Step

variable (L : Lib) (s : Previews)

theorem step_step {n : ℕ} {p : Preview} (h : s.previews n = some p) (answer : Option String) :
    (previewing L).step s (.step n answer) =
      ({ s with key := p.assigns.getD s.key, previews := s.previews.put n (some (p.move s.key answer)) },
        p.sends s.key answer) := by
  simp only [previewing, previewStep, h]

theorem move_campaign (p : Preview) (key answer : Option String) : (p.move key answer).campaign = p.campaign := by
  unfold Preview.move
  split
  · split <;> rfl
  · split <;> rfl
  · rfl
  · rfl

/-- a preview that has completions left had some before, or has just assigned its key -/
theorem asking_move {p : Preview} {key answer : Option String} (h : (p.move key answer).Asking) :
    p.Asking ∨ p.assigns = some p.campaign.cols.openaiKey := by
  obtain ⟨template, asked, part, rest, hpoint⟩ := h
  unfold Preview.move at hpoint
  split at hpoint
  · rename_i hassign
    right
    simp only [Preview.assigns, hassign]
  · rename_i template' asked' part' rest' hask
    exact Or.inl ⟨template', asked', part', rest', hask⟩
  · cases hpoint
  · rename_i hended
    rw [hended] at hpoint
    cases hpoint

theorem not_asking_of_assigns {p : Preview} {k : Option String} (h : p.assigns = some k) : ¬ p.Asking := by
  rintro ⟨template, asked, part, rest, hpoint⟩
  simp [Preview.assigns, hpoint] at h

/-- what an event does to a preview -/
theorem preview_next {e : PreviewEvent} {m : ℕ} {p' : Preview} (h : ((previewing L).next s e).previews m = some p') :
    s.previews m = some p' ∨
      (∃ q, e = .begin m q ∧ readPreview s.world.db q = some p') ∨
      ∃ answer p, e = .step m answer ∧ s.previews m = some p ∧ p' = p.move s.key answer := by
  cases e with
  | request r => exact Or.inl h
  | begin n q =>
    simp only [Machine.next, previewing, previewStep] at h
    split at h
    · rename_i p hfree hread
      rcases Pool.put_cases h with ⟨_, hold⟩ | ⟨rfl, hnew⟩
      · exact Or.inl hold
      · cases hnew
        exact Or.inr (Or.inl ⟨q, rfl, hread⟩)
    · exact Or.inl h
  | step n answer =>
    cases hn : s.previews n with
    | none =>
      simp only [Machine.next, previewing, previewStep, hn] at h
      exact Or.inl h
    | some p =>
      rw [Machine.next, step_step L s hn] at h
      rcases Pool.put_cases h with ⟨_, hold⟩ | ⟨rfl, hnew⟩
      · exact Or.inl hold
      · cases hnew
        exact Or.inr (Or.inr ⟨answer, p, rfl, hn, rfl⟩)

theorem read_point {db : Db} {q : PreviewRequest} {p : Preview} (h : readPreview db q = some p) : p.point = .assign := by
  unfold readPreview at h
  split at h
  · cases h
    rfl
  · cases h

end Step

/-! ## A preview on its own -/

/-- the steps of one preview -/
def aloneSteps (openai : LetterPart → Option String) : List PreviewEvent :=
  [.step 0 none, .step 0 (openai .header), .step 0 (openai .body), .step 0 (openai .footer), .step 0 none]

/-- one preview and nothing else -/
def onlyPreview (w : World) (key : Option String) (p : Preview) : Previews := ⟨w, key, Pool.empty.put 0 (some p)⟩

theorem onlyPreview_zero (w : World) (key : Option String) (p : Preview) : (onlyPreview w key p).previews 0 = some p :=
  Pool.put_self Pool.empty 0 (some p)

theorem step_onlyPreview (L : Lib) (w : World) (key : Option String) (p : Preview) (answer : Option String) :
    (previewing L).step (onlyPreview w key p) (.step 0 answer) =
      (onlyPreview w (p.assigns.getD key) (p.move key answer), p.sends key answer) := by
  rw [step_step L (onlyPreview w key p) (onlyPreview_zero w key p)]
  simp only [onlyPreview, Pool.put_put]

/-- the completions that are sent -/
def sent (L : Lib) (s : Previews) (schedule : List PreviewEvent) : List AskedPart :=
  (previewing L).collected (fun s e => ((previewing L).out s e).toList) s schedule

theorem run_onlyPreview (L : Lib) (w : World) (key : Option String) (p : Preview) (answer : Option String)
    (schedule : List PreviewEvent) :
    (previewing L).run (onlyPreview w key p) (.step 0 answer :: schedule) =
        (previewing L).run (onlyPreview w (p.assigns.getD key) (p.move key answer)) schedule ∧
      sent L (onlyPreview w key p) (.step 0 answer :: schedule) =
        (p.sends key answer).toList ++ sent L (onlyPreview w (p.assigns.getD key) (p.move key answer)) schedule := by
  rw [Machine.run_cons, sent, Machine.collected, Machine.next, Machine.out, step_onlyPreview]
  exact ⟨rfl, rfl⟩

/-- a request that is refused at its beginning sends nothing -/
theorem generateEmailBody_unread {db : Db} {q : PreviewRequest} (h : readPreview db q = none) (key : Option String)
    (openai : LetterPart → Option String) :
    (generateEmailBody db key q openai).key = key ∧ (generateEmailBody db key q openai).asked = [] := by
  unfold readPreview at h
  unfold generateEmailBody
  split
  · exact ⟨rfl, rfl⟩
  · exact ⟨rfl, rfl⟩
  · exact ⟨rfl, rfl⟩
  · rename_i hwho ht hc
    simp only [hwho, ht, hc] at h
    cases h

/-- the steps after the look-up -/
theorem ask_alone (L : Lib) (w : World) (p : Preview) (template : Rec EmailTemplate) (openai : LetterPart → Option String)
    (hp : p.point = .ask template [] letterParts) :
    let key := p.campaign.cols.openaiKey
    let asked := (untilRaise (fun part =>
      ([⟨key, part, part.prompt template.cols, openai part⟩], (openai part).isNone)) letterParts).1
    let s := (previewing L).run (onlyPreview w key p) (aloneSteps openai).tail
    s.world = w ∧ s.key = key ∧ sent L (onlyPreview w key p) (aloneSteps openai).tail = asked ∧
      ∀ p', s.previews 0 = some p' → p'.point = .ended (previewResponse p.db p.admin p.campaign asked) := by
  obtain ⟨db, admin, campaign, t, point⟩ := p
  obtain rfl : point = .ask template [] letterParts := hp
  -- the first completion that raises ends the request, whichever it is
  cases hheader : openai .header <;> cases hbody : openai .body <;> cases hfooter : openai .footer
  all_goals
    simp only [aloneSteps, List.tail_cons, run_onlyPreview, hheader, hbody, hfooter, Preview.move, Preview.sends, Preview.assigns,
      letterParts, untilRaise]
    refine ⟨rfl, rfl, rfl, fun p' hp' => ?_⟩
    cases (onlyPreview_zero _ _ _).symm.trans hp'
    rfl

/-- **A preview that nothing disturbs** sends the completions of the sequential handler, leaves the same key and gives the same
answer. -/
theorem preview_alone (L : Lib) (w : World) (key : Option String) (q : PreviewRequest) (openai : LetterPart → Option String) :
    let out := generateEmailBody w.db key q openai
    let schedule := .begin 0 q :: aloneSteps openai
    ((previewing L).run (noPreviews w key) schedule).world = w ∧
      ((previewing L).run (noPreviews w key) schedule).key = out.key ∧ sent L (noPreviews w key) schedule = out.asked ∧
      ∀ p, ((previewing L).run (noPreviews w key) schedule).previews 0 = some p → p.point = .ended out.resp := by
  intro out schedule
  cases hread : readPreview w.db q with
  | none =>
    obtain ⟨hkey, hasked⟩ := generateEmailBody_unread hread key openai
    have hstep : (previewing L).step (noPreviews w key) (.begin 0 q) = (noPreviews w key, none) := by
      simp only [previewing, previewStep, noPreviews, Pool.empty_apply, hread]
    have hrun : (previewing L).run (noPreviews w key) schedule = noPreviews w key := by
      rw [Machine.run_cons, Machine.next, hstep]
      rfl
    have hsent : sent L (noPreviews w key) schedule = [] := by
      rw [sent, Machine.collected, Machine.out, Machine.next, hstep]
      rfl
    rw [hrun, hsent]
    exact ⟨rfl, hkey.symm, hasked.symm, fun p hp => by cases hp⟩
  | some p =>
    have hstep : (previewing L).step (noPreviews w key) (.begin 0 q) = (onlyPreview w key p, none) := by
      simp only [previewing, previewStep, noPreviews, Pool.empty_apply, hread, onlyPreview]
    have hrun : (previewing L).run (noPreviews w key) schedule = (previewing L).run (onlyPreview w key p) (aloneSteps openai) := by
      rw [Machine.run_cons, Machine.next, hstep]
    have hsent : sent L (noPreviews w key) schedule = sent L (onlyPreview w key p) (aloneSteps openai) := by
      rw [sent, Machine.collected, Machine.out, Machine.next, hstep]
      rfl
    rw [hrun, hsent]
    unfold readPreview at hread
    split at hread
    · rename_i admin t campaign hwho ht hc
      cases hread
      simp only [out, generateEmailBody, hwho, ht, hc]
      cases htemplate : w.db.emailTemplates.get t with
      | none =>
        simp only [aloneSteps, run_onlyPreview, Preview.move, Preview.sends, Preview.assigns, htemplate]
        refine ⟨rfl, rfl, rfl, fun p' hp' => ?_⟩
        cases (onlyPreview_zero _ _ _).symm.trans hp'
        rfl
      | some template =>
        have hask := ask_alone L w ⟨w.db, admin, campaign, t, .ask template [] letterParts⟩ template openai rfl
        obtain ⟨hrun', hsent'⟩ := run_onlyPreview L w key ⟨w.db, admin, campaign, t, .assign⟩ none (aloneSteps openai).tail
        simp only [Preview.assigns, Preview.move, Preview.sends, htemplate, Option.getD_some] at hrun' hsent'
        have hsteps : aloneSteps openai = .step 0 none :: (aloneSteps openai).tail := rfl
        rw [hsteps, hrun', hsent']
        exact hask
    · cases hread

/-! ## Who pays -/

/-- the key that an event assigns -/
def setsKey (s : Previews) : PreviewEvent → Option (Option String)
  | .step n _ => (s.previews n).bind Preview.assigns
  | _ => none

/-- the previews share `openai.api_key` -/
def openaiKey (L : Lib) : (previewing L).Shared Preview (Option String) where
  reg s := s.key
  tasks s := s.previews
  own p := p.campaign.cols.openaiKey
  relies p := p.Asking
  sets := setsKey
  reg_next := by
    intro s e
    cases e with
    | request r => rfl
    | begin n q =>
      simp only [Machine.next, previewing, previewStep, setsKey]
      split <;> rfl
    | step n answer =>
      cases hn : s.previews n with
      | none => simp only [Machine.next, previewing, previewStep, setsKey, hn, Option.bind_none, Option.getD_none]
      | some p => rw [Machine.next, step_step L s hn, setsKey, hn, Option.bind_some]
  relies_next := by
    intro s e n p' hn hasking
    rcases preview_next L s hn with hn | ⟨q, rfl, hread⟩ | ⟨answer, p, rfl, hp, rfl⟩
    · exact Or.inl ⟨p', hn, hasking, rfl⟩
    · obtain ⟨template, asked, part, rest, hpoint⟩ := hasking
      rw [read_point hread] at hpoint
      cases hpoint
    · rw [move_campaign]
      rcases asking_move hasking with hbefore | hassigns
      · exact Or.inl ⟨p, hp, hbefore, rfl⟩
      · right
        rw [setsKey, hp, Option.bind_some, hassigns]
  relies_kept := by
    intro s e k hsets n p hn hasking
    cases e with
    | request r => cases hsets
    | begin m q => cases hsets
    | step m answer =>
      obtain ⟨p', hm, hassigns⟩ := Option.bind_eq_some_iff.1 hsets
      have hne : n ≠ m := by
        rintro rfl
        cases hm.symm.trans hn
        exact not_asking_of_assigns hassigns hasking
      refine ⟨p, ?_, hasking, rfl⟩
      rw [Machine.next, step_step L s hm]
      exact (Pool.put_of_ne _ _ hne).trans hn

/-- whichever preview takes the next step, a completion is sent with the key of its campaign -/
def PaysOwn (L : Lib) (s : Previews) : Prop :=
  ∀ n answer p c, s.previews n = some p → (previewing L).out s (.step n answer) = some c → c.key = p.campaign.cols.openaiKey

theorem paysOwn_iff_owned (L : Lib) (s : Previews) : PaysOwn L s ↔ (openaiKey L).Owned s := by
  constructor
  · rintro h n p hn ⟨template, asked, part, rest, hpoint⟩
    have hout : (previewing L).out s (.step n none) = some ⟨s.key, part, part.prompt template.cols, none⟩ := by
      rw [Machine.out, step_step L s hn]
      simp only [Preview.sends, hpoint]
    exact (h n none p _ hn hout).symm
  · intro h n answer p c hn hout
    rw [Machine.out, step_step L s hn] at hout
    simp only [Preview.sends] at hout
    split at hout
    · rename_i template asked part rest hpoint
      cases hout
      exact (h n p hn ⟨template, asked, part, rest, hpoint⟩).symm
    · cases hout

/-- whenever a preview assigns the key, those with completions left are for campaigns with that key -/
def KeyKept (s : Previews) (e : PreviewEvent) : Prop :=
  ∀ k, setsKey s e = some k → ∀ n p, s.previews n = some p → p.Asking → p.campaign.cols.openaiKey = k

/-- **Previews.** At every point of an interleaving every completion is sent with the key of its own campaign, exactly if no preview
assigns another key while one has completions left. -/
theorem previews_pay_own_iff (L : Lib) (w : World) (key : Option String) (schedule : List PreviewEvent) :
    (previewing L).Always (PaysOwn L) (noPreviews w key) schedule ↔ (previewing L).Along KeyKept (noPreviews w key) schedule := by
  have hstart : (openaiKey L).Owned (noPreviews w key) := by
    intro n p hn
    cases hn
  rw [(previewing L).always_congr fun pre => paysOwn_iff_owned L _]
  exact (openaiKey L).always_owned_iff hstart schedule

namespace Sample

/-- the two sample campaigns with a key of their own and a template each -/
def keyed : World :=
  let template (campaign : ℕ) : EmailTemplate :=
    { header := some "News", body := "of the day", footer := "Bye", compaign := some campaign, ownerId := some (campaign + 1) }
  { Newsletter.Sample.start with
    db :=
      { Newsletter.Sample.start.db with
        course := (Newsletter.Sample.start.db.course.modify 1 fun c => { c with openaiKey := some "sk-1" }).modify 2 fun c =>
          { c with openaiKey := some "sk-2" }
        emailTemplates := (Table.empty.insert (template 1)).insert (template 2) } }

end Sample

/-- two previews at a time: the first one's completion is paid by the other campaign -/
example :
    (sent Newsletter.Sample.lib (noPreviews Sample.keyed none)
      [.begin 0 ⟨some 2, 1, some (some 1)⟩, .begin 1 ⟨some 3, 2, some (some 2)⟩, .step 0 none, .step 1 none,
        .step 0 (some "Good news")]).map AskedPart.key = [some "sk-2"] := by
  rfl

end Concurrency

end Newsletter
