/-
The sent mark of a generated email (`send_generated_email` and `regenerate_email_task`, `app/course/route.py`, lines
743-804 and 824-888).

A send reads the row, mails its body to every subscriber and then sets `is_sent`; a regeneration reads the row, asks for a
new text and then sets `body` and resets `is_sent`. Neither locks the row, and a commit writes the columns that differ from
what was read: a regeneration that has read `is_sent = False` does not reset it, and a send that has read an old body marks
the new one.

- `sent_mark_belongs`: the body of a row that is marked is the one sent last, in every state of every run in which no
  regeneration of the row commits during a send of it, and no send completes while a regeneration that has read the row
  unmarked is in progress;
- `new_text_marked`: a send and a regeneration that overlap.
-/
import Newsletter.Concurrency.Tasks

namespace Newsletter.Concurrency

open Newsletter.Core Courses

/-- a step of a sending request or of a regeneration; a key may lapse meanwhile -/
def SendsOrRegenerates : TaskEvent → Prop
  | .beginSend .. | .send .. | .beginRegenerate .. | .regenerate .. | .lapse _ => True
  | _ => False

/-! ## The last send -/

/-- the body a completed send of the generated email `g` has mailed -/
def sentBody (g : ℕ) : Happened → Option String
  | .sent id body => if id = g then some body else none
  | _ => none

/-- the body of the last send of `g` that was completed in the run -/
def lastSent (L : Lib) (g : ℕ) (s : Tasks) (schedule : List TaskEvent) : Option String :=
  ((tasks L).assigned (fun s e => sentBody g ((tasks L).out s e)) s schedule).getLast?

/-- if `g` is marked, its body is `last` -/
def MarkBelongs (g : ℕ) (last : Option String) (s : Tasks) : Prop :=
  ∀ row, s.world.db.generatedEmails.get g = some row → row.cols.isSent = true → last = some row.cols.body

/-! ## Sends and regenerations that stay apart -/

/-- a send of `g` in progress -/
def Sending.SendsEmail (g : ℕ) (x : Sending) : Prop := x.email.map Rec.id = some g ∧ x.point ≠ .ended

/-- a regeneration of `g` that has read `loaded` and has not committed -/
def Regenerating.HasRead (g : ℕ) (loaded : GeneratedEmail) (r : Regenerating) : Prop :=
  r.generatedEmailId = g ∧ ∃ body conversation, r.point = .write loaded body conversation

/-- the step completes a send of `g` -/
def Completes (g : ℕ) (s : Tasks) : TaskEvent → Prop
  | .send n _ true => ∃ x attachment, s.sending n = some x ∧ x.SendsEmail g ∧ x.point = .loop attachment []
  | _ => False

/-- the step commits a regeneration of `g` -/
def Rewrites (g : ℕ) (s : Tasks) : TaskEvent → Prop
  | .regenerate n true => ∃ r loaded, s.regenerating n = some r ∧ r.HasRead g loaded
  | _ => False

/-- a regeneration of `g` commits while no send of it is in progress, and a send of `g` completes while no regeneration that
has read `is_sent = False` is -/
def Apart (g : ℕ) (s : Tasks) (e : TaskEvent) : Prop :=
  (Rewrites g s e → ∀ n x, s.sending n = some x → ¬ x.SendsEmail g) ∧
    (Completes g s e → ∀ n r loaded, s.regenerating n = some r → r.HasRead g loaded → loaded.isSent = true)

/-! ## What is known of the row -/

structure Marked (g : ℕ) (last : Option String) (s : Tasks) : Prop where
  mark : MarkBelongs g last s
  /-- a send in progress mails the text that is stored -/
  sending : ∀ n x, s.sending n = some x → x.SendsEmail g →
    ∃ row, s.world.db.generatedEmails.get g = some row ∧ x.letter.body = row.cols.body
  /-- what a regeneration has read unmarked is still unmarked -/
  regenerating : ∀ n r loaded, s.regenerating n = some r → r.HasRead g loaded → loaded.isSent = false →
    ∀ row, s.world.db.generatedEmails.get g = some row → row.cols.isSent = false

section Step

variable {g : ℕ}

theorem sendsEmail_move {L : Lib} {uploads : Files} {x : Sending} (h : (x.move L uploads).SendsEmail g) :
    x.SendsEmail g := by
  have hemail : (x.move L uploads).email = x.email := by rw [x.move_eq]
  refine ⟨hemail ▸ h.1, fun hended => h.2 ?_⟩
  simp only [Sending.move, hended]

theorem not_hasRead_move (L : Lib) (db : Db) (ok : Bool) (r : Regenerating) (loaded : GeneratedEmail) :
    ¬ (r.move L db ok).HasRead g loaded := by
  rintro ⟨_, body, conversation, hpoint⟩
  obtain ⟨id, point⟩ := r
  cases point with
  | write loaded body conversation =>
    simp only [Regenerating.move] at hpoint
    split_ifs at hpoint
  | complete | fail | expire | ended => cases hpoint

theorem hasRead_read {L : Lib} {db : Db} {id : ℕ} {env : RegenerateEnv} {loaded : GeneratedEmail}
    (h : (Regenerating.read L db id env).HasRead g loaded) :
    ∃ row, db.generatedEmails.get g = some row ∧ row.cols = loaded := by
  obtain ⟨hid, body, conversation, hpoint⟩ := h
  obtain rfl : id = g := hid
  simp only [Regenerating.read] at hpoint
  split at hpoint
  · rename_i email _ hemail
    cases hpoint
    exact ⟨email, hemail, rfl⟩
  · cases hpoint
  · cases hpoint

variable (L : Lib) {s : Tasks} {e : TaskEvent}

theorem id_ne_of_not_completes {n : ℕ} {opens : Bool} {x : Sending} {attachment : Option String}
    {email : Rec GeneratedEmail} (hc : ¬ Completes g s (.send n opens true)) (hx : s.sending n = some x)
    (hpoint : x.point = .loop attachment []) (hemail : x.email = some email) : email.id ≠ g := by
  intro hid
  refine hc ⟨x, attachment, hx, ⟨?_, ?_⟩, hpoint⟩
  · rw [hemail, Option.map_some, hid]
  · simp [hpoint]

/-- any other step leaves the row alone -/
theorem row_next (he : SendsOrRegenerates e) (hc : ¬ Completes g s e) (hr : ¬ Rewrites g s e) :
    ((tasks L).next s e).world.db.generatedEmails.get g = s.world.db.generatedEmails.get g := by
  rw [next_emails]
  have heffect := emailsAfter_effect L s (e := e) fun r => by
    rintro rfl
    exact he
  generalize emailsAfter L s e = table at heffect
  cases heffect with
  | keep => rfl
  | delete | save => exact absurd he not_false
  | @rewrite n r loaded body conversation run point =>
    exact Table.get_modify_of_ne _ _ fun hid => hr ⟨r, loaded, run, hid.symm, body, conversation, point⟩
  | mark run point source => exact Table.get_modify_of_ne _ _ (id_ne_of_not_completes hc run point source).symm

/-- a step that does not complete a send of the row reports none -/
theorem sentBody_next (he : SendsOrRegenerates e) (hc : ¬ Completes g s e) : sentBody g ((tasks L).out s e) = none := by
  cases e with
  | request | beginGenerate | generate => exact absurd he not_false
  | lapse key => rfl
  | beginRegenerate n id env | beginSend n r | regenerate n ok =>
    simp only [Machine.out, tasks, taskStep]
    split <;> rfl
  | send n opens ok =>
    cases hn : s.sending n with
    | none =>
      simp only [Machine.out, tasks, taskStep, hn]
      rfl
    | some x =>
      rw [Machine.out, step_send L hn]
      simp only [Sending.happens]
      split
      · rfl
      · rename_i attachment hp
        split
        · rename_i email hemail
          split_ifs
          · rfl
          · exact if_neg (id_ne_of_not_completes hc hn hp hemail)
        · rfl
      · rfl

theorem marked_of_row {last : Option String} (h : Marked g last s)
    (hrow : ((tasks L).next s e).world.db.generatedEmails.get g = s.world.db.generatedEmails.get g) :
    Marked g last ((tasks L).next s e) := by
  refine ⟨fun row => ?_, fun n x' hx' hsends => ?_, fun n r' loaded hr' hread hunsent => ?_⟩
  · rw [hrow]
    exact h.mark row
  · rw [hrow]
    rcases sending_cases L s hx' with ⟨hx, _⟩ | ⟨r, _, _, hread⟩ | ⟨_, _, x, _, hx, rfl⟩
    · exact h.sending n x' hx hsends
    · obtain ⟨email, hemail, hid⟩ := Option.map_eq_some_iff.1 hsends.1
      obtain ⟨hget, hbody⟩ := (read_spec hread).2.2 email hemail
      exact ⟨email, hid ▸ hget, hbody⟩
    · have hletter : (x.move L s.world.uploads).letter = x.letter := by rw [x.move_eq]
      rw [hletter]
      exact h.sending n x hx (sendsEmail_move hsends)
  · rw [hrow]
    rcases regenerating_cases L s hr' with ⟨hr, _⟩ | ⟨id, env, _, _, rfl⟩ | ⟨ok, r, _, _, rfl⟩
    · exact h.regenerating n r' loaded hr hread hunsent
    · obtain ⟨row, hget, rfl⟩ := hasRead_read hread
      intro row' hget'
      cases hget.symm.trans hget'
      exact hunsent
    · exact absurd hread (not_hasRead_move L _ _ r loaded)

/-- a send that completes has mailed what is stored, and marks it -/
theorem marked_completes {last : Option String} (h : Marked g last s) (hc : Completes g s e) (hapart : Apart g s e) :
    Marked g ((sentBody g ((tasks L).out s e)).or last) ((tasks L).next s e) := by
  have hmarked := hapart.2 hc
  cases e with
  | request | beginGenerate | beginRegenerate | beginSend | generate | regenerate | lapse => exact absurd hc not_false
  | send n opens ok =>
    cases ok with
    | false => exact absurd hc not_false
    | true =>
      obtain ⟨x, attachment, hx, hsends, hpoint⟩ := hc
      obtain ⟨email, hemail, hid⟩ := Option.map_eq_some_iff.1 hsends.1
      obtain ⟨row, hrow, hbody⟩ := h.sending n x hx hsends
      have hout : (tasks L).out s (.send n opens true) = .sent g x.letter.body := by
        rw [Machine.out, step_send L hx]
        simp only [Sending.happens, hpoint, hemail, hid, stale_of_get hrow]
        rfl
      have hnext : ((tasks L).next s (.send n opens true)).world.db.generatedEmails.get g =
          some ⟨row.id, flush email.cols (setSent email.cols) row.cols⟩ := by
        rw [next_emails]
        simp only [emailsAfter, hx, Option.elim_some, Sending.commit, hpoint, hemail, hid, Table.get_modify, hrow,
          Option.map_some, Table.setAt_of_eq (Table.get_eq_some_iff.1 hrow).2]
      have hkept : (flush email.cols (setSent email.cols) row.cols).body = row.cols.body := if_pos rfl
      have hlast : (sentBody g ((tasks L).out s (.send n opens true))).or last = some row.cols.body := by
        rw [hout, sentBody, if_pos rfl, Option.some_or, hbody]
      rw [hlast]
      refine ⟨fun row' hrow' _ => ?_, fun m y' hy' hsends' => ⟨_, hnext, ?_⟩, fun m r' loaded hr' hread hunsent => ?_⟩
      · cases hnext.symm.trans hrow'
        rw [hkept]
      · rw [hkept]
        rcases sending_cases L s hy' with ⟨hy, _⟩ | ⟨_, he, _, _⟩ | ⟨_, _, y, _, hy, rfl⟩
        · obtain ⟨row', hrow', hbody'⟩ := h.sending m y' hy hsends'
          cases hrow.symm.trans hrow'
          exact hbody'
        · cases he
        · have hletter : (y.move L s.world.uploads).letter = y.letter := by rw [y.move_eq]
          obtain ⟨row', hrow', hbody'⟩ := h.sending m y hy (sendsEmail_move hsends')
          cases hrow.symm.trans hrow'
          rw [hletter]
          exact hbody'
      · rcases regenerating_cases L s hr' with ⟨hr, _⟩ | ⟨_, _, he, _, _⟩ | ⟨_, _, he, _, _⟩
        · rw [hmarked m r' loaded hr hread] at hunsent
          cases hunsent
        · cases he
        · cases he

/-- a regenerated email is not marked: the mark is reset if it was read, and has not come since if it was not -/
theorem marked_rewrites {last : Option String} (h : Marked g last s) (hr : Rewrites g s e) (hapart : Apart g s e) :
    Marked g ((sentBody g ((tasks L).out s e)).or last) ((tasks L).next s e) := by
  have hnone := hapart.1 hr
  cases e with
  | request | beginGenerate | beginRegenerate | beginSend | generate | send | lapse => exact absurd hr not_false
  | regenerate n ok =>
    cases ok with
    | false => exact absurd hr not_false
    | true =>
      obtain ⟨r, loaded, hr, hread⟩ := hr
      have hbody : sentBody g ((tasks L).out s (.regenerate n true)) = none := by
        simp only [Machine.out, tasks, taskStep, hr]
        rfl
      have hunmarked : ∀ row', ((tasks L).next s (.regenerate n true)).world.db.generatedEmails.get g = some row' →
          row'.cols.isSent = false := by
        intro row' hrow'
        obtain ⟨hid, body, conversation, hpoint⟩ := hread
        rw [next_emails] at hrow'
        simp only [emailsAfter, hr, Option.elim_some, Regenerating.commit, hpoint, hid, Table.get_modify] at hrow'
        obtain ⟨row, hrow, rfl⟩ := Option.map_eq_some_iff.1 hrow'
        rw [Table.setAt_of_eq (Table.get_eq_some_iff.1 hrow).2]
        cases hsent : loaded.isSent with
        | true => simp [flush, rewritten, hsent]
        | false =>
          have hrowSent := h.regenerating n r loaded hr ⟨hid, body, conversation, hpoint⟩ hsent row hrow
          simp [flush, rewritten, hsent, hrowSent]
      rw [hbody, Option.none_or]
      refine ⟨fun row' hrow' hsent => ?_, fun m x' hx' hsends => ?_, fun m r' loaded' _ _ _ => hunmarked⟩
      · rw [hunmarked row' hrow'] at hsent
        cases hsent
      · rcases sending_cases L s hx' with ⟨hx, _⟩ | ⟨_, he, _, _⟩ | ⟨_, _, _, he, _, _⟩
        · exact absurd hsends (hnone m x' hx)
        · cases he
        · cases he

theorem marked_next {last : Option String} (h : Marked g last s) (he : SendsOrRegenerates e) (hapart : Apart g s e) :
    Marked g ((sentBody g ((tasks L).out s e)).or last) ((tasks L).next s e) := by
  by_cases hc : Completes g s e
  · exact marked_completes L h hc hapart
  · by_cases hr : Rewrites g s e
    · exact marked_rewrites L h hr hapart
    · have hrow := row_next L he hc hr
      have hbody := sentBody_next L he hc
      rw [hbody, Option.none_or]
      exact marked_of_row L h hrow

end Step

/-- **The sent mark belongs to the stored text**, in every state of a run in which sends and regenerations of the email stay
apart; `before` is the body that was sent last before the run -/
theorem sent_mark_belongs (L : Lib) (w : World) (g : ℕ) (before : Option String)
    (hbefore : MarkBelongs g before (atRest w)) {schedule : List TaskEvent} (hkind : ∀ e ∈ schedule, SendsOrRegenerates e)
    (hapart : (tasks L).Along (Apart g) (atRest w) schedule) :
    ∀ pre, pre <+: schedule →
      MarkBelongs g ((lastSent L g (atRest w) pre).or before) ((tasks L).run (atRest w) pre) := by
  rintro pre ⟨post, rfl⟩
  have hrest : Marked g before (atRest w) :=
    ⟨hbefore, fun n x hn => by simp [atRest] at hn, fun n r loaded hn => by simp [atRest] at hn⟩
  have halong := ((tasks L).along_of_forall hkind (atRest w)).and hapart
  have hpre := ((tasks L).along_append.1 halong).1
  exact (hpre.inv_register (I := Marked g) (fun last s e hm hok => marked_next L hm hok.1 hok.2) hrest).mark

/-! ## A send and a regeneration that overlap -/

namespace Sample

/-- conversations can be loaded -/
def chat : Lib :=
  { Newsletter.Sample.lib with loads := fun _ => some [⟨"system", "You write newsletters"⟩, ⟨"user", "Write one"⟩] }

/-- the first campaign has a subscriber, an API key, a template and one generated email that has not been sent -/
def unsent : World :=
  { oneSubscriber with
    db :=
      { oneSubscriber.db with
        course := oneSubscriber.db.course.modify 1 fun c => { c with openaiKey := some "sk-1" }
        emailTemplates := Table.empty.insert
          { header := "News", body := "Hello", footer := "Bye", ownerId := some 2, compaign := some 1 }
        generatedEmails := Table.empty.insert
          { header := "News", body := "Good news", footer := "Bye", templateId := 1, conversation := some "[]" } } }

def send : TaskEvent := .beginSend 0 (.sendGeneratedEmail (some 2) 1 1 none)

def regenerate : TaskEvent := .beginRegenerate 0 1 ⟨true, fun _ => .answered "Better news", true⟩

/-- the new text is committed between the message and the mark -/
def overlap : List TaskEvent :=
  [send, .send 0 true true, .send 0 true true, regenerate, .regenerate 0 true, .send 0 true true]

/-- the email is sent, and then regenerated -/
def sentFirst : List TaskEvent :=
  [send, .send 0 true true, .send 0 true true, .send 0 true true, regenerate, .regenerate 0 true]

end Sample

theorem Sample.sentFirst_apart : (tasks Sample.chat).Along (Apart 1) (atRest Sample.unsent) Sample.sentFirst := by
  have hsend : ∀ pre, pre <+: Sample.sentFirst.take 4 → Apart 1 ((tasks Sample.chat).run (atRest Sample.unsent) pre)
      (.send 0 true true) := by
    intro pre hpre
    refine ⟨fun h => absurd h not_false, fun _ n r loaded hr => ?_⟩
    obtain ⟨id, env, hmem⟩ := begun_of_regenerating _ hr
    have hmem4 := hpre.subset hmem
    simp [Sample.sentFirst, Sample.send] at hmem4
  have hregenerate : Apart 1 ((tasks Sample.chat).run (atRest Sample.unsent) (Sample.sentFirst.take 5))
      (.regenerate 0 true) := by
    refine ⟨fun _ n x hx hsends => ?_, fun h => absurd h not_false⟩
    obtain ⟨r, hmem⟩ := begun_of_sending _ hx
    obtain ⟨rfl, _⟩ : n = 0 ∧ r = .sendGeneratedEmail (some 2) 1 1 none := by
      simpa [Sample.sentFirst, Sample.send, Sample.regenerate] using hmem
    have hpoint : (((tasks Sample.chat).run (atRest Sample.unsent) (Sample.sentFirst.take 5)).sending 0).map Sending.point =
        some .ended := by
      rfl
    rw [hx] at hpoint
    exact hsends.2 (Option.some.inj hpoint)
  have hbegin : ∀ s, Apart 1 s Sample.send ∧ Apart 1 s Sample.regenerate := fun s =>
    ⟨⟨fun h => absurd h not_false, fun h => absurd h not_false⟩, fun h => absurd h not_false,
      fun h => absurd h not_false⟩
  exact ⟨(hbegin _).1, hsend (Sample.sentFirst.take 1) (List.take_prefix_take_left (by decide)),
    hsend (Sample.sentFirst.take 2) (List.take_prefix_take_left (by decide)),
    hsend (Sample.sentFirst.take 3) (List.take_prefix_take_left (by decide)), (hbegin _).2, hregenerate, trivial⟩

theorem Sample.unsent_unmarked : MarkBelongs 1 none (atRest Sample.unsent) := by
  intro row hrow hsent
  have hunsent : ((atRest Sample.unsent).world.db.generatedEmails.get 1).map (fun r => r.cols.isSent) = some false := by
    rfl
  rw [hrow] at hunsent
  have hfalse : row.cols.isSent = false := Option.some.inj hunsent
  rw [hfalse] at hsent
  cases hsent

/-- the mark is right while the email is sent and when it has been regenerated -/
theorem sent_mark_belongs_sent_first :
    (((tasks Sample.chat).run (atRest Sample.unsent) (Sample.sentFirst.take 4)).world.db.generatedEmails.get 1).map
        (fun r => (r.cols.body, r.cols.isSent)) = some ("Good news", true) ∧
      ∀ pre, pre <+: Sample.sentFirst → MarkBelongs 1 ((lastSent Sample.chat 1 (atRest Sample.unsent) pre).or none)
        ((tasks Sample.chat).run (atRest Sample.unsent) pre) := by
  refine ⟨rfl, sent_mark_belongs Sample.chat Sample.unsent 1 none Sample.unsent_unmarked ?_ Sample.sentFirst_apart⟩
  intro e he
  simp only [Sample.sentFirst, List.mem_cons, List.not_mem_nil, or_false] at he
  rcases he with rfl | rfl | rfl | rfl | rfl | rfl <;> exact trivial

/-- the regeneration commits between the message and the mark: the new text counts as sent, the old one was mailed -/
theorem new_text_marked :
    let s := (tasks Sample.chat).run (atRest Sample.unsent) Sample.overlap
    (∀ e ∈ Sample.overlap, SendsOrRegenerates e) ∧ MarkBelongs 1 none (atRest Sample.unsent) ∧
      (mails Sample.chat (atRest Sample.unsent) Sample.overlap).map (fun m => (m.body, m.accepted)) =
        [("Good news", true)] ∧
      lastSent Sample.chat 1 (atRest Sample.unsent) Sample.overlap = some "Good news" ∧
      (s.world.db.generatedEmails.get 1).map (fun r => (r.cols.body, r.cols.isSent)) = some ("Better news", true) ∧
      ¬ MarkBelongs 1 (lastSent Sample.chat 1 (atRest Sample.unsent) Sample.overlap) s := by
  intro s
  have hlast : lastSent Sample.chat 1 (atRest Sample.unsent) Sample.overlap = some "Good news" := rfl
  have hrow : (s.world.db.generatedEmails.get 1).map (fun r => (r.cols.body, r.cols.isSent)) =
      some ("Better news", true) := by
    decide +kernel
  refine ⟨?_, Sample.unsent_unmarked, rfl, hlast, hrow, fun h => ?_⟩
  · intro e he
    simp only [Sample.overlap, List.mem_cons, List.not_mem_nil, or_false] at he
    rcases he with rfl | rfl | rfl | rfl | rfl | rfl <;> exact trivial
  · obtain ⟨row, hget, heq⟩ := Option.map_eq_some_iff.1 hrow
    obtain ⟨hbody, hsent⟩ := Prod.mk.inj heq
    have hwrong := h row hget hsent
    rw [hlast, hbody] at hwrong
    exact absurd hwrong (by decide)

end Newsletter.Concurrency
