/-
Attachments of sending requests in progress (`app/course/route.py`, lines 128-141, 529-598 and 768-798).

A sender saves the upload under `secure_filename(attachment.filename)` in the one upload folder, and `send_emails` opens the
file anew for every recipient. Two requests whose file names sanitise to the same name share the file.

- `attachments_right_iff`: in every run of senders, every message carries the bytes uploaded with its request, exactly if
  nobody saves other bytes under a stored name while a request that uses it has recipients left;
- `attachments_crossed`: two campaigns send `report.pdf`.
-/
import Newsletter.Concurrency.Tasks

namespace Newsletter.Concurrency

open Newsletter.Core Courses

/-- a step of a sending request -/
def Sends : TaskEvent → Prop
  | .beginSend .. | .send .. => True
  | _ => False

/-- whichever request takes the next step, its message carries the bytes uploaded with it; a file that cannot be opened is
left out -/
def RightAttachment (L : Lib) (s : Tasks) : Prop :=
  ∀ n opens ok x filename content mail, s.sending n = some x → x.upload = some (filename, content) →
    (tasks L).out s (.send n opens ok) = .mailed n mail →
    mail.attachment = if opens then some (L.secureFilename filename, content) else none

/-- stored name and content of the file that the request saves next -/
def Sending.saves (L : Lib) (x : Sending) : Option (String × List UInt8) :=
  match x.point, x.upload with
  | .save _, some (filename, content) =>
    if L.secureFilename filename = "" then none else some (L.secureFilename filename, content)
  | _, _ => none

/-- stored name and content of the file that the next message of the request is to carry -/
def Sending.needs (L : Lib) (x : Sending) : Option (String × List UInt8) :=
  match x.point, x.upload with
  | .loop _ (_ :: _), some (filename, content) => some (L.secureFilename filename, content)
  | _, _ => none

/-- when a request saves its upload, every request that has recipients left and the same stored name has the same bytes -/
def NotOverwritten (L : Lib) (s : Tasks) : TaskEvent → Prop
  | .send n _ _ => ∀ x name content, s.sending n = some x → x.saves L = some (name, content) →
      ∀ m y bytes, s.sending m = some y → y.needs L = some (name, bytes) → bytes = content
  | _ => True

/-! ## The files that are needed -/

/-- in the loop the stored name is that of the upload -/
def Stored (L : Lib) (s : Tasks) : Prop :=
  ∀ n x attachment users, s.sending n = some x → x.point = .loop attachment users →
    attachment = x.upload.map fun p => L.secureFilename p.1

/-- every file that is needed is there -/
def Intact (L : Lib) (s : Tasks) : Prop :=
  ∀ n x name content, s.sending n = some x → x.needs L = some (name, content) → s.world.uploads name = some content

section Sender

variable (L : Lib) (x : Sending) (uploads : Files)

theorem store_eq : x.store L uploads = (x.saves L).elim uploads fun p => Function.update uploads p.1 (some p.2) := by
  obtain ⟨compaign, letter, upload, email, point⟩ := x
  cases point with
  | loop | ended => rfl
  | save users =>
    rcases upload with _ | ⟨filename, content⟩
    · rfl
    · simp only [Sending.store, Sending.saves, saveUpload]
      split_ifs <;> rfl

theorem move_upload : (x.move L uploads).upload = x.upload := by
  rw [x.move_eq]

/-- what a request needs after a step is what it has just saved, or what it needed before -/
theorem needs_move {p : String × List UInt8} (h : (x.move L uploads).needs L = some p) :
    x.saves L = some p ∨ x.needs L = some p := by
  obtain ⟨compaign, letter, upload, email, point⟩ := x
  rcases upload with _ | ⟨filename, content⟩
  · rw [Sending.needs, move_upload] at h
    split at h
    · rename_i hup
      cases hup
    · cases h
  · cases point with
    | save users =>
      simp only [Sending.move, saveUpload] at h
      by_cases hname : L.secureFilename filename = ""
      · rw [if_pos hname] at h
        cases h
      · rw [if_neg hname] at h
        simp only [Sending.saves, if_neg hname]
        cases users with
        | nil => cases h
        | cons user users => exact Or.inl h
    | loop attachment users =>
      rcases users with _ | ⟨user, _ | ⟨next, users⟩⟩
      · cases h
      · cases h
      · exact Or.inr h
    | ended => cases h

theorem needs_of_saves {p : String × List UInt8} (h : x.saves L = some p) : x.needs L = none := by
  unfold Sending.saves at h
  split at h
  · rename_i hpoint _
    rw [Sending.needs, hpoint]
  · cases h

theorem stored_move
    (h : ∀ attachment users, x.point = .loop attachment users → attachment = x.upload.map fun p => L.secureFilename p.1)
    {attachment : Option String} {users : List (Rec User)} (hp : (x.move L uploads).point = .loop attachment users) :
    attachment = x.upload.map fun p => L.secureFilename p.1 := by
  obtain ⟨compaign, letter, upload, email, point⟩ := x
  cases point with
  | save all =>
    rcases upload with _ | ⟨filename, content⟩
    · cases hp
      rfl
    · simp only [Sending.move, saveUpload] at hp
      split_ifs at hp
      cases hp
      rfl
  | loop name all =>
    cases all with
    | nil => cases hp
    | cons user rest =>
      cases hp
      exact h attachment (user :: users) rfl
  | ended => cases hp

end Sender

section Step

variable (L : Lib) {s : Tasks}

theorem stored_next (h : Stored L s) (e : TaskEvent) : Stored L ((tasks L).next s e) := by
  intro n x' attachment users hx' hp
  rcases sending_cases L s hx' with ⟨hx, _⟩ | ⟨r, _, _, hr⟩ | ⟨opens, ok, x, _, hx, rfl⟩
  · exact h n x' attachment users hx hp
  · rw [(read_spec hr).1] at hp
    cases hp
  · rw [move_upload]
    exact stored_move L x _ (fun attachment users => h n x attachment users hx) hp

theorem uploads_send {n : ℕ} {x : Sending} (hx : s.sending n = some x) (opens ok : Bool) :
    ((tasks L).next s (.send n opens ok)).world.uploads =
      (x.saves L).elim s.world.uploads fun p => Function.update s.world.uploads p.1 (some p.2) := by
  rw [Machine.next, step_send L hx]
  exact store_eq L x _

theorem intact_begin (h : Intact L s) (n : ℕ) (r : SendRequest) : Intact L ((tasks L).next s (.beginSend n r)) := by
  have huploads : ((tasks L).next s (.beginSend n r)).world.uploads = s.world.uploads := by
    simp only [Machine.next, tasks, taskStep]
    split <;> rfl
  intro m x' name content hx' hneeds
  rw [huploads]
  rcases sending_cases L s hx' with ⟨hx, _⟩ | ⟨r', _, _, hr⟩ | ⟨_, _, _, he, _, _⟩
  · exact h m x' name content hx hneeds
  · rw [Sending.needs, (read_spec hr).1] at hneeds
    cases hneeds
  · cases he

theorem intact_send_iff (h : Intact L s) (n : ℕ) (opens ok : Bool) :
    Intact L ((tasks L).next s (.send n opens ok)) ↔ NotOverwritten L s (.send n opens ok) := by
  cases hx : s.sending n with
  | none =>
    rw [next_send_none L hx]
    refine ⟨fun _ x name content hx' => ?_, fun _ => h⟩
    rw [hx] at hx'
    cases hx'
  | some x =>
    have huploads := uploads_send L hx opens ok
    constructor
    · intro hnext x' name content hx' hsaves m y bytes hy hneeds
      cases hx.symm.trans hx'
      have hne : m ≠ n := by
        rintro rfl
        cases hx.symm.trans hy
        rw [needs_of_saves L x hsaves] at hneeds
        cases hneeds
      have hy' : ((tasks L).next s (.send n opens ok)).sending m = some y := by
        rw [Machine.next, step_send L hx]
        exact (Pool.put_of_ne _ _ hne).trans hy
      have hbytes := hnext m y name bytes hy' hneeds
      rw [huploads, hsaves, Option.elim_some, Function.update_self] at hbytes
      exact (Option.some.inj hbytes).symm
    · intro hnot
      -- a file that was needed before is still there, since what is saved under its name is the same
      have hkept : ∀ m y name bytes, s.sending m = some y → y.needs L = some (name, bytes) →
          ((tasks L).next s (.send n opens ok)).world.uploads name = some bytes := by
        intro m y name bytes hy hneeds
        have hbytes := h m y name bytes hy hneeds
        rw [huploads]
        cases hsaves : x.saves L with
        | none => exact hbytes
        | some p =>
          by_cases hname : name = p.1
          · subst hname
            rw [Option.elim_some, Function.update_self, hnot x p.1 p.2 hx hsaves m y bytes hy hneeds]
          · rw [Option.elim_some, Function.update_of_ne hname]
            exact hbytes
      intro m y name bytes hy hneeds
      rcases sending_cases L s hy with ⟨hy, _⟩ | ⟨_, he, _, _⟩ | ⟨_, _, x', he, hx', rfl⟩
      · exact hkept m y name bytes hy hneeds
      · cases he
      · cases he
        rcases needs_move L x' _ hneeds with hsaves | hneeds
        · cases hx.symm.trans hx'
          rw [huploads, hsaves, Option.elim_some, Function.update_self]
        · exact hkept n x' name bytes hx' hneeds

theorem intact_next_iff (h : Intact L s) {e : TaskEvent} (he : Sends e) :
    Intact L ((tasks L).next s e) ↔ NotOverwritten L s e := by
  cases e with
  | beginSend n r => exact iff_of_true (intact_begin L h n r) trivial
  | send n opens ok => exact intact_send_iff L h n opens ok
  | request | beginGenerate | beginRegenerate | generate | regenerate | lapse => exact absurd he not_false

/-- the next messages are right exactly if the files they need are there -/
theorem rightAttachment_iff_intact (h : Stored L s) : RightAttachment L s ↔ Intact L s := by
  constructor
  · intro hright n x name content hx hneeds
    unfold Sending.needs at hneeds
    split at hneeds
    · rename_i attachment user users filename bytes hpoint hupload
      cases hneeds
      have hstored := h n x attachment (user :: users) hx hpoint
      rw [hupload, Option.map_some] at hstored
      have hout : (tasks L).out s (.send n true true) = .mailed n (sendEmails ⟨fun _ => true, fun _ => true, true⟩
          s.world.uploads x.letter x.compaign attachment 0 user) := by
        rw [Machine.out, step_send L hx]
        simp only [Sending.happens, hpoint]
      have hmail := hright n true true x filename content _ hx hupload hout
      simp only [sendEmails, if_true, hstored, Option.bind_some] at hmail
      obtain ⟨bytes, hbytes, heq⟩ := Option.map_eq_some_iff.1 hmail
      cases heq
      exact hbytes
    · cases hneeds
  · intro hintact n opens ok x filename content mail hx hupload hout
    rw [Machine.out, step_send L hx] at hout
    simp only [Sending.happens] at hout
    split at hout
    · rename_i attachment user users hpoint
      cases hout
      have hstored := h n x attachment (user :: users) hx hpoint
      rw [hupload, Option.map_some] at hstored
      have hneeds : x.needs L = some (L.secureFilename filename, content) := by
        rw [Sending.needs, hpoint, hupload]
      have hbytes := hintact n x _ content hx hneeds
      simp only [sendEmails, hstored, Option.bind_some, hbytes, Option.map_some]
    · split at hout
      · split_ifs at hout
      · cases hout
    · cases hout

end Step

/-- **Attachments are not crossed**, exactly if nobody saves other bytes under a stored name that is still needed -/
theorem attachments_right_iff (L : Lib) (w : World) {schedule : List TaskEvent} (h : ∀ e ∈ schedule, Sends e) :
    (tasks L).Always (RightAttachment L) (atRest w) schedule ↔
      (tasks L).Along (NotOverwritten L) (atRest w) schedule := by
  have hstored : ∀ pre, Stored L ((tasks L).run (atRest w) pre) :=
    (tasks L).run_inv (I := Stored L) (fun s e hs => stored_next L hs e)
      fun n x attachment users hn => by simp [atRest] at hn
  have hintact : Intact L (atRest w) := fun n x name content hn => by simp [atRest] at hn
  rw [← (tasks L).always_iff_along_of (I := Intact L) (fun s e he hs => intact_next_iff L hs he) h hintact]
  exact (tasks L).always_congr fun pre => rightAttachment_iff_intact L (hstored pre)

/-! ## Two campaigns with one file name -/

namespace Sample

def letter : SendForm := ⟨"News", "Hello", "Good news", "Bye"⟩

/-- the owners of both campaigns send a `report.pdf`; the second one saves theirs before the first message -/
def reports : List TaskEvent :=
  [.beginSend 0 (.sendemail (some 2) 1 (some (some letter)) (some ("report.pdf", [1]))),
    .beginSend 1 (.sendemail (some 3) 2 (some (some letter)) (some ("report.pdf", [2]))),
    .send 0 true true, .send 1 true true, .send 0 true true]

theorem reports_sends : ∀ e ∈ reports, Sends e := by
  intro e he
  simp only [reports, List.mem_cons, List.not_mem_nil, or_false] at he
  rcases he with rfl | rfl | rfl | rfl | rfl <;> exact trivial

/-- the message of the first request -/
def report : Mail where
  recipient := "ann@example.com"
  subject := some "News"
  header := some "Hello"
  body := "Good news"
  footer := "Bye"
  user := 1
  campaign := 1
  attachment := some ("report.pdf", [2])
  accepted := true

theorem report_mailed :
    (tasks Newsletter.Sample.lib).out ((tasks Newsletter.Sample.lib).run (atRest Sample.oneSubscriber)
      (reports.take 4)) (.send 0 true true) = .mailed 0 report := by
  rfl

/-- its upload has other bytes -/
theorem reports_crossed :
    ¬ (tasks Newsletter.Sample.lib).Always (RightAttachment Newsletter.Sample.lib) (atRest Sample.oneSubscriber)
      reports := by
  intro h
  have hupload : (((tasks Newsletter.Sample.lib).run (atRest Sample.oneSubscriber) (reports.take 4)).sending 0).map
      Sending.upload = some (some ("report.pdf", [1])) := by
    rfl
  obtain ⟨x, hx, hup⟩ := Option.map_eq_some_iff.1 hupload
  have hright := h (reports.take 4) (List.take_prefix ..) 0 true true x _ _ _ hx hup report_mailed
  exact absurd hright (by decide)

end Sample

theorem attachments_crossed :
    (∀ e ∈ Sample.reports, Sends e) ∧
      (mails Newsletter.Sample.lib (atRest Sample.oneSubscriber) Sample.reports).map Mail.attachment =
        [some ("report.pdf", [2])] ∧
      ¬ (tasks Newsletter.Sample.lib).Always (RightAttachment Newsletter.Sample.lib)
        (atRest Sample.oneSubscriber) Sample.reports :=
  ⟨Sample.reports_sends, rfl, Sample.reports_crossed⟩

/-- the second request overwrites a file that is needed -/
theorem attachments_right_iff_reports :
    ¬ (tasks Newsletter.Sample.lib).Along (NotOverwritten Newsletter.Sample.lib) (atRest Sample.oneSubscriber)
      Sample.reports :=
  fun h => Sample.reports_crossed ((attachments_right_iff _ _ Sample.reports_sends).2 h)

end Newsletter.Concurrency
