/-
Messages on their way: the interactive senders of the web server and the executions of the scheduled sender (`sendingmail.py`,
lines 110-187), interleaved with every request.

An execution of `main` is a process of its own. It commits nothing, so that all its reads are from one snapshot, and it hands over
its messages one by one, with three completions for each template in between. The interactive senders are those of `Tasks`: they
read their subscribers and write to them one by one as well. Nobody looks at the status of a subscriber again, so that what a sender
does is settled when it begins (`outbox`).

- `letters_after_leaving`: after a subscriber has left, no sender that begins later writes to the row, an interactive sender in
  progress writes to it at most once, and an execution of `main` in progress at most once for each template of the campaign.
-/
import Newsletter.Concurrency.Tasks
import Newsletter.Mailing
import Newsletter.Schedule
import Newsletter.Routes

namespace Newsletter.Concurrency

open Newsletter.Core Courses

/-- a sender that takes its steps among others -/
inductive Sender where
  /-- `sendemail`, `sendeditedemail` or `send_generated_email` -/
  | interactive (n : ℕ)
  /-- an execution of `main` -/
  | scheduled (n : ℕ)
deriving DecidableEq, Repr

/-- the web server, and what each execution of `main` has still to hand over; one that has ended keeps its name -/
structure Mailroom where
  tasks : Tasks
  scheduled : Pool (List Mail)

inductive MailEvent where
  | task (e : TaskEvent)
  /-- an execution of `main` begins: what it reads is the snapshot of this moment -/
  | beginMain (n : ℕ) (env : MainEnv)
  /-- and hands over its next message -/
  | handOver (n : ℕ)

/-- a message and its sender; `none` for a request that is served as a whole -/
abbrev Handed := Option Sender × Mail

/-- the messages of a request that is served as a whole -/
def wholeLetters (L : Lib) (w : World) : TaskEvent → List Handed
  | .request r => (serve L w r).mails.map (Prod.mk none)
  | _ => []

def Happened.letters : Happened → List Handed
  | .mailed n m => [(some (.interactive n), m)]
  | _ => []

def mailroomStep (L : Lib) (s : Mailroom) : MailEvent → Mailroom × List Handed
  | .task e =>
    ({ s with tasks := (tasks L).next s.tasks e }, wholeLetters L s.tasks.world e ++ ((tasks L).out s.tasks e).letters)
  | .beginMain n env =>
    match s.scheduled n with
    | some _ => (s, [])
    | none => ({ s with scheduled := s.scheduled.put n (some (main s.tasks.world env).mails) }, [])
  | .handOver n =>
    match s.scheduled n with
    | some (m :: rest) => ({ s with scheduled := s.scheduled.put n (some rest) }, [(some (.scheduled n), m)])
    | _ => (s, [])

def mailroom (L : Lib) : Machine Mailroom MailEvent (List Handed) := ⟨mailroomStep L⟩

/-- no sender in progress -/
def noSenders (w : World) : Mailroom := ⟨atRest w, .empty⟩

/-! ## What a sender has left -/

/-- the rows that messages of the sender are for -/
def rowsBy (o : Option Sender) (l : List Handed) : List ℕ := (l.filter fun p => p.1 = o).map fun p => p.2.user

section RowsBy

variable (o : Option Sender)

@[simp] theorem rowsBy_nil : rowsBy o [] = [] := rfl

theorem rowsBy_append (l l' : List Handed) : rowsBy o (l ++ l') = rowsBy o l ++ rowsBy o l' := by
  rw [rowsBy, List.filter_append, List.map_append, rowsBy, rowsBy]

theorem rowsBy_self (m : Mail) : rowsBy o [(o, m)] = [m.user] := by
  simp [rowsBy]

theorem rowsBy_of_ne {o : Option Sender} {l : List Handed} (h : ∀ p ∈ l, p.1 ≠ o) : rowsBy o l = [] := by
  have hnone : (l.filter fun p => p.1 = o) = [] := List.filter_eq_nil_iff.2 fun p hp => by simpa using h p hp
  rw [rowsBy, hnone, List.map_nil]

end RowsBy

/-- the rows that an interactive sender has still to write to -/
def Sending.left (x : Sending) : List ℕ :=
  match x.point with
  | .save users | .loop _ users => users.map Rec.id
  | .ended => []

/-- the rows that a sender has still to write to -/
def Mailroom.left (s : Mailroom) : Sender → List ℕ
  | .interactive n => (s.tasks.sending n).elim [] Sending.left
  | .scheduled n => (s.scheduled n).elim [] fun mails => mails.map Mail.user

/-- the sender has begun -/
def Mailroom.Has (s : Mailroom) : Sender → Prop
  | .interactive n => (s.tasks.sending n).isSome
  | .scheduled n => (s.scheduled n).isSome

/-- the step begins the sender, which would write to these rows if it ran as a whole -/
inductive Begins (s : Mailroom) : MailEvent → Sender → List ℕ → Prop
  | interactive {n : ℕ} {r : SendRequest} {x : Sending} (free : s.tasks.sending n = none)
      (read : r.read s.tasks.world.db = some x) :
      Begins s (.task (.beginSend n r)) (.interactive n) ((activeUsers s.tasks.world.db r.compaign).map Rec.id)
  | scheduled {n : ℕ} {env : MainEnv} (free : s.scheduled n = none) :
      Begins s (.beginMain n env) (.scheduled n) ((main s.tasks.world env).mails.map Mail.user)

/-! ## One step -/

section Step

variable (L : Lib) (s : Mailroom)

/-- an interactive sender writes to the first row it has left, ends, or goes on -/
theorem Sending.left_move (opens ok : Bool) (n : ℕ) (x : Sending) (w : World) :
    rowsBy (some (.interactive n)) (x.happens opens ok n w).letters ++ (x.move L w.uploads).left <+: x.left := by
  obtain ⟨compaign, letter, upload, email, point⟩ := x
  cases point with
  | save users =>
    simp only [Sending.happens, Happened.letters, rowsBy_nil, List.nil_append, Sending.move]
    split
    · exact List.nil_prefix
    · exact List.prefix_rfl
  | loop attachment users =>
    cases users with
    | nil =>
      have hsilent : (Sending.happens opens ok n ⟨compaign, letter, upload, email, .loop attachment []⟩ w).letters = [] := by
        simp only [Sending.happens]
        split
        · split_ifs <;> rfl
        · rfl
      rw [hsilent]
      exact List.nil_prefix
    | cons user users =>
      show rowsBy _ [(some (.interactive n), _)] ++ users.map Rec.id <+: user.id :: users.map Rec.id
      rw [rowsBy_self]
      exact List.prefix_rfl
  | ended => exact List.nil_prefix

theorem happens_mailed {opens ok : Bool} {k n : ℕ} {x : Sending} {w : World} {m : Mail}
    (h : x.happens opens ok k w = .mailed n m) : n = k := by
  unfold Sending.happens at h
  split at h
  · cases h
    rfl
  · split at h
    · split_ifs at h
    · cases h
  · cases h

/-- what a step of a task does to an interactive sender -/
theorem sending_step (t : Tasks) (e : TaskEvent) (n : ℕ) :
    (∃ r x, e = .beginSend n r ∧ t.sending n = none ∧ r.read t.world.db = some x ∧
        ((tasks L).next t e).sending n = some x ∧ (tasks L).out t e = .nothing) ∨
      (∃ opens ok x, e = .send n opens ok ∧ t.sending n = some x ∧
        ((tasks L).next t e).sending n = some (x.move L t.world.uploads) ∧ (tasks L).out t e = x.happens opens ok n t.world) ∨
      (((tasks L).next t e).sending n = t.sending n ∧ ∀ m, (tasks L).out t e ≠ .mailed n m) := by
  cases e with
  | request r => exact Or.inr (Or.inr ⟨rfl, fun m h => by cases h⟩)
  | lapse key => exact Or.inr (Or.inr ⟨rfl, fun m h => by cases h⟩)
  | beginGenerate | beginRegenerate | generate | regenerate =>
    refine Or.inr (Or.inr ?_)
    simp only [Machine.out, Machine.next, tasks, taskStep]
    split <;> exact ⟨rfl, fun m h => by cases h⟩
  | beginSend k r =>
    simp only [Machine.out, Machine.next, tasks, taskStep]
    split
    · rename_i x hfree hread
      by_cases hk : n = k
      · subst hk
        exact Or.inl ⟨r, x, rfl, hfree, hread, Pool.put_self .., rfl⟩
      · exact Or.inr (Or.inr ⟨Pool.put_of_ne _ _ hk, fun m h => by cases h⟩)
    · exact Or.inr (Or.inr ⟨rfl, fun m h => by cases h⟩)
  | send k opens ok =>
    simp only [Machine.out, Machine.next, tasks, taskStep]
    split
    · exact Or.inr (Or.inr ⟨rfl, fun m h => by cases h⟩)
    · rename_i x hx
      by_cases hk : n = k
      · subst hk
        exact Or.inr (Or.inl ⟨opens, ok, x, rfl, hx, Pool.put_self .., rfl⟩)
      · exact Or.inr (Or.inr ⟨Pool.put_of_ne _ _ hk, fun m h => hk (happens_mailed h)⟩)

theorem rowsBy_wholeLetters (w : World) (e : TaskEvent) (q : Sender) : rowsBy (some q) (wholeLetters L w e) = [] := by
  refine rowsBy_of_ne fun p hp => ?_
  cases e with
  | request r =>
    obtain ⟨m, _, rfl⟩ := List.mem_map.1 hp
    simp
  | _ => cases hp

theorem rowsBy_task (e : TaskEvent) (q : Sender) :
    rowsBy (some q) ((mailroom L).out s (.task e)) = rowsBy (some q) ((tasks L).out s.tasks e).letters := by
  show rowsBy (some q) (wholeLetters L s.tasks.world e ++ ((tasks L).out s.tasks e).letters) = _
  rw [rowsBy_append, rowsBy_wholeLetters, List.nil_append]

theorem left_of_not_has {q : Sender} (h : ¬ s.Has q) : s.left q = [] := by
  cases q with
  | interactive n =>
    rw [Mailroom.Has, Option.not_isSome_iff_eq_none] at h
    rw [Mailroom.left, h, Option.elim_none]
  | scheduled n =>
    rw [Mailroom.Has, Option.not_isSome_iff_eq_none] at h
    rw [Mailroom.left, h, Option.elim_none]

/-- a step takes a sender on -/
def Advances (e : MailEvent) (q : Sender) : Prop :=
  Machine.Drain (Begins s e q) (s.Has q) (((mailroom L).next s e).Has q) (rowsBy (some q) ((mailroom L).out s e)) (s.left q)
    (((mailroom L).next s e).left q)

theorem advances_interactive (e : TaskEvent) (n : ℕ) : Advances L s (.task e) (.interactive n) := by
  unfold Advances
  rw [rowsBy_task]
  have hnext : ((mailroom L).next s (.task e)).tasks = (tasks L).next s.tasks e := rfl
  rcases sending_step L s.tasks e n with
    ⟨r, x, rfl, hfree, hread, hslot, hout⟩ | ⟨opens, ok, x, rfl, hx, hslot, hout⟩ | ⟨hslot, hout⟩
  · obtain ⟨hpoint, hcompaign, _⟩ := read_spec hread
    refine .fill (.interactive hfree hread) ?_ ?_ ?_ ?_
    · simp [Mailroom.Has, hfree]
    · simp [Mailroom.Has, hnext, hslot]
    · rw [hout]
      rfl
    · rw [Mailroom.left, hnext, hslot, Option.elim_some, Sending.left, hpoint, hcompaign]
  · refine .take ?_ ?_
    · simp [Mailroom.Has, hnext, hslot, hx]
    · rw [Mailroom.left, hnext, hslot, Mailroom.left, hx, hout]
      exact x.left_move L opens ok n s.tasks.world
  · refine .idle ?_ ?_ ?_
    · rw [Mailroom.Has, Mailroom.Has, hnext, hslot]
    · refine rowsBy_of_ne fun p hp hsender => ?_
      cases hh : (tasks L).out s.tasks e with
      | mailed k m =>
        rw [hh] at hp
        rw [List.mem_singleton.1 hp] at hsender
        cases hsender
        exact hout m hh
      | nothing | sent =>
        rw [hh] at hp
        cases hp
    · rw [Mailroom.left, Mailroom.left, hnext, hslot]

/-- an execution of `main` is not disturbed by a task -/
theorem advances_scheduled (e : TaskEvent) (n : ℕ) : Advances L s (.task e) (.scheduled n) := by
  refine .idle Iff.rfl ?_ rfl
  rw [rowsBy_task]
  refine rowsBy_of_ne fun p hp hsender => ?_
  cases hh : (tasks L).out s.tasks e with
  | mailed k m =>
    rw [hh] at hp
    rw [List.mem_singleton.1 hp] at hsender
    cases hsender
  | nothing | sent =>
    rw [hh] at hp
    cases hp

theorem advances_beginMain (n : ℕ) (env : MainEnv) (q : Sender) : Advances L s (.beginMain n env) q := by
  unfold Advances
  cases hn : s.scheduled n with
  | some mails =>
    have hstep : (mailroom L).step s (.beginMain n env) = (s, []) := by simp only [mailroom, mailroomStep, hn]
    rw [Machine.next, Machine.out, hstep]
    exact .idle Iff.rfl rfl rfl
  | none =>
    have hstep : (mailroom L).step s (.beginMain n env) =
        (⟨s.tasks, s.scheduled.put n (some (main s.tasks.world env).mails)⟩, []) := by simp only [mailroom, mailroomStep, hn]
    rw [Machine.next, Machine.out, hstep]
    cases q with
    | interactive k => exact .idle Iff.rfl rfl rfl
    | scheduled k =>
      by_cases hk : k = n
      · subst hk
        refine .fill (.scheduled hn) ?_ ?_ rfl ?_
        · simp [Mailroom.Has, hn]
        · simp [Mailroom.Has]
        · simp [Mailroom.left]
      · refine .idle ?_ rfl ?_
        · simp [Mailroom.Has, Pool.put_of_ne _ _ hk]
        · simp [Mailroom.left, Pool.put_of_ne _ _ hk]

theorem advances_handOver (n : ℕ) (q : Sender) : Advances L s (.handOver n) q := by
  unfold Advances
  by_cases hn : ∃ m rest, s.scheduled n = some (m :: rest)
  · obtain ⟨m, rest, hn⟩ := hn
    have hstep : (mailroom L).step s (.handOver n) =
        (⟨s.tasks, s.scheduled.put n (some rest)⟩, [(some (.scheduled n), m)]) := by simp only [mailroom, mailroomStep, hn]
    rw [Machine.next, Machine.out, hstep]
    cases q with
    | interactive k => exact .idle Iff.rfl (rowsBy_of_ne fun p hp => by rw [List.mem_singleton.1 hp]; simp) rfl
    | scheduled k =>
      by_cases hk : k = n
      · subst hk
        refine .take ?_ ?_
        · simp [Mailroom.Has, hn]
        · simp [Mailroom.left, hn, rowsBy_self]
      · refine .idle ?_ (rowsBy_of_ne fun p hp => ?_) ?_
        · simp [Mailroom.Has, Pool.put_of_ne _ _ hk]
        · rw [List.mem_singleton.1 hp]
          simpa using Ne.symm hk
        · simp [Mailroom.left, Pool.put_of_ne _ _ hk]
  · have hstep : (mailroom L).step s (.handOver n) = (s, []) := by
      simp only [mailroom, mailroomStep]
      split
      · rename_i m rest hm
        exact absurd ⟨m, rest, hm⟩ hn
      · rfl
    rw [Machine.next, Machine.out, hstep]
    exact .idle Iff.rfl rfl rfl

theorem advances (e : MailEvent) (q : Sender) : Advances L s e q := by
  cases e with
  | task e =>
    cases q with
    | interactive n => exact advances_interactive L s e n
    | scheduled n => exact advances_scheduled L s e n
  | beginMain n env => exact advances_beginMain L s n env q
  | handOver n => exact advances_handOver L s n q

end Step

/-- what a sender has still to write to is filled when it begins and then written to in order -/
def outbox (L : Lib) (q : Sender) : (mailroom L).Store ℕ where
  has s := s.Has q
  left s := s.left q
  taken s e := rowsBy (some q) ((mailroom L).out s e)
  fills s e all := Begins s e q all
  empty s := left_of_not_has s
  step s e := advances L s e q

theorem not_has_noSenders (w : World) (q : Sender) : ¬ (noSenders w).Has q := by
  cases q <;> simp [Mailroom.Has, noSenders, atRest]

/-! ## Who has left -/

/-- the row is there and not active -/
def Departed (k : ℕ) (db : Db) : Prop := ∃ u ∈ db.user.rows, u.id = k ∧ u.cols.status ≠ some 2

/-- the step makes the row active -/
def Activates (L : Lib) (k : ℕ) (s : Mailroom) : MailEvent → Prop
  | .task (.request r) => change L s.tasks.world r = .activate k
  | _ => False

section Departed

variable {L : Lib} {k : ℕ} {db : Db}

theorem Departed.not_active (h : Departed k db) (campaign : ℕ) : k ∉ (activeUsers db campaign).map Rec.id := by
  obtain ⟨u, hu, rfl, hstatus⟩ := h
  intro hmem
  obtain ⟨v, hv, hid⟩ := List.mem_map.1 hmem
  obtain ⟨hrow, hactive⟩ := List.mem_filter.1 hv
  obtain rfl := db.user.id_inj hrow hu hid
  simp only [decide_eq_true_eq] at hactive
  exact hstatus hactive.2

theorem Departed.not_forSubscriber (h : Departed k db) {m : Mail} (hm : ForSubscriber db m) : m.user ≠ k := by
  rintro rfl
  obtain ⟨u, hu, hid, _⟩ := hm
  exact h.not_active m.campaign (hid ▸ List.mem_map_of_mem hu)

theorem Departed.change (h : Departed k db) {c : Change} (hc : c ≠ .activate k) : ∃ u ∈ (c.apply db.user).rows, u.id = k ∧
    u.cols.status ≠ some 2 := by
  obtain ⟨u, hu, rfl, hstatus⟩ := h
  obtain ⟨v, hv, hid, _, hv2⟩ := c.row_persists hu
  refine ⟨v, hv, hid, ?_⟩
  rw [hv2]
  cases c with
  | activate j =>
    have hne : u.id ≠ j := fun hj => hc (by rw [hj])
    simpa only [Change.status, if_neg hne] using hstatus
  | cancel j =>
    simp only [Change.status]
    split_ifs
    · simp
    · exact hstatus
  | none | enrol | link => exact hstatus

/-- the subscribers change by the requests only -/
theorem user_next (s : Mailroom) (e : MailEvent) :
    (∃ r, e = .task (.request r) ∧
        ((mailroom L).next s e).tasks.world.db.user = (change L s.tasks.world r).apply s.tasks.world.db.user) ∨
      ((mailroom L).next s e).tasks.world.db.user = s.tasks.world.db.user := by
  cases e with
  | task e =>
    have hdb : ((mailroom L).next s (.task e)).tasks.world.db = ((tasks L).next s.tasks e).world.db := rfl
    rw [hdb, next_db]
    cases e with
    | request r => exact Or.inl ⟨r, rfl, next_user L s.tasks.world r⟩
    | _ => exact Or.inr rfl
  | beginMain n env =>
    simp only [Machine.next, mailroom, mailroomStep]
    split <;> exact Or.inr rfl
  | handOver n =>
    simp only [Machine.next, mailroom, mailroomStep]
    split <;> exact Or.inr rfl

theorem departed_next {s : Mailroom} {e : MailEvent} (h : Departed k s.tasks.world.db) (he : ¬ Activates L k s e) :
    Departed k ((mailroom L).next s e).tasks.world.db := by
  rcases user_next (L := L) s e with ⟨r, rfl, huser⟩ | huser
  · rw [Departed, huser]
    exact h.change he
  · rw [Departed, huser]
    exact h

end Departed

/-! ## How often a sender writes to one row -/

/-- the messages for the row in what a step hands over for the sender -/
def lettersTo (L : Lib) (k : ℕ) (o : Option Sender) (s : Mailroom) (e : MailEvent) : ℕ :=
  (rowsBy o ((mailroom L).out s e)).count k

/-- the messages for the row that a sender has left; a request that is served as a whole leaves nothing -/
def Mailroom.leftFor (s : Mailroom) (k : ℕ) (o : Option Sender) : ℕ := (o.elim [] s.left).count k

section Leaving

variable {L : Lib} {k : ℕ} {s : Mailroom}

/-- no message of a request is for somebody who has left -/
theorem Departed.count_whole (h : Departed k s.tasks.world.db) (e : MailEvent) :
    (rowsBy none ((mailroom L).out s e)).count k = 0 := by
  refine List.count_eq_zero.2 fun hk => ?_
  obtain ⟨p, hp, rfl⟩ := List.mem_map.1 hk
  obtain ⟨hp, hnone⟩ := List.mem_filter.1 hp
  obtain ⟨o, m⟩ := p
  obtain rfl : o = none := by simpa using hnone
  cases e with
  | task e =>
    rcases List.mem_append.1 hp with hp | hp
    · cases e with
      | request r =>
        obtain ⟨m', hm', heq⟩ := List.mem_map.1 hp
        cases heq
        exact h.not_forSubscriber (mail_origin hm') rfl
      | _ => cases hp
    · cases hh : (tasks L).out s.tasks e with
      | mailed n m' =>
        rw [hh] at hp
        cases List.mem_singleton.1 hp
      | nothing | sent =>
        rw [hh] at hp
        cases hp
  | beginMain n env =>
    simp only [Machine.out, mailroom, mailroomStep] at hp
    split at hp <;> cases hp
  | handOver n =>
    simp only [Machine.out, mailroom, mailroomStep] at hp
    split at hp
    · cases List.mem_singleton.1 hp
    · cases hp

/-- a sender that begins does not write to somebody who has left -/
theorem Departed.count_begins (h : Departed k s.tasks.world.db) {e : MailEvent} {q : Sender} {all : List ℕ}
    (hb : Begins s e q all) : all.count k = 0 := by
  refine List.count_eq_zero.2 fun hk => ?_
  cases hb with
  | @interactive n r x free read => exact h.not_active r.compaign hk
  | scheduled free =>
    obtain ⟨m, hm, rfl⟩ := List.mem_map.1 hk
    exact h.not_forSubscriber (forSubscriber_main hm) rfl

theorem leftFor_next (h : Departed k s.tasks.world.db) (e : MailEvent) (o : Option Sender) :
    lettersTo L k o s e + ((mailroom L).next s e).leftFor k o ≤ s.leftFor k o := by
  cases o with
  | none =>
    rw [lettersTo, h.count_whole]
    exact le_rfl
  | some q =>
    simp only [lettersTo, Mailroom.leftFor, Option.elim_some]
    cases advances L s e q with
    | fill filled before after silent full =>
      rw [silent, full, h.count_begins filled]
      exact Nat.zero_le _
    | take same rest =>
      rw [← List.count_append]
      exact rest.sublist.count_le k

end Leaving

section Main

variable {db : Db} (env : MainEnv) {u : Rec User} {c : ℕ} (hu : u ∈ db.user.rows) (hc : u.cols.courseId = some c)

include hu hc in
theorem campaign_of_active {campaign : ℕ} {v : Rec User} (hv : v ∈ activeUsers db campaign) (hid : v.id = u.id) :
    campaign = c := by
  obtain ⟨hrow, hactive⟩ := List.mem_filter.1 hv
  obtain rfl := db.user.id_inj hrow hu hid
  simp only [decide_eq_true_eq] at hactive
  exact Option.some.inj (hactive.1.symm.trans hc)

theorem mainSend_count (campaign : ℕ) (template : Rec EmailTemplate) (texts : String × String × String) (v : Rec User) :
    (mainSend env campaign template texts v).1.countP (fun m => m.user == u.id) ≤ if v.id = u.id then 1 else 0 := by
  unfold mainSend
  split_ifs with _ hid
  · exact List.countP_le_length
  · simp [hid]
  · simp
  · simp

include hu hc in
theorem mainTemplate_count (campaign : ℕ) (template : Rec EmailTemplate) :
    (mainTemplate env db campaign template).1.countP (fun m => m.user == u.id) ≤ if campaign = c then 1 else 0 := by
  unfold mainTemplate
  split
  · exact Nat.zero_le _
  · rename_i texts _
    refine (count_untilRaise_le _ _ _).trans (sum_le_of_key Rec.id (k := u.id) (nodup_activeUsers db campaign) ?_ ?_)
    · intro v hv
      refine (mainSend_count env campaign template texts v).trans ?_
      by_cases hid : v.id = u.id
      · rw [if_pos hid, if_pos (campaign_of_active hu hc hv hid)]
      · rw [if_neg hid]
        exact Nat.zero_le _
    · intro v _ hid
      have hcount := mainSend_count env (u := u) campaign template texts v
      rw [if_neg hid] at hcount
      exact Nat.le_zero.1 hcount

include hu hc in
theorem mainCampaign_count (campaign : Rec Course) :
    (mainCampaign env db campaign).1.countP (fun m => m.user == u.id) ≤
      if campaign.id = c then (templatesOf db c).length else 0 := by
  have hloop : (untilRaise (mainTemplate env db campaign.id) (templatesOf db campaign.id)).1.countP (fun m => m.user == u.id) ≤
      (templatesOf db campaign.id).length * if campaign.id = c then 1 else 0 := by
    refine (count_untilRaise_le _ _ _).trans ((List.sum_le_card_nsmul _ (if campaign.id = c then 1 else 0) fun x hx => ?_).trans ?_)
    · obtain ⟨t, _, rfl⟩ := List.mem_map.1 hx
      exact mainTemplate_count env hu hc campaign.id t
    · rw [List.length_map, smul_eq_mul]
  by_cases hid : campaign.id = c
  · subst hid
    rw [if_pos rfl, Nat.mul_one] at hloop
    rw [if_pos rfl]
    unfold mainCampaign
    split_ifs
    · exact Nat.zero_le _
    · exact Nat.zero_le _
    · exact hloop
  · rw [if_neg hid, Nat.mul_zero] at hloop
    rw [if_neg hid]
    unfold mainCampaign
    split_ifs
    · exact Nat.zero_le _
    · exact Nat.zero_le _
    · exact hloop

/-- one execution of `main` writes to a row at most once for each template of its campaign -/
theorem main_count_le {w : World} (env : MainEnv) {u : Rec User} {c : ℕ} (hu : u ∈ w.db.user.rows)
    (hc : u.cols.courseId = some c) : ((main w env).mails.map Mail.user).count u.id ≤ (templatesOf w.db c).length := by
  rw [List.count_eq_countP, List.countP_map]
  refine (count_untilRaise_le _ _ _).trans (sum_le_of_key Rec.id (k := c) ?_ ?_ ?_)
  · exact List.Pairwise.map _ (fun _ _ h => h.ne) (w.db.course.all_sorted _)
  · intro campaign _
    exact (mainCampaign_count env hu hc campaign).trans (by split_ifs <;> simp)
  · intro campaign _ hid
    have hcount := mainCampaign_count env hu hc campaign
    rw [if_neg hid] at hcount
    exact Nat.le_zero.1 hcount

end Main

/-! ## After a subscriber has left -/

/-- an interactive sender writes to a row once at most -/
theorem left_interactive_nodup (L : Lib) (w : World) (schedule : List MailEvent) (n : ℕ) :
    (((mailroom L).run (noSenders w) schedule).left (.interactive n)).Nodup := by
  refine (mailroom L).run_inv (I := fun s => (s.left (.interactive n)).Nodup) (fun s e h => ?_)
    (by rw [left_of_not_has _ (not_has_noSenders w _)]; exact List.nodup_nil) schedule
  cases advances L s e (.interactive n) with
  | fill filled before after silent full =>
    rw [full]
    cases filled with
    | interactive free read => exact nodup_activeUsers ..
  | take same rest => exact (List.nodup_append.1 (h.sublist rest.sublist)).2.1

/-- rows stay, with their campaign -/
theorem row_stays (L : Lib) {s : Mailroom} {u : Rec User} (hu : u ∈ s.tasks.world.db.user.rows) (schedule : List MailEvent) :
    ∃ v ∈ ((mailroom L).run s schedule).tasks.world.db.user.rows, v.id = u.id ∧ v.cols.courseId = u.cols.courseId := by
  refine (mailroom L).run_inv
    (I := fun s => ∃ v ∈ s.tasks.world.db.user.rows, v.id = u.id ∧ v.cols.courseId = u.cols.courseId) (fun s e h => ?_)
    ⟨u, hu, rfl, rfl⟩ schedule
  obtain ⟨v, hv, hid, hcourse⟩ := h
  rcases user_next (L := L) s e with ⟨r, _, huser⟩ | huser
  · rw [huser]
    obtain ⟨v', hv', hid', hkept, _⟩ := (change L s.tasks.world r).row_persists hv
    exact ⟨v', hv', hid'.trans hid, hkept.courseId.trans hcourse⟩
  · rw [huser]
    exact ⟨v, hv, hid, hcourse⟩

/-- what an execution of `main` has left for a row is bounded by the templates of the campaign when it began -/
theorem left_scheduled_le (L : Lib) (w : World) (schedule : List MailEvent) (n : ℕ) {u : Rec User} {c : ℕ}
    (hu : u ∈ ((mailroom L).run (noSenders w) schedule).tasks.world.db.user.rows) (hc : u.cols.courseId = some c) :
    ((mailroom L).run (noSenders w) schedule).leftFor u.id (some (.scheduled n)) = 0 ∨
      ∃ pre env post, schedule = pre ++ .beginMain n env :: post ∧
        ((mailroom L).run (noSenders w) schedule).leftFor u.id (some (.scheduled n)) ≤
          (templatesOf ((mailroom L).run (noSenders w) pre).tasks.world.db c).length := by
  rcases (outbox L (.scheduled n)).run (s := noSenders w) (not_has_noSenders w (.scheduled n)) schedule with
    ⟨hnot, _⟩ | ⟨_, pre, e, post, all, rfl, hfills, hall⟩
  · left
    have hempty : ((mailroom L).run (noSenders w) schedule).left (.scheduled n) = [] := left_of_not_has _ hnot
    rw [Mailroom.leftFor, Option.elim_some, hempty]
    rfl
  · have hle : ((mailroom L).run (noSenders w) (pre ++ e :: post)).leftFor u.id (some (.scheduled n)) ≤ all.count u.id :=
      ((List.sublist_append_right ..).trans hall.sublist).count_le u.id
    cases (hfills : Begins _ _ _ _) with
    | @scheduled _ env free =>
      by_cases hzero : ((main ((mailroom L).run (noSenders w) pre).tasks.world env).mails.map Mail.user).count u.id = 0
      · left
        omega
      · refine Or.inr ⟨pre, env, post, rfl, hle.trans ?_⟩
        -- the row was there when the execution began, and has kept its campaign
        obtain ⟨m, hm, hid⟩ := List.mem_map.1 (List.count_pos_iff.1 (Nat.pos_of_ne_zero hzero))
        obtain ⟨v, hv, hmv, _⟩ := forSubscriber_main hm
        have hrow := (List.mem_filter.1 hv).1
        obtain ⟨v', hv', hid', hcourse⟩ := row_stays L hrow (.beginMain n env :: post)
        rw [← Machine.run_append] at hv'
        obtain rfl := Table.id_inj _ hv' hu (hid'.trans (hmv.symm.trans hid))
        have hcount := main_count_le env hrow (hcourse.symm.trans hc)
        rwa [← hmv, hid] at hcount

/-- **After leaving.** Once the row of a subscriber is not active and until a payment makes it active again, nothing that is served
as a whole and no sender that begins later writes to the row; an interactive sender in progress writes to it once at most, and an
execution of `main` in progress once at most for each template that the campaign had when the execution began. -/
theorem letters_after_leaving (L : Lib) (w : World) (pre post : List MailEvent) {u : Rec User} {c : ℕ}
    (hu : u ∈ ((mailroom L).run (noSenders w) pre).tasks.world.db.user.rows) (hc : u.cols.courseId = some c)
    (hstatus : u.cols.status ≠ some 2)
    (hpost : (mailroom L).Along (fun s e => ¬ Activates L u.id s e) ((mailroom L).run (noSenders w) pre) post) :
    (mailroom L).total (lettersTo L u.id none) ((mailroom L).run (noSenders w) pre) post = 0 ∧
      (∀ q, ¬ ((mailroom L).run (noSenders w) pre).Has q →
        (mailroom L).total (lettersTo L u.id (some q)) ((mailroom L).run (noSenders w) pre) post = 0) ∧
      (∀ n, (mailroom L).total (lettersTo L u.id (some (.interactive n))) ((mailroom L).run (noSenders w) pre) post ≤ 1) ∧
      ∀ n, (mailroom L).total (lettersTo L u.id (some (.scheduled n))) ((mailroom L).run (noSenders w) pre) post = 0 ∨
        ∃ before env after, pre = before ++ .beginMain n env :: after ∧
          (mailroom L).total (lettersTo L u.id (some (.scheduled n))) ((mailroom L).run (noSenders w) pre) post ≤
            (templatesOf ((mailroom L).run (noSenders w) before).tasks.world.db c).length := by
  have htotal : ∀ o, (mailroom L).total (lettersTo L u.id o) ((mailroom L).run (noSenders w) pre) post ≤
      ((mailroom L).run (noSenders w) pre).leftFor u.id o := by
    intro o
    have huse := Machine.Along.total_le (M := mailroom L) (I := fun s => Departed u.id s.tasks.world.db)
      (f := lettersTo L u.id o) (g := fun s => s.leftFor u.id o) (fun _ _ h he => departed_next h he)
      (fun _ e h _ => leftFor_next h e o) ⟨u, hu, rfl, hstatus⟩ hpost
    omega
  refine ⟨Nat.le_zero.1 (htotal none), fun q hq => ?_, fun n => ?_, fun n => ?_⟩
  · have hzero : ((mailroom L).run (noSenders w) pre).leftFor u.id (some q) = 0 := by
      rw [Mailroom.leftFor, Option.elim_some, left_of_not_has _ hq]
      rfl
    have hle := htotal (some q)
    omega
  · exact (htotal _).trans (List.nodup_iff_count_le_one.1 (left_interactive_nodup L w pre n) u.id)
  · rcases left_scheduled_le L w pre n hu hc with hzero | ⟨before, env, after, hpre, hle⟩
    · left
      have hle := htotal (some (.scheduled n))
      omega
    · exact Or.inr ⟨before, env, after, hpre, (htotal _).trans hle⟩

namespace Sample

/-- everything works -/
def running : MainEnv where
  complete _ _ := some ("News", "Good news", "Bye")
  connect _ _ _ := true
  takes _ _ _ := true

/-- an execution of `main` begins, and the owner of the first campaign removes `ann` -/
def removedMeanwhile : List MailEvent :=
  [.beginMain 0 running, .task (.request (.unsubscribeuser (some 2) 1 1 Newsletter.Sample.working))]

/-- the execution goes on, and another one begins -/
def mailedLater : List MailEvent := [.handOver 0, .handOver 0, .beginMain 1 running, .handOver 1]

end Sample

/-- `ann`, who has been removed, gets the message of the execution that had begun, and no other -/
theorem letters_after_leaving_removed :
    (mailroom Newsletter.Sample.lib).total (lettersTo Newsletter.Sample.lib 1 (some (.scheduled 0)))
        ((mailroom Newsletter.Sample.lib).run (noSenders Newsletter.Sample.scheduled) Sample.removedMeanwhile)
        Sample.mailedLater = 1 ∧
      (mailroom Newsletter.Sample.lib).total (lettersTo Newsletter.Sample.lib 1 (some (.scheduled 1)))
        ((mailroom Newsletter.Sample.lib).run (noSenders Newsletter.Sample.scheduled) Sample.removedMeanwhile)
        Sample.mailedLater = 0 := by
  have hrow : ⟨1, setInactive (addedUser "ann@example.com" 1)⟩ ∈ ((mailroom Newsletter.Sample.lib).run
      (noSenders Newsletter.Sample.scheduled) Sample.removedMeanwhile).tasks.world.db.user.rows := by decide
  refine ⟨by decide +kernel, ?_⟩
  refine (letters_after_leaving Newsletter.Sample.lib Newsletter.Sample.scheduled Sample.removedMeanwhile
    Sample.mailedLater hrow rfl (by decide) ⟨not_false, not_false, not_false, not_false, trivial⟩).2.1 (.scheduled 1) ?_
  unfold Mailroom.Has
  decide +kernel

end Newsletter.Concurrency
