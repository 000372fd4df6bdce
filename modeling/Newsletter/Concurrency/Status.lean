/-
The status of a generation (`app/course/route.py`, lines 207-262, 620-691 and 805-906).

A run of `generate_and_save_emails` for the template `t` and a regeneration of the generated email `t` write the same
Redis key, and a poll reads it. The mark "in-progress" of a generation is written by the thread and not by the request
that starts it, and all runs for one template share the key.

- `completed_truthful_iff`: with no single-email regeneration, a poll answers "completed" only when every run for the
  template has finished, exactly if no request starts a run while the key says "completed", and no run writes "completed"
  while another is unfinished;
- `completed_early`: after a first run, `regenerate_all_emails` has been answered and its thread has not begun.
-/
import Newsletter.Concurrency.Tasks

namespace Newsletter.Concurrency

open Newsletter.Core Courses

/-! ## "completed" -/

/-- the stored status of the template is "completed" -/
def Completed (t : ℕ) (w : World) : Prop := (w.redis (statusKey t)).map Status.text = some "completed"

/-- the run has saved its emails or failed -/
def Generating.Finished (g : Generating) : Prop :=
  match g.point with
  | .complete | .fail | .expire | .ended => True
  | _ => False

/-- the thread of the run has been started and has not begun -/
def Waiting (t : ℕ) (w : World) : Prop := ∃ c, Thread.generateAndSaveEmails t c ∈ w.threads

/-- every run for the template that has been started has finished, the run `n` apart -/
def OthersFinished (t n : ℕ) (s : Tasks) : Prop :=
  ¬ Waiting t s.world ∧ ∀ m g, m ≠ n → s.generating m = some g → g.templateId = t → g.Finished

def AllFinished (t : ℕ) (s : Tasks) : Prop :=
  ¬ Waiting t s.world ∧ ∀ n g, s.generating n = some g → g.templateId = t → g.Finished

def Truthful (t : ℕ) (s : Tasks) : Prop := Completed t s.world → AllFinished t s

/-- a generation, a sending request, or a key that lapses; no single-email regeneration -/
def NoRegeneration : TaskEvent → Prop
  | .request r => Starts r
  | .beginRegenerate .. | .regenerate .. => False
  | _ => True

/-- a request does not start a run while the key says "completed", and a run does not write "completed" while another is
unfinished -/
def NotEarly (t : ℕ) (s : Tasks) : TaskEvent → Prop
  | .request r => ∀ templates c, startsRun s.world r = some (templates, t, c) → ¬ Completed t s.world
  | .generate n _ => ∀ g, s.generating n = some g → g.templateId = t → g.point = .complete → OthersFinished t n s
  | _ => True

theorem waiting_erase_of_ne {t k : ℕ} (h : k ≠ t) (w : World) (c : Option ℕ) :
    Waiting t (takeThread w (.generateAndSaveEmails k c)) ↔ Waiting t w := by
  have hne : ∀ c', Thread.generateAndSaveEmails t c' ≠ .generateAndSaveEmails k c := by
    intro c' heq
    cases heq
    exact h rfl
  exact exists_congr fun c' => List.mem_erase_of_ne (hne c')

theorem truthful_request (L : Lib) {t : ℕ} {s : Tasks} {r : Request} (hr : Starts r) (h : Truthful t s) :
    Truthful t ((tasks L).next s (.request r)) ↔ NotEarly t s (.request r) := by
  have hnext : (tasks L).next s (.request r) = { s with world := (serve L s.world r).world } := rfl
  rw [hnext, starts_world L s.world hr]
  cases hrun : startsRun s.world r with
  | none => exact ⟨fun _ templates c hc => (by rw [hrun] at hc; cases hc), fun _ => h⟩
  | some p =>
    obtain ⟨templates, k, c⟩ := p
    constructor
    · intro hnext templates' c' hc hcompleted
      cases hrun.symm.trans hc
      exact (hnext hcompleted).1 ⟨c, List.mem_append_right _ List.mem_cons_self⟩
    · intro hok hcompleted
      obtain ⟨hwait, hfinished⟩ := h hcompleted
      refine ⟨?_, hfinished⟩
      rintro ⟨c', hc'⟩
      rcases List.mem_append.1 hc' with hc' | hc'
      · exact hwait ⟨c', hc'⟩
      · cases List.mem_singleton.1 hc'
        exact hok templates c hrun hcompleted

theorem truthful_begin (L : Lib) {t : ℕ} {s : Tasks} {n k : ℕ} {c : Option ℕ} (h : Truthful t s) :
    Truthful t ((tasks L).next s (.beginGenerate n k c)) := by
  simp only [Machine.next, tasks, taskStep]
  split
  · exact h
  · intro hcompleted
    by_cases hk : k = t
    · -- the key now says "in-progress"
      subst hk
      simp only [Completed, redisSet_self, Option.map_some, Option.some.injEq] at hcompleted
      exact absurd hcompleted (by decide)
    · have hkey : statusKey t ≠ statusKey k := fun hkey => hk (statusKey_inj hkey).symm
      simp only [Completed, redisSet_of_ne _ _ hkey] at hcompleted
      obtain ⟨hwait, hfinished⟩ := h hcompleted
      refine ⟨fun hw => hwait ((waiting_erase_of_ne hk s.world c).1 hw), fun m g hg ht => ?_⟩
      rcases Pool.put_cases hg with ⟨_, hg⟩ | ⟨_, hg⟩
      · exact hfinished m g hg ht
      · cases hg
        exact absurd ht hk

/-- after a step of run `n`, all runs have finished if the others have and this one has -/
theorem allFinished_put {t n : ℕ} {s : Tasks} {w : World} {g : Generating} (hthreads : w.threads = s.world.threads) :
    AllFinished t { s with world := w, generating := s.generating.put n (some g) } ↔
      OthersFinished t n s ∧ (g.templateId = t → g.Finished) := by
  simp only [AllFinished, OthersFinished, Waiting, hthreads]
  constructor
  · rintro ⟨hwait, hall⟩
    refine ⟨⟨hwait, fun m gm hm hgm => hall m gm ?_⟩, hall n g (Pool.put_self ..)⟩
    rw [Pool.put_of_ne _ _ hm, hgm]
  · rintro ⟨⟨hwait, hothers⟩, hg⟩
    refine ⟨hwait, fun m gm hgm ht => ?_⟩
    rcases Pool.put_cases hgm with ⟨hm, hgm⟩ | ⟨_, hgm⟩
    · exact hothers m gm hm hgm ht
    · cases hgm
      exact hg ht

theorem othersFinished_of_all {t n : ℕ} {s : Tasks} (h : AllFinished t s) : OthersFinished t n s :=
  ⟨h.1, fun m g _ => h.2 m g⟩

/-- what a step of a run does to its key -/
theorem note_completed (g : Generating) (w : World) :
    match g.point with
    | .complete => Completed g.templateId (g.note w)
    | .fail => ¬ Completed g.templateId (g.note w)
    | _ => Completed g.templateId (g.note w) ↔ Completed g.templateId w := by
  unfold Generating.note
  cases g.point with
  | complete => simp only [Completed, redisSet_self, Option.map_some]
  | fail =>
    simp only [Completed, redisSet_self, Option.map_some, Option.some.injEq]
    decide
  | expire => simp only [Completed, redisExpire_text]
  | lookUp | delete | generate | save | ended => exact Iff.rfl

theorem truthful_generate (L : Lib) {t : ℕ} {s : Tasks} {n : ℕ} {env : StepEnv} (h : Truthful t s) :
    Truthful t ((tasks L).next s (.generate n env)) ↔ NotEarly t s (.generate n env) := by
  cases hg : s.generating n with
  | none =>
    rw [next_generate_none L hg]
    exact ⟨fun _ g hg' => by simp [hg] at hg', fun _ => h⟩
  | some g =>
    have hthreads : (g.effect env s.world).threads = s.world.threads := note_threads g _
    have hall := allFinished_put (t := t) (n := n) (g := g.move L s.world.db env) hthreads
    rw [next_generate L hg, Truthful, hall, move_templateId]
    have hvacuous : g.point ≠ .complete → NotEarly t s (.generate n env) := by
      intro hp g' hg' _ hp'
      cases hg.symm.trans hg'
      exact absurd hp' hp
    by_cases ht : g.templateId = t
    · have hstatus := note_completed g (setEmails s.world (g.commit env s.world.db.generatedEmails))
      rw [ht] at hstatus
      cases hp : g.point with
      | lookUp | delete | generate | save =>
        -- the key is unchanged, and it does not say "completed" while this run is unfinished
        refine ⟨fun _ => hvacuous (by simp [hp]), fun _ hc => ?_⟩
        simp only [hp] at hstatus
        have hfinished := (h (hstatus.1 hc)).2 n g hg ht
        simp only [Generating.Finished, hp] at hfinished
      | complete =>
        simp only [hp] at hstatus
        constructor
        · intro hnext g' hg' _ _
          exact (hnext hstatus).1
        · intro hok _
          refine ⟨hok g hg ht hp, fun _ => ?_⟩
          simp only [Generating.Finished, Generating.move, hp]
      | fail =>
        simp only [hp] at hstatus
        exact ⟨fun _ => hvacuous (by simp [hp]), fun _ hc => absurd hc hstatus⟩
      | expire | ended =>
        simp only [hp] at hstatus
        refine ⟨fun _ => hvacuous (by simp [hp]), fun _ hc => ?_⟩
        refine ⟨othersFinished_of_all (h (hstatus.1 hc)), fun _ => ?_⟩
        simp only [Generating.Finished, Generating.move, hp]
    · have hkey : statusKey t ≠ statusKey g.templateId := fun hkey => ht (statusKey_inj hkey).symm
      have hcompleted : Completed t (g.effect env s.world) ↔ Completed t s.world := by
        rw [Completed, Generating.effect, note_redis_of_ne g _ hkey]
        rfl
      refine ⟨fun _ g' hg' ht' => absurd ht' (by cases hg.symm.trans hg'; exact ht), fun _ hc => ?_⟩
      exact ⟨othersFinished_of_all (h (hcompleted.1 hc)), fun ht' => absurd ht' ht⟩

theorem redisLapse_completed {t : ℕ} {w : World} {key : String} (h : Completed t (redisLapse w key)) : Completed t w := by
  by_cases hk : statusKey t = key
  · subst hk
    rw [Completed, redisLapse_self] at h
    obtain ⟨status, hstatus, htext⟩ := Option.map_eq_some_iff.1 h
    rw [Completed, (Option.filter_eq_some_iff.1 hstatus).1, Option.map_some, htext]
  · rw [Completed, redisLapse_of_ne w hk] at h
    exact h

theorem truthful_next_iff (L : Lib) {t : ℕ} {s : Tasks} {e : TaskEvent} (he : NoRegeneration e) (h : Truthful t s) :
    Truthful t ((tasks L).next s e) ↔ NotEarly t s e := by
  cases e with
  | request r => exact truthful_request L he h
  | beginGenerate n k c => exact ⟨fun _ => trivial, fun _ => truthful_begin L h⟩
  | generate n env => exact truthful_generate L h
  | lapse key => exact ⟨fun _ => trivial, fun _ hc => h (redisLapse_completed hc)⟩
  | beginSend n r | send n opens ok =>
    refine ⟨fun _ => trivial, fun _ => ?_⟩
    simp only [Machine.next, tasks, taskStep]
    split <;> exact h
  | beginRegenerate | regenerate => exact absurd he id

/-- nobody is logged out by these events -/
theorem currentUser_next (L : Lib) {s : Tasks} {e : TaskEvent} (he : NoRegeneration e) (who : Option ℕ) :
    currentUser ((tasks L).next s e).world.db who = currentUser s.world.db who := by
  rw [next_db]
  cases e with
  | request r =>
    simp only [starts_world L s.world he]
    cases startsRun s.world r <;> rfl
  | _ => rfl

/-- **"completed" is not reported early**, exactly if no run starts under a key that says "completed" and no run writes it
while another is unfinished. For a poll by any logged-in admin, at any point of the schedule. -/
theorem completed_truthful_iff (L : Lib) (w : World) (who : Option ℕ) (t : ℕ) (schedule : List TaskEvent)
    (hevents : ∀ e ∈ schedule, NoRegeneration e) (hwho : (currentUser w.db who).isSome) (hstart : Truthful t (atRest w)) :
    (tasks L).Always (fun s => (generateAllEmailsStatus s.world who t).resp = .json [("status", "completed")] 200 →
        AllFinished t s) (atRest w) schedule ↔
      (tasks L).Along (NotEarly t) (atRest w) schedule := by
  rw [← (tasks L).always_iff_along_of (fun s e he h => truthful_next_iff L he h) hevents hstart]
  refine forall_congr' fun pre => forall_congr' fun hpre => ?_
  -- the admin is still logged in, so the poll shows the stored text
  have hlogged : (currentUser ((tasks L).run (atRest w) pre).world.db who).isSome :=
    (tasks L).run_inv_of (A := NoRegeneration) (I := fun s => (currentUser s.world.db who).isSome)
      (fun s e he h => by rw [currentUser_next L he who]; exact h) (fun e he => hevents e (hpre.subset he)) hwho
  obtain ⟨admin, hadmin⟩ := Option.isSome_iff_exists.1 hlogged
  simp only [generateAllEmailsStatus, loginRequired, hadmin, statusAnswer_completed_iff]
  rfl

namespace Sample

/-- the first run, from its beginning to its end -/
def firstRun : List TaskEvent := .beginGenerate 0 1 (some 1) :: steps [0, 0, 0, 0, 0, 0]

theorem firstRun_noRegeneration : ∀ e ∈ firstRun, NoRegeneration e := by
  intro e he
  rcases List.mem_cons.1 he with rfl | he
  · exact trivial
  · obtain ⟨n, _, rfl⟩ := List.mem_map.1 he
    exact trivial

end Sample

theorem completed_truthful_iff_first_run :
    (tasks Newsletter.Sample.lib).Always (fun s => (generateAllEmailsStatus s.world (some 2) 1).resp =
        .json [("status", "completed")] 200 → AllFinished 1 s) (atRest Sample.drafted) Sample.firstRun ↔
      (tasks Newsletter.Sample.lib).Along (NotEarly 1) (atRest Sample.drafted) Sample.firstRun :=
  completed_truthful_iff _ _ _ _ _ Sample.firstRun_noRegeneration rfl
    fun h => absurd h (by rw [Completed]; decide)

/-- after the first run `regenerate_all_emails` is answered, and its thread has not begun: a poll answers "completed" -/
theorem completed_early :
    let s := (tasks Newsletter.Sample.lib).run (atRest Sample.drafted)
      (Sample.firstRun ++ [.request (.regenerateAllEmails (some 2) 1)])
    (generateAllEmailsStatus s.world (some 2) 1).resp = .json [("status", "completed")] 200 ∧
      s.world.threads = [.generateAndSaveEmails 1 (some 1)] ∧ ¬ AllFinished 1 s := by
  intro s
  have hthreads : s.world.threads = [.generateAndSaveEmails 1 (some 1)] := rfl
  refine ⟨rfl, hthreads, fun h => h.1 ⟨some 1, ?_⟩⟩
  rw [hthreads]
  exact List.mem_cons_self

end Newsletter.Concurrency
