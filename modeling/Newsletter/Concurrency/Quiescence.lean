/-
The status keys come to rest, and so do the pages that poll them.

`statuses_settle`: in every state that an interleaving reaches, a status key whose text is not a final one ("completed", "failed"
or "failed:...") belongs to a task that will still write it: a regeneration whose thread has been started, or a task that has
begun and has not written its result. Once there is none, the key is final and has a time to live, or is gone, so that every poll
of it tells the page to stop.

The invariant is kept key by key (`Calm`). What makes it work is that a request sets "in-progress" together with starting the
thread, and that each task writes its final text before it asks for the time to live.
-/
import Newsletter.Concurrency.Keys

namespace Newsletter.Concurrency

open Newsletter.Core Courses

/-- a text that tells the polling page to stop -/
def Final (text : String) : Prop := text = "completed" ∨ text = "failed" ∨ "failed:".toList <+: text.toList

/-- the run has still to write its result under the key -/
def Generating.Writes (k : String) (g : Generating) : Prop :=
  statusKey g.templateId = k ∧ g.point ≠ .expire ∧ g.point ≠ .ended

/-- the run has written its result and has still to give the key its time to live -/
def Generating.Expires (k : String) (g : Generating) : Prop := statusKey g.templateId = k ∧ g.point = .expire

def Regenerating.Writes (k : String) (r : Regenerating) : Prop :=
  statusKey r.generatedEmailId = k ∧ r.point ≠ .expire ∧ r.point ≠ .ended

def Regenerating.Expires (k : String) (r : Regenerating) : Prop := statusKey r.generatedEmailId = k ∧ r.point = .expire

/-- somebody will write a final text under the key -/
def Pending (s : Tasks) (k : String) : Prop :=
  (∃ id, Thread.regenerateEmailTask id k ∈ s.world.threads) ∨ (∃ n g, s.generating n = some g ∧ g.Writes k) ∨
    ∃ n r, s.regenerating n = some r ∧ r.Writes k

/-- somebody will give the key its time to live -/
def Expiring (s : Tasks) (k : String) : Prop :=
  (∃ n g, s.generating n = some g ∧ g.Expires k) ∨ ∃ n r, s.regenerating n = some r ∧ r.Expires k

/-- the key is absent, or final with a time to live, or somebody is on it -/
def Calm (s : Tasks) (k : String) : Prop :=
  ∀ st, s.world.redis k = some st → (Pending s k ∨ Final st.text) ∧ (Pending s k ∨ Expiring s k ∨ st.expires = true)

/-- a regeneration that fails says so -/
def FailuresFinal (s : Tasks) : Prop := ∀ n r text, s.regenerating n = some r → r.point = .fail text → Final text

theorem calm_of_pending {s : Tasks} {k : String} (h : Pending s k) : Calm s k := fun _ _ => ⟨Or.inl h, Or.inl h⟩

/-- an event that does not touch the key and takes nobody away from it -/
theorem calm_of_same {s s' : Tasks} {k : String} (hredis : s'.world.redis k = s.world.redis k)
    (hpending : Pending s k → Pending s' k) (hexpiring : Expiring s k → Expiring s' k) (h : Calm s k) : Calm s' k := by
  intro st hst
  rw [hredis] at hst
  obtain ⟨htext, httl⟩ := h st hst
  exact ⟨htext.imp_left hpending, httl.imp hpending (Or.imp_left hexpiring)⟩

/-- a key that has just got its final text -/
theorem calm_of_final {s : Tasks} {k : String} (text : String) (hredis : s.world.redis k = some ⟨text, false⟩) (hfinal : Final text)
    (hexpiring : Expiring s k) : Calm s k := by
  intro st hst
  cases hredis.symm.trans hst
  exact ⟨Or.inr hfinal, Or.inr (Or.inl hexpiring)⟩

/-- a key that has just got its time to live -/
theorem calm_of_expire {s s' : Tasks} {k : String}
    (hredis : s'.world.redis k = (s.world.redis k).map fun st => { st with expires := true })
    (hpending : Pending s k → Pending s' k) (h : Calm s k) : Calm s' k := by
  intro st hst
  rw [hredis] at hst
  obtain ⟨st0, hst0, rfl⟩ := Option.map_eq_some_iff.1 hst
  exact ⟨(h st0 hst0).1.imp_left hpending, Or.inr (Or.inr rfl)⟩

/-! ### Steps of the tasks -/

/-- the steps before a run decides on its result -/
def GeneratePoint.undecided : GeneratePoint → Bool
  | .lookUp | .delete _ | .generate _ | .save _ => true
  | .complete | .fail | .expire | .ended => false

/-- before its result a run has the result still to write -/
theorem Generating.move_writes (L : Lib) (db : Db) (env : StepEnv) {g : Generating} (h : g.point.undecided = true) :
    (g.move L db env).point ≠ .expire ∧ (g.move L db env).point ≠ .ended := by
  unfold Generating.move
  cases hp : g.point with
  | lookUp | delete | generate =>
    simp only
    split_ifs <;> simp
  | save emails =>
    simp only
    split_ifs <;> simp
  | complete | fail | expire | ended => simp [hp, GeneratePoint.undecided] at h

theorem Regenerating.move_writes (L : Lib) (db : Db) (ok : Bool) {r : Regenerating} {loaded : GeneratedEmail}
    {body conversation : String} (hp : r.point = .write loaded body conversation) :
    (r.move L db ok).point ≠ .expire ∧ (r.move L db ok).point ≠ .ended := by
  unfold Regenerating.move
  simp only [hp]
  split_ifs <;> simp

theorem calm_generate (L : Lib) {s : Tasks} {n : ℕ} {env : StepEnv} {k : String} (h : Calm s k) :
    Calm ((tasks L).next s (.generate n env)) k := by
  cases hg : s.generating n with
  | none => rwa [next_generate_none L hg]
  | some g =>
    rw [next_generate L hg]
    -- a run that neither writes nor expires the key may change without being missed
    have hpending : ¬ g.Writes k → Pending s k → Pending { s with
        world := g.effect env s.world, generating := s.generating.put n (some (g.move L s.world.db env)) } k := by
      rintro hnot (⟨id, hid⟩ | hrun | hother)
      · exact Or.inl ⟨id, by simpa [Generating.effect, setEmails] using hid⟩
      · refine Or.inr (Or.inl (Pool.exists_put hrun fun g' hg' => ?_))
        cases hg.symm.trans hg'
        exact hnot
      · exact Or.inr (Or.inr hother)
    have hexpiring : ¬ g.Expires k → Expiring s k → Expiring { s with
        world := g.effect env s.world, generating := s.generating.put n (some (g.move L s.world.db env)) } k := by
      rintro hnot (hrun | hother)
      · refine Or.inl (Pool.exists_put hrun fun g' hg' => ?_)
        cases hg.symm.trans hg'
        exact hnot
      · exact Or.inr hother
    by_cases hk : statusKey g.templateId = k
    · subst hk
      have hid : statusKey (g.move L s.world.db env).templateId = statusKey g.templateId := by rw [move_templateId]
      cases hp : g.point with
      | lookUp | delete | generate | save =>
        have hmove := g.move_writes L s.world.db env (by simp [hp, GeneratePoint.undecided])
        exact calm_of_pending (Or.inr (Or.inl (Pool.exists_put_self ⟨hid, hmove⟩ _ _)))
      | complete =>
        refine calm_of_final "completed" ?_ (Or.inl rfl) (Or.inl (Pool.exists_put_self ⟨hid, ?_⟩ _ _))
        · simp [Generating.effect, Generating.note, hp, redisSet_self]
        · simp [Generating.move, hp]
      | fail =>
        refine calm_of_final "failed" ?_ (Or.inr (Or.inl rfl)) (Or.inl (Pool.exists_put_self ⟨hid, ?_⟩ _ _))
        · simp [Generating.effect, Generating.note, hp, redisSet_self]
        · simp [Generating.move, hp]
      | expire =>
        refine calm_of_expire ?_ (hpending fun hw => hw.2.1 hp) h
        simp [Generating.effect, Generating.note, hp, redisExpire, setEmails]
      | ended =>
        refine calm_of_same ?_ (hpending fun hw => hw.2.2 hp) (hexpiring fun hw => ?_) h
        · simp [Generating.effect, Generating.note, hp, setEmails]
        · exact absurd (hp.symm.trans hw.2) (by simp)
    · refine calm_of_same (note_redis_of_ne g _ (Ne.symm hk)) (hpending fun hw => hk hw.1) (hexpiring fun hw => hk hw.1) h

theorem calm_regenerate (L : Lib) {s : Tasks} {n : ℕ} {ok : Bool} {k : String} (hfinal : FailuresFinal s) (h : Calm s k) :
    Calm ((tasks L).next s (.regenerate n ok)) k := by
  cases hr : s.regenerating n with
  | none => rwa [next_regenerate_none L hr]
  | some r =>
    have hnext : (tasks L).next s (.regenerate n ok) =
        { s with world := r.effect ok s.world, regenerating := s.regenerating.put n (some (r.move L s.world.db ok)) } := by
      simp only [Machine.next, tasks, taskStep, hr]
    have hthreads : (r.effect ok s.world).threads = s.world.threads := by
      unfold Regenerating.effect Regenerating.note
      split <;> rfl
    rw [hnext]
    have hpending : ¬ r.Writes k → Pending s k → Pending { s with
        world := r.effect ok s.world, regenerating := s.regenerating.put n (some (r.move L s.world.db ok)) } k := by
      rintro hnot (⟨id, hid⟩ | hrun | hother)
      · exact Or.inl ⟨id, hthreads ▸ hid⟩
      · exact Or.inr (Or.inl hrun)
      · refine Or.inr (Or.inr (Pool.exists_put hother fun r' hr' => ?_))
        cases hr.symm.trans hr'
        exact hnot
    have hexpiring : ¬ r.Expires k → Expiring s k → Expiring { s with
        world := r.effect ok s.world, regenerating := s.regenerating.put n (some (r.move L s.world.db ok)) } k := by
      rintro hnot (hrun | hother)
      · exact Or.inl hrun
      · refine Or.inr (Pool.exists_put hother fun r' hr' => ?_)
        cases hr.symm.trans hr'
        exact hnot
    by_cases hk : statusKey r.generatedEmailId = k
    · subst hk
      have hid : statusKey (r.move L s.world.db ok).generatedEmailId = statusKey r.generatedEmailId := by
        rw [Regenerating.move_id]
      cases hp : r.point with
      | write =>
        have hmove := r.move_writes L s.world.db ok hp
        exact calm_of_pending (Or.inr (Or.inr (Pool.exists_put_self ⟨hid, hmove⟩ _ _)))
      | complete =>
        refine calm_of_final "completed" ?_ (Or.inl rfl) (Or.inr (Pool.exists_put_self ⟨hid, ?_⟩ _ _))
        · simp [Regenerating.effect, Regenerating.note, hp, redisSet_self]
        · simp [Regenerating.move, hp]
      | fail text =>
        refine calm_of_final text ?_ (hfinal n r text hr hp) (Or.inr (Pool.exists_put_self ⟨hid, ?_⟩ _ _))
        · simp [Regenerating.effect, Regenerating.note, hp, redisSet_self]
        · simp [Regenerating.move, hp]
      | expire =>
        refine calm_of_expire ?_ (hpending fun hw => hw.2.1 hp) h
        simp [Regenerating.effect, Regenerating.note, hp, redisExpire, setEmails]
      | ended =>
        refine calm_of_same ?_ (hpending fun hw => hw.2.2 hp) (hexpiring fun hw => ?_) h
        · simp [Regenerating.effect, Regenerating.note, hp, setEmails]
        · exact absurd (hp.symm.trans hw.2) (by simp)
    · exact calm_of_same (r.note_redis_of_ne _ (Ne.symm hk)) (hpending fun hw => hk hw.1) (hexpiring fun hw => hk hw.1) h

theorem calm_beginGenerate (L : Lib) {s : Tasks} {n t : ℕ} {c : Option ℕ} {k : String} (h : Calm s k) :
    Calm ((tasks L).next s (.beginGenerate n t c)) k := by
  simp only [Machine.next, tasks, taskStep]
  split
  · exact h
  · rename_i hn
    by_cases hk : statusKey t = k
    · exact calm_of_pending (Or.inr (Or.inl (Pool.exists_put_self ⟨hk, by simp, by simp⟩ _ _)))
    · refine calm_of_same (redisSet_of_ne _ _ (Ne.symm hk)) ?_ ?_ h
      · rintro (⟨id, hid⟩ | hrun | hother)
        · exact Or.inl ⟨id, (List.mem_erase_of_ne (by simp)).2 hid⟩
        · exact Or.inr (Or.inl (Pool.exists_put hrun fun g hg => by rw [hn] at hg; cases hg))
        · exact Or.inr (Or.inr hother)
      · rintro (hrun | hother)
        · exact Or.inl (Pool.exists_put hrun fun g hg => by rw [hn] at hg; cases hg)
        · exact Or.inr hother

/-- what a regeneration has to do after its reads -/
theorem Regenerating.read_writes (L : Lib) (db : Db) (id : ℕ) (env : RegenerateEnv) :
    (Regenerating.read L db id env).Writes (statusKey id) := by
  refine ⟨rfl, ?_⟩
  simp only [Regenerating.read]
  split <;> simp

theorem calm_beginRegenerate (L : Lib) {s : Tasks} {n id : ℕ} {env : RegenerateEnv} {k : String} (h : Calm s k) :
    Calm ((tasks L).next s (.beginRegenerate n id env)) k := by
  simp only [Machine.next, tasks, taskStep]
  split
  · exact h
  · rename_i hn
    by_cases hk : statusKey id = k
    · subst hk
      exact calm_of_pending (Or.inr (Or.inr (Pool.exists_put_self (Regenerating.read_writes L _ id env) _ _)))
    · refine calm_of_same (s := s) rfl ?_ ?_ h
      · rintro (⟨j, hj⟩ | hrun | hother)
        · refine Or.inl ⟨j, (List.mem_erase_of_ne ?_).2 hj⟩
          rintro ⟨⟩
          exact hk rfl
        · exact Or.inr (Or.inl hrun)
        · exact Or.inr (Or.inr (Pool.exists_put hother fun r hr => by rw [hn] at hr; cases hr))
      · rintro (hrun | hother)
        · exact Or.inl hrun
        · exact Or.inr (Pool.exists_put hother fun r hr => by rw [hn] at hr; cases hr)

theorem calm_lapse (L : Lib) {s : Tasks} {key k : String} (h : Calm s k) : Calm ((tasks L).next s (.lapse key)) k := by
  intro st hst
  have hst' : (redisLapse s.world key).redis k = some st := hst
  by_cases hk : k = key
  · subst hk
    rw [redisLapse_self] at hst'
    exact h st (Option.eq_some_of_filter_eq_some hst')
  · rw [redisLapse_of_ne s.world hk] at hst'
    exact h st hst'

/-! ### Requests -/

/-- the request leaves the status keys alone and takes no regeneration away -/
def Quiet (w w' : World) : Prop :=
  w'.redis = w.redis ∧ ∀ id k, Thread.regenerateEmailTask id k ∈ w.threads → Thread.regenerateEmailTask id k ∈ w'.threads

theorem Quiet.refl (w : World) : Quiet w w := ⟨rfl, fun _ _ h => h⟩

theorem starts_quiet (L : Lib) (w : World) {r : Request} (h : Starts r) : Quiet w (serve L w r).world := by
  rw [starts_world L w h]
  split
  · exact Quiet.refl w
  · exact ⟨rfl, fun _ _ h => List.mem_append_left _ h⟩

/-- every request but `regenerate_email`; a whole thread is not one either -/
theorem serve_quiet (L : Lib) (w : World) (r : Request) (hthread : ∀ i generate regenerate, r ≠ .thread i generate regenerate)
    (hregenerate : ∀ who id, r ≠ .regenerateEmail who id) : Quiet w (serve L w r).world := by
  have h := serve_within L w r
  cases r with
  | dashboard | generateAllEmails | regenerateAllEmails => exact starts_quiet L w trivial
  | thread i generate regenerate => exact absurd rfl (hthread i generate regenerate)
  | regenerateEmail who id => exact absurd rfl (hregenerate who id)
  | _ => exact ⟨h.redis rfl, fun _ _ hmem => (h.threads rfl).symm ▸ hmem⟩

theorem calm_quiet {s : Tasks} {w : World} {k : String} (hquiet : Quiet s.world w) (h : Calm s k) :
    Calm { s with world := w } k := by
  refine calm_of_same (congrFun hquiet.1 k) ?_ id h
  rintro (⟨id, hid⟩ | hrun)
  · exact Or.inl ⟨id, hquiet.2 id k hid⟩
  · exact Or.inr hrun

/-- `regenerate_email` sets "in-progress", and the thread that it starts will write under that key -/
theorem calm_regenerateEmail {s : Tasks} {who : Option ℕ} {id : ℕ} {k : String} (h : Calm s k) :
    Calm { s with world := (regenerateEmail s.world who id).world } k := by
  rw [regenerateEmail_world]
  split_ifs
  · by_cases hk : statusKey id = k
    · subst hk
      exact calm_of_pending (Or.inl ⟨id, List.mem_append_right _ (List.mem_singleton_self _)⟩)
    · refine calm_of_same (redisSet_of_ne _ _ (Ne.symm hk)) ?_ (fun hexpiring => hexpiring) h
      rintro (⟨j, hj⟩ | hrun)
      · exact Or.inl ⟨j, List.mem_append_left _ hj⟩
      · exact Or.inr hrun
  · exact h

theorem redisExpire_redisSet (w : World) (key text : String) :
    (redisExpire (redisSet w key text) key).redis = Function.update w.redis key (some ⟨text, true⟩) := by
  simp [redisExpire, redisSet]

theorem generateAndSaveEmails_redis (L : Lib) (w : World) (t : ℕ) (c : Option ℕ) (env : GenerateEnv) :
    ∃ text, Final text ∧ (generateAndSaveEmails L w t c env).redis =
      Function.update w.redis (statusKey t) (some ⟨text, true⟩) := by
  have htwice : ∀ text, Function.update (redisSet w (statusKey t) "in-progress").redis (statusKey t) (some ⟨text, true⟩) =
      Function.update w.redis (statusKey t) (some ⟨text, true⟩) := fun text => Function.update_idem ..
  simp only [generateAndSaveEmails]
  repeat' split
  · exact ⟨"completed", Or.inl rfl, (redisExpire_redisSet ..).trans (htwice _)⟩
  · exact ⟨"completed", Or.inl rfl, (redisExpire_redisSet ..).trans (htwice _)⟩
  · exact ⟨"failed", Or.inr (Or.inl rfl), (redisExpire_redisSet ..).trans (htwice _)⟩
  · exact ⟨"failed", Or.inr (Or.inl rfl), (redisExpire_redisSet ..).trans (htwice _)⟩

theorem final_append {text : String} (h : "failed:".toList <+: text.toList) (reason : String) : Final (text ++ reason) :=
  Or.inr (Or.inr (by rw [String.toList_append]; exact h.trans (List.prefix_append ..)))

theorem final_unexpectedError (L : Lib) (e : Exn) : Final (unexpectedError L e) := final_append (by decide) _

theorem final_databaseError (L : Lib) : Final (databaseError L) := final_append (by decide) _

theorem regenerateEmailTask_redis (L : Lib) (w : World) (id : ℕ) (key : String) (env : RegenerateEnv) :
    ∃ text, Final text ∧ (regenerateEmailTask L w id key env).redis = Function.update w.redis key (some ⟨text, true⟩) := by
  simp only [regenerateEmailTask]
  repeat' split
  · exact ⟨_, final_unexpectedError L _, redisExpire_redisSet ..⟩
  · exact ⟨"completed", Or.inl rfl, redisExpire_redisSet ..⟩
  · exact ⟨_, final_databaseError L, redisExpire_redisSet ..⟩

/-- a thread that runs as a whole writes its result under its key, with a time to live -/
theorem calm_whole {s : Tasks} {w : World} {i : ℕ} {t : Thread} {key text k : String} (hi : s.world.threads[i]? = some t)
    (hkey : ∀ id, t = .regenerateEmailTask id k → k = key) (hfinal : Final text)
    (hredis : w.redis = Function.update s.world.redis key (some ⟨text, true⟩))
    (hthreads : w.threads = s.world.threads.eraseIdx i) (h : Calm s k) : Calm { s with world := w } k := by
  by_cases hk : k = key
  · subst hk
    intro st hst
    rw [hredis, Function.update_self] at hst
    cases hst
    exact ⟨Or.inr hfinal, Or.inr (Or.inr rfl)⟩
  · refine calm_of_same (s := s) (by simp only [hredis, Function.update_of_ne hk]) ?_ (fun hexpiring => hexpiring) h
    rintro (⟨id, hid⟩ | hrun)
    · refine Or.inl ⟨id, ?_⟩
      rw [hthreads]
      refine (List.mem_eraseIdx_iff_getElem?).2 ?_
      obtain ⟨j, hj⟩ := List.mem_iff_getElem?.1 hid
      refine ⟨j, fun hji => ?_, hj⟩
      subst hji
      exact hk (hkey id (Option.some.inj (hi.symm.trans hj)))
    · exact Or.inr hrun

theorem calm_thread (L : Lib) {s : Tasks} {i : ℕ} {generate : GenerateEnv} {regenerate : RegenerateEnv} {k : String}
    (h : Calm s k) : Calm { s with world := (runThread L s.world i generate regenerate).world } k := by
  unfold runThread
  cases hi : s.world.threads[i]? with
  | none => exact h
  | some t =>
    cases t with
    | generateAndSaveEmails t c =>
      obtain ⟨text, hfinal, hredis⟩ :=
        generateAndSaveEmails_redis L { s.world with threads := s.world.threads.eraseIdx i } t c generate
      have hframe := (generateAndSaveEmails_frame L { s.world with threads := s.world.threads.eraseIdx i } t c generate).1
      exact calm_whole hi (by simp) hfinal hredis hframe.threads h
    | regenerateEmailTask id key =>
      obtain ⟨text, hfinal, hredis⟩ :=
        regenerateEmailTask_redis L { s.world with threads := s.world.threads.eraseIdx i } id key regenerate
      have hframe := (regenerateEmailTask_frame L { s.world with threads := s.world.threads.eraseIdx i } id key regenerate).1
      refine calm_whole hi ?_ hfinal hredis hframe.threads h
      rintro _ ⟨⟩
      rfl

theorem calm_request (L : Lib) {s : Tasks} {r : Request} {k : String} (h : Calm s k) :
    Calm ((tasks L).next s (.request r)) k := by
  cases r with
  | thread i generate regenerate => exact calm_thread L h
  | regenerateEmail who id => exact calm_regenerateEmail h
  | _ => exact calm_quiet (serve_quiet L s.world _ (by simp) (by simp)) h

/-! ### Schedules -/

theorem failuresFinal_next (L : Lib) {s : Tasks} (e : TaskEvent) (h : FailuresFinal s) : FailuresFinal ((tasks L).next s e) := by
  intro n r' text hr' hfail
  rcases regenerating_cases L s hr' with ⟨hr, _⟩ | ⟨id, env, _, _, rfl⟩ | ⟨ok, r, _, hr, rfl⟩
  · exact h n r' text hr hfail
  · simp only [Regenerating.read] at hfail
    split at hfail <;> cases hfail <;> exact final_unexpectedError L _
  · unfold Regenerating.move at hfail
    split at hfail
    · simp only at hfail
      split_ifs at hfail <;> cases hfail
      · exact final_unexpectedError L _
      · exact final_databaseError L
    all_goals cases hfail

theorem calm_next (L : Lib) {s : Tasks} (e : TaskEvent) (hfinal : FailuresFinal s) {k : String} (h : Calm s k) :
    Calm ((tasks L).next s e) k := by
  cases e with
  | request r => exact calm_request L h
  | beginGenerate n t c => exact calm_beginGenerate L h
  | beginRegenerate n id env => exact calm_beginRegenerate L h
  | generate n env => exact calm_generate L h
  | regenerate n ok => exact calm_regenerate L hfinal h
  | lapse key => exact calm_lapse L h
  | beginSend n r | send n opens ok =>
    simp only [Machine.next, tasks, taskStep]
    split <;> exact h

/-- the key is absent, or final with a time to live -/
def Settled (w : World) (k : String) : Prop := ∀ st, w.redis k = some st → Final st.text ∧ st.expires = true

theorem calm_atRest {w : World} {k : String} (h : Settled w k) : Calm (atRest w) k :=
  fun st hst => ⟨Or.inr (h st hst).1, Or.inr (Or.inr (h st hst).2)⟩

/-- no poll tells the page to go on -/
theorem statusAnswer_final {st : Status} (h : Final st.text) :
    statusAnswer (some st) ≠ .json [("status", "in-progress")] 200 := by
  unfold statusAnswer
  simp only
  split_ifs with hempty hfailed
  · simp
  · simp
  · intro heq
    simp only [Response.json.injEq, List.cons.injEq, Prod.mk.injEq, true_and, and_true] at heq
    rcases h with h | h | h
    · exact absurd (h.symm.trans heq) (by decide)
    · exact absurd (h.symm.trans heq) (by decide)
    · exact hfailed h

/-- **Statuses settle.** Along every schedule from a state whose keys are settled: a key that nobody will write has a final
text, so that no poll of it answers "in-progress"; and once nobody has to give it a time to live, it is settled. -/
theorem statuses_settle (L : Lib) {w : World} (hstart : ∀ k, Settled w k) (schedule : List TaskEvent) (id : ℕ) :
    let s := (tasks L).run (atRest w) schedule
    ¬ Pending s (statusKey id) →
      (∀ st, s.world.redis (statusKey id) = some st → Final st.text) ∧
        (∀ who, (emailStatus s.world who id).resp ≠ .json [("status", "in-progress")] 200 ∧
          (generateAllEmailsStatus s.world who id).resp ≠ .json [("status", "in-progress")] 200) ∧
        (¬ Expiring s (statusKey id) → Settled s.world (statusKey id)) := by
  intro s hidle
  have hinv : (∀ k, Calm s k) ∧ FailuresFinal s :=
    (tasks L).run_inv (I := fun s => (∀ k, Calm s k) ∧ FailuresFinal s)
      (fun s e h => ⟨fun k => calm_next L e h.2 (h.1 k), failuresFinal_next L e h.2⟩)
      ⟨fun k => calm_atRest (hstart k), fun n r text hr => by simp [atRest, Pool.empty] at hr⟩ schedule
  have hfinal : ∀ st, s.world.redis (statusKey id) = some st → Final st.text := fun st hst =>
    (hinv.1 _ st hst).1.resolve_left hidle
  have hpoll : statusAnswer (s.world.redis (statusKey id)) ≠ .json [("status", "in-progress")] 200 := by
    cases hst : s.world.redis (statusKey id) with
    | none => simp [statusAnswer]
    | some st => exact statusAnswer_final (hfinal st hst)
  refine ⟨hfinal, fun who => ?_, fun hexpired st hst => ⟨hfinal st hst, ?_⟩⟩
  · simp only [emailStatus, generateAllEmailsStatus, loginRequired]
    cases currentUser s.world.db who with
    | none => simp
    | some admin => exact ⟨hpoll, hpoll⟩
  · exact ((hinv.1 _ st hst).2.resolve_left hidle).resolve_left hexpired

namespace Sample

theorem drafted_settled (k : String) : Settled drafted k := by
  intro st hst
  have hnone : drafted.redis k = none := rfl
  cases hnone.symm.trans hst

/-- after the first run and its thread nobody will write the status of the template -/
theorem firstRun_idle : ¬ Pending ((tasks Newsletter.Sample.lib).run (atRest drafted) firstRun) (statusKey 1) := by
  rintro (⟨id, hid⟩ | ⟨n, g, hg, hwrites⟩ | ⟨n, r, hr, _⟩)
  · have hthreads : ((tasks Newsletter.Sample.lib).run (atRest drafted) firstRun).world.threads = [] := rfl
    rw [hthreads] at hid
    cases hid
  · cases n with
    | zero =>
      have hended : ((tasks Newsletter.Sample.lib).run (atRest drafted) firstRun).generating 0 =
          some ⟨1, some 1, .ended, [1, 2, 3]⟩ := rfl
      cases hended.symm.trans hg
      exact hwrites.2.2 rfl
    | succ n =>
      have hnone : ((tasks Newsletter.Sample.lib).run (atRest drafted) firstRun).generating (n + 1) = none := rfl
      cases hnone.symm.trans hg
  · cases hr

end Sample

/-- the status of the template after the first run -/
theorem statuses_settle_first_run :
    let s := (tasks Newsletter.Sample.lib).run (atRest Sample.drafted) Sample.firstRun
    (∀ st, s.world.redis (statusKey 1) = some st → Final st.text) ∧
      (∀ who, (emailStatus s.world who 1).resp ≠ .json [("status", "in-progress")] 200 ∧
        (generateAllEmailsStatus s.world who 1).resp ≠ .json [("status", "in-progress")] 200) ∧
      (¬ Expiring s (statusKey 1) → Settled s.world (statusKey 1)) :=
  statuses_settle _ Sample.drafted_settled _ 1 Sample.firstRun_idle

end Newsletter.Concurrency
