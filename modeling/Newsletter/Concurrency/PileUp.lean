/-
Concurrent runs of `generate_and_save_emails` for one template (`app/course/route.py`, lines 620-691).

A run deletes the old emails and commits, asks for three completions, and inserts the new emails in a second transaction.
Between the two commits it is `Open`: another run's delete does not see the rows it is going to insert.

- `one_run_iff`: when every run for a template has ended, the template has the three emails of one run exactly if at the
  last delete for the template no other run for it was open;
- `runs_pile_up`: two runs that both delete before either saves leave six emails.
-/
import Newsletter.Concurrency.Tasks

namespace Newsletter.Concurrency

open Newsletter.Core Courses

/-! ## Runs that work -/

/-- the run is between its two commits -/
def Generating.Open (g : Generating) : Prop :=
  match g.point with
  | .generate _ | .save _ => True
  | _ => False

/-- no look-up, commit or completion fails, and the runs for `t` find their template -/
def Works (t : ℕ) (s : Tasks) : TaskEvent → Prop
  | .request r => Starts r
  | .generate n env =>
    env.ok = true ∧ (∀ step attempt, ∃ text, env.api step attempt = .answered text) ∧
      ∀ g, s.generating n = some g → g.templateId = t → (s.world.db.emailTemplates.get t).isSome
  | _ => True

/-- the step commits a delete for `t` -/
def CommitsDelete (t : ℕ) (s : Tasks) (e : TaskEvent) : Prop :=
  ∃ n env g found, e = .generate n env ∧ s.generating n = some g ∧ g.templateId = t ∧ g.point = .delete found

/-- what is known of a run at each point -/
def Generating.Sound (t : ℕ) (g : Generating) : Prop :=
  match g.point with
  | .lookUp | .fail => g.saved = []
  | .delete found | .generate found => g.saved = [] ∧ (g.templateId = t → found = true)
  | .save emails => g.saved = [] ∧ (∀ e ∈ emails, e.templateId = g.templateId) ∧ (g.templateId = t → emails.length = 3)
  | .complete | .expire | .ended => True

def Sound (t : ℕ) (s : Tasks) : Prop := ∀ n g, s.generating n = some g → g.Sound t

/-- an answered completion is never lost -/
theorem generateResponse_answered {api : ℕ → Attempt} (h : ∀ attempt, ∃ text, api attempt = .answered text) :
    ∃ content, generateResponse api 3 = .ok content := by
  obtain ⟨text, htext⟩ := h 0
  simp only [generateResponse, attemptLoop, htext]
  split_ifs
  · exact ⟨_, rfl⟩
  · exact ⟨_, rfl⟩

theorem emailsToSave_length (L : Lib) (template : Rec EmailTemplate) {api : ℕ → ℕ → Attempt}
    (h : ∀ step attempt, ∃ text, api step attempt = .answered text) : (emailsToSave L (some template) api).length = 3 := by
  have hstep : ∀ step, ∃ e, generateStep L (some template) (api step) = some e := by
    intro step
    obtain ⟨content, hcontent⟩ := generateResponse_answered (h step)
    simp only [generateStep, hcontent]
    exact ⟨_, rfl⟩
  obtain ⟨e0, h0⟩ := hstep 0
  obtain ⟨e1, h1⟩ := hstep 1
  obtain ⟨e2, h2⟩ := hstep 2
  simp [emailsToSave, h0, h1, h2]

/-- the emails of an open run for `t` whose template is there -/
theorem emailsToSave_works {L : Lib} {t : Table EmailTemplate} {k : ℕ} {api : ℕ → ℕ → Attempt}
    (hapi : ∀ step attempt, ∃ text, api step attempt = .answered text) (hk : (t.get k).isSome) :
    (emailsToSave L (if true then t.get k else none) api).length = 3 := by
  obtain ⟨template, htemplate⟩ := Option.isSome_iff_exists.1 hk
  rw [if_pos rfl, htemplate]
  exact emailsToSave_length L template hapi

/-- **What a step does to a run that works.** It keeps what it has saved and whether it is open, except for the delete,
which opens it, and the save, which closes it with three rows. -/
theorem move_works {L : Lib} {s : Tasks} {t n : ℕ} {env : StepEnv} {g : Generating} (hs : g.Sound t)
    (hg : s.generating n = some g) (hw : Works t s (.generate n env)) :
    (g.move L s.world.db env).templateId = g.templateId ∧ (g.move L s.world.db env).Sound t ∧
      (g.templateId = t →
        ((∀ emails, g.point ≠ .save emails) ∧ (g.move L s.world.db env).saved = g.saved ∧
          ((g.move L s.world.db env).Open ↔ g.Open)) ∨
        (∃ found, g.point = .delete found) ∨
        ∃ emails, g.point = .save emails ∧ emails.length = 3 ∧ (g.move L s.world.db env).saved =
          List.range' s.world.db.generatedEmails.next emails.length) := by
  obtain ⟨hok, hapi, htemplate⟩ := hw
  obtain ⟨templateId, campaignId, point, saved⟩ := g
  generalize hmove : Generating.move L s.world.db env ⟨templateId, campaignId, point, saved⟩ = g'
  cases point with
  | lookUp =>
    by_cases hc : env.ok = true ∧ (campaignId.bind s.world.db.course.get).isSome = true
    · simp only [Generating.move, if_pos hc] at hmove
      subst hmove
      refine ⟨rfl, ⟨hs, fun (ht : templateId = t) => ?_⟩, fun _ => Or.inl ⟨by simp, rfl, Iff.rfl⟩⟩
      have hthere : (s.world.db.emailTemplates.get t).isSome := htemplate _ hg ht
      exact ht ▸ hthere
    · simp only [Generating.move, if_neg hc] at hmove
      subst hmove
      exact ⟨rfl, hs, fun _ => Or.inl ⟨by simp, rfl, Iff.rfl⟩⟩
  | delete found =>
    simp only [Generating.move, hok, if_true] at hmove
    subst hmove
    exact ⟨rfl, hs, fun _ => Or.inr (Or.inl ⟨found, rfl⟩)⟩
  | generate found =>
    have hlength : templateId = t →
        (emailsToSave L (if found then s.world.db.emailTemplates.get templateId else none) env.api).length = 3 := by
      intro ht
      have hthere : (s.world.db.emailTemplates.get t).isSome := htemplate _ hg ht
      rw [hs.2 ht, ht]
      exact emailsToSave_works hapi hthere
    have hown : ∀ e ∈ emailsToSave L (if found then s.world.db.emailTemplates.get templateId else none) env.api,
        e.templateId = templateId := fun e he => emailsToSave_found he
    simp only [Generating.move] at hmove
    generalize emailsToSave L (if found then s.world.db.emailTemplates.get templateId else none) env.api = emails at *
    by_cases hnil : emails = []
    · rw [if_pos hnil] at hmove
      subst hmove hnil
      exact ⟨rfl, trivial, fun ht => absurd (hlength ht) (by decide)⟩
    · rw [if_neg hnil] at hmove
      subst hmove
      exact ⟨rfl, ⟨hs.1, hown, hlength⟩, fun _ => Or.inl ⟨by simp, rfl, Iff.rfl⟩⟩
  | save emails =>
    simp only [Generating.move, hok, if_true] at hmove
    subst hmove
    exact ⟨rfl, trivial, fun ht => Or.inr (Or.inr ⟨emails, rfl, hs.2.2 ht, rfl⟩)⟩
  | complete | fail | expire | ended =>
    subst hmove
    exact ⟨rfl, trivial, fun _ => Or.inl ⟨by simp, rfl, Iff.rfl⟩⟩

theorem sound_next {L : Lib} {t : ℕ} {s : Tasks} {e : TaskEvent} (h : Sound t s) (hw : Works t s e) :
    Sound t ((tasks L).next s e) := by
  intro m g' hg'
  rcases generating_cases L s hg' with ⟨hg, _⟩ | ⟨k, c, _, _, rfl⟩ | ⟨env, g, rfl, hg, rfl⟩
  · exact h m g' hg
  · exact rfl
  · exact (move_works (h m g hg) hg hw).2.1

/-! ## The emails of the template -/

/-- the ids of the template's emails -/
def ids (s : Tasks) (t : ℕ) : List ℕ := (emailsOf s.world.db t).map Rec.id

theorem ids_eq (s : Tasks) (t : ℕ) : ids s t = (rowsOf s.world.db.generatedEmails t).map Rec.id := rfl

theorem ids_modify (table : Table GeneratedEmail) (t id : ℕ) {f : GeneratedEmail → GeneratedEmail}
    (hf : ∀ g, (f g).templateId = g.templateId) :
    (rowsOf (table.modify id f) t).map Rec.id = (rowsOf table t).map Rec.id := by
  rw [rowsOf_modify table id hf, List.map_map]
  exact List.map_congr_left fun r _ => Table.setAt_id ..

/-- the save of a run for the template -/
theorem ids_save {L : Lib} {t : ℕ} {s : Tasks} {n : ℕ} {env : StepEnv} {g : Generating} {emails : List GeneratedEmail}
    (hs : g.Sound t) (hok : env.ok = true) (hg : s.generating n = some g) (ht : g.templateId = t)
    (hp : g.point = .save emails) :
    ids ((tasks L).next s (.generate n env)) t =
      ids s t ++ List.range' s.world.db.generatedEmails.next emails.length := by
  simp only [Generating.Sound, hp] at hs
  rw [ids_eq, ids_eq, next_emails]
  simp only [emailsAfter, hg, Option.elim_some, Generating.commit, hp, hok]
  rw [rowsOf_insert_self _ fun e he => (hs.2.1 e he).trans ht, List.map_append]
  congr 1
  refine List.ext_getElem (by simp) fun i h1 h2 => ?_
  simp

/-- a step that does not delete leaves the emails of the template, or is the save of a run for it -/
theorem ids_next {L : Lib} {t : ℕ} {s : Tasks} {e : TaskEvent} (hs : Sound t s) (hw : Works t s e)
    (hd : ¬ CommitsDelete t s e) :
    ids ((tasks L).next s e) t = ids s t ∨
      ∃ n env g emails, e = .generate n env ∧ s.generating n = some g ∧ g.templateId = t ∧ g.point = .save emails := by
  rw [ids_eq, ids_eq, next_emails]
  by_cases he : ∃ r, e = .request r
  · obtain ⟨r, rfl⟩ := he
    refine Or.inl ?_
    rw [emailsAfter, starts_world L s.world hw]
    cases startsRun s.world r <;> rfl
  · have heffect := emailsAfter_effect L s (not_exists.1 he)
    generalize emailsAfter L s e = table at heffect
    cases heffect with
    | keep => exact Or.inl rfl
    | @delete n env g found run point =>
      have hne : g.templateId ≠ t := fun ht => hd ⟨n, env, g, found, rfl, run, ht, point⟩
      exact Or.inl (by rw [rowsOf_erase_ne _ hne])
    | @save n env g emails run point =>
      have hsound := hs n g run
      simp only [Generating.Sound, point] at hsound
      by_cases ht : g.templateId = t
      · exact Or.inr ⟨n, env, g, emails, rfl, run, ht, point⟩
      · exact Or.inl (by rw [rowsOf_insert_ne _ fun e he => (hsound.2.1 e he).symm ▸ ht])
    | rewrite | mark => exact Or.inl (ids_modify _ _ _ (flush_templateId rfl))

/-! ## Runs after a delete -/

/-- an open run has saved nothing -/
theorem Generating.Sound.saved_of_open {t : ℕ} {g : Generating} (h : g.Sound t) (ho : g.Open) : g.saved = [] := by
  obtain ⟨templateId, campaignId, point, saved⟩ := g
  cases point with
  | generate found => exact h.1
  | save emails => exact h.1
  | lookUp | delete | complete | fail | expire | ended => exact absurd ho id

section NoDelete

variable {L : Lib} {t : ℕ} {s : Tasks} {e : TaskEvent} (hs : Sound t s) (hw : Works t s e) (hd : ¬ CommitsDelete t s e)

include hs hw hd

/-- a run goes on as it was, or saves three rows, which are added to those of the template -/
theorem run_next {m : ℕ} {g : Generating} (hg : s.generating m = some g) (ht : g.templateId = t) :
    ∃ g', ((tasks L).next s e).generating m = some g' ∧ g'.templateId = t ∧
      (((∀ env emails, e = .generate m env → g.point ≠ .save emails) ∧ g'.saved = g.saved ∧ (g'.Open ↔ g.Open)) ∨
        ∃ env, e = .generate m env ∧ g.Open ∧ g'.saved.length = 3 ∧
          ids ((tasks L).next s e) t = ids s t ++ g'.saved) := by
  rcases generating_persists L s e hg with ⟨hg', hne⟩ | ⟨env, rfl, hg'⟩
  · exact ⟨g, hg', ht, Or.inl ⟨fun env _ he => absurd he (hne env), rfl, Iff.rfl⟩⟩
  · obtain ⟨hid, _, hcases⟩ := move_works (L := L) (hs m g hg) hg hw
    refine ⟨_, hg', hid.trans ht, ?_⟩
    rcases hcases ht with ⟨hp, hquiet⟩ | ⟨found, hp⟩ | ⟨emails, hp, hlen, hsaved⟩
    · exact Or.inl ⟨fun _ emails _ => hp emails, hquiet⟩
    · exact absurd ⟨m, env, g, found, rfl, hg, ht, hp⟩ hd
    · refine Or.inr ⟨env, rfl, by simp only [Generating.Open, hp], ?_, ?_⟩
      · rw [hsaved, List.length_range', hlen]
      · rw [hsaved, ids_save (hs m g hg) hw.1 hg ht hp]

/-- no run opens but by a delete -/
theorem open_next {m : ℕ} {g' : Generating} (hg' : ((tasks L).next s e).generating m = some g') (ht : g'.templateId = t)
    (ho : g'.Open) : ∃ g, s.generating m = some g ∧ g.templateId = t ∧ g.Open := by
  rcases generating_cases L s hg' with ⟨hg, _⟩ | ⟨k, c, _, _, rfl⟩ | ⟨env, g, rfl, hg, rfl⟩
  · exact ⟨g', hg, ht, ho⟩
  · exact absurd ho id
  · obtain ⟨hid, _, hcases⟩ := move_works (L := L) (hs m g hg) hg hw
    have htg : g.templateId = t := hid.symm.trans ht
    refine ⟨g, hg, htg, ?_⟩
    rcases hcases htg with ⟨_, _, hopen⟩ | ⟨found, hp⟩ | ⟨emails, hp, _, _⟩
    · exact hopen.1 ho
    · exact absurd ⟨m, env, g, found, rfl, hg, htg, hp⟩ hd
    · simp only [Generating.Open, hp]

theorem ids_length_le : (ids s t).length ≤ (ids ((tasks L).next s e) t).length := by
  rcases ids_next (L := L) hs hw hd with h | ⟨n, env, g, emails, rfl, hg, ht, hp⟩
  · rw [h]
  · rw [ids_save (hs n g hg) hw.1 hg ht hp, List.length_append]
    omega

end NoDelete

/-- the run is open or has saved its rows -/
def Generating.Counts (t : ℕ) (g : Generating) : Prop := g.templateId = t ∧ (g.Open ∨ g.saved.length = 3)

/-- the rows that two runs have saved since the last delete are all there -/
def BothSave (t j k : ℕ) (s : Tasks) : Prop :=
  ∃ gj gk, s.generating j = some gj ∧ s.generating k = some gk ∧ gj.Counts t ∧ gk.Counts t ∧
    gj.saved.length + gk.saved.length ≤ (ids s t).length

/-- the rows of the template are those that run `k` has saved, and no other run is open -/
def OnlySaves (t k : ℕ) (s : Tasks) : Prop :=
  ∃ g, s.generating k = some g ∧ g.Counts t ∧ ids s t = g.saved ∧
    ∀ m gm, m ≠ k → s.generating m = some gm → gm.templateId = t → ¬ gm.Open

section NoDelete

variable {L : Lib} {t : ℕ} {s : Tasks} {e : TaskEvent} (hs : Sound t s) (hw : Works t s e) (hd : ¬ CommitsDelete t s e)

include hs hw hd

/-- `run_next` for a run that counts: at most it adds three rows of its own -/
theorem counts_next {m : ℕ} {g : Generating} (hg : s.generating m = some g) (hc : g.Counts t) :
    ∃ g', ((tasks L).next s e).generating m = some g' ∧ g'.Counts t ∧
      (((∀ env emails, e = .generate m env → g.point ≠ .save emails) ∧ g'.saved = g.saved) ∨
        ∃ env, e = .generate m env ∧ g.saved = [] ∧ ids ((tasks L).next s e) t = ids s t ++ g'.saved) := by
  obtain ⟨g', hg', ht', ⟨hp, hsaved, hopen⟩ | ⟨env, he, ho, hlen, hids⟩⟩ := run_next (L := L) hs hw hd hg hc.1
  · refine ⟨g', hg', ⟨ht', ?_⟩, Or.inl ⟨hp, hsaved⟩⟩
    rw [hopen, hsaved]
    exact hc.2
  · exact ⟨g', hg', ⟨ht', Or.inr hlen⟩, Or.inr ⟨env, he, (hs m g hg).saved_of_open ho, hids⟩⟩

theorem bothSave_next {j k : ℕ} (hjk : j ≠ k) (h : BothSave t j k s) : BothSave t j k ((tasks L).next s e) := by
  obtain ⟨gj, gk, hj, hk, hcj, hck, hle⟩ := h
  obtain ⟨gj', hj', hcj', hsj⟩ := counts_next (L := L) hs hw hd hj hcj
  obtain ⟨gk', hk', hck', hsk⟩ := counts_next (L := L) hs hw hd hk hck
  have hgrow := ids_length_le (L := L) hs hw hd
  refine ⟨gj', gk', hj', hk', hcj', hck', ?_⟩
  rcases hsj with ⟨_, hsj⟩ | ⟨env, rfl, hnil, hids⟩
  · rcases hsk with ⟨_, hsk⟩ | ⟨env, _, hnil, hids⟩
    · rw [hsj, hsk]
      exact hle.trans hgrow
    · rw [hnil] at hle
      rw [hids, hsj, List.length_append]
      simp only [List.length_nil] at hle
      omega
  · rcases hsk with ⟨_, hsk⟩ | ⟨env', he, _, _⟩
    · rw [hnil] at hle
      rw [hids, hsk, List.length_append]
      simp only [List.length_nil] at hle
      omega
    · cases he
      exact absurd rfl hjk

theorem onlySaves_next {k : ℕ} (h : OnlySaves t k s) : OnlySaves t k ((tasks L).next s e) := by
  obtain ⟨g, hg, hc, hids, hothers⟩ := h
  obtain ⟨g', hg', hc', hsaved⟩ := counts_next (L := L) hs hw hd hg hc
  refine ⟨g', hg', hc', ?_, fun m gm hm hgm ht ho => ?_⟩
  · rcases hsaved with ⟨hnosave, hsaved⟩ | ⟨env, _, hnil, hids'⟩
    · rcases ids_next (L := L) hs hw hd with h | ⟨n, env, gn, emails, rfl, hgn, htn, hp⟩
      · rw [h, hids, hsaved]
      · -- a run that saves is open, so it is run `k`, which does not save in this step
        by_cases hn : n = k
        · subst hn
          cases hgn.symm.trans hg
          exact absurd hp (hnosave env emails rfl)
        · exact absurd (by simp only [Generating.Open, hp]) (hothers n gn hn hgn htn)
    · rw [hids', hids, hnil, List.nil_append]
  · obtain ⟨gm0, hgm0, htm0, ho0⟩ := open_next (L := L) hs hw hd hgm ht ho
    exact hothers m gm0 hm hgm0 htm0 ho0

end NoDelete

/-! ## The last delete -/

/-- no run for the template has got to its delete -/
def NoneDeleted (t : ℕ) (s : Tasks) : Prop :=
  ∀ n g, s.generating n = some g → g.templateId = t → ¬ g.Open ∧ g.saved = []

theorem noneDeleted_next {L : Lib} {t : ℕ} {s : Tasks} {e : TaskEvent} (hs : Sound t s) (h : NoneDeleted t s)
    (hw : Works t s e) (hd : ¬ CommitsDelete t s e) : NoneDeleted t ((tasks L).next s e) := by
  intro m g' hg' ht'
  refine ⟨fun ho => ?_, ?_⟩
  · obtain ⟨g, hg, ht, ho⟩ := open_next (L := L) hs hw hd hg' ht' ho
    exact (h m g hg ht).1 ho
  · rcases generating_cases L s hg' with ⟨hg, _⟩ | ⟨k, c, _, _, rfl⟩ | ⟨env, g, rfl, hg, rfl⟩
    · exact (h m g' hg ht').2
    · rfl
    · obtain ⟨hid, _, _⟩ := move_works (L := L) (hs m g hg) hg hw
      have htg : g.templateId = t := hid.symm.trans ht'
      obtain ⟨g'', hg'', _, ⟨_, hsaved, _⟩ | ⟨_, _, ho, _⟩⟩ := run_next (L := L) hs hw hd hg htg
      · cases hg''.symm.trans hg'
        exact hsaved.trans (h m g hg htg).2
      · exact absurd ho (h m g hg htg).1

section Delete

variable {L : Lib} {t : ℕ} {s : Tasks} {n : ℕ} {env : StepEnv} {g : Generating} {found : Bool}

/-- the delete leaves no email of the template, and an open run -/
theorem delete_next (hok : env.ok = true) (hg : s.generating n = some g) (ht : g.templateId = t)
    (hp : g.point = .delete found) :
    ids ((tasks L).next s (.generate n env)) t = [] ∧
      ((tasks L).next s (.generate n env)).generating = s.generating.put n (some { g with point := .generate found }) := by
  constructor
  · rw [ids_eq, next_emails]
    simp only [emailsAfter, hg, Option.elim_some, Generating.commit, hp, hok]
    rw [ht, rowsOf_erase_self, List.map_nil]
  · simp only [next_generate L hg, Generating.move, hp, hok, if_true]

theorem Generating.Sound.saved_of_delete (h : g.Sound t) (hp : g.point = .delete found) : g.saved = [] := by
  simp only [Generating.Sound, hp] at h
  exact h.1

theorem onlySaves_delete (hs : Sound t s) (hok : env.ok = true) (hg : s.generating n = some g)
    (ht : g.templateId = t) (hp : g.point = .delete found)
    (halone : ∀ m gm, m ≠ n → s.generating m = some gm → gm.templateId = t → ¬ gm.Open) :
    OnlySaves t n ((tasks L).next s (.generate n env)) := by
  obtain ⟨hnil, hpool⟩ := delete_next (L := L) hok hg ht hp
  refine ⟨{ g with point := .generate found }, ?_, ⟨ht, Or.inl trivial⟩, ?_, fun m gm hm hgm htm => ?_⟩
  · rw [hpool, Pool.put_self]
  · rw [hnil, (hs n g hg).saved_of_delete hp]
  · rw [hpool, Pool.put_of_ne _ _ hm] at hgm
    exact halone m gm hm hgm htm

theorem bothSave_delete (hs : Sound t s) (hok : env.ok = true) (hg : s.generating n = some g)
    (ht : g.templateId = t) (hp : g.point = .delete found) {m : ℕ} {gm : Generating} (hm : m ≠ n)
    (hgm : s.generating m = some gm) (htm : gm.templateId = t) (ho : gm.Open) :
    BothSave t m n ((tasks L).next s (.generate n env)) := by
  obtain ⟨_, hpool⟩ := delete_next (L := L) hok hg ht hp
  refine ⟨gm, { g with point := .generate found }, ?_, ?_, ⟨htm, Or.inl ho⟩, ⟨ht, Or.inl trivial⟩, ?_⟩
  · rw [hpool, Pool.put_of_ne _ _ hm, hgm]
  · rw [hpool, Pool.put_self]
  · simp [(hs m gm hgm).saved_of_open ho, (hs n g hg).saved_of_delete hp]

end Delete

/-- the template has the three emails of one run -/
def OneRun (t : ℕ) (s : Tasks) : Prop :=
  ∃ n g, s.generating n = some g ∧ g.templateId = t ∧ g.saved.length = 3 ∧ ids s t = g.saved

/-- at the last delete for the template, no other run for it is open -/
def LastDeleteAlone (L : Lib) (t : ℕ) (s : Tasks) (schedule : List TaskEvent) : Prop :=
  ∃ pre n env post, schedule = pre ++ .generate n env :: post ∧ CommitsDelete t ((tasks L).run s pre) (.generate n env) ∧
    (tasks L).Along (fun s e => ¬ CommitsDelete t s e) ((tasks L).next ((tasks L).run s pre) (.generate n env)) post ∧
    ∀ m g, m ≠ n → ((tasks L).run s pre).generating m = some g → g.templateId = t → ¬ g.Open

/-- **Runs do not pile up, if the last delete is alone.** For any number of interleaved runs that work and have all
ended. -/
theorem one_run_iff (L : Lib) (w : World) (t : ℕ) (schedule : List TaskEvent)
    (hworks : (tasks L).Along (Works t) (atRest w) schedule)
    (hended : ∀ n g, ((tasks L).run (atRest w) schedule).generating n = some g → g.templateId = t → g.point = .ended) :
    OneRun t ((tasks L).run (atRest w) schedule) ↔ LastDeleteAlone L t (atRest w) schedule := by
  have hstart : Sound t (atRest w) := fun n g hn => by simp [atRest] at hn
  have hclosed : ∀ n g, ((tasks L).run (atRest w) schedule).generating n = some g → g.Counts t → g.saved.length = 3 := by
    intro n g hg hc
    refine hc.2.resolve_left fun ho => ?_
    simp only [Generating.Open, hended n g hg hc.1] at ho
  constructor
  · rintro ⟨n0, g0, hg0, ht0, hlen0, hids0⟩
    rcases (tasks L).along_not_or_last (CommitsDelete t) (atRest w) schedule with hnone | ⟨pre, e, post, rfl, hdel, hpost⟩
    · -- without a delete nothing is saved
      have hinv : Sound t ((tasks L).run (atRest w) schedule) ∧ NoneDeleted t ((tasks L).run (atRest w) schedule) :=
        (hworks.and hnone).inv (I := fun s => Sound t s ∧ NoneDeleted t s)
          (fun s e h hok => ⟨sound_next h.1 hok.1, noneDeleted_next h.1 h.2 hok.1 hok.2⟩)
          ⟨hstart, fun n g hn => by simp [atRest] at hn⟩
      have hnil := (hinv.2 n0 g0 hg0 ht0).2
      rw [hnil] at hlen0
      exact absurd hlen0 (by decide)
    · obtain ⟨hpre, hw, hrest⟩ := (tasks L).along_append.1 hworks
      have hs1 : Sound t ((tasks L).run (atRest w) pre) := hpre.inv (fun s e h hok => sound_next h hok) hstart
      obtain ⟨n, env, g, found, rfl, hg, ht, hp⟩ := hdel
      refine ⟨pre, n, env, post, rfl, ⟨n, env, g, found, rfl, hg, ht, hp⟩, hpost, fun m gm hm hgm htm ho => ?_⟩
      -- another open run saves its rows too
      have hboth := bothSave_delete (L := L) hs1 hw.1 hg ht hp hm hgm htm ho
      have hend := (hrest.and hpost).inv (I := fun s => Sound t s ∧ BothSave t m n s)
        (fun s e h hok => ⟨sound_next h.1 hok.1, bothSave_next h.1 hok.1 hok.2 hm h.2⟩) ⟨sound_next hs1 hw, hboth⟩
      obtain ⟨gj, gk, hj, hk, hcj, hck, hle⟩ := hend.2
      rw [Machine.run_append, Machine.run_cons] at hclosed hids0
      have hj3 := hclosed m gj hj hcj
      have hk3 := hclosed n gk hk hck
      rw [hids0] at hle
      omega
  · rintro ⟨pre, n, env, post, rfl, ⟨n', env', g, found, he, hg, ht, hp⟩, hpost, halone⟩
    cases he
    obtain ⟨hpre, hw, hrest⟩ := (tasks L).along_append.1 hworks
    have hs1 : Sound t ((tasks L).run (atRest w) pre) := hpre.inv (fun s e h hok => sound_next h hok) hstart
    have honly := onlySaves_delete (L := L) hs1 hw.1 hg ht hp halone
    have hend := (hrest.and hpost).inv (I := fun s => Sound t s ∧ OnlySaves t n s)
      (fun s e h hok => ⟨sound_next h.1 hok.1, onlySaves_next h.1 hok.1 hok.2 h.2⟩) ⟨sound_next hs1 hw, honly⟩
    obtain ⟨g', hg', hc', hids', _⟩ := hend.2
    rw [Machine.run_append, Machine.run_cons] at hclosed ⊢
    exact ⟨n, g', hg', hc'.1, hclosed n g' hg' hc', hids'⟩

/-- the event fails nowhere -/
def Good : TaskEvent → Prop
  | .request r => Starts r
  | .generate _ env => env.ok = true ∧ ∀ step attempt, ∃ text, env.api step attempt = .answered text
  | _ => True

/-- if the template is there from the beginning, it is enough that no event fails -/
theorem along_works (L : Lib) {t : ℕ} {s : Tasks} {schedule : List TaskEvent} (h : ∀ e ∈ schedule, Good e)
    (ht : (s.world.db.emailTemplates.get t).isSome) : (tasks L).Along (Works t) s schedule := by
  induction schedule generalizing s with
  | nil => exact trivial
  | cons e schedule ih =>
    have he : Good e := h e List.mem_cons_self
    refine ⟨?_, ih (fun e' he' => h e' (List.mem_cons_of_mem e he')) ?_⟩
    · cases e with
      | request r => exact he
      | generate n env => exact ⟨he.1, he.2, fun _ _ _ => ht⟩
      | _ => exact trivial
    · rw [next_db]
      cases e with
      | request r =>
        obtain ⟨row, hrow⟩ := Option.isSome_iff_exists.1 ht
        simp only [starts_world L s.world he]
        cases hrun : startsRun s.world r with
        | none => exact ht
        | some p => exact Option.isSome_iff_exists.2 ⟨row, startsRun_keeps hrun hrow⟩
      | _ => exact ht

theorem good_steps (names : List ℕ) : ∀ e ∈ Sample.steps names, Good e := by
  intro e he
  obtain ⟨n, _, rfl⟩ := List.mem_map.1 he
  exact ⟨rfl, fun _ _ => ⟨_, rfl⟩⟩

namespace Sample

/-- `regenerate_all_emails` is asked for while the first run is in progress; `names` says whose step is next -/
def twoRuns (names : List ℕ) : List TaskEvent :=
  [.beginGenerate 0 1 (some 1), .request (.regenerateAllEmails (some 2) 1), .beginGenerate 1 1 (some 1)] ++ steps names

theorem twoRuns_good (names : List ℕ) : ∀ e ∈ twoRuns names, Good e := by
  intro e he
  rcases List.mem_append.1 he with he | he
  · simp only [List.mem_cons, List.not_mem_nil, or_false] at he
    rcases he with rfl | rfl | rfl <;> exact trivial
  · exact good_steps names e he

theorem twoRuns_names {names : List ℕ} {n : ℕ} {g : Generating}
    (h : ((tasks Newsletter.Sample.lib).run (atRest drafted) (twoRuns names)).generating n = some g) : n = 0 ∨ n = 1 := by
  obtain ⟨t, c, hmem⟩ := begun_of_generating _ h
  simp only [twoRuns, steps, List.mem_append, List.mem_cons, List.not_mem_nil, List.mem_map, TaskEvent.beginGenerate.injEq,
    reduceCtorEq, and_false, exists_false, false_or, or_false] at hmem
  rcases hmem with ⟨h0, _⟩ | ⟨h1, _⟩
  · exact Or.inl h0
  · exact Or.inr h1

end Sample

/-- the second run begins its delete when the first has saved -/
theorem one_run_iff_in_turn :
    OneRun 1 ((tasks Newsletter.Sample.lib).run (atRest Sample.drafted)
        (Sample.twoRuns [0, 0, 0, 0, 1, 1, 1, 1, 0, 0, 1, 1])) ↔
      LastDeleteAlone Newsletter.Sample.lib 1 (atRest Sample.drafted)
        (Sample.twoRuns [0, 0, 0, 0, 1, 1, 1, 1, 0, 0, 1, 1]) := by
  refine one_run_iff _ _ _ _ (along_works _ (Sample.twoRuns_good _) (by decide +kernel)) fun n g hg _ => ?_
  have hpoint : ∀ m ∈ [0, 1], (((tasks Newsletter.Sample.lib).run (atRest Sample.drafted)
      (Sample.twoRuns [0, 0, 0, 0, 1, 1, 1, 1, 0, 0, 1, 1])).generating m).map Generating.point = some .ended := by
    decide +kernel
  have hn : n ∈ [0, 1] := by
    rcases Sample.twoRuns_names hg with rfl | rfl <;> decide
  have hended := hpoint n hn
  rw [hg] at hended
  exact Option.some.inj hended

/-- both runs delete before either saves: both have ended, and the template has six emails -/
theorem runs_pile_up :
    let s := (tasks Newsletter.Sample.lib).run (atRest Sample.drafted)
      (Sample.twoRuns [0, 0, 1, 1, 0, 0, 1, 1, 0, 0, 1, 1])
    (∀ n ∈ [0, 1], (s.generating n).map Generating.point = some .ended) ∧ ids s 1 = [1, 2, 3, 4, 5, 6] ∧ ¬ OneRun 1 s := by
  intro s
  have hids : ids s 1 = [1, 2, 3, 4, 5, 6] := rfl
  refine ⟨by decide, hids, ?_⟩
  rintro ⟨n, g, _, _, hlen, heq⟩
  rw [← heq, hids] at hlen
  exact absurd hlen (by decide)

end Newsletter.Concurrency
