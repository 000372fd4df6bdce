/-
Generations and regenerations for different templates (`app/course/route.py`, lines 620-691 and 824-888).

A schedule is projected to the tasks of one template: runs of `generate_and_save_emails` for it, and regenerations of rows
that are its generated emails when they are read. A kept event is the same event, except that a regeneration names the
row at the same position in the projected run, where the ids may be others. The emails of the template are the same in
both runs, up to their ids.

- `RowChange`: what a step does to the emails of a template, and `Compatible`: when two changes do the same up to ids;
- `Alike`: what the two runs have in common at every moment, kept by `alike_drop` and `alike_keep`;
- `template_emails_independent`: the emails of a template depend on its own tasks only.
-/
import Newsletter.Concurrency.Tasks

namespace Newsletter.Concurrency

open Newsletter.Core Courses

/-! ## Changes of the emails of a template -/

inductive RowChange where
  | keep
  | clear
  | add (emails : List GeneratedEmail)
  | rewrite (id : ℕ) (f : GeneratedEmail → GeneratedEmail)

/-- `next` is the id of the next row that is inserted -/
def RowChange.apply (next : ℕ) (rows : List (Rec GeneratedEmail)) : RowChange → List (Rec GeneratedEmail)
  | .keep => rows
  | .clear => []
  | .add emails => rows ++ emails.mapIdx fun i e => ⟨next + i, e⟩
  | .rewrite id f => rows.map (Table.setAt id f)

/-- the two changes do the same to lists that agree up to ids -/
inductive Compatible (rows rows' : List (Rec GeneratedEmail)) : RowChange → RowChange → Prop where
  | keep : Compatible rows rows' .keep .keep
  | clear : Compatible rows rows' .clear .clear
  | add (emails : List GeneratedEmail) : Compatible rows rows' (.add emails) (.add emails)
  | rewrite {id id' : ℕ} (h : Table.place rows id = Table.place rows' id') (f : GeneratedEmail → GeneratedEmail) :
      Compatible rows rows' (.rewrite id f) (.rewrite id' f)
  /-- the rewritten row is not one of the list -/
  | miss {id : ℕ} (h : Table.place rows id = none) (f : GeneratedEmail → GeneratedEmail) :
      Compatible rows rows' (.rewrite id f) .keep

theorem place_add {rows : List (Rec GeneratedEmail)} {next id : ℕ} (hid : id < next) (emails : List GeneratedEmail) :
    Table.place ((RowChange.add emails).apply next rows) id = Table.place rows id := by
  refine Table.place_append fun r hr => ?_
  obtain ⟨i, _, rfl⟩ := List.mem_mapIdx.1 hr
  have hlt : id < next + i := by omega
  exact hlt.ne'

section Change

variable {rows rows' : List (Rec GeneratedEmail)} {c c' : RowChange} (hc : Compatible rows rows' c c')

include hc

theorem Compatible.cols (hs : rows.Pairwise fun a b => a.id < b.id) (hs' : rows'.Pairwise fun a b => a.id < b.id)
    (h : rows.map Rec.cols = rows'.map Rec.cols) (next next' : ℕ) :
    (c.apply next rows).map Rec.cols = (c'.apply next' rows').map Rec.cols := by
  cases hc with
  | keep => exact h
  | clear => rfl
  | add emails =>
    have hnew : ∀ n : ℕ, (emails.mapIdx fun i e => (⟨n + i, e⟩ : Rec GeneratedEmail)).map Rec.cols = emails := by
      intro n
      refine List.ext_getElem (by simp) fun i h1 h2 => ?_
      simp
    simp only [RowChange.apply, List.map_append, h, hnew]
  | @rewrite id id' hplace f =>
    simp only [RowChange.apply]
    cases hi : Table.place rows id with
    | none => rw [Table.map_setAt_of_place_none hi, Table.map_setAt_of_place_none (hplace ▸ hi), h]
    | some i => rw [Table.cols_setAt hs hi, Table.cols_setAt hs' (hplace ▸ hi), h]
  | miss hnone f =>
    simp only [RowChange.apply]
    rw [Table.map_setAt_of_place_none hnone, h]

/-- two rows at the same position stay at the same position -/
theorem Compatible.place {next next' id id' : ℕ} (hid : id < next) (hid' : id' < next')
    (h : Table.place rows id = Table.place rows' id') :
    Table.place (c.apply next rows) id = Table.place (c'.apply next' rows') id' := by
  cases hc with
  | keep => exact h
  | clear => rfl
  | add emails => rw [place_add hid, place_add hid', h]
  | rewrite _ f => rw [RowChange.apply, RowChange.apply, Table.place_map_setAt, Table.place_map_setAt, h]
  | miss _ f => rw [RowChange.apply, RowChange.apply, Table.place_map_setAt, h]

end Change

/-- a row that is not there does not come -/
theorem RowChange.place_none {rows : List (Rec GeneratedEmail)} {next id : ℕ} (hid : id < next)
    (h : Table.place rows id = none) (c : RowChange) : Table.place (c.apply next rows) id = none := by
  cases c with
  | keep => exact h
  | clear => rfl
  | add emails => exact (place_add hid emails).trans h
  | rewrite k f => exact (Table.place_map_setAt ..).trans h

/-! ## The tasks of one template -/

/-- a step of a background task; a key may lapse meanwhile -/
def Background : TaskEvent → Prop
  | .beginGenerate .. | .generate .. | .beginRegenerate .. | .regenerate .. | .lapse _ => True
  | _ => False

/-- the emails of the template, by position -/
def emailsAt (s : Tasks) (t : ℕ) : List GeneratedEmail := (emailsOf s.world.db t).map Rec.cols

def placeOf (s : Tasks) (t id : ℕ) : Option ℕ := Table.place (emailsOf s.world.db t) id

/-- what becomes of an event of the run `s` in the run `s'` of the tasks of template `t` -/
def ownEvent (t : ℕ) (s s' : Tasks) : TaskEvent → Option TaskEvent
  | .beginGenerate n k c => if k = t ∧ s.generating n = none then some (.beginGenerate n k c) else none
  | .generate n env => if (s'.generating n).isSome then some (.generate n env) else none
  | .beginRegenerate n id env =>
    if s.regenerating n = none then
      -- the email at the same position
      (placeOf s t id).bind fun i => (emailsOf s'.world.db t)[i]?.map fun r => .beginRegenerate n r.id env
    else none
  | .regenerate n ok => if (s'.regenerating n).isSome then some (.regenerate n ok) else none
  | _ => none

/-- the schedule of the tasks of template `t` alone -/
def ownTasks (L : Lib) (w : World) (t : ℕ) (schedule : List TaskEvent) : List TaskEvent :=
  (tasks L).project (ownEvent t) (atRest w) (atRest w) schedule

/-! ## What a step does to the emails of a template -/

def Generating.change (env : StepEnv) (g : Generating) : RowChange :=
  match g.point, env.ok with
  | .delete _, true => .clear
  | .save emails, true => .add emails
  | _, _ => .keep

/-- the columns the regeneration commits next -/
def Regenerating.written (r : Regenerating) : Option (GeneratedEmail → GeneratedEmail) :=
  match r.point with
  | .write loaded body conversation => some (flush loaded (rewritten loaded body conversation))
  | _ => none

def Regenerating.change (ok : Bool) (r : Regenerating) : RowChange :=
  match r.written, ok with
  | some f, true => .rewrite r.generatedEmailId f
  | _, _ => .keep

def changeOf (t : ℕ) (s : Tasks) : TaskEvent → RowChange
  | .generate n env => (s.generating n).elim .keep fun g => if g.templateId = t then g.change env else .keep
  | .regenerate n ok => (s.regenerating n).elim .keep (·.change ok)
  | _ => .keep

/-- a run saves emails of its own template -/
def Owned (s : Tasks) : Prop :=
  ∀ n g emails, s.generating n = some g → g.point = .save emails → ∀ e ∈ emails, e.templateId = g.templateId

theorem rowsOf_commit_generate {g : Generating}
    (howned : ∀ emails, g.point = .save emails → ∀ e ∈ emails, e.templateId = g.templateId) (env : StepEnv)
    (T : Table GeneratedEmail) (t : ℕ) :
    rowsOf (g.commit env T) t = (if g.templateId = t then g.change env else .keep).apply T.next (rowsOf T t) := by
  obtain ⟨k, c, point, saved⟩ := g
  obtain ⟨ok, api⟩ := env
  cases ok with
  | false => cases point <;> simp [Generating.commit, Generating.change, RowChange.apply]
  | true =>
    cases point with
    | delete found =>
      by_cases hk : k = t
      · subst hk
        simpa [Generating.commit, Generating.change, RowChange.apply] using rowsOf_erase_self T
      · simpa [Generating.commit, Generating.change, RowChange.apply, hk] using rowsOf_erase_ne T hk
    | save emails =>
      have hemails : ∀ e ∈ emails, e.templateId = k := howned emails rfl
      by_cases hk : k = t
      · subst hk
        simpa [Generating.commit, Generating.change, RowChange.apply] using rowsOf_insert_self T hemails
      · have hne : ∀ e ∈ emails, e.templateId ≠ t := fun e he => (hemails e he).trans_ne hk
        simpa [Generating.commit, Generating.change, RowChange.apply, hk] using rowsOf_insert_ne T hne
    | lookUp | generate | complete | fail | expire | ended =>
      simp [Generating.commit, Generating.change, RowChange.apply]

theorem rowsOf_commit_regenerate (r : Regenerating) (ok : Bool) (T : Table GeneratedEmail) (t : ℕ) :
    rowsOf (r.commit ok T) t = (r.change ok).apply T.next (rowsOf T t) := by
  obtain ⟨id, point⟩ := r
  cases point with
  | write loaded body conversation =>
    cases ok with
    | true => exact rowsOf_modify T id fun e => flush_templateId rfl e
    | false => rfl
  | complete | fail | expire | ended => rfl

/-- the emails of template `t` change by `c`, the templates and the campaigns do not change -/
structure Changes (t : ℕ) (c : RowChange) (s s' : Tasks) : Prop where
  course : s'.world.db.course = s.world.db.course
  emailTemplates : s'.world.db.emailTemplates = s.world.db.emailTemplates
  rows : emailsOf s'.world.db t = c.apply s.world.db.generatedEmails.next (emailsOf s.world.db t)
  next : s.world.db.generatedEmails.next ≤ s'.world.db.generatedEmails.next

theorem Changes.refl (t : ℕ) (s : Tasks) : Changes t .keep s s := ⟨rfl, rfl, rfl, Nat.le_refl _⟩

theorem next_db_of_background (L : Lib) (s : Tasks) {e : TaskEvent} (he : Background e) :
    ((tasks L).next s e).world.db = { s.world.db with generatedEmails := emailsAfter L s e } := by
  rw [next_db]
  cases e with
  | request | beginSend | send => exact absurd he not_false
  | beginGenerate | beginRegenerate | generate | regenerate | lapse => rfl

theorem rowsOf_emailsAfter (L : Lib) (t : ℕ) {s : Tasks} (h : Owned s) {e : TaskEvent} (he : Background e) :
    rowsOf (emailsAfter L s e) t =
      (changeOf t s e).apply s.world.db.generatedEmails.next (rowsOf s.world.db.generatedEmails t) := by
  cases e with
  | request | beginSend | send => exact absurd he not_false
  | beginGenerate | beginRegenerate | lapse => rfl
  | generate n env =>
    simp only [emailsAfter, changeOf]
    cases hn : s.generating n with
    | none => rfl
    | some g => exact rowsOf_commit_generate (fun emails => h n g emails hn) env _ t
  | regenerate n ok =>
    simp only [emailsAfter, changeOf]
    cases s.regenerating n with
    | none => rfl
    | some r => exact rowsOf_commit_regenerate r ok _ t

theorem next_le_emailsAfter (L : Lib) (s : Tasks) {e : TaskEvent} (he : Background e) :
    s.world.db.generatedEmails.next ≤ (emailsAfter L s e).next := by
  refine (emailsAfter_effect L s fun r => ?_).next_le
  rintro rfl
  exact he

theorem changes_next (L : Lib) (t : ℕ) {s : Tasks} (h : Owned s) {e : TaskEvent} (he : Background e) :
    Changes t (changeOf t s e) s ((tasks L).next s e) := by
  have hdb := next_db_of_background L s he
  refine ⟨by rw [hdb], by rw [hdb], ?_, ?_⟩
  · rw [hdb]
    exact rowsOf_emailsAfter L t h he
  · rw [hdb]
    exact next_le_emailsAfter L s he

theorem owned_next (L : Lib) {s : Tasks} (h : Owned s) (e : TaskEvent) : Owned ((tasks L).next s e) := by
  intro n g' emails hg' hpoint
  rcases generating_cases L s hg' with ⟨hg, _⟩ | ⟨t, c, _, _, rfl⟩ | ⟨env, g, _, hg, rfl⟩
  · exact h n g' emails hg hpoint
  · cases hpoint
  · rw [move_templateId]
    obtain ⟨k, c, point, saved⟩ := g
    cases point with
    | generate found =>
      simp only [Generating.move] at hpoint
      generalize hnew : emailsToSave L (if found then s.world.db.emailTemplates.get k else none) env.api = new at hpoint
      split_ifs at hpoint
      cases hpoint
      exact fun e he => emailsToSave_found (hnew ▸ he)
    | lookUp | delete | save =>
      simp only [Generating.move] at hpoint
      split_ifs at hpoint
    | complete | fail | expire | ended => cases hpoint

/-! ## What the two runs have in common -/

/-- a run for the template is at the same point in both, the others are missing in the second -/
def SameRun (t : ℕ) : Option Generating → Option Generating → Prop
  | some g, some g' => g.templateId = t ∧ g'.templateId = t ∧ g.campaignId = g'.campaignId ∧ g.point = g'.point
  | some g, none => g.templateId ≠ t
  | none, none => True
  | none, some _ => False

/-- a regeneration of an email of the template commits the same columns at the same position in both; one that is missing
in the second finds no email of the template -/
def SameRegeneration (t : ℕ) (T T' : Table GeneratedEmail) : Option Regenerating → Option Regenerating → Prop
  | some r, some r' => r.written = r'.written ∧ r.generatedEmailId < T.next ∧ r'.generatedEmailId < T'.next ∧
      Table.place (rowsOf T t) r.generatedEmailId = Table.place (rowsOf T' t) r'.generatedEmailId
  | some r, none => r.written.isSome → r.generatedEmailId < T.next ∧ Table.place (rowsOf T t) r.generatedEmailId = none
  | none, none => True
  | none, some _ => False

structure Alike (t : ℕ) (s s' : Tasks) : Prop where
  course : s.world.db.course = s'.world.db.course
  emailTemplates : s.world.db.emailTemplates = s'.world.db.emailTemplates
  emails : emailsAt s t = emailsAt s' t
  owned : Owned s
  owned' : Owned s'
  generating : ∀ n, SameRun t (s.generating n) (s'.generating n)
  regenerating : ∀ n, SameRegeneration t s.world.db.generatedEmails s'.world.db.generatedEmails (s.regenerating n)
    (s'.regenerating n)

section Step

variable {t : ℕ} {s s' : Tasks}

theorem SameRegeneration.of_changes {s1 s1' : Tasks} {c c' : RowChange}
    (hc : Compatible (emailsOf s.world.db t) (emailsOf s'.world.db t) c c') (h : Changes t c s s1) (h' : Changes t c' s' s1')
    {r r' : Option Regenerating}
    (hr : SameRegeneration t s.world.db.generatedEmails s'.world.db.generatedEmails r r') :
    SameRegeneration t s1.world.db.generatedEmails s1'.world.db.generatedEmails r r' := by
  have hrows : rowsOf s1.world.db.generatedEmails t =
      c.apply s.world.db.generatedEmails.next (emailsOf s.world.db t) := h.rows
  have hrows' : rowsOf s1'.world.db.generatedEmails t =
      c'.apply s'.world.db.generatedEmails.next (emailsOf s'.world.db t) := h'.rows
  rcases r with _ | r <;> rcases r' with _ | r'
  · exact hr
  · exact hr
  · intro hw
    obtain ⟨hlt, hplace⟩ := hr hw
    refine ⟨hlt.trans_le h.next, ?_⟩
    rw [hrows]
    exact c.place_none hlt hplace
  · obtain ⟨hw, hlt, hlt', hplace⟩ := hr
    refine ⟨hw, hlt.trans_le h.next, hlt'.trans_le h'.next, ?_⟩
    rw [hrows, hrows']
    exact hc.place hlt hlt' hplace

/-- compatible changes of two states that are alike -/
theorem Alike.of_changes (h : Alike t s s') {s1 s1' : Tasks} {c c' : RowChange}
    (hc : Compatible (emailsOf s.world.db t) (emailsOf s'.world.db t) c c') (h1 : Changes t c s s1)
    (h1' : Changes t c' s' s1') (howned : Owned s1) (howned' : Owned s1')
    (hgen : ∀ n, SameRun t (s1.generating n) (s1'.generating n))
    (hreg : ∀ n, SameRegeneration t s.world.db.generatedEmails s'.world.db.generatedEmails (s1.regenerating n)
      (s1'.regenerating n)) : Alike t s1 s1' where
  course := h1.course.trans (h.course.trans h1'.course.symm)
  emailTemplates := h1.emailTemplates.trans (h.emailTemplates.trans h1'.emailTemplates.symm)
  emails := by
    rw [emailsAt, emailsAt, h1.rows, h1'.rows]
    exact hc.cols (Table.all_sorted ..) (Table.all_sorted ..) h.emails _ _
  owned := howned
  owned' := howned'
  generating := hgen
  regenerating n := (hreg n).of_changes hc h1 h1'

/-! ### A step -/

theorem written_move (L : Lib) (db : Db) (ok : Bool) (r : Regenerating) : (r.move L db ok).written = none := by
  obtain ⟨id, point⟩ := r
  cases point with
  | write loaded body conversation =>
    simp only [Regenerating.move]
    split_ifs <;> rfl
  | complete | fail | expire | ended => rfl

/-- a regeneration commits something only if it has found its row -/
theorem row_of_written {L : Lib} {db : Db} {id : ℕ} {env : RegenerateEnv}
    (h : (Regenerating.read L db id env).written.isSome) : ∃ row, db.generatedEmails.get id = some row := by
  cases hres : regenerated L db id env with
  | error e => simp [Regenerating.read, hres, Regenerating.written] at h
  | ok p => exact regenerated_row hres

/-- what it commits is determined by the columns of the row, the templates and the campaigns -/
theorem written_read (L : Lib) {db db' : Db} {row row' : Rec GeneratedEmail}
    (hrow : db.generatedEmails.get row.id = some row) (hrow' : db'.generatedEmails.get row'.id = some row')
    (hcols : row.cols = row'.cols) (hc : db.course = db'.course) (ht : db.emailTemplates = db'.emailTemplates)
    (env : RegenerateEnv) :
    (Regenerating.read L db row.id env).written = (Regenerating.read L db' row'.id env).written := by
  have hres := regenerated_congr L hrow hrow' hcols (by rw [ht]) hc env
  simp only [Regenerating.read, hres, hrow, hrow']
  cases regenerated L db' row'.id env with
  | error e => rfl
  | ok p => simp only [Regenerating.written, hcols]

theorem move_point_congr (L : Lib) {db db' : Db} (hc : db.course = db'.course)
    (ht : db.emailTemplates = db'.emailTemplates) (env : StepEnv) {g g' : Generating}
    (hk : g.templateId = g'.templateId) (hcampaign : g.campaignId = g'.campaignId) (hp : g.point = g'.point) :
    (g.move L db env).campaignId = (g'.move L db' env).campaignId ∧
      (g.move L db env).point = (g'.move L db' env).point := by
  obtain ⟨k, c, point, saved⟩ := g
  obtain ⟨k', c', point', saved'⟩ := g'
  cases hk
  cases hcampaign
  cases hp
  cases point with
  | save emails =>
    simp only [Generating.move]
    split_ifs <;> exact ⟨rfl, rfl⟩
  | lookUp | delete | generate | complete | fail | expire | ended =>
    simp only [Generating.move, hc, ht]
    exact ⟨trivial, trivial⟩

variable (L : Lib) (h : Alike t s s') {e e' : TaskEvent}

include h

/-- a step of the first run -/
theorem Alike.left (he : Background e)
    (hc : Compatible (emailsOf s.world.db t) (emailsOf s'.world.db t) (changeOf t s e) .keep)
    (hgen : ∀ n, SameRun t (((tasks L).next s e).generating n) (s'.generating n))
    (hreg : ∀ n, SameRegeneration t s.world.db.generatedEmails s'.world.db.generatedEmails
      (((tasks L).next s e).regenerating n) (s'.regenerating n)) : Alike t ((tasks L).next s e) s' :=
  h.of_changes hc (changes_next L t h.owned he) (Changes.refl t s') (owned_next L h.owned e) h.owned' hgen hreg

/-- a step of both -/
theorem Alike.both (he : Background e) (he' : Background e')
    (hc : Compatible (emailsOf s.world.db t) (emailsOf s'.world.db t) (changeOf t s e) (changeOf t s' e'))
    (hgen : ∀ n, SameRun t (((tasks L).next s e).generating n) (((tasks L).next s' e').generating n))
    (hreg : ∀ n, SameRegeneration t s.world.db.generatedEmails s'.world.db.generatedEmails
      (((tasks L).next s e).regenerating n) (((tasks L).next s' e').regenerating n)) :
    Alike t ((tasks L).next s e) ((tasks L).next s' e') :=
  h.of_changes hc (changes_next L t h.owned he) (changes_next L t h.owned' he') (owned_next L h.owned e)
    (owned_next L h.owned' e') hgen hreg

theorem Alike.generating_none {n : ℕ} (hn : s.generating n = none) : s'.generating n = none := by
  have hsame := h.generating n
  rw [hn] at hsame
  cases hg' : s'.generating n with
  | none => rfl
  | some g' =>
    rw [hg'] at hsame
    exact absurd hsame not_false

theorem Alike.regenerating_none {n : ℕ} (hn : s.regenerating n = none) : s'.regenerating n = none := by
  have hsame := h.regenerating n
  rw [hn] at hsame
  cases hr' : s'.regenerating n with
  | none => rfl
  | some r' =>
    rw [hr'] at hsame
    exact absurd hsame not_false

/-! ### The steps of a run of `generate_and_save_emails` -/

theorem alike_beginGenerate_other {k : ℕ} (hk : k ≠ t) (n : ℕ) (c : Option ℕ) :
    Alike t ((tasks L).next s (.beginGenerate n k c)) s' := by
  refine h.left L trivial .keep ?_ ?_
  all_goals simp only [Machine.next, tasks, taskStep]
  · split
    · exact h.generating
    · rename_i hn
      refine Pool.rel_put_left h.generating ?_
      rw [h.generating_none hn]
      exact hk
  · split <;> exact h.regenerating

theorem alike_beginGenerate_own {n : ℕ} (hn : s.generating n = none) (c : Option ℕ) :
    Alike t ((tasks L).next s (.beginGenerate n t c)) ((tasks L).next s' (.beginGenerate n t c)) := by
  have hn' := h.generating_none hn
  refine h.both L trivial trivial .keep ?_ ?_
  all_goals simp only [Machine.next, tasks, taskStep, hn, hn']
  · exact Pool.rel_put h.generating ⟨rfl, rfl, rfl, rfl⟩
  · exact h.regenerating

theorem alike_generate_other {n : ℕ} (hn : s'.generating n = none) (env : StepEnv) :
    Alike t ((tasks L).next s (.generate n env)) s' := by
  have hsame := h.generating n
  rw [hn] at hsame
  cases hg : s.generating n with
  | none =>
    rw [next_generate_none L hg]
    exact h
  | some g =>
    rw [hg] at hsame
    have hchange : changeOf t s (.generate n env) = .keep := by
      simp only [changeOf, hg, Option.elim_some]
      exact if_neg hsame
    refine h.left L trivial ?_ ?_ ?_
    · rw [hchange]
      exact .keep
    all_goals simp only [Machine.next, tasks, taskStep, hg]
    · refine Pool.rel_put_left h.generating ?_
      rw [hn]
      exact (move_templateId L ..).trans_ne hsame
    · exact h.regenerating

theorem alike_generate_own {n : ℕ} {g' : Generating} (hg' : s'.generating n = some g') (env : StepEnv) :
    Alike t ((tasks L).next s (.generate n env)) ((tasks L).next s' (.generate n env)) := by
  have hsame := h.generating n
  rw [hg'] at hsame
  cases hg : s.generating n with
  | none =>
    rw [hg] at hsame
    exact absurd hsame not_false
  | some g =>
    rw [hg] at hsame
    obtain ⟨hk, hk', hcampaign, hpoint⟩ := hsame
    have hchange : changeOf t s (.generate n env) = g.change env := by simp [changeOf, hg, hk]
    have hchange' : changeOf t s' (.generate n env) = g.change env := by
      simp [changeOf, hg', hk', Generating.change, hpoint]
    obtain ⟨hcampaign1, hpoint1⟩ :=
      move_point_congr L h.course h.emailTemplates env (hk.trans hk'.symm) hcampaign hpoint
    refine h.both L trivial trivial ?_ ?_ ?_
    · rw [hchange, hchange']
      unfold Generating.change
      split
      · exact .clear
      · exact .add _
      · exact .keep
    all_goals simp only [Machine.next, tasks, taskStep, hg, hg']
    · refine Pool.rel_put h.generating ⟨?_, ?_, hcampaign1, hpoint1⟩
      · rw [move_templateId, hk]
      · rw [move_templateId, hk']
    · exact h.regenerating

/-! ### The steps of a regeneration -/

theorem alike_beginRegenerate_other {id : ℕ} (hid : placeOf s t id = none) (n : ℕ) (env : RegenerateEnv) :
    Alike t ((tasks L).next s (.beginRegenerate n id env)) s' := by
  refine h.left L trivial .keep ?_ ?_
  all_goals simp only [Machine.next, tasks, taskStep]
  · split <;> exact h.generating
  · split
    · exact h.regenerating
    · rename_i hn
      refine Pool.rel_put_left h.regenerating ?_
      rw [h.regenerating_none hn]
      intro hw
      obtain ⟨row, hrow⟩ := row_of_written hw
      obtain ⟨hmem, heq⟩ := Table.get_eq_some_iff.1 hrow
      have hlt : row.id < s.world.db.generatedEmails.next := Table.below _ row hmem
      exact ⟨heq ▸ hlt, hid⟩

/-- the regenerated email and the one at its position in the other run -/
theorem alike_beginRegenerate_own {n i id : ℕ} (hn : s.regenerating n = none) (hplace : placeOf s t id = some i)
    {row' : Rec GeneratedEmail} (hrow' : (emailsOf s'.world.db t)[i]? = some row') (env : RegenerateEnv) :
    Alike t ((tasks L).next s (.beginRegenerate n id env)) ((tasks L).next s' (.beginRegenerate n row'.id env)) := by
  have hn' := h.regenerating_none hn
  obtain ⟨row, hrow, rfl⟩ := Table.place_eq_some hplace
  have hmem : row ∈ s.world.db.generatedEmails.rows := List.mem_of_mem_filter (List.mem_of_getElem? hrow)
  have hmem' : row' ∈ s'.world.db.generatedEmails.rows := List.mem_of_mem_filter (List.mem_of_getElem? hrow')
  have hcols : row.cols = row'.cols := by
    have hi := congrArg (·[i]?) h.emails
    simpa [emailsAt, hrow, hrow'] using hi
  refine h.both L trivial trivial .keep ?_ ?_
  all_goals simp only [Machine.next, tasks, taskStep, hn, hn']
  · exact h.generating
  · refine Pool.rel_put h.regenerating ⟨?_, Table.below _ row hmem, Table.below _ row' hmem', ?_⟩
    · exact written_read L (Table.get_of_mem hmem) (Table.get_of_mem hmem') hcols h.course h.emailTemplates env
    · exact hplace.trans (Table.place_getElem? (Table.all_sorted ..) hrow').symm

theorem alike_regenerate_other {n : ℕ} (hn : s'.regenerating n = none) (ok : Bool) :
    Alike t ((tasks L).next s (.regenerate n ok)) s' := by
  have hsame := h.regenerating n
  rw [hn] at hsame
  cases hr : s.regenerating n with
  | none =>
    rw [next_regenerate_none L hr]
    exact h
  | some r =>
    rw [hr] at hsame
    have hchange : changeOf t s (.regenerate n ok) = r.change ok := by simp [changeOf, hr]
    refine h.left L trivial ?_ ?_ ?_
    · rw [hchange]
      unfold Regenerating.change
      split
      · rename_i f hw
        exact .miss (hsame (by rw [hw]; rfl)).2 f
      · exact .keep
    all_goals simp only [Machine.next, tasks, taskStep, hr]
    · exact h.generating
    · refine Pool.rel_put_left h.regenerating ?_
      rw [hn]
      intro hw
      rw [written_move] at hw
      cases hw

theorem alike_regenerate_own {n : ℕ} {r' : Regenerating} (hr' : s'.regenerating n = some r') (ok : Bool) :
    Alike t ((tasks L).next s (.regenerate n ok)) ((tasks L).next s' (.regenerate n ok)) := by
  have hsame := h.regenerating n
  rw [hr'] at hsame
  cases hr : s.regenerating n with
  | none =>
    rw [hr] at hsame
    exact absurd hsame not_false
  | some r =>
    rw [hr] at hsame
    obtain ⟨hw, hlt, hlt', hplace⟩ := hsame
    have hchange : changeOf t s (.regenerate n ok) = r.change ok := by simp [changeOf, hr]
    have hchange' : changeOf t s' (.regenerate n ok) = r'.change ok := by simp [changeOf, hr']
    refine h.both L trivial trivial ?_ ?_ ?_
    · rw [hchange, hchange']
      unfold Regenerating.change
      rw [← hw]
      split
      · exact .rewrite hplace _
      · exact .keep
    all_goals simp only [Machine.next, tasks, taskStep, hr, hr']
    · exact h.generating
    · refine Pool.rel_put h.regenerating ⟨?_, ?_⟩
      · rw [written_move, written_move]
      · rw [Regenerating.move_id, Regenerating.move_id]
        exact ⟨hlt, hlt', hplace⟩

/-! ### Any step -/

theorem alike_drop (he : Background e) (hk : ownEvent t s s' e = none) : Alike t ((tasks L).next s e) s' := by
  cases e with
  | request | beginSend | send => exact absurd he not_false
  | lapse key => exact h.left L trivial .keep h.generating h.regenerating
  | beginGenerate n k c =>
    have hnot : ¬ (k = t ∧ s.generating n = none) := by simpa [ownEvent] using hk
    cases hg : s.generating n with
    | none => exact alike_beginGenerate_other L h (fun hkt => hnot ⟨hkt, hg⟩) n c
    | some g =>
      rw [next_beginGenerate_some L hg]
      exact h
  | generate n env =>
    have hn : s'.generating n = none := by simpa [ownEvent] using hk
    exact alike_generate_other L h hn env
  | beginRegenerate n id env =>
    cases hr : s.regenerating n with
    | some r =>
      rw [next_beginRegenerate_some L hr]
      exact h
    | none =>
      cases hplace : placeOf s t id with
      | none => exact alike_beginRegenerate_other L h hplace n env
      | some i =>
        -- the other run has an email at this position too
        obtain ⟨row, hrow, _⟩ := Table.place_eq_some hplace
        have hi := congrArg (·[i]?) h.emails
        simp only [emailsAt, List.getElem?_map, hrow, Option.map_some] at hi
        obtain ⟨row', hrow', _⟩ := Option.map_eq_some_iff.1 hi.symm
        simp [ownEvent, hr, hplace, hrow'] at hk
  | regenerate n ok =>
    have hn : s'.regenerating n = none := by simpa [ownEvent] using hk
    exact alike_regenerate_other L h hn ok

theorem alike_keep (hk : ownEvent t s s' e = some e') : Alike t ((tasks L).next s e) ((tasks L).next s' e') := by
  cases e with
  | request | beginSend | send | lapse => cases hk
  | beginGenerate n k c =>
    obtain ⟨⟨rfl, hn⟩, rfl⟩ : (k = t ∧ s.generating n = none) ∧ .beginGenerate n k c = e' := by
      simpa [ownEvent] using hk
    exact alike_beginGenerate_own L h hn c
  | generate n env =>
    obtain ⟨hn, rfl⟩ : (s'.generating n).isSome ∧ .generate n env = e' := by simpa [ownEvent] using hk
    obtain ⟨g', hg'⟩ := Option.isSome_iff_exists.1 hn
    exact alike_generate_own L h hg' env
  | beginRegenerate n id env =>
    simp only [ownEvent] at hk
    split_ifs at hk with hn
    obtain ⟨i, hplace, hi⟩ := Option.bind_eq_some_iff.1 hk
    obtain ⟨row', hrow', rfl⟩ := Option.map_eq_some_iff.1 hi
    exact alike_beginRegenerate_own L h hn hplace hrow' env
  | regenerate n ok =>
    obtain ⟨hn, rfl⟩ : (s'.regenerating n).isSome ∧ .regenerate n ok = e' := by simpa [ownEvent] using hk
    obtain ⟨r', hr'⟩ := Option.isSome_iff_exists.1 hn
    exact alike_regenerate_own L h hr' ok

end Step

theorem alike_atRest (w : World) (t : ℕ) : Alike t (atRest w) (atRest w) where
  course := rfl
  emailTemplates := rfl
  emails := rfl
  owned n g emails hn := by simp [atRest] at hn
  owned' n g emails hn := by simp [atRest] at hn
  generating _ := trivial
  regenerating _ := trivial

/-- the run and the run of the tasks of template `t` -/
theorem alike_ownTasks (L : Lib) (w : World) (t : ℕ) {schedule : List TaskEvent} (h : ∀ e ∈ schedule, Background e) :
    Alike t ((tasks L).run (atRest w) schedule) ((tasks L).run (atRest w) (ownTasks L w t schedule)) :=
  (tasks L).run_project (A := Background) (R := Alike t) (fun _ _ _ he hk hR => alike_drop L hR he hk)
    (fun _ _ _ _ _ hk hR => alike_keep L hR hk) h (alike_atRest w t)

/-- **The emails of a template depend on its own tasks only**: removing the tasks of the other templates does not change
them, up to ids, and two schedules that differ in these tasks only leave the same emails -/
theorem template_emails_independent (L : Lib) (w : World) (t : ℕ) {schedule : List TaskEvent}
    (h : ∀ e ∈ schedule, Background e) :
    emailsAt ((tasks L).run (atRest w) schedule) t = emailsAt ((tasks L).run (atRest w) (ownTasks L w t schedule)) t ∧
      ∀ schedule', (∀ e ∈ schedule', Background e) → ownTasks L w t schedule' = ownTasks L w t schedule →
        emailsAt ((tasks L).run (atRest w) schedule') t = emailsAt ((tasks L).run (atRest w) schedule) t := by
  have hown := (alike_ownTasks L w t h).emails
  refine ⟨hown, fun schedule' h' heq => ?_⟩
  rw [(alike_ownTasks L w t h').emails, heq, hown]

/-! ## Two templates in the small installation -/

namespace Sample

/-- the owner of the second campaign has made a template too -/
def twoDrafts : World :=
  (serve Newsletter.Sample.lib drafted
    (.generateAllEmails (some 3) 2 (some ⟨some "Offers", some "Hello", some "Bye"⟩))).world

/-- the runs 0 and 1, for templates 1 and 2, step by step in turn -/
def inTurn : List TaskEvent :=
  [.beginGenerate 1 2 (some 2), .beginGenerate 0 1 (some 1)] ++ steps [1, 0, 0, 1, 1, 0, 1, 0, 0, 1, 0, 1]

end Sample

theorem template_emails_independent_in_turn :
    emailsAt ((tasks Newsletter.Sample.lib).run (atRest Sample.twoDrafts) Sample.inTurn) 1 =
        emailsAt ((tasks Newsletter.Sample.lib).run (atRest Sample.twoDrafts)
          (ownTasks Newsletter.Sample.lib Sample.twoDrafts 1 Sample.inTurn)) 1 ∧
      (emailsAt ((tasks Newsletter.Sample.lib).run (atRest Sample.twoDrafts) Sample.inTurn) 1).length = 3 ∧
      (ownTasks Newsletter.Sample.lib Sample.twoDrafts 1 Sample.inTurn).length = 7 := by
  refine ⟨(template_emails_independent Newsletter.Sample.lib Sample.twoDrafts 1 ?_).1, rfl, rfl⟩
  intro e he
  simp only [Sample.inTurn, Sample.steps, List.mem_append, List.mem_cons, List.mem_map] at he
  rcases he with (rfl | rfl | he) | ⟨n, _, rfl⟩
  · exact trivial
  · exact trivial
  · cases he
  · exact trivial

end Newsletter.Concurrency
