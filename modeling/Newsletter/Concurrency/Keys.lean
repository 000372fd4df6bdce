/-
The two families of tasks that share the status keys: generations, indexed by template ids, and regenerations, indexed by
ids of generated emails (`app/course/route.py`, lines 235-262, 620-623, 805-821 and 871-888).

Both write `email_generation_status:{id}`. A run is compared with the run without the events of one family: as long as
the polled id is not used by that family, the answers agree, at every moment and whatever the interleaving.

- `status_independent`: the answer for a template does not depend on regenerations of generated emails with other ids, and
  the answer for a generated email, as long as there is such a row, does not depend on generations for templates with
  other ids;
- `status_interferes`: template 1 and generated email 1.
-/
import Newsletter.Concurrency.Status

namespace Newsletter.Concurrency

open Newsletter.Core Courses

/-! ## Keys that agree -/

section Redis

variable {w w' : World} {k : String} (h : w.redis k = w'.redis k)

include h

theorem redisSet_congr (key text : String) : (redisSet w key text).redis k = (redisSet w' key text).redis k := by
  by_cases hk : k = key
  · subst hk
    rw [redisSet_self, redisSet_self]
  · rw [redisSet_of_ne w _ hk, redisSet_of_ne w' _ hk, h]

theorem redisExpire_congr (key : String) : (redisExpire w key).redis k = (redisExpire w' key).redis k := by
  by_cases hk : k = key
  · subst hk
    simp only [redisExpire, Function.update_self, h]
  · rw [redisExpire_of_ne w hk, redisExpire_of_ne w' hk, h]

theorem redisLapse_congr (key : String) : (redisLapse w key).redis k = (redisLapse w' key).redis k := by
  by_cases hk : k = key
  · subst hk
    rw [redisLapse_self, redisLapse_self, h]
  · rw [redisLapse_of_ne w hk, redisLapse_of_ne w' hk, h]

theorem note_congr (g : Generating) : (g.note w).redis k = (g.note w').redis k := by
  unfold Generating.note
  split
  · exact redisSet_congr h ..
  · exact redisSet_congr h ..
  · exact redisExpire_congr h _
  · exact h

theorem Regenerating.note_congr (r : Regenerating) : (r.note w).redis k = (r.note w').redis k := by
  unfold Regenerating.note
  split
  · exact redisSet_congr h ..
  · exact redisSet_congr h ..
  · exact redisExpire_congr h _
  · exact h

end Redis

theorem regenerateEmail_world (w : World) (who : Option ℕ) (id : ℕ) :
    (regenerateEmail w who id).world =
      if (currentUser w.db who).isSome then
        { redisSet w (statusKey id) "in-progress" with
          threads := w.threads ++ [.regenerateEmailTask id (statusKey id)] }
      else w := by
  unfold regenerateEmail loginRequired
  cases currentUser w.db who <;> rfl

theorem startsRun_congr {w w' : World} (ha : w.db.adminuser = w'.db.adminuser)
    (ht : w.db.emailTemplates = w'.db.emailTemplates) (r : Request) : startsRun w r = startsRun w' r := by
  have hu : ∀ who, currentUser w.db who = currentUser w'.db who := fun who => by simp only [currentUser, ha]
  cases r with
  | dashboard who course form | generateAllEmails who course form =>
    cases form with
    | none => rfl
    | some f =>
      simp only [startsRun, hu]
      congr 1
      funext admin
      unfold createTemplate
      cases f.body <;> cases f.footer <;> simp [ht]
  | regenerateAllEmails who templateId => simp only [startsRun, hu, ht]
  | _ => rfl

/-! ## Without the regenerations -/

/-- an event of a regeneration of a generated email -/
def isRegeneration : TaskEvent → Bool
  | .request (.regenerateEmail ..) | .beginRegenerate .. | .regenerate .. => true
  | _ => false

/-- generations, and regenerations of generated emails with other ids than `t` -/
def RegeneratesOthers (t : ℕ) : TaskEvent → Prop
  | .request (.regenerateEmail _ id) => id ≠ t
  | .request r => Starts r
  | .beginRegenerate _ id _ => id ≠ t
  | .beginSend .. | .send .. => False
  | _ => True

/-- what the generations see, and the status of `t` -/
structure SameGenerations (t : ℕ) (s s' : Tasks) : Prop where
  redis : s.world.redis (statusKey t) = s'.world.redis (statusKey t)
  adminuser : s.world.db.adminuser = s'.world.db.adminuser
  course : s.world.db.course = s'.world.db.course
  emailTemplates : s.world.db.emailTemplates = s'.world.db.emailTemplates
  next : s.world.db.generatedEmails.next = s'.world.db.generatedEmails.next
  generating : s.generating = s'.generating
  regenerating : ∀ n r, s.regenerating n = some r → r.generatedEmailId ≠ t

theorem move_congr (L : Lib) {db db' : Db} (hc : db.course = db'.course) (ht : db.emailTemplates = db'.emailTemplates)
    (hn : db.generatedEmails.next = db'.generatedEmails.next) (env : StepEnv) (g : Generating) :
    g.move L db env = g.move L db' env := by
  unfold Generating.move
  rw [hc, ht, hn]

theorem commit_next {T T' : Table GeneratedEmail} (h : T.next = T'.next) (env : StepEnv) (g : Generating) :
    (g.commit env T).next = (g.commit env T').next := by
  unfold Generating.commit
  split
  · exact h
  · rw [Table.foldl_insert_next, Table.foldl_insert_next, h]
  · exact h

theorem regenerating_others (L : Lib) {t : ℕ} {s : Tasks} {e : TaskEvent} (he : RegeneratesOthers t e)
    (h : ∀ n r, s.regenerating n = some r → r.generatedEmailId ≠ t) :
    ∀ n r, ((tasks L).next s e).regenerating n = some r → r.generatedEmailId ≠ t := by
  intro n r' hr'
  rcases regenerating_cases L s hr' with ⟨hr, _⟩ | ⟨id, env, rfl, _, rfl⟩ | ⟨ok, r, rfl, hr, rfl⟩
  · exact h n r' hr
  · exact he
  · rw [Regenerating.move_id]
    exact h n r hr

theorem sameGenerations_hidden (L : Lib) {t : ℕ} {s s' : Tasks} {e : TaskEvent} (he : RegeneratesOthers t e)
    (hv : isRegeneration e = true) (h : SameGenerations t s s') : SameGenerations t ((tasks L).next s e) s' := by
  have hothers := regenerating_others L he h.regenerating
  cases e with
  | request r =>
    cases r with
    | regenerateEmail who id =>
      have hkey : statusKey t ≠ statusKey id := fun hkey => he (statusKey_inj hkey).symm
      have hnext : (tasks L).next s (.request (.regenerateEmail who id)) =
          { s with world := (regenerateEmail s.world who id).world } := rfl
      rw [hnext, regenerateEmail_world]
      split_ifs
      · exact ⟨(redisSet_of_ne _ _ hkey).trans h.redis, h.adminuser, h.course, h.emailTemplates, h.next, h.generating,
          h.regenerating⟩
      · exact h
    | _ => simp [isRegeneration] at hv
  | beginRegenerate n id env =>
    simp only [Machine.next, tasks, taskStep] at hothers ⊢
    split at hothers
    · exact h
    · exact ⟨h.redis, h.adminuser, h.course, h.emailTemplates, h.next, h.generating, hothers⟩
  | regenerate n ok =>
    cases hr : s.regenerating n with
    | none =>
      rw [next_regenerate_none L hr]
      exact h
    | some r =>
      have hkey : statusKey t ≠ statusKey r.generatedEmailId := fun hkey =>
        h.regenerating n r hr (statusKey_inj hkey).symm
      simp only [Machine.next, tasks, taskStep, hr] at hothers ⊢
      refine ⟨?_, ?_, ?_, ?_, ?_, h.generating, hothers⟩
      · exact (r.note_redis_of_ne _ hkey).trans h.redis
      · simpa only [Regenerating.effect_db] using h.adminuser
      · simpa only [Regenerating.effect_db] using h.course
      · simpa only [Regenerating.effect_db] using h.emailTemplates
      · simpa only [Regenerating.effect_db, r.commit_next ok] using h.next
  | _ => simp [isRegeneration] at hv

theorem sameGenerations_visible (L : Lib) {t : ℕ} {s s' : Tasks} {e : TaskEvent} (he : RegeneratesOthers t e)
    (hv : isRegeneration e = false) (h : SameGenerations t s s') :
    SameGenerations t ((tasks L).next s e) ((tasks L).next s' e) := by
  have hothers := regenerating_others L he h.regenerating
  cases e with
  | request r =>
    have hr : Starts r := by
      cases r with
      | regenerateEmail => simp [isRegeneration] at hv
      | _ => exact he
    have hnext : ∀ x : Tasks, (tasks L).next x (.request r) = { x with world := (serve L x.world r).world } := fun _ => rfl
    rw [hnext, hnext, starts_world L s.world hr, starts_world L s'.world hr,
      startsRun_congr h.adminuser h.emailTemplates r]
    cases startsRun s'.world r with
    | none => exact h
    | some p => exact ⟨h.redis, h.adminuser, h.course, rfl, h.next, h.generating, h.regenerating⟩
  | beginGenerate n k c =>
    simp only [Machine.next, tasks, taskStep, ← h.generating]
    cases s.generating n with
    | some g => exact ⟨h.redis, h.adminuser, h.course, h.emailTemplates, h.next, h.generating, h.regenerating⟩
    | none =>
      refine ⟨redisSet_congr ?_ .., h.adminuser, h.course, h.emailTemplates, h.next, rfl, h.regenerating⟩
      exact h.redis
  | generate n env =>
    simp only [Machine.next, tasks, taskStep, ← h.generating]
    cases s.generating n with
    | none => exact ⟨h.redis, h.adminuser, h.course, h.emailTemplates, h.next, h.generating, h.regenerating⟩
    | some g =>
      refine ⟨note_congr ?_ g, ?_, ?_, ?_, ?_, ?_, h.regenerating⟩
      · exact h.redis
      · simpa only [Generating.effect_db] using h.adminuser
      · simpa only [Generating.effect_db] using h.course
      · simpa only [Generating.effect_db] using h.emailTemplates
      · simpa only [Generating.effect_db] using commit_next h.next env g
      · simp only
        rw [move_congr L h.course h.emailTemplates h.next env g]
  | lapse key =>
    exact ⟨redisLapse_congr h.redis key, h.adminuser, h.course, h.emailTemplates, h.next, h.generating, h.regenerating⟩
  | beginRegenerate | regenerate => simp [isRegeneration] at hv
  | beginSend | send => exact absurd he id

/-! ## Without the generations -/

/-- an event of a generation for a template -/
def isGeneration : TaskEvent → Bool
  | .request (.dashboard ..) | .request (.generateAllEmails ..) | .request (.regenerateAllEmails ..) => true
  | .beginGenerate .. | .generate .. => true
  | _ => false

/-- regenerations, and generations for templates with other ids than `id` -/
def GeneratesOthers (id : ℕ) : TaskEvent → Prop
  | .request (.regenerateEmail ..) => True
  | .request r => Starts r
  | .beginGenerate _ t _ => t ≠ id
  | .beginSend .. | .send .. => False
  | _ => True

theorem generatesOthers_request {id : ℕ} {r : Request} (h : GeneratesOthers id (.request r)) :
    (∃ who k, r = .regenerateEmail who k) ∨ Starts r := by
  cases r with
  | regenerateEmail who k => exact Or.inl ⟨who, k, rfl⟩
  | _ => exact Or.inr h

/-- what the regenerations of the generated email `id` see, and its status -/
structure SameEmail (id : ℕ) (s s' : Tasks) : Prop where
  redis : s.world.redis (statusKey id) = s'.world.redis (statusKey id)
  adminuser : s.world.db.adminuser = s'.world.db.adminuser
  course : s.world.db.course = s'.world.db.course
  email : ∃ row template, s.world.db.generatedEmails.get id = some row ∧ s'.world.db.generatedEmails.get id = some row ∧
    s.world.db.emailTemplates.get row.cols.templateId = some template ∧
    s'.world.db.emailTemplates.get row.cols.templateId = some template
  names : ∀ n, (s.regenerating n).map Regenerating.generatedEmailId =
    (s'.regenerating n).map Regenerating.generatedEmailId
  regenerating : ∀ n r, s.regenerating n = some r → r.generatedEmailId = id → s'.regenerating n = some r
  generating : ∀ n g, s.generating n = some g → g.templateId ≠ id

/-- the generated email has been deleted -/
def Gone (id : ℕ) (s : Tasks) : Prop :=
  s.world.db.generatedEmails.get id = none ∧ id < s.world.db.generatedEmails.next

/-- a generation deletes a row or leaves it as it is -/
theorem commit_get (env : StepEnv) (g : Generating) (T : Table GeneratedEmail) {id : ℕ} (h : id < T.next) :
    ((g.commit env T).get id = T.get id ∨ (g.commit env T).get id = none) ∧ id < (g.commit env T).next := by
  unfold Generating.commit
  split
  · refine ⟨?_, h⟩
    rw [Table.get_erase]
    cases T.get id with
    | none => exact Or.inl rfl
    | some r =>
      rw [Option.filter_some]
      split_ifs
      · exact Or.inl rfl
      · exact Or.inr rfl
  · rw [Table.foldl_insert_next]
    exact ⟨Or.inl (Table.get_foldl_insert_of_lt _ _ h), by omega⟩
  · exact ⟨Or.inl rfl, h⟩

/-- no task brings a deleted row back -/
theorem EmailEffect.gone {id : ℕ} {s : Tasks} {e : TaskEvent} {table : Table GeneratedEmail} (heffect : EmailEffect s e table)
    (h : Gone id s) : table.get id = none ∧ id < table.next := by
  refine ⟨?_, h.2.trans_le heffect.next_le⟩
  cases heffect with
  | keep => exact h.1
  | delete =>
    rw [Table.get_erase, h.1]
    rfl
  | save => exact (Table.get_foldl_insert_of_lt _ _ h.2).trans h.1
  | rewrite | mark =>
    rw [Table.get_modify, h.1]
    rfl

/-- a deleted row does not come back -/
theorem gone_next (L : Lib) {id : ℕ} {s : Tasks} {e : TaskEvent} (he : GeneratesOthers id e) (h : Gone id s) :
    Gone id ((tasks L).next s e) := by
  rw [Gone, next_emails]
  by_cases hrequest : ∃ r, e = .request r
  · obtain ⟨r, rfl⟩ := hrequest
    have htable : (serve L s.world r).world.db.generatedEmails = s.world.db.generatedEmails := by
      rcases generatesOthers_request he with ⟨who, k, rfl⟩ | hr
      · rw [serve, regenerateEmail_world]
        split_ifs <;> rfl
      · rw [starts_world L s.world hr]
        split <;> rfl
    simp only [emailsAfter, htable]
    exact h
  · exact (emailsAfter_effect L s (not_exists.1 hrequest)).gone h

theorem generating_others (L : Lib) {id : ℕ} {s : Tasks} {e : TaskEvent} (he : GeneratesOthers id e)
    (h : ∀ n g, s.generating n = some g → g.templateId ≠ id) :
    ∀ n g, ((tasks L).next s e).generating n = some g → g.templateId ≠ id := by
  intro n g' hg'
  rcases generating_cases L s hg' with ⟨hg, _⟩ | ⟨t, c, rfl, _, rfl⟩ | ⟨env, g, rfl, hg, rfl⟩
  · exact h n g' hg
  · exact he
  · rw [move_templateId]
    exact h n g hg

theorem sameEmail_hidden (L : Lib) {id : ℕ} {s s' : Tasks} {e : TaskEvent} (he : GeneratesOthers id e)
    (hv : isGeneration e = true) (h : SameEmail id s s') :
    Gone id ((tasks L).next s e) ∨ SameEmail id ((tasks L).next s e) s' := by
  have hothers := generating_others L he h.generating
  obtain ⟨row, template, hrow, hrow', htemplate, htemplate'⟩ := h.email
  cases e with
  | request r =>
    refine Or.inr ?_
    rcases generatesOthers_request he with ⟨who, k, rfl⟩ | hr
    · simp [isGeneration] at hv
    · have hnext : (tasks L).next s (.request r) = { s with world := (serve L s.world r).world } := rfl
      rw [hnext, starts_world L s.world hr]
      cases hrun : startsRun s.world r with
      | none => exact h
      | some p =>
        exact ⟨h.redis, h.adminuser, h.course, ⟨row, template, hrow, hrow', startsRun_keeps hrun htemplate, htemplate'⟩,
          h.names, h.regenerating, h.generating⟩
  | beginGenerate n t c =>
    refine Or.inr ?_
    have hkey : statusKey id ≠ statusKey t := fun hkey => he (statusKey_inj hkey).symm
    simp only [Machine.next, tasks, taskStep] at hothers ⊢
    split at hothers
    · exact h
    · exact ⟨(redisSet_of_ne _ _ hkey).trans h.redis, h.adminuser, h.course, h.email, h.names, h.regenerating, hothers⟩
  | generate n env =>
    cases hg : s.generating n with
    | none =>
      rw [next_generate_none L hg]
      exact Or.inr h
    | some g =>
      have hkey : statusKey id ≠ statusKey g.templateId := fun hkey => h.generating n g hg (statusKey_inj hkey).symm
      have hlt : id < s.world.db.generatedEmails.next := by
        obtain ⟨hmem, hid⟩ := Table.get_eq_some_iff.1 hrow
        exact hid ▸ s.world.db.generatedEmails.below row hmem
      obtain ⟨hget, hlt'⟩ := commit_get env g s.world.db.generatedEmails hlt
      rw [next_generate L hg] at hothers ⊢
      rcases hget with hget | hget
      · refine Or.inr ⟨(note_redis_of_ne g _ hkey).trans h.redis, ?_, ?_, ⟨row, template, ?_, hrow', ?_, htemplate'⟩,
          h.names, h.regenerating, hothers⟩
        · simpa only [Generating.effect_db] using h.adminuser
        · simpa only [Generating.effect_db] using h.course
        · simpa only [Generating.effect_db] using hget.trans hrow
        · simpa only [Generating.effect_db] using htemplate
      · refine Or.inl ⟨?_, ?_⟩
        · simpa only [Generating.effect_db] using hget
        · simpa only [Generating.effect_db] using hlt'
  | _ => simp [isGeneration] at hv

/-- the reads of a regeneration see the row, its template and the campaigns -/
theorem read_congr (L : Lib) {db db' : Db} {id : ℕ} {row : Rec GeneratedEmail} {template : Rec EmailTemplate}
    (hrow : db.generatedEmails.get id = some row) (hrow' : db'.generatedEmails.get id = some row)
    (ht : db.emailTemplates.get row.cols.templateId = some template)
    (ht' : db'.emailTemplates.get row.cols.templateId = some template) (hc : db.course = db'.course)
    (env : RegenerateEnv) : Regenerating.read L db id env = .read L db' id env := by
  have hregenerated := regenerated_congr L hrow hrow' rfl (ht.trans ht'.symm) hc env
  simp only [Regenerating.read, hregenerated, hrow, hrow']

theorem Regenerating.move_congr (L : Lib) {db db' : Db} (r : Regenerating)
    (h : db.generatedEmails.get r.generatedEmailId = db'.generatedEmails.get r.generatedEmailId) (ok : Bool) :
    r.move L db ok = r.move L db' ok := by
  unfold Regenerating.move stale
  rw [h]

section Put

variable {id n : ℕ} {p p' : Pool Regenerating} {r r' : Regenerating}

theorem names_put (h : ∀ m, (p m).map Regenerating.generatedEmailId = (p' m).map Regenerating.generatedEmailId)
    (hid : r.generatedEmailId = r'.generatedEmailId) :
    ∀ m, ((p.put n (some r)) m).map Regenerating.generatedEmailId =
      ((p'.put n (some r')) m).map Regenerating.generatedEmailId :=
  Pool.rel_put (R := fun a b => a.map Regenerating.generatedEmailId = b.map Regenerating.generatedEmailId) h
    (congrArg some hid)

theorem regenerating_put (h : ∀ m x, p m = some x → x.generatedEmailId = id → p' m = some x)
    (hr : r.generatedEmailId = id → r = r') :
    ∀ m x, p.put n (some r) m = some x → x.generatedEmailId = id → p'.put n (some r') m = some x := by
  refine Pool.rel_put (R := fun a b => ∀ x : Regenerating, a = some x → x.generatedEmailId = id → b = some x) h ?_
  intro x hx hid
  cases hx
  rw [hr hid]

end Put

/-- a regeneration that is for `id` does the same in both, and one that is not leaves the row and its key alone -/
theorem sameEmail_regenerate (L : Lib) {id : ℕ} {s s' : Tasks} (h : SameEmail id s s') (n : ℕ) (ok : Bool) :
    SameEmail id ((tasks L).next s (.regenerate n ok)) ((tasks L).next s' (.regenerate n ok)) := by
  obtain ⟨row, template, hrow, hrow', htemplate, htemplate'⟩ := h.email
  have hn := h.names n
  cases hs : s.regenerating n with
  | none =>
    rw [hs] at hn
    have hs' : s'.regenerating n = none := Option.map_eq_none_iff.1 hn.symm
    simp only [Machine.next, tasks, taskStep, hs, hs']
    exact h
  | some r =>
    rw [hs] at hn
    obtain ⟨r', hs', hid'⟩ := Option.map_eq_some_iff.1 hn.symm
    have hown : r.generatedEmailId = id → r = r' := fun hid =>
      Option.some.inj ((h.regenerating n r hs hid).symm.trans hs')
    simp only [Machine.next, tasks, taskStep, hs, hs']
    have hmoved : (r.move L s.world.db ok).generatedEmailId = (r'.move L s'.world.db ok).generatedEmailId := by
      rw [Regenerating.move_id, Regenerating.move_id, hid']
    by_cases hid : r.generatedEmailId = id
    · obtain rfl := hown hid
      refine ⟨Regenerating.note_congr ?_ r, ?_, ?_, ⟨r.rewrite ok row, template, ?_, ?_, ?_, ?_⟩,
        names_put h.names hmoved, regenerating_put h.regenerating fun _ => ?_, h.generating⟩
      · exact h.redis
      · simpa only [Regenerating.effect_db] using h.adminuser
      · simpa only [Regenerating.effect_db] using h.course
      · simp only [Regenerating.effect_db, r.commit_get ok, hrow, Option.map_some]
      · simp only [Regenerating.effect_db, r.commit_get ok, hrow', Option.map_some]
      · simpa only [Regenerating.effect_db, r.rewrite_templateId] using htemplate
      · simpa only [Regenerating.effect_db, r.rewrite_templateId] using htemplate'
      · refine r.move_congr L ?_ ok
        rw [hid, hrow, hrow']
    · have hkey : statusKey id ≠ statusKey r.generatedEmailId := fun hkey => hid (statusKey_inj hkey).symm
      have hrowid : row.id = id := (Table.get_eq_some_iff.1 hrow).2
      have hkeep : r.rewrite ok row = row := Regenerating.rewrite_of_ne fun h' => hid (h'.symm.trans hrowid)
      have hkeep' : r'.rewrite ok row = row := Regenerating.rewrite_of_ne fun h' =>
        hid (hid'.symm.trans (h'.symm.trans hrowid))
      refine ⟨?_, ?_, ?_, ⟨row, template, ?_, ?_, ?_, ?_⟩, names_put h.names hmoved,
        regenerating_put h.regenerating fun hmove => ?_, h.generating⟩
      · have hsame : (r.effect ok s.world).redis (statusKey id) = s.world.redis (statusKey id) :=
          r.note_redis_of_ne _ hkey
        have hsame' : (r'.effect ok s'.world).redis (statusKey id) = s'.world.redis (statusKey id) :=
          r'.note_redis_of_ne _ (hid'.symm ▸ hkey)
        exact hsame.trans (h.redis.trans hsame'.symm)
      · simpa only [Regenerating.effect_db] using h.adminuser
      · simpa only [Regenerating.effect_db] using h.course
      · simp only [Regenerating.effect_db, r.commit_get ok, hrow, Option.map_some, hkeep]
      · simp only [Regenerating.effect_db, r'.commit_get ok, hrow', Option.map_some, hkeep']
      · simpa only [Regenerating.effect_db] using htemplate
      · simpa only [Regenerating.effect_db] using htemplate'
      · rw [Regenerating.move_id] at hmove
        exact absurd hmove hid

theorem sameEmail_visible (L : Lib) {id : ℕ} {s s' : Tasks} {e : TaskEvent} (he : GeneratesOthers id e)
    (hv : isGeneration e = false) (h : SameEmail id s s') :
    SameEmail id ((tasks L).next s e) ((tasks L).next s' e) := by
  have hothers := generating_others L he h.generating
  obtain ⟨row, template, hrow, hrow', htemplate, htemplate'⟩ := h.email
  cases e with
  | request r =>
    rcases generatesOthers_request he with ⟨who, k, rfl⟩ | hr
    · have hnext : ∀ x : Tasks, (tasks L).next x (.request (.regenerateEmail who k)) =
          { x with world := (regenerateEmail x.world who k).world } := fun _ => rfl
      have hu : currentUser s.world.db who = currentUser s'.world.db who := by simp only [currentUser, h.adminuser]
      rw [hnext, hnext, regenerateEmail_world, regenerateEmail_world, hu]
      split_ifs
      · refine ⟨redisSet_congr ?_ .., h.adminuser, h.course, h.email, h.names, h.regenerating, h.generating⟩
        exact h.redis
      · exact h
    · cases r with
      | dashboard | generateAllEmails | regenerateAllEmails => simp [isGeneration] at hv
      | _ => exact absurd hr not_false
  | beginRegenerate n k env =>
    have hn := h.names n
    cases hs : s.regenerating n with
    | some r =>
      rw [hs] at hn
      obtain ⟨r', hs', _⟩ := Option.map_eq_some_iff.1 hn.symm
      simp only [Machine.next, tasks, taskStep, hs, hs']
      exact h
    | none =>
      rw [hs] at hn
      have hs' : s'.regenerating n = none := Option.map_eq_none_iff.1 hn.symm
      simp only [Machine.next, tasks, taskStep, hs, hs']
      refine ⟨h.redis, h.adminuser, h.course, h.email, ?_, ?_, h.generating⟩
      · exact names_put h.names rfl
      · refine regenerating_put h.regenerating fun hid => ?_
        have hk : k = id := hid
        subst hk
        exact read_congr L hrow hrow' htemplate htemplate' h.course env
  | regenerate n ok => exact sameEmail_regenerate L h n ok
  | lapse key =>
    exact ⟨redisLapse_congr h.redis key, h.adminuser, h.course, h.email, h.names, h.regenerating, h.generating⟩
  | beginGenerate | generate => simp [isGeneration] at hv
  | beginSend | send => exact absurd he not_false

/-! ## Independence -/

/-- a poll sees the session and one key; the two polls have the same body -/
theorem statusPoll_congr {w w' : World} {id : ℕ} (ha : w.db.adminuser = w'.db.adminuser)
    (h : w.redis (statusKey id) = w'.redis (statusKey id)) (who : Option ℕ) :
    (generateAllEmailsStatus w who id).resp = (generateAllEmailsStatus w' who id).resp := by
  have hu : currentUser w.db who = currentUser w'.db who := by
    unfold currentUser
    rw [ha]
  simp only [generateAllEmailsStatus, loginRequired, hu, h]
  cases currentUser w'.db who <;> rfl

/-- **Status keys of different tasks do not interfere**, if their ids differ. The answer for the template `t` is that of
the run without the regenerations, if none is for a generated email with id `t`; the answer for the generated email `id`,
while there is one, is that of the run without the generations, if none is for a template with this id. -/
theorem status_independent (L : Lib) (w : World) (schedule : List TaskEvent) (who : Option ℕ) :
    (∀ t, (∀ e ∈ schedule, RegeneratesOthers t e) →
      (generateAllEmailsStatus ((tasks L).run (atRest w) schedule).world who t).resp =
        (generateAllEmailsStatus ((tasks L).run (atRest w) (schedule.filter fun e => !isRegeneration e)).world who t).resp) ∧
    (∀ id row template, w.db.generatedEmails.get id = some row →
      w.db.emailTemplates.get row.cols.templateId = some template → (∀ e ∈ schedule, GeneratesOthers id e) →
      (((tasks L).run (atRest w) schedule).world.db.generatedEmails.get id).isSome →
      (emailStatus ((tasks L).run (atRest w) schedule).world who id).resp =
        (emailStatus ((tasks L).run (atRest w) (schedule.filter fun e => !isGeneration e)).world who id).resp) := by
  constructor
  · intro t hevents
    have hsame : SameGenerations t ((tasks L).run (atRest w) schedule)
        ((tasks L).run (atRest w) (schedule.filter fun e => !isRegeneration e)) :=
      (tasks L).run_filter (fun s s' e he hv h => sameGenerations_hidden L he (by simpa using hv) h)
        (fun s s' e he hv h => sameGenerations_visible L he (by simpa using hv) h) hevents
        ⟨rfl, rfl, rfl, rfl, rfl, rfl, fun n r hn => by simp [atRest] at hn⟩
    exact statusPoll_congr hsame.adminuser hsame.redis who
  · intro id row template hrow htemplate hevents hthere
    have hrelated : Gone id ((tasks L).run (atRest w) schedule) ∨ SameEmail id ((tasks L).run (atRest w) schedule)
        ((tasks L).run (atRest w) (schedule.filter fun e => !isGeneration e)) := by
      refine (tasks L).run_filter (A := GeneratesOthers id) (R := fun s s' => Gone id s ∨ SameEmail id s s')
        (fun s s' e he hv h => ?_) (fun s s' e he hv h => ?_) hevents
        (Or.inr ⟨rfl, rfl, rfl, ⟨row, template, hrow, hrow, htemplate, htemplate⟩, fun _ => rfl,
          fun n r hn => by simp [atRest] at hn, fun n g hn => by simp [atRest] at hn⟩)
      · rcases h with hgone | hsame
        · exact Or.inl (gone_next L he hgone)
        · exact sameEmail_hidden L he (by simpa using hv) hsame
      · rcases h with hgone | hsame
        · exact Or.inl (gone_next L he hgone)
        · exact Or.inr (sameEmail_visible L he (by simpa using hv) hsame)
    rcases hrelated with hgone | hsame
    · rw [hgone.1] at hthere
      cases hthere
    · exact statusPoll_congr hsame.adminuser hsame.redis who

namespace Sample

/-- template 1 has the generated emails 1, 2 and 3, and its status has lapsed -/
def written : World :=
  ((tasks Newsletter.Sample.lib).run (atRest drafted) (firstRun ++ [.lapse (statusKey 1)])).world

/-- the owner asks for a new version of the generated email `id` and for new emails of template 1 -/
def bothFamilies (id : ℕ) : List TaskEvent :=
  [.request (.regenerateEmail (some 2) id), .beginRegenerate 0 id ⟨true, fun _ => .answered "Better news", true⟩,
    .request (.regenerateAllEmails (some 2) 1), .beginGenerate 1 1 (some 1), .regenerate 0 true]

theorem bothFamilies_others : ∀ e ∈ bothFamilies 2, RegeneratesOthers 1 e ∧ GeneratesOthers 2 e := by
  intro e he
  simp only [bothFamilies, List.mem_cons, List.not_mem_nil, or_false] at he
  rcases he with rfl | rfl | rfl | rfl | rfl <;> simp [RegeneratesOthers, GeneratesOthers, Starts]

end Sample

theorem status_independent_other_email :
    (generateAllEmailsStatus ((tasks Newsletter.Sample.lib).run (atRest Sample.written)
        (Sample.bothFamilies 2)).world (some 2) 1).resp =
      (generateAllEmailsStatus ((tasks Newsletter.Sample.lib).run (atRest Sample.written)
        ((Sample.bothFamilies 2).filter fun e => !isRegeneration e)).world (some 2) 1).resp ∧
    (emailStatus ((tasks Newsletter.Sample.lib).run (atRest Sample.written) (Sample.bothFamilies 2)).world (some 2) 2).resp =
      (emailStatus ((tasks Newsletter.Sample.lib).run (atRest Sample.written)
        ((Sample.bothFamilies 2).filter fun e => !isGeneration e)).world (some 2) 2).resp := by
  have hrow : (Sample.written.db.generatedEmails.get 2).map (fun r => r.cols.templateId) = some 1 := rfl
  have htemplate : (Sample.written.db.emailTemplates.get 1).isSome := rfl
  obtain ⟨row, hrow, hid⟩ := Option.map_eq_some_iff.1 hrow
  obtain ⟨template, htemplate⟩ := Option.isSome_iff_exists.1 htemplate
  have h := status_independent Newsletter.Sample.lib Sample.written (Sample.bothFamilies 2) (some 2)
  exact ⟨h.1 1 fun e he => (Sample.bothFamilies_others e he).1,
    h.2 2 row template hrow (hid ▸ htemplate) (fun e he => (Sample.bothFamilies_others e he).2) rfl⟩

/-- a regeneration of generated email 1 is reported as the status of template 1, and the other way round -/
theorem status_interferes :
    let poll schedule := (generateAllEmailsStatus ((tasks Newsletter.Sample.lib).run (atRest Sample.written)
      schedule).world (some 2) 1).resp
    let pollEmail schedule := (emailStatus ((tasks Newsletter.Sample.lib).run (atRest Sample.written)
      schedule).world (some 2) 1).resp
    let regeneration : List TaskEvent := [.request (.regenerateEmail (some 2) 1)]
    let generation : List TaskEvent := [.request (.regenerateAllEmails (some 2) 1), .beginGenerate 1 1 (some 1)]
    (poll regeneration = .json [("status", "in-progress")] 200 ∧
      poll (regeneration.filter fun e => !isRegeneration e) = .json [("status", "not_found")] 404) ∧
    (pollEmail generation = .json [("status", "in-progress")] 200 ∧
      pollEmail (generation.filter fun e => !isGeneration e) = .json [("status", "not_found")] 404) := by
  decide

end Newsletter.Concurrency
