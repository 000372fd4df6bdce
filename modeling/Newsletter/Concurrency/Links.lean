/-
Registration links (`addcourse` and `generate_code`, `app/user/route.py`, lines 91-136).

`addcourse` draws codes until one is not in use, and then inserts the campaign; the column has no unique constraint. The look-up
of the admin is the first read of the request, so that its queries for codes see the table as it was then. Here a request is
`drawing`, or has `chosen` a code and not yet committed. Schedules interleave any number of these with the requests that rewrite
campaigns.

- `links_unambiguous_iff`: the codes of all campaigns are distinct, now and after the requests in progress have committed,
  so that each link leads to the campaign it was issued for, exactly if no request chooses a code that has been committed since it
  began, or that another request has chosen and not yet committed;
- `code_drawn_twice`: two requests that draw the same code, the second before or after the first has committed.
-/
import Newsletter.App
import Newsletter.Core.Pool

namespace Newsletter.Concurrency

open Newsletter.Core Auth Courses

/-! ## Interleaved `addcourse` requests -/

/-- an `addcourse` that has passed the form; `view` is what its queries see -/
inductive Adding where
  | drawing (view : Db) (admin type : ℕ) (name : String)
  | chosen (admin type : ℕ) (name url : String)

/-- the code that a request has chosen -/
def Adding.code : Adding → Option String
  | .drawing .. => none
  | .chosen _ _ _ url => some url

structure Desk where
  world : World
  adding : Pool Adding

/-- the other requests on campaigns -/
inductive CampaignRequest where
  | customize (campaign : ℕ) (form : Option CustomizeForm) (commit : Bool)
  | config (who : Option ℕ) (id : ℕ) (form : Option OpenAiForm) (commit : Bool)
  | deleteCampaign (who : Option ℕ) (campaign : ℕ) (stripe : ℕ → Reply)

def CampaignRequest.world (w : World) : CampaignRequest → World
  | .customize campaign form commit => (Courses.customize w campaign form commit).world
  | .config who id form commit => (Courses.config w who id form commit).world
  | .deleteCampaign who campaign stripe => (Courses.deleteCampaign w who campaign stripe).world

inductive DeskInput where
  | begin (n : ℕ) (who : Option ℕ) (form : Option (ℕ × String))
  /-- one round of the loop: `generate_code` returns `code`, and the query looks for it -/
  | draw (n : ℕ) (code : String)
  /-- the new row is committed, or the commit fails -/
  | commit (n : ℕ) (ok : Bool)
  | request (r : CampaignRequest)

/-- some campaign has this code -/
def codeInUse (db : Db) (code : String) : Bool := (linkedCampaign db code).isSome

def newCourse (admin type : ℕ) (name url : String) : Course :=
  { type := some type, name := some name, ownerId := some admin, url := some url }

def deskStep (d : Desk) : DeskInput → Desk
  | .begin n who form =>
    match d.adding n, currentUser d.world.snapshot who, form with
    | none, some admin, some (type, name) =>
      { d with adding := d.adding.put n (some (.drawing d.world.snapshot admin.id type name)) }
    | _, _, _ => d
  | .draw n code =>
    match d.adding n with
    | some (.drawing view admin type name) =>
      if codeInUse view code then d else { d with adding := d.adding.put n (some (.chosen admin type name code)) }
    | _ => d
  | .commit n ok =>
    match d.adding n with
    | some (.chosen admin type name url) =>
      { world := if ok then setCourse d.world (d.world.db.course.insert (newCourse admin type name url)) else d.world
        adding := d.adding.put n none }
    | _ => d
  | .request r => { d with world := r.world d.world }

def desk : Machine Desk DeskInput Unit := ⟨fun d i => (deskStep d i, ())⟩

/-! ## Codes -/

/-- the codes of the campaigns, deleted ones included -/
def codes (db : Db) : List String := db.course.rows.filterMap fun c => c.cols.url

theorem codeInUse_iff {db : Db} {code : String} : codeInUse db code = true ↔ code ∈ codes db := by
  unfold codeInUse codes
  rw [List.mem_filterMap, Option.isSome_iff_exists]
  constructor
  · rintro ⟨c, hc⟩
    exact ⟨c, Table.first_mem hc, by simpa using Table.first_prop hc⟩
  · rintro ⟨c, hc, hurl⟩
    cases hf : linkedCampaign db code with
    | some c' => exact ⟨c', rfl⟩
    | none => exact absurd (Table.first_eq_none_iff.1 hf c hc) (by simp [hurl])

theorem codes_modify {t : Table Course} {k : ℕ} {f : Course → Course} (hf : ∀ c, (f c).url = c.url) :
    ((t.modify k f).rows.filterMap fun c => c.cols.url) = t.rows.filterMap fun c => c.cols.url := by
  rw [Table.modify_rows, List.filterMap_map]
  refine List.filterMap_congr fun c _ => ?_
  simp only [Function.comp, Table.setAt]
  split_ifs
  · exact hf c.cols
  · rfl

/-- the other requests on campaigns keep every code -/
theorem codes_request (w : World) (r : CampaignRequest) : codes (r.world w).db = codes w.db := by
  cases r with
  | customize campaign form commit =>
    simp only [CampaignRequest.world, customize_world, codes, setCourse]
    cases committedCustomize form commit with
    | none => rfl
    | some f => exact codes_modify fun c => rfl
  | config who id form commit =>
    simp only [CampaignRequest.world, config_world, codes, setCourse]
    cases committedConfig w.db who form commit with
    | none => rfl
    | some f => exact codes_modify fun c => rfl
  | deleteCampaign who campaign stripe =>
    simp only [CampaignRequest.world, deleteCampaign_world, codes]
    split
    · exact codes_modify fun c => rfl
    · rfl

theorem codes_insert (w : World) (admin type : ℕ) (name url : String) :
    codes (setCourse w (w.db.course.insert (newCourse admin type name url))).db = codes w.db ++ [url] := by
  simp [codes, setCourse, newCourse]

/-- distinct codes make every link lead to its own campaign -/
theorem link_leads {db : Db} (h : (codes db).Nodup) {c : Rec Course} (hc : c ∈ db.course.rows) {code : String}
    (hurl : c.cols.url = some code) : linkedCampaign db code = some c := by
  have hin : codeInUse db code = true := codeInUse_iff.2 (List.mem_filterMap.2 ⟨c, hc, hurl⟩)
  obtain ⟨c', hc'⟩ := Option.isSome_iff_exists.1 hin
  rw [hc']
  have hurl' : c'.cols.url = some code := by simpa using Table.first_prop hc'
  rw [eq_of_nodup_filterMap h (Table.first_mem hc') hc hurl' hurl]

/-! ## One request on its own -/

/-- once a code is chosen the loop is over -/
theorem run_draws_chosen (w : World) (admin type : ℕ) (name url : String) (draws : List String) (p : Pool Adding)
    (hp : p 0 = some (.chosen admin type name url)) : desk.run ⟨w, p⟩ (draws.map (DeskInput.draw 0)) = ⟨w, p⟩ := by
  induction draws with
  | nil => rfl
  | cons code draws ih =>
    have hnext : desk.next ⟨w, p⟩ (.draw 0 code) = ⟨w, p⟩ := by simp only [Machine.next, desk, deskStep, hp]
    rw [List.map_cons, Machine.run_cons, hnext, ih]

theorem run_draws (w : World) (view : Db) (admin type : ℕ) (name : String) (draws : List String) (p : Pool Adding)
    (hp : p 0 = some (.drawing view admin type name)) :
    ∃ p', desk.run ⟨w, p⟩ (draws.map (DeskInput.draw 0)) = ⟨w, p'⟩ ∧
      p' 0 = some (match draws.find? fun url => !codeInUse view url with
        | none => .drawing view admin type name
        | some url => .chosen admin type name url) := by
  induction draws with
  | nil => exact ⟨p, rfl, hp⟩
  | cons code draws ih =>
    rw [List.map_cons, Machine.run_cons]
    cases hin : codeInUse view code with
    | true =>
      have hnext : desk.next ⟨w, p⟩ (.draw 0 code) = ⟨w, p⟩ := by
        simp only [Machine.next, desk, deskStep, hp, hin, if_true]
      rw [hnext, List.find?_cons_of_neg (by simp [hin])]
      exact ih
    | false =>
      have hnext : desk.next ⟨w, p⟩ (.draw 0 code) = ⟨w, p.put 0 (some (.chosen admin type name code))⟩ := by
        simp only [Machine.next, desk, deskStep, hp, hin, Bool.false_eq_true, if_false]
      rw [hnext, List.find?_cons_of_pos (by simp [hin]), run_draws_chosen _ _ _ _ _ _ _ (Pool.put_self ..)]
      exact ⟨_, rfl, Pool.put_self ..⟩

/-- **Alone.** An `addcourse` that is not interleaved with another one leaves the world of the sequential handler. -/
theorem addcourse_alone (w : World) (who : Option ℕ) (form : Option (ℕ × String)) (draws : List String) :
    (desk.run ⟨w, .empty⟩ (.begin 0 who form :: (draws.map (DeskInput.draw 0) ++ [.commit 0 true]))).world =
      (Users.addcourse w who form draws).world := by
  have hrefused : ∀ l : List String, desk.run ⟨w, .empty⟩ (l.map (DeskInput.draw 0) ++ [.commit 0 true]) = ⟨w, .empty⟩ := by
    intro l
    induction l with
    | nil => rfl
    | cons code l ih => exact ih
  rw [Machine.run_cons]
  unfold Users.addcourse loginRequired
  cases hadmin : currentUser w.db who with
  | none =>
    have hnext : desk.next ⟨w, .empty⟩ (.begin 0 who form) = ⟨w, .empty⟩ := by
      simp only [Machine.next, desk, deskStep, hadmin, Pool.empty_apply]
    rw [hnext, hrefused]
  | some admin =>
    cases form with
    | none =>
      have hnext : desk.next ⟨w, .empty⟩ (.begin 0 who none) = ⟨w, .empty⟩ := by
        simp only [Machine.next, desk, deskStep, hadmin, Pool.empty_apply]
      rw [hnext, hrefused]
    | some f =>
      obtain ⟨type, name⟩ := f
      have hnext : desk.next ⟨w, .empty⟩ (.begin 0 who (some (type, name))) =
          ⟨w, Pool.empty.put 0 (some (.drawing w.snapshot admin.id type name))⟩ := by
        simp only [Machine.next, desk, deskStep, hadmin, Pool.empty_apply]
      obtain ⟨p', hrun, hp'⟩ := run_draws w w.snapshot admin.id type name draws _ (Pool.put_self Pool.empty 0 _)
      have hfind : (draws.find? fun url => !codeInUse w.db url) = Users.newCode w.db draws := by
        unfold Users.newCode
        congr 1
        funext url
        simp [codeInUse]
      rw [hnext, Machine.run_append, hrun]
      rw [hfind] at hp'
      simp only
      split
      · rename_i hnone
        simp only [hnone] at hp'
        simp only [Machine.run_cons, Machine.run_nil, Machine.next, desk, deskStep, hp']
      · rename_i url hsome
        simp only [hsome] at hp'
        simp only [Machine.run_cons, Machine.run_nil, Machine.next, desk, deskStep, hp', if_true]
        rfl

/-! ## Distinct codes -/

/-- the codes in the table and the chosen ones are all different -/
structure Tidy (d : Desk) : Prop where
  distinct : (codes d.world.db).Nodup
  unused : ∀ n a url, d.adding n = some a → a.code = some url → url ∉ codes d.world.db
  apart : ∀ n m a b url, n ≠ m → d.adding n = some a → d.adding m = some b → a.code = some url → b.code ≠ some url

/-- no request chooses a code that has been committed since it began, or that another one has chosen and not yet committed -/
def Unclaimed (d : Desk) : DeskInput → Prop
  | .draw n code => ∀ view admin type name, d.adding n = some (.drawing view admin type name) → codeInUse view code = false →
      codeInUse d.world.db code = false ∧ ∀ m b, m ≠ n → d.adding m = some b → b.code ≠ some code
  | _ => True

/-- a task that comes without a code, or ends, leaves the chosen codes different -/
theorem Tidy.put_none {d : Desk} (h : Tidy d) {n : ℕ} {x : Option Adding} (hx : ∀ a, x = some a → a.code = none) :
    Tidy { d with adding := d.adding.put n x } where
  distinct := h.distinct
  unused := by
    intro m a url hm ha
    rcases Pool.put_cases hm with ⟨-, hm⟩ | ⟨-, hm⟩
    · exact h.unused m a url hm ha
    · rw [hx a hm] at ha
      cases ha
  apart := by
    intro m k a b url hmk hm hk ha
    rcases Pool.put_cases hm with ⟨-, hm⟩ | ⟨-, hm⟩
    · rcases Pool.put_cases hk with ⟨-, hk⟩ | ⟨-, hk⟩
      · exact h.apart m k a b url hmk hm hk ha
      · rw [hx b hk]
        simp
    · rw [hx a hm] at ha
      cases ha

theorem tidy_draw_iff {d : Desk} (h : Tidy d) {n : ℕ} {admin type : ℕ} {name code : String} :
    Tidy { d with adding := d.adding.put n (some (.chosen admin type name code)) } ↔
      codeInUse d.world.db code = false ∧ ∀ m b, m ≠ n → d.adding m = some b → b.code ≠ some code := by
  constructor
  · intro ht
    refine ⟨?_, fun m b hmn hm => ?_⟩
    · rw [Bool.eq_false_iff, ne_eq, codeInUse_iff]
      exact ht.unused n _ code (Pool.put_self ..) rfl
    · exact ht.apart n m _ b code hmn.symm (Pool.put_self ..) ((Pool.put_of_ne _ _ hmn).trans hm) rfl
  · rintro ⟨hin, hfree⟩
    refine ⟨h.distinct, ?_, ?_⟩
    · intro m a url hm ha
      rcases Pool.put_cases hm with ⟨-, hm⟩ | ⟨-, hm⟩
      · exact h.unused m a url hm ha
      · cases hm
        cases ha
        intro hmem
        rw [codeInUse_iff.2 hmem] at hin
        cases hin
    · intro m k a b url hmk hm hk ha hb
      rcases Pool.put_cases hm with ⟨hmn, hma⟩ | ⟨hmn, hma⟩
      · rcases Pool.put_cases hk with ⟨-, hkb⟩ | ⟨-, hkb⟩
        · exact h.apart m k a b url hmk hma hkb ha hb
        · cases hkb
          cases hb
          exact hfree m a hmn hma ha
      · rcases Pool.put_cases hk with ⟨hkn, hkb⟩ | ⟨hkn, -⟩
        · cases hma
          cases ha
          exact hfree k b hkn hkb hb
        · exact hmk (hmn.trans hkn.symm)

/-- a commit moves a chosen code into the table -/
theorem Tidy.commit {d : Desk} (h : Tidy d) {n : ℕ} {admin type : ℕ} {name url : String}
    (hn : d.adding n = some (.chosen admin type name url)) :
    Tidy ⟨setCourse d.world (d.world.db.course.insert (newCourse admin type name url)), d.adding.put n none⟩ := by
  have hrest := h.put_none (n := n) (x := none) (by simp)
  refine ⟨?_, ?_, hrest.apart⟩
  · rw [codes_insert]
    refine List.nodup_append.2 ⟨h.distinct, List.nodup_singleton url, fun a ha b hb hab => ?_⟩
    rw [List.mem_singleton] at hb
    subst hb hab
    exact h.unused n _ a hn rfl ha
  · intro m a u hm ha
    rcases Pool.put_cases hm with ⟨hmn, hma⟩ | ⟨-, hma⟩
    · rw [codes_insert, List.mem_append, List.mem_singleton, not_or]
      refine ⟨h.unused m a u hma ha, ?_⟩
      rintro rfl
      exact h.apart m n a _ u hmn hma hn ha rfl
    · cases hma

theorem tidy_next_iff (d : Desk) (i : DeskInput) (h : Tidy d) : Tidy (desk.next d i) ↔ Unclaimed d i := by
  cases i with
  | begin n who form =>
    simp only [Unclaimed, iff_true, Machine.next, desk, deskStep]
    split
    · exact h.put_none (by rintro a ⟨⟩; rfl)
    · exact h
  | draw n code =>
    simp only [Machine.next, desk, deskStep, Unclaimed]
    split
    · rename_i view admin type name hn
      cases hin : codeInUse view code with
      | true =>
        refine ⟨fun _ view' admin' type' name' hn' hfree => ?_, fun _ => h⟩
        cases hn.symm.trans hn'
        rw [hin] at hfree
        cases hfree
      | false =>
        simp only [Bool.false_eq_true, if_false]
        rw [tidy_draw_iff h]
        constructor
        · intro hfree view' admin' type' name' _ _
          exact hfree
        · intro hfree
          exact hfree view admin type name hn hin
    · rename_i hno
      exact ⟨fun _ view admin type name hn => absurd hn (hno view admin type name), fun _ => h⟩
  | commit n ok =>
    simp only [Unclaimed, iff_true, Machine.next, desk, deskStep]
    split
    · rename_i admin type name url hn
      cases ok with
      | true => exact h.commit hn
      | false => exact h.put_none (by simp)
    · exact h
  | request r =>
    simp only [Unclaimed, iff_true, Machine.next, desk, deskStep]
    have hcodes := codes_request d.world r
    exact ⟨hcodes ▸ h.distinct, fun n a url hn ha => hcodes ▸ h.unused n a url hn ha, h.apart⟩

/-- every link leads to its own campaign, now and after any of the requests in progress have committed -/
def Unambiguous (d : Desk) : Prop :=
  ∀ ns : List ℕ, let db := (desk.run d (ns.map fun n => .commit n true)).world.db
    (codes db).Nodup ∧ ∀ c ∈ db.course.rows, ∀ code, c.cols.url = some code →
      linkedCampaign db code = some c

theorem commit_codes {d : Desk} {n : ℕ} {a : Adding} {url : String} (hn : d.adding n = some a)
    (ha : a.code = some url) :
    codes (desk.next d (.commit n true)).world.db = codes d.world.db ++ [url] ∧
      ∀ m, m ≠ n → (desk.next d (.commit n true)).adding m = d.adding m := by
  cases a with
  | drawing view admin type name => cases ha
  | chosen admin type name u =>
    cases ha
    simp only [Machine.next, desk, deskStep, hn]
    exact ⟨codes_insert .., fun m hm => Pool.put_of_ne _ _ hm⟩

theorem unambiguous_iff_tidy (d : Desk) : Unambiguous d ↔ Tidy d := by
  constructor
  · intro hu
    refine ⟨(hu []).1, ?_, ?_⟩
    · intro n a url hn ha hmem
      have hnodup := (hu [n]).1
      simp only [List.map_cons, List.map_nil, Machine.run_cons, Machine.run_nil, (commit_codes hn ha).1] at hnodup
      exact (List.nodup_append.1 hnodup).2.2 url hmem url List.mem_cons_self rfl
    · -- committing both requests would put the code into the table twice
      intro n m a b url hnm hn hm ha hb
      obtain ⟨hcodes, hother⟩ := commit_codes hn ha
      have hm' : (desk.next d (.commit n true)).adding m = some b := (hother m hnm.symm).trans hm
      have hnodup := (hu [n, m]).1
      simp only [List.map_cons, List.map_nil, Machine.run_cons, Machine.run_nil, (commit_codes hm' hb).1, hcodes] at hnodup
      exact (List.nodup_append.1 hnodup).2.2 url (List.mem_append_right _ List.mem_cons_self) url List.mem_cons_self rfl
  · intro ht ns
    have hend : Tidy (desk.run d (ns.map fun n => .commit n true)) := by
      induction ns generalizing d with
      | nil => exact ht
      | cons n ns ih => exact ih _ ((tidy_next_iff d (.commit n true) ht).2 trivial)
    exact ⟨hend.distinct, fun c hc code hurl => link_leads hend.distinct hc hurl⟩

/-- **Unambiguous links.** From distinct codes and no `addcourse` in progress, along any schedule: all codes are distinct and
every link leads to its own campaign, in every state reached and after any commits of the requests then in progress,
exactly if no request chooses a code that has been committed since it began, or that another request has chosen and not yet
committed. -/
theorem links_unambiguous_iff (w : World) (h : (codes w.db).Nodup) (schedule : List DeskInput) :
    desk.Always Unambiguous ⟨w, .empty⟩ schedule ↔ desk.Along Unclaimed ⟨w, .empty⟩ schedule := by
  have hstart : Tidy ⟨w, .empty⟩ :=
    ⟨h, fun n a url hn => absurd hn (by simp), fun n m a b url _ hn => absurd hn (by simp)⟩
  rw [← desk.always_iff_along tidy_next_iff hstart]
  exact desk.always_congr fun pre => unambiguous_iff_tidy _

/-- two requests in progress at the same time, with different codes -/
theorem links_unambiguous_iff_two_codes :
    desk.Always Unambiguous ⟨Sample.start, .empty⟩
      [.begin 0 (some 2) (some (1, "Ads")), .begin 1 (some 3) (some (2, "News")), .draw 0 "ef797c81", .draw 1 "0b14d501",
        .commit 1 true, .commit 0 true] := by
  refine (links_unambiguous_iff Sample.start (by decide) _).2 ⟨trivial, trivial, ?_, ?_, trivial, trivial, trivial⟩
  · intro view admin type name _ _
    refine ⟨by decide, fun m b hm hb => ?_⟩
    rcases Pool.put_cases hb with ⟨hm1, hb⟩ | ⟨-, hb⟩
    · rcases Pool.put_cases hb with ⟨hm0, hb⟩ | ⟨hm0, -⟩
      · cases hb
      · exact absurd hm0 hm
    · cases hb
      simp [Adding.code]
  · intro view admin type name _ _
    refine ⟨by decide, fun m b hm hb => ?_⟩
    rcases Pool.put_cases hb with ⟨hm0, hb⟩ | ⟨-, hb⟩
    · rcases Pool.put_cases hb with ⟨hm1, hb⟩ | ⟨hm1, -⟩
      · rcases Pool.put_cases hb with ⟨-, hb⟩ | ⟨hm0', -⟩
        · cases hb
        · exact absurd hm0' hm0
      · exact absurd hm1 hm
    · cases hb
      simp [Adding.code]

/-- **A code drawn twice.** Both requests have begun before the other commits. The table then holds the code twice, and the second
campaign's link leads to the first, also if the second request looks the code up after the first has committed. -/
theorem code_drawn_twice :
    let begun := desk.run ⟨Sample.start, .empty⟩ [.begin 0 (some 2) (some (1, "Ads")), .begin 1 (some 3) (some (2, "News"))]
    let db := (desk.run begun [.draw 0 "ef797c81", .draw 1 "ef797c81", .commit 0 true, .commit 1 true]).world.db
    let db' := (desk.run begun [.draw 0 "ef797c81", .commit 0 true, .draw 1 "ef797c81", .commit 1 true]).world.db
    codes db = ["Ab3dE", "Xy9zW", "ef797c81", "ef797c81"] ∧
      (db.course.get 4).bind (fun c => c.cols.url) = some "ef797c81" ∧
      (linkedCampaign db "ef797c81").map Rec.id = some 3 ∧
      db'.course.rows = db.course.rows := by
  decide +kernel

end Newsletter.Concurrency
