/-
What the pages of an admin are built from.

`AgreeFor b` relates two databases that have the same data of admin `b` (account, campaigns with their resources and
subscribers, templates with their generated emails) and the same campaign ids, and that may differ in everything else.
The campaign pages mix queries filtered by owner with look-ups by the id in the URL that are not; so they are built from
the same data in both databases when the id is that of an own campaign or of none (`owner_pages_agree`), and print
another admin's keys when it is not. The list of `users.users` is not filtered by owner at all: it agrees only if the two
databases agree on every active subscriber. `pages_leak` shows both leaks.
-/
import Newsletter.Isolation.Integrity

namespace Newsletter

open Newsletter.Core Courses

/-- the two databases show admin `b` the same data of their own, and the same campaign ids -/
structure AgreeFor (b : ℕ) (db db' : Db) : Prop where
  account : db'.adminuser.get b = db.adminuser.get b
  courses : (db'.course.all fun c => c.cols.ownerId = some b) = db.course.all fun c => c.cols.ownerId = some b
  exist : ∀ c, (db'.course.get c).isSome = (db.course.get c).isSome
  resources : ∀ c ∈ db.course.rows, c.cols.ownerId = some b → resourcesOf db' c.id = resourcesOf db c.id
  subscribers : ∀ c ∈ db.course.rows, c.cols.ownerId = some b →
    (db'.user.all fun u => u.cols.courseId = some c.id) = db.user.all fun u => u.cols.courseId = some c.id
  templates : (db'.emailTemplates.all fun t => t.cols.ownerId = some b) =
    db.emailTemplates.all fun t => t.cols.ownerId = some b
  emails : ∀ t ∈ db.emailTemplates.rows, t.cols.ownerId = some b → emailsOf db' t.id = emailsOf db t.id

/-- the campaign id is that of a campaign of admin `b` -/
def Owns (db : Db) (b c : ℕ) : Prop := ∃ x, db.course.get c = some x ∧ x.cols.ownerId = some b

section Agree

variable {b : ℕ} {db db' : Db}

theorem AgreeFor.ownCourses (h : AgreeFor b db db') : Courses.ownCourses db' b = Courses.ownCourses db b := by
  unfold Courses.ownCourses
  rw [Table.all_and, Table.all_and, h.courses]

theorem AgreeFor.currentUser (h : AgreeFor b db db') : currentUser db' (some b) = Newsletter.currentUser db (some b) :=
  h.account

/-- an own campaign is the same row in both -/
theorem AgreeFor.get (h : AgreeFor b db db') {c : ℕ} {x : Rec Course} (hx : db.course.get c = some x)
    (hb : x.cols.ownerId = some b) : db'.course.get c = some x := by
  obtain ⟨hmem, hid⟩ := Table.get_eq_some_iff.1 hx
  have hall : x ∈ db'.course.all fun c => c.cols.ownerId = some b := by
    rw [h.courses]
    exact List.mem_filter.2 ⟨hmem, by simpa using hb⟩
  exact Table.get_eq_some_iff.2 ⟨(List.mem_filter.1 hall).1, hid⟩

theorem AgreeFor.get_none (h : AgreeFor b db db') {c : ℕ} (hc : db.course.get c = none) : db'.course.get c = none := by
  have hsome := h.exist c
  rw [hc] at hsome
  simpa using hsome

theorem AgreeFor.activeUsers (h : AgreeFor b db db') {c : ℕ} {x : Rec Course} (hx : db.course.get c = some x)
    (hb : x.cols.ownerId = some b) : Newsletter.activeUsers db' c = Newsletter.activeUsers db c := by
  obtain ⟨hmem, rfl⟩ := Table.get_eq_some_iff.1 hx
  unfold Newsletter.activeUsers
  rw [Table.all_and, Table.all_and, h.subscribers x hmem hb]

/-- the templates of a campaign page, with their generated emails -/
theorem AgreeFor.pageTemplates (h : AgreeFor b db db') (c : ℕ) :
    ((db'.emailTemplates.all fun t => t.cols.ownerId = some b ∧ t.cols.compaign = some c).map fun t =>
        (t, emailsOf db' t.id)) =
      (db.emailTemplates.all fun t => t.cols.ownerId = some b ∧ t.cols.compaign = some c).map fun t =>
        (t, emailsOf db t.id) := by
  rw [Table.all_and, Table.all_and, h.templates]
  refine List.map_congr_left fun t ht => ?_
  obtain ⟨hmem, hb⟩ := List.mem_filter.1 (List.mem_filter.1 ht).1
  rw [h.emails t hmem (by simpa using hb)]

end Agree

/-- **Confidentiality.** Two databases that agree for `b` give `b` the same campaign pages for every own campaign and
for every id that no campaign has, and the same list of subscribers if they agree on all active ones. -/
theorem owner_pages_agree (L : Lib) (b : ℕ) (w w' : World) (h : AgreeFor b w.db w'.db) :
    (∀ c, Owns w.db b c ∨ w.db.course.get c = none →
      ((app L).out w' (.dashboard (some b) c none)).resp = ((app L).out w (.dashboard (some b) c none)).resp ∧
      ((app L).out w' (.users (some b) c)).resp = ((app L).out w (.users (some b) c)).resp ∧
      ((app L).out w' (.resources (some b) c none)).resp = ((app L).out w (.resources (some b) c none)).resp) ∧
    ((w'.db.user.all fun u => u.cols.status = some 2) = (w.db.user.all fun u => u.cols.status = some 2) →
      ((app L).out w' (.usersUsers (some b))).resp = ((app L).out w (.usersUsers (some b))).resp) := by
  simp only [app_out, serve, Courses.dashboard, Courses.users, Courses.resources, Users.users, loginRequired,
    h.currentUser]
  cases hadmin : currentUser w.db (some b) with
  | none => exact ⟨fun _ _ => ⟨rfl, rfl, rfl⟩, fun _ => rfl⟩
  | some admin =>
    have hid : admin.id = b := (Table.get_eq_some_iff.1 hadmin).2
    subst hid
    refine ⟨fun c hc => ?_, fun hactive => by simp only [hactive]⟩
    rcases hc with ⟨x, hx, hb⟩ | hnone
    · have hres := h.resources x (Table.get_eq_some_iff.1 hx).1 hb
      rw [(Table.get_eq_some_iff.1 hx).2] at hres
      simp only [h.get hx hb, hx, dashboardPage, h.ownCourses, h.activeUsers hx hb, h.pageTemplates c, hres]
      exact ⟨trivial, trivial, trivial⟩
    · simp only [h.get_none hnone, hnone]
      exact ⟨trivial, trivial, trivial⟩

/-- the installation with other keys in the first campaign -/
def Sample.rekeyed : World := setCourse start (start.db.course.modify 1 hijack.write)

/-- the installation with a subscriber of the first campaign -/
def Sample.joined : World := start.setUser (start.db.user.insert ann.cols)

theorem Sample.rekeyed_agree : AgreeFor 3 start.db rekeyed.db where
  account := rfl
  courses := by decide
  exist c := by rw [rekeyed, setCourse, Table.get_modify, Option.isSome_map]
  resources _ _ _ := rfl
  subscribers _ _ _ := rfl
  templates := rfl
  emails _ _ _ := rfl

theorem Sample.joined_agree : AgreeFor 3 start.db joined.db where
  account := rfl
  courses := rfl
  exist _ := rfl
  resources _ _ _ := rfl
  subscribers := by decide
  templates := rfl
  emails _ _ _ := rfl

/-- admin 3, who owns the second campaign only, sees the first campaign's keys and subscribers -/
theorem pages_leak :
    (AgreeFor 3 Sample.start.db Sample.rekeyed.db ∧
      ((app Sample.lib).out Sample.rekeyed (.dashboard (some 3) 1 none)).resp ≠
        ((app Sample.lib).out Sample.start (.dashboard (some 3) 1 none)).resp) ∧
    AgreeFor 3 Sample.start.db Sample.joined.db ∧
      ((app Sample.lib).out Sample.joined (.usersUsers (some 3))).resp ≠
        ((app Sample.lib).out Sample.start (.usersUsers (some 3))).resp :=
  ⟨⟨Sample.rekeyed_agree, by decide⟩, Sample.joined_agree, by decide⟩

/-- the same pages for the own campaign 2 and for the id 9 that no campaign has -/
theorem owner_pages_agree_rekeyed :
    ((app Sample.lib).out Sample.rekeyed (.dashboard (some 3) 2 none)).resp =
        ((app Sample.lib).out Sample.start (.dashboard (some 3) 2 none)).resp ∧
      ((app Sample.lib).out Sample.rekeyed (.users (some 3) 9)).resp =
        ((app Sample.lib).out Sample.start (.users (some 3) 9)).resp := by
  obtain ⟨hpages, _⟩ := owner_pages_agree Sample.lib 3 Sample.start Sample.rekeyed Sample.rekeyed_agree
  have hown : Owns Sample.start.db 3 2 := ⟨⟨2, Sample.campaign 3 "Xy9zW" "sk_2" "whsec_2"⟩, rfl, rfl⟩
  exact ⟨(hpages 2 (Or.inl hown)).1, (hpages 9 (Or.inr rfl)).2.1⟩

end Newsletter
