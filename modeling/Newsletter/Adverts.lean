/-
Adverts of resources (`app/course/route.py`, lines 329-360 and 462-471).

`resources` saves the upload under `secure_filename(advert_file.filename)` in one folder for all campaigns, before it looks
at the campaign, and stores that name in the new row. `delete_resource` deletes the row and leaves the file. So two uploads
whose names sanitise to the same one share a file, and the later content is shown for both rows.

A run of such requests is recorded with the content uploaded with each row (`Shelf.uploaded`, by the row's id): the tables do
not keep it.

- `adverts_kept_iff`: in every state of a run each row with an advert names a file with the content uploaded with the row,
  exactly if no upload is saved under the name of a row that came with another content;
- `adverts_overwritten`: a second campaign uploads its own `logo.png`.
-/
import Newsletter.App

namespace Newsletter

open Newsletter.Core Courses

/-! ## Runs of uploads and deletions -/

inductive ResourceRequest where
  /-- without a form the page is only shown -/
  | upload (who : Option ℕ) (campaign : ℕ) (form : Option ResourceForm)
  | delete (who : Option ℕ) (resource : ℕ)

def ResourceRequest.request : ResourceRequest → Request
  | .upload who campaign form => .resources who campaign form
  | .delete who resource => .deleteResource who resource

structure Shelf where
  world : World
  uploaded : ℕ → Option (List UInt8)

/-- the content uploaded with the row that a request inserts -/
def ResourceRequest.content (L : Lib) (w : World) : ResourceRequest → Option (List UInt8)
  | .upload who campaign (some f) =>
    match currentUser w.db who, saveUpload L w.adverts f.advert, w.db.course.get campaign with
    | some _, some _, some _ => f.advert.map Prod.snd
    | _, _, _ => none
  | _ => none

def shelfStep (L : Lib) (s : Shelf) (r : ResourceRequest) : Shelf where
  world := (serve L s.world r.request).world
  uploaded :=
    match r.content L s.world with
    | none => s.uploaded
    | some content => Function.update s.uploaded s.world.db.courseResource.next (some content)

/-- the application on these requests, with the record -/
def shelves (L : Lib) : Machine Shelf ResourceRequest Out := ⟨fun s r => (shelfStep L s r, serve L s.world r.request)⟩

theorem shelves_next (L : Lib) (s : Shelf) (r : ResourceRequest) : (shelves L).next s r = shelfStep L s r := rfl

/-- without the record it is a run of the application -/
theorem shelves_world (L : Lib) (s : Shelf) (reqs : List ResourceRequest) :
    ((shelves L).run s reqs).world = (app L).run s.world (reqs.map ResourceRequest.request) := by
  induction reqs generalizing s with
  | nil => rfl
  | cons r reqs ih => exact ih (shelfStep L s r)

/-! ## Rows and files -/

/-- each row with an advert names a file with the content uploaded with the row -/
def Shown (rows : List (Rec CourseResource)) (uploaded : ℕ → Option (List UInt8)) (adverts : Files) : Prop :=
  ∀ r ∈ rows, ∀ name, r.cols.advert = some name → ∃ content, uploaded r.id = some content ∧ adverts name = some content

def AdvertsKept (s : Shelf) : Prop := Shown s.world.db.courseResource.rows s.uploaded s.world.adverts

/-- an upload that is saved has the content of every row with the same stored name -/
def SameContent (L : Lib) (s : Shelf) : ResourceRequest → Prop
  | .upload who _ (some f) =>
    ∀ filename content, (currentUser s.world.db who).isSome = true → f.advert = some (filename, content) →
      L.secureFilename filename ≠ "" → ∀ r ∈ s.world.db.courseResource.rows,
        r.cols.advert = some (L.secureFilename filename) → s.uploaded r.id = some content
  | _ => True

section Rows

variable {rows : List (Rec CourseResource)} {uploaded : ℕ → Option (List UInt8)} {adverts : Files}

/-- a file is saved -/
theorem shown_save (h : Shown rows uploaded adverts) (name : String) (content : List UInt8) :
    Shown rows uploaded (Function.update adverts name (some content)) ↔
      ∀ r ∈ rows, r.cols.advert = some name → uploaded r.id = some content := by
  constructor
  · intro hsaved r hr hname
    obtain ⟨bytes, hup, hfile⟩ := hsaved r hr name hname
    rw [Function.update_self] at hfile
    rw [hup, hfile]
  · intro hsame r hr n hn
    by_cases hname : n = name
    · subst hname
      exact ⟨content, hsame r hr hn, Function.update_self ..⟩
    · rw [Function.update_of_ne hname]
      exact h r hr n hn

theorem shown_erase {t : Table CourseResource} (h : Shown t.rows uploaded adverts) (p : Rec CourseResource → Bool) :
    Shown (t.erase p).rows uploaded adverts := fun r hr => h r (List.mem_filter.1 hr).1

/-- a row without an advert is inserted -/
theorem shown_insert_none {t : Table CourseResource} {a : CourseResource} (ha : a.advert = none) :
    Shown (t.insert a).rows uploaded adverts ↔ Shown t.rows uploaded adverts := by
  constructor
  · intro h r hr
    exact h r (Table.mem_insert.2 (Or.inl hr))
  · intro h r hr name hname
    rcases Table.mem_insert.1 hr with hr | rfl
    · exact h r hr name hname
    · rw [ha] at hname
      cases hname

/-- a row is inserted with the file just saved; its key is a new one, so the record of the others stays -/
theorem shown_insert_some {t : Table CourseResource} {a : CourseResource} {name : String} {content : List UInt8}
    (ha : a.advert = some name) (hfile : adverts name = some content) :
    Shown (t.insert a).rows (Function.update uploaded t.next (some content)) adverts ↔ Shown t.rows uploaded adverts := by
  have hold : ∀ r ∈ t.rows, Function.update uploaded t.next (some content) r.id = uploaded r.id := fun r hr =>
    Function.update_of_ne (ne_of_lt (t.below r hr)) _ _
  constructor
  · intro h r hr n hn
    rw [← hold r hr]
    exact h r (Table.mem_insert.2 (Or.inl hr)) n hn
  · intro h r hr n hn
    rcases Table.mem_insert.1 hr with hr | rfl
    · rw [hold r hr]
      exact h r hr n hn
    · rw [ha] at hn
      cases hn
      exact ⟨content, Function.update_self .., hfile⟩

end Rows

/-! ## One request -/

section Requests

variable {L : Lib} {s : Shelf} {who : Option ℕ} {campaign : ℕ} {f : ResourceForm}

theorem sameContent_upload {filename : String} {content : List UInt8}
    (hwho : (currentUser s.world.db who).isSome = true) (hf : f.advert = some (filename, content))
    (hname : L.secureFilename filename ≠ "") :
    SameContent L s (.upload who campaign (some f)) ↔
      ∀ r ∈ s.world.db.courseResource.rows, r.cols.advert = some (L.secureFilename filename) →
        s.uploaded r.id = some content := by
  constructor
  · intro h
    exact h filename content hwho hf hname
  · intro h filename' content' _ hf' _
    rw [hf] at hf'
    cases hf'
    exact h

/-- nothing is saved without a login, or under a name that sanitises to nothing -/
theorem kept_upload_refused (h : AdvertsKept s)
    (hrefused : currentUser s.world.db who = none ∨ saveUpload L s.world.adverts f.advert = none) :
    AdvertsKept (shelfStep L s (.upload who campaign (some f))) := by
  unfold AdvertsKept shelfStep
  simp only [ResourceRequest.request, serve, resources, loginRequired, ResourceRequest.content]
  cases hwho : currentUser s.world.db who with
  | none => exact h
  | some admin =>
    have hsave : saveUpload L s.world.adverts f.advert = none := hrefused.resolve_left (by simp [hwho])
    rw [hsave]
    exact h

theorem kept_upload_plain (h : AdvertsKept s) {admin : Rec Adminuser} (hwho : currentUser s.world.db who = some admin)
    (hf : f.advert = none) : AdvertsKept (shelfStep L s (.upload who campaign (some f))) := by
  unfold AdvertsKept shelfStep
  simp only [ResourceRequest.request, serve, resources, loginRequired, ResourceRequest.content, hwho, hf, saveUpload]
  cases s.world.db.course.get campaign with
  | none => exact h
  | some course => exact (shown_insert_none rfl).2 h

theorem kept_upload_file (h : AdvertsKept s) {admin : Rec Adminuser} (hwho : currentUser s.world.db who = some admin)
    {filename : String} {content : List UInt8} (hf : f.advert = some (filename, content))
    (hname : L.secureFilename filename ≠ "") :
    AdvertsKept (shelfStep L s (.upload who campaign (some f))) ↔
      ∀ r ∈ s.world.db.courseResource.rows, r.cols.advert = some (L.secureFilename filename) →
        s.uploaded r.id = some content := by
  rw [← shown_save h]
  unfold AdvertsKept shelfStep
  simp only [ResourceRequest.request, serve, resources, loginRequired, ResourceRequest.content, hwho, hf, saveUpload,
    if_neg hname]
  cases s.world.db.course.get campaign with
  | none => rfl
  | some course => exact shown_insert_some rfl (Function.update_self ..)

/-- the form is shown -/
theorem kept_form (h : AdvertsKept s) : AdvertsKept (shelfStep L s (.upload who campaign none)) := by
  unfold AdvertsKept shelfStep
  simp only [ResourceRequest.request, serve, resources, loginRequired, ResourceRequest.content]
  cases currentUser s.world.db who with
  | none => exact h
  | some admin =>
    cases s.world.db.course.get campaign with
    | none => exact h
    | some course => exact h

theorem kept_delete (h : AdvertsKept s) (resource : ℕ) : AdvertsKept (shelfStep L s (.delete who resource)) := by
  unfold AdvertsKept shelfStep
  simp only [ResourceRequest.request, serve, deleteResource, loginRequired, ResourceRequest.content]
  cases currentUser s.world.db who with
  | none => exact h
  | some admin =>
    cases s.world.db.courseResource.get resource with
    | none => exact h
    | some row => exact shown_erase h _

theorem kept_upload_iff (h : AdvertsKept s) :
    AdvertsKept (shelfStep L s (.upload who campaign (some f))) ↔ SameContent L s (.upload who campaign (some f)) := by
  cases hwho : currentUser s.world.db who with
  | none =>
    refine iff_of_true (kept_upload_refused h (Or.inl hwho)) fun filename content hsome => ?_
    rw [hwho] at hsome
    cases hsome
  | some admin =>
    cases hf : f.advert with
    | none =>
      refine iff_of_true (kept_upload_plain h hwho hf) fun filename content _ hsome => ?_
      rw [hf] at hsome
      cases hsome
    | some file =>
      obtain ⟨filename, content⟩ := file
      by_cases hname : L.secureFilename filename = ""
      · refine iff_of_true (kept_upload_refused h (Or.inr ?_)) fun filename' content' _ hsome hname' => ?_
        · rw [hf, saveUpload]
          exact if_pos hname
        · rw [hf] at hsome
          cases hsome
          exact absurd hname hname'
      · rw [kept_upload_file h hwho hf hname, sameContent_upload (by rw [hwho]; rfl) hf hname]

end Requests

/-- **Step.** A request keeps the adverts exactly if it saves no other content under a name in use. -/
theorem kept_next_iff (L : Lib) (s : Shelf) (r : ResourceRequest) (h : AdvertsKept s) :
    AdvertsKept ((shelves L).next s r) ↔ SameContent L s r := by
  rw [shelves_next]
  cases r with
  | upload who campaign form =>
    cases form with
    | none => exact iff_of_true (kept_form h) trivial
    | some f => exact kept_upload_iff h
  | delete who resource => exact iff_of_true (kept_delete h resource) trivial

/-- **Adverts are kept** along a run exactly if they are at its start and no upload is saved under the stored name of a row
that came with another content. -/
theorem adverts_kept_iff (L : Lib) (s : Shelf) (reqs : List ResourceRequest) :
    (shelves L).Always AdvertsKept s reqs ↔ AdvertsKept s ∧ (shelves L).Along (SameContent L) s reqs := by
  constructor
  · intro h
    exact ⟨h.start, ((shelves L).always_iff_along (kept_next_iff L) h.start).1 h⟩
  · rintro ⟨hs, h⟩
    exact ((shelves L).always_iff_along (kept_next_iff L) hs).2 h

/-- the owner of the first sample campaign uploads a `logo.png`, and then the owner of the second one theirs -/
def Sample.logos : List ResourceRequest :=
  let form (content : List UInt8) : ResourceForm :=
    { title := none, courseDescription := none, advert := some ("logo.png", content), position := "top" }
  [.upload (some 2) 1 (some (form [1])), .upload (some 3) 2 (some (form [2]))]

/-- the first row names a file with the content of the second one -/
theorem adverts_overwritten :
    let s := (shelves Sample.lib).run ⟨Sample.start, fun _ => none⟩ Sample.logos
    s.world.db.courseResource.rows.map (fun r => (r.id, r.cols.course, r.cols.advert, s.uploaded r.id)) =
        [(1, some 1, some "logo.png", some [1]), (2, some 2, some "logo.png", some [2])] ∧
      s.world.adverts "logo.png" = some [2] ∧
      AdvertsKept ⟨Sample.start, fun _ => none⟩ ∧
      ¬ (shelves Sample.lib).Always AdvertsKept ⟨Sample.start, fun _ => none⟩ Sample.logos := by
  intro s
  have hfile : s.world.adverts "logo.png" = some [2] := rfl
  have hrow : (s.world.db.courseResource.get 1).map (fun r => (r.cols.advert, s.uploaded r.id)) =
      some (some "logo.png", some [1]) := rfl
  have hstart : AdvertsKept ⟨Sample.start, fun _ => none⟩ := fun r hr => absurd hr List.not_mem_nil
  refine ⟨rfl, hfile, hstart, fun h => ?_⟩
  obtain ⟨r, hr, hcols⟩ := Option.map_eq_some_iff.1 hrow
  obtain ⟨hadvert, hup⟩ := Prod.mk.inj hcols
  obtain ⟨content, hup', hfile'⟩ := h Sample.logos List.prefix_rfl r (Table.get_eq_some_iff.1 hr).1 _ hadvert
  rw [hup] at hup'
  cases hup'
  rw [hfile] at hfile'
  cases hfile'

end Newsletter
