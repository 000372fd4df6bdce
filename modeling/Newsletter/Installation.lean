/-
Tables and files together.

`resources` saves the upload before it inserts the row that names it, and no request deletes a file. So an installation whose tables
are well formed and whose resource rows name files that exist stays one.

- `installation_run`: along every run of requests, started threads and scheduled sends.
-/
import Newsletter.WellFormed

namespace Newsletter

open Newsletter.Core Auth Courses

/-- every advert that a resource names is in the folder -/
def AdvertsStored (w : World) : Prop :=
  w.db.courseResource.Every fun r => ∀ name, r.advert = some name → (w.adverts name).isSome

structure Installed (w : World) : Prop where
  tables : WellFormed w.db
  adverts : AdvertsStored w

/-! ## One request -/

section Step

variable (L : Lib) (w : World)

/-- an upload is in the folder afterwards, and so is what was there -/
theorem saveUpload_stored {L : Lib} {folder folder' : Files} {upload : Option (String × List UInt8)} {stored : Option String}
    (h : saveUpload L folder upload = some (folder', stored)) :
    (∀ name, stored = some name → (folder' name).isSome) ∧ ∀ name, (folder name).isSome → (folder' name).isSome := by
  unfold saveUpload at h
  split at h
  · cases h
    exact ⟨fun name hname => (by cases hname), fun name hname => hname⟩
  · rename_i filename content
    dsimp only at h
    split_ifs at h
    cases h
    refine ⟨fun name hname => ?_, fun name hname => ?_⟩
    · cases hname
      rw [Function.update_self]
      rfl
    · by_cases hsame : name = L.secureFilename filename
      · rw [hsame, Function.update_self]
        rfl
      · rw [Function.update_of_ne hsame]
        exact hname

theorem advertsStored_resources (who : Option ℕ) (campaign : ℕ) (form : Option ResourceForm) (h : AdvertsStored w) :
    AdvertsStored (Courses.resources L w who campaign form).world := by
  unfold Courses.resources loginRequired
  cases currentUser w.db who with
  | none => exact h
  | some admin =>
    cases form with
    | none => cases w.db.course.get campaign <;> exact h
    | some f =>
      simp only
      cases hsave : saveUpload L w.adverts f.advert with
      | none => exact h
      | some p =>
        obtain ⟨hnew, hold⟩ := saveUpload_stored hsave
        have hkept : w.db.courseResource.Every fun r => ∀ name, r.advert = some name → (p.1 name).isSome :=
          fun r hr name hname => hold name (h r hr name hname)
        simp only
        cases w.db.course.get campaign with
        | none => exact hkept
        | some course => exact Table.Every.insert hkept hnew

/-- only `resources` writes to the folder -/
theorem folder_next {r : Request} (hr : ∀ who campaign form, r ≠ .resources who campaign form) :
    ((app L).next w r).adverts = w.adverts := by
  refine (serve_within L w r).adverts ?_
  cases r with
  | resources who campaign form => exact absurd rfl (hr who campaign form)
  | _ => rfl

theorem advertsStored_next (r : Request) (h : AdvertsStored w) : AdvertsStored ((app L).next w r) := by
  by_cases hr : ∃ who campaign form, r = .resources who campaign form
  · obtain ⟨who, campaign, form, rfl⟩ := hr
    exact advertsStored_resources L w who campaign form h
  · have hfolder := folder_next L w fun who campaign form he => hr ⟨who, campaign, form, he⟩
    obtain ⟨x, hx, hdb⟩ := next_db L w r
    rw [AdvertsStored, hfolder, hdb]
    cases hx with
    | uploaded => exact absurd ⟨_, _, _, rfl⟩ hr
    | removed => exact Table.Every.erase h _
    | _ => exact h

theorem installed_next (r : Request) (h : Installed w) : Installed ((app L).next w r) :=
  ⟨wellFormed_next L w r h.tables, advertsStored_next L w r h.adverts⟩

end Step

/-! ## Runs -/

/-- **Installation.** Tables stay well formed, and every advert that a resource names stays in the folder. -/
theorem installation_run (L : Lib) {w : World} (h : Installed w) (reqs : List Request) : Installed ((app L).run w reqs) :=
  (app L).run_inv (installed_next L) h reqs

theorem Sample.start_installed : Installed start := ⟨start_wellFormed, by simp [AdvertsStored, Table.Every, start, Table.empty]⟩

/-- a subscriber comes, and the owner of the first campaign uploads an advert -/
theorem installation_run_uploaded :
    Installed Sample.start ∧
      Installed ((app Sample.lib).run Sample.start
        [Sample.registration, Sample.checkout, .resources (some 2) 1 (some ⟨some "Book", none, some ("logo.png", [1]), "top"⟩)]) :=
  ⟨Sample.start_installed, installation_run Sample.lib Sample.start_installed _⟩

end Newsletter
