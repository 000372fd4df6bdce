/-
Templates of other admins.

The scheduled sender writes and mails a newsletter for every template of a campaign, whoever made it (`templatesOf`). The owner's
dashboard lists the owner's templates only, and `dashboard` and `generate_all_emails` take a POST of any admin for any campaign.

- `intruding_templates_iff`: at every point of a run the owner of a campaign sees on the dashboard every template that the
  scheduled sender would use for it, exactly if no other admin has posted a template for the campaign.
-/
import Newsletter.Isolation.Confidentiality
import Newsletter.WellFormed

namespace Newsletter

open Newsletter.Core Courses

/-- the owner's dashboard shows every template that the scheduled sender uses for the campaign -/
def AllShown (L : Lib) (owner c : ℕ) (w : World) : Prop :=
  ∀ t ∈ templatesOf w.db c, ∃ v emails,
    ((app L).out w (.dashboard (some owner) c none)).resp = .page (.campaignDashboard v) ∧ (t, emails) ∈ v.emailTemplates

/-- an admin other than the owner makes a template for the campaign -/
def Intrudes (owner c : ℕ) (w : World) (r : Request) : Prop :=
  ∃ who f admin body footer, r.posts = some (who, some c, f) ∧ currentUser w.db who = some admin ∧ f.body = some body ∧
    f.footer = some footer ∧ admin.id ≠ owner

/-- the campaign and its owner exist -/
structure Established (owner c : ℕ) (db : Db) : Prop where
  owns : Owns db owner c
  account : (db.adminuser.get owner).isSome

/-- the templates of the campaign are its owner's -/
def AllOwn (owner c : ℕ) (db : Db) : Prop := db.emailTemplates.Every fun t => t.compaign = some c → t.ownerId = some owner

theorem allShown_iff (L : Lib) {owner c : ℕ} {w : World} (h : Established owner c w.db) :
    AllShown L owner c w ↔ AllOwn owner c w.db := by
  obtain ⟨x, hx, _⟩ := h.owns
  obtain ⟨admin, hadmin⟩ := Option.isSome_iff_exists.1 h.account
  obtain rfl : admin.id = owner := (Table.get_eq_some_iff.1 hadmin).2
  have hpage : ((app L).out w (.dashboard (some admin.id) c none)).resp =
      .page (.campaignDashboard (dashboardPage w.db admin c x)) := by
    have hlogin : currentUser w.db (some admin.id) = some admin := hadmin
    simp only [app_out, serve, Courses.dashboard, loginRequired, hlogin, hx]
  constructor
  · intro hshown t ht hc
    obtain ⟨v, emails, hv, hmem⟩ := hshown t (List.mem_filter.2 ⟨ht, by simpa using hc⟩)
    cases hpage.symm.trans hv
    obtain ⟨t', ht', heq⟩ := List.mem_map.1 hmem
    cases heq
    have hfilter := (List.mem_filter.1 ht').2
    simp only [decide_eq_true_eq] at hfilter
    exact hfilter.1
  · intro hown t ht
    obtain ⟨hmem, hc⟩ := List.mem_filter.1 ht
    refine ⟨_, _, hpage, List.mem_map.2 ⟨t, List.mem_filter.2 ⟨hmem, ?_⟩, rfl⟩⟩
    simpa using ⟨hown t hmem (by simpa using hc), by simpa using hc⟩

/-! ## One request -/

section Step

variable {L : Lib} {w : World} {owner c : ℕ}

theorem established_apply {r : Request} {x : Write} (hx : Writes L w r x) (h : Established owner c w.db) :
    Established owner c (x.apply w.db) := by
  obtain ⟨⟨row, hrow, howner⟩, haccount⟩ := h
  cases hx with
  | registered => exact ⟨⟨row, hrow, howner⟩, Table.isSome_get_insert haccount _⟩
  | verified => exact ⟨⟨row, hrow, howner⟩, by rwa [Write.apply, Table.isSome_get_modify]⟩
  | created => exact ⟨⟨row, Table.get_insert_of_some hrow _, howner⟩, haccount⟩
  | @customized campaign _ _ f written =>
    refine ⟨⟨Table.setAt campaign f.write row, by rw [Write.apply, Table.get_modify, hrow]; rfl, ?_⟩, haccount⟩
    unfold Table.setAt
    split_ifs <;> exact howner
  | @configured _ id _ _ f written =>
    refine ⟨⟨Table.setAt id f.write row, by rw [Write.apply, Table.get_modify, hrow]; rfl, ?_⟩, haccount⟩
    unfold Table.setAt
    split_ifs <;> exact howner
  | closed login campaign stripe =>
    refine ⟨⟨Table.setAt campaign setClosed row, by rw [Write.apply, Table.get_modify, hrow]; rfl, ?_⟩, haccount⟩
    unfold Table.setAt
    split_ifs <;> exact howner
  | _ => exact ⟨⟨row, hrow, howner⟩, haccount⟩

theorem established_next (r : Request) (h : Established owner c w.db) : Established owner c ((app L).next w r).db := by
  obtain ⟨x, hx, hdb⟩ := next_db L w r
  rw [hdb]
  exact established_apply hx h

/-- a POST with a login inserts the template -/
theorem posted_next {r : Request} {who : Option ℕ} {f : TemplateForm} {admin : Rec Adminuser} {body footer : String}
    (hpost : r.posts = some (who, some c, f)) (hlogin : currentUser w.db who = some admin) (hbody : f.body = some body)
    (hfooter : f.footer = some footer) :
    ((app L).next w r).db.emailTemplates = w.db.emailTemplates.insert
      { header := f.header, body := body, footer := footer, compaign := some c, ownerId := some admin.id } := by
  have hcreate : (createTemplate w.db admin.id (some c) f).getD w.db = { w.db with
      emailTemplates := w.db.emailTemplates.insert
        { header := f.header, body := body, footer := footer, compaign := some c, ownerId := some admin.id } } := by
    simp only [createTemplate, hbody, hfooter, Option.getD_some]
  rw [app_next]
  unfold Request.posts at hpost
  split at hpost
  · cases hpost
    simp only [serve, Courses.dashboard, loginRequired, hlogin, startGeneration_db, hcreate]
  · cases hpost
    simp only [serve, Courses.generateAllEmails, loginRequired, hlogin, startGeneration_db, hcreate]
  · cases hpost
  · cases hpost

theorem allOwn_next_iff (r : Request) (h : AllOwn owner c w.db) :
    AllOwn owner c ((app L).next w r).db ↔ ¬ Intrudes owner c w r := by
  constructor
  · rintro hnext ⟨who, f, admin, body, footer, hpost, hlogin, hbody, hfooter, hne⟩
    unfold AllOwn at hnext
    rw [posted_next hpost hlogin hbody hfooter] at hnext
    have hnew := hnext _ (Table.mem_insert.2 (Or.inr rfl)) rfl
    exact hne (Option.some.inj hnew)
  · intro hnot
    obtain ⟨x, hx, hdb⟩ := next_db L w r
    rw [hdb]
    cases hx with
    | @posted _ who compaign f admin body footer hpost hlogin hbody hfooter =>
      refine Table.Every.insert h fun hc => ?_
      cases hc
      by_contra hne
      exact hnot ⟨who, f, admin, body, footer, hpost, hlogin, hbody, hfooter, fun hid => hne (congrArg some hid)⟩
    | droppedAll | dropped => exact Table.Every.erase h _
    | _ => exact h

end Step

/-! ## Runs -/

/-- **Intruding templates.** The owner of a campaign sees every template that the scheduled sender uses for it, at every point of
a run, exactly if no other admin posts a template for the campaign. -/
theorem intruding_templates_iff (L : Lib) {w : World} {owner c : ℕ} (h : Established owner c w.db) (hstart : AllShown L owner c w)
    (reqs : List Request) :
    (app L).Always (AllShown L owner c) w reqs ↔ (app L).Along (fun w r => ¬ Intrudes owner c w r) w reqs := by
  rw [← (app L).always_iff_along (I := fun w => AllOwn owner c w.db) (fun w r hw => allOwn_next_iff r hw)
    ((allShown_iff L h).1 hstart)]
  refine (app L).always_congr fun pre => allShown_iff L ?_
  exact (app L).run_inv (I := fun w => Established owner c w.db) (fun w r hw => established_next r hw) h pre

namespace Sample

theorem start_established : Established 2 1 start.db :=
  ⟨⟨⟨1, campaign 2 "Ab3dE" "sk_1" "whsec_1"⟩, rfl, rfl⟩, rfl⟩

/-- an admin posts a template for the first campaign -/
def posting (who : ℕ) : Request := .generateAllEmails (some who) 1 (some ⟨some "News", some "Hello", some "Bye"⟩)

end Sample

/-- the owner of the first campaign sees the own template, and no longer sees all of them once admin 3 has posted one -/
theorem intruding_templates_iff_posted :
    (app Sample.lib).Always (AllShown Sample.lib 2 1) Sample.start [Sample.posting 2] ∧
      ¬ (app Sample.lib).Always (AllShown Sample.lib 2 1) Sample.start [Sample.posting 2, Sample.posting 3] := by
  have hstart : AllShown Sample.lib 2 1 Sample.start := fun t ht => by cases ht
  rw [intruding_templates_iff Sample.lib Sample.start_established hstart,
    intruding_templates_iff Sample.lib Sample.start_established hstart]
  refine ⟨⟨?_, trivial⟩, fun h => h.2.1 ⟨_, _, _, _, _, rfl, rfl, rfl, rfl, by decide⟩⟩
  rintro ⟨who, f, admin, body, footer, hpost, hlogin, _, _, hne⟩
  cases hpost
  exact hne (Table.get_eq_some_iff.1 hlogin).2

end Newsletter
