/-
The registration page of a campaign that has just been set up (`app/auth/route.py`, lines 627-719; `app/user/route.py`, lines
105-136; `app/course/route.py`, lines 267-306 and 435-448).

`addcourse` makes a campaign without a price, `config` does not touch it, and `customize` assigns whatever the form has:
`price` is a `DecimalField` without a validator, so a form without the field passes and assigns null. `register` multiplies
the price before its `try` block and before it looks at the method or at `course.free`.

- `page_served_iff`: after any sequence of these requests, every GET and POST to the campaign's link is answered exactly if
  the campaign was customized and the last form of `customize` that was committed had a price;
- `unpriced_page_raises`: a new campaign, and a campaign customized as a free one without a price.
-/
import Newsletter.App

namespace Newsletter

open Newsletter.Core Auth Courses

/-- a request that changes the settings of a campaign -/
inductive Setting where
  | customize (campaign : ℕ) (form : Option CustomizeForm) (commit : Bool)
  | config (who : Option ℕ) (id : ℕ) (form : Option OpenAiForm) (commit : Bool)

def Setting.request : Setting → Request
  | .customize campaign form commit => .customize campaign form commit
  | .config who id form commit => .config who id form commit

/-- the price that a request assigns to the campaign `k`, if it assigns it -/
def Setting.pricing (k : ℕ) : Setting → Option (Option ℚ)
  | .customize campaign form commit =>
    if campaign = k then (committedCustomize form commit).map CustomizeForm.columnPrice else none
  | .config .. => none

/-- the link leads to the campaign `k`, and this is its price -/
def Priced (code : String) (k : ℕ) (w : World) (price : Option ℚ) : Prop :=
  ∃ c, linkedCampaign w.db code = some c ∧ c.id = k ∧ c.cols.price = price

theorem linkedCampaign_modify {code : String} {w : World} {j : ℕ} {f : Course → Course} (hurl : ∀ c, (f c).url = c.url) :
    linkedCampaign (setCourse w (w.db.course.modify j f)).db code = (linkedCampaign w.db code).map (Table.setAt j f) := by
  refine Table.first_modify fun r => ?_
  by_cases hr : r.id = j
  · rw [Table.setAt_of_eq hr, hurl]
  · rw [Table.setAt_of_ne hr]

/-- an update that keeps the links; `price'` is what it makes of the price of `k` -/
theorem priced_modify {code : String} {k j : ℕ} {w : World} {price : Option ℚ} {f : Course → Course}
    (hurl : ∀ c, (f c).url = c.url) (h : Priced code k w price) {price' : Option ℚ}
    (hsame : j ≠ k → price' = price) (hset : ∀ c, j = k → c.price = price → (f c).price = price') :
    Priced code k (setCourse w (w.db.course.modify j f)) price' := by
  obtain ⟨c, hc, hid, hprice⟩ := h
  refine ⟨Table.setAt j f c, ?_, ?_, ?_⟩
  · rw [linkedCampaign_modify hurl, hc]
    rfl
  · rw [Table.setAt_id, hid]
  · by_cases hj : j = k
    · rw [Table.setAt_of_eq (hid.trans hj.symm)]
      exact hset c.cols hj hprice
    · rw [Table.setAt_of_ne fun h => hj (h.symm.trans hid), hprice, hsame hj]

/-- **Step.** The link stays, and the price changes by `pricing`. -/
theorem priced_next (L : Lib) {code : String} {k : ℕ} (w : World) (price : Option ℚ) (s : Setting)
    (h : Priced code k w price) : Priced code k ((app L).next w s.request) ((s.pricing k).getD price) := by
  rw [app_next]
  cases s with
  | customize campaign form commit =>
    simp only [Setting.request, serve, customize_world, Setting.pricing]
    cases committedCustomize form commit with
    | none =>
      rw [Option.map_none, ite_self]
      exact h
    | some f =>
      refine priced_modify (j := campaign) (f := f.write) (fun c => rfl) h (fun hj => ?_) (fun c hj _ => ?_)
      · rw [if_neg hj, Option.getD_none]
      · rw [if_pos hj, Option.map_some, Option.getD_some]
        rfl
  | config who id form commit =>
    simp only [Setting.request, serve, config_world]
    cases committedConfig w.db who form commit with
    | none => exact h
    | some f => exact priced_modify (j := id) (f := f.write) (fun c => rfl) h (fun _ => rfl) fun c _ hprice => hprice

/-- a new campaign is behind its link, without a price -/
theorem priced_addcourse {L : Lib} {w : World} {who : Option ℕ} {draws : List String} {code : String}
    (hwho : (currentUser w.db who).isSome = true) (hcode : Users.newCode w.db draws = some code) (type : ℕ) (name : String) :
    Priced code w.db.course.next ((app L).next w (.addcourse who (some (type, name)) draws)) none := by
  obtain ⟨admin, hadmin⟩ := Option.isSome_iff_exists.1 hwho
  have hfree : linkedCampaign w.db code = none := by
    have hfound := List.find?_some hcode
    exact Option.isNone_iff_eq_none.1 hfound
  let compain : Course := { type := some type, name := some name, ownerId := some admin.id, url := some code }
  have hnew : linkedCampaign (setCourse w (w.db.course.insert compain)).db code = some ⟨w.db.course.next, compain⟩ := by
    unfold linkedCampaign Table.first at hfree ⊢
    simp only [setCourse, Table.insert_rows, List.find?_append, hfree, Option.none_or]
    simp [compain]
  rw [app_next, serve, Users.addcourse_created hadmin hcode]
  exact ⟨_, hnew, rfl, rfl⟩

/-- **Run.** After any settings the campaign has the price that was assigned last. -/
theorem priced_run (L : Lib) {w : World} {who : Option ℕ} {draws : List String} {code : String}
    (hwho : (currentUser w.db who).isSome = true) (hcode : Users.newCode w.db draws = some code) (type : ℕ) (name : String)
    (settings : List Setting) :
    Priced code w.db.course.next
      ((app L).run w (.addcourse who (some (type, name)) draws :: settings.map Setting.request))
      ((settings.filterMap (Setting.pricing w.db.course.next)).getLast?.getD none) := by
  rw [Machine.run_cons, ← foldl_getD]
  exact (app L).run_map_simulates (priced_next L) (priced_addcourse hwho hcode type name) settings

/-- **When a registration page works.** A logged-in admin adds a campaign, and any `config` and `customize` requests follow, for
this campaign and others, which the database may refuse. Then every GET and POST to its link gets a response exactly if one of
them has customized the campaign and the last form that was committed had a price. -/
theorem page_served_iff (L : Lib) (w : World) {who : Option ℕ} {draws : List String} {code : String}
    (hwho : (currentUser w.db who).isSome = true) (hcode : Users.newCode w.db draws = some code) (type : ℕ) (name : String)
    (settings : List Setting) :
    let w' := (app L).run w (.addcourse who (some (type, name)) draws :: settings.map Setting.request)
    (∀ form stripe commit e, (serve L w' (.register code form stripe commit)).resp ≠ .raised e) ↔
      ∃ p, (settings.filterMap (Setting.pricing w.db.course.next)).getLast? = some (some p) := by
  intro w'
  obtain ⟨c, hc, -, hprice⟩ := priced_run L hwho hcode type name settings
  constructor
  · intro h
    have hsome : c.cols.price ≠ none := by
      intro hnone
      have hraised : ∃ e, (register w' code none (fun _ => .error .stripeError) true).resp = .raised e :=
        (register_raised_iff hc).2 hnone
      obtain ⟨e, he⟩ := hraised
      exact h none (fun _ => .error .stripeError) true e he
    rw [hprice] at hsome
    cases hlast : (settings.filterMap (Setting.pricing w.db.course.next)).getLast? with
    | none => exact absurd (by rw [hlast]; rfl) hsome
    | some price =>
      cases price with
      | none => exact absurd (by rw [hlast]; rfl) hsome
      | some p => exact ⟨p, rfl⟩
  · rintro ⟨p, hp⟩ form stripe commit e he
    have hnone := (register_raised_iff hc).1 ⟨e, he⟩
    rw [hprice, hp] at hnone
    cases hnone

namespace Sample

/-- a form of `customize` for the new campaign -/
def newsForm (price : Option FieldDecimal) (free : Bool) : CustomizeForm :=
  { title := some "News", color := none, price := price, free := free, link := none, currency := "eur" }

/-- the new campaign is customized without a price and then with a price of 5; a form with NaN, and one without a price while the
database is down, are refused -/
def pricings : List Setting :=
  [.customize 3 (some (newsForm none false)) true, .config (some 2) 3 none true,
    .customize 3 (some (newsForm (some (.number 5)) false)) true, .customize 3 (some (newsForm (some .nan) false)) true,
    .customize 3 (some (newsForm none false)) false]

end Sample

/-- the sample campaigns with a third one, added by `ada`: its page works at the price of the last form that was committed -/
theorem page_served_iff_repriced :
    let w' := (app Sample.lib).run Sample.start
      (.addcourse (some 2) (some (1, "News")) ["Ab3dE", "Qr5tU"] :: Sample.pricings.map Setting.request)
    (Sample.pricings.filterMap (Setting.pricing 3)).getLast? = some (some 5) ∧
      ∀ form stripe commit e, (serve Sample.lib w' (.register "Qr5tU" form stripe commit)).resp ≠ .raised e := by
  have hlast : (Sample.pricings.filterMap (Setting.pricing 3)).getLast? = some (some 5) := rfl
  exact ⟨hlast, (page_served_iff Sample.lib Sample.start rfl rfl 1 "News" _).2 ⟨5, hlast⟩⟩

/-- a new campaign, and then the same campaign made free by a form without a price: a GET and a POST raise -/
theorem unpriced_page_raises :
    let added := (app Sample.lib).next Sample.start (.addcourse (some 2) (some (1, "News")) ["Qr5tU"])
    let customized := (app Sample.lib).next added (.customize 3 (some (Sample.newsForm none true)) true)
    (serve Sample.lib added (.register "Qr5tU" none Sample.working true)).resp = .raised .typeError ∧
      (serve Sample.lib customized (.register "Qr5tU" none Sample.working true)).resp = .raised .typeError ∧
      (serve Sample.lib customized (.register "Qr5tU" (some (some "ann@example.com")) Sample.working true)).resp =
        .raised .typeError := by
  decide

end Newsletter
