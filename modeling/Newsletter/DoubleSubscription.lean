/-
Double subscriptions: two active rows with one email address in one campaign.

Over the abstract subscriber table the question is settled change by change: a table without doubles keeps having none
exactly if an inserted active row, or a row made active, meets no other active row of its address and campaign
(`noDouble_apply_iff`). Of the handlers only `register` asks for that before it inserts. `add_user` inserts an active row
without asking, and `handle_webhook` activates a row that was pending when it was inserted, whatever has become active
since. `SingleWhen` says what the requests of a run would have to meet, `no_double_iff` that this is exact, and
`registered_added_paid` is a run that ends with a double.
-/
import Newsletter.App

namespace Newsletter

open Newsletter.Core Auth Courses

/-! ## On the subscriber table -/

/-- the row is an active subscription of this address to this campaign -/
def ActiveFor (email : String) (c : ℕ) (u : Rec User) : Prop :=
  u.cols.email = email ∧ u.cols.courseId = some c ∧ u.cols.status = some 2

instance (email : String) (c : ℕ) (u : Rec User) : Decidable (ActiveFor email c u) := by
  unfold ActiveFor; infer_instance

/-- at most one active row for an address and a campaign -/
def NoDouble (t : Table User) : Prop :=
  ∀ email c, ∀ u ∈ t.rows, ∀ v ∈ t.rows, ActiveFor email c u → ActiveFor email c v → u = v

/-- the row that a change makes active meets no other active row of its address and campaign -/
def Change.Single (t : Table User) : Change → Prop
  | .enrol x => ∀ email c, ActiveFor email c ⟨t.next, x⟩ → ∀ v ∈ t.rows, ¬ ActiveFor email c v
  | .activate k =>
    ∀ u ∈ t.rows, u.id = k → ∀ c, u.cols.courseId = some c → ∀ v ∈ t.rows, v.id ≠ k → ¬ ActiveFor u.cols.email c v
  | _ => True

/-- after a single change, an active row was active before or is the one row that the change makes active, and then no
other row was active for its address and campaign -/
theorem Change.Single.active {t : Table User} {ch : Change} (h : ch.Single t) :
    ∃ k, ∀ u ∈ (ch.apply t).rows, ∀ email c, ActiveFor email c u →
      (∃ u0 ∈ t.rows, u0.id = u.id ∧ ActiveFor email c u0) ∨
        (u.id = k ∧ ∀ v ∈ t.rows, ActiveFor email c v → v.id = k) := by
  have hold : ∀ {u v : Rec User} {email : String} {c : ℕ}, ActiveFor email c v → u.cols.status = some 2 →
      Kept u.cols v.cols → ActiveFor email c u := fun hv h2 hk =>
    ⟨hk.email.symm.trans hv.1, hk.courseId.symm.trans hv.2.1, h2⟩
  cases ch with
  | enrol x =>
    refine ⟨t.next, fun u hu email c hact => ?_⟩
    rcases Table.mem_insert.1 hu with hu | rfl
    · exact Or.inl ⟨u, hu, rfl, hact⟩
    · exact Or.inr ⟨rfl, fun v hv hv2 => absurd hv2 (h email c hact v hv)⟩
  | activate k =>
    refine ⟨k, fun u hu email c hact => ?_⟩
    obtain ⟨u0, hu0, rfl⟩ := Table.mem_modify.1 hu
    by_cases hk : u0.id = k
    · rw [Table.setAt_of_eq hk] at hact ⊢
      obtain ⟨rfl, hc, _⟩ := hact
      refine Or.inr ⟨hk, fun v hv hv2 => ?_⟩
      by_contra hne
      exact h u0 hu0 hk c hc v hv hne hv2
    · rw [Table.setAt_of_ne hk] at hact ⊢
      exact Or.inl ⟨u0, hu0, rfl, hact⟩
  | _ =>
    refine ⟨0, fun u hu email c hact => ?_⟩
    rcases Change.active_origin _ hu hact.2.2 with ⟨u0, hu0, hid, h2, hk⟩ | ⟨_, hx, _⟩ | ⟨_, _, hx, _⟩
    · exact Or.inl ⟨u0, hu0, hid, hold hact h2 hk⟩
    · cases hx
    · cases hx

/-- **One change.** Singleness of the change is exactly what keeps a table free of doubles. -/
theorem noDouble_apply_iff {t : Table User} (h : NoDouble t) (ch : Change) : NoDouble (ch.apply t) ↔ ch.Single t := by
  constructor
  · intro hnew
    cases ch with
    | enrol x =>
      intro email c hx v hv hv2
      have hsame := hnew email c _ (Table.mem_insert.2 (Or.inr rfl)) v (Table.mem_insert.2 (Or.inl hv)) hx hv2
      exact absurd (congrArg Rec.id hsame) (Nat.ne_of_gt (t.below v hv))
    | activate k =>
      intro u hu hk c hc v hv hne hv2
      have hu' : (⟨u.id, setActive u.cols⟩ : Rec User) ∈ ((Change.activate k).apply t).rows :=
        Table.mem_modify.2 ⟨u, hu, Table.setAt_of_eq hk⟩
      have hv' : v ∈ ((Change.activate k).apply t).rows := Table.mem_modify.2 ⟨v, hv, Table.setAt_of_ne hne⟩
      have hsame := hnew u.cols.email c _ hu' v hv' ⟨rfl, hc, rfl⟩ hv2
      exact hne ((congrArg Rec.id hsame).symm.trans hk)
    | _ => trivial
  · intro hs email c u hu v hv hu2 hv2
    obtain ⟨k, hactive⟩ := hs.active
    refine (ch.apply t).id_inj hu hv ?_
    rcases hactive u hu email c hu2 with ⟨u0, hu0, hid, hold⟩ | ⟨huk, hothers⟩
    · rcases hactive v hv email c hv2 with ⟨v0, hv0, hid', hold'⟩ | ⟨hvk, hothers⟩
      · rw [← hid, ← hid', h email c u0 hu0 v0 hv0 hold hold']
      · rw [← hid, hothers u0 hu0 hold, hvk]
    · rcases hactive v hv email c hv2 with ⟨v0, hv0, hid', hold'⟩ | ⟨hvk, _⟩
      · rw [← hid', hothers v0 hv0 hold', huk]
      · rw [huk, hvk]

/-! ## Along runs -/

/-- what `add_user` and a payment event would have to meet -/
def SingleWhen (L : Lib) (w : World) : Request → Prop
  | .addUser (some (email, compaign)) =>
    (w.db.course.get compaign).isSome → ∀ v ∈ w.db.user.rows, ¬ ActiveFor email compaign v
  | .handleWebhook payload sigHeader _ =>
    ∀ a, accepted L w.db payload sigHeader = some a → a.isPayment →
      ∀ v ∈ w.db.user.rows, v.id ≠ a.user.id → ¬ ActiveFor a.user.cols.email a.course.id v
  | _ => True

/-- a registration is single by its own check -/
theorem register_single (L : Lib) (w : World) (code : String) (form : Option (Option String)) (stripe : ℕ → Reply)
    (commit : Bool) : (change L w (.register code form stripe commit)).Single w.db.user := by
  have hcause := change_cause L w (.register code form stripe commit)
  generalize change L w (.register code form stripe commit) = ch at hcause
  cases hcause with
  | silent => trivial
  | free ha hf =>
    obtain ⟨_, _, hnone⟩ := admitted_course ha
    intro email' c hx v hv hv2
    obtain ⟨rfl, hc, _⟩ := hx
    cases hc
    have hno := Table.first_eq_none_iff.1 hnone v hv
    simp only [decide_eq_false_iff_not] at hno
    exact hno hv2
  | pending ha hf =>
    intro email' c hx
    exact absurd hx.2.2 (by simp [pendingUser])

theorem webhook_single_iff (L : Lib) (w : World) (payload : String) (sigHeader : Option String) (stripe : ℕ → Reply) :
    (change L w (.handleWebhook payload sigHeader stripe)).Single w.db.user ↔
      SingleWhen L w (.handleWebhook payload sigHeader stripe) := by
  simp only [SingleWhen, change, webhookChange]
  cases ha : accepted L w.db payload sigHeader with
  | none => simp [Change.Single]
  | some a =>
    obtain ⟨_, hfirst, hcourse, _, _⟩ := accepted_spec ha
    obtain ⟨c, hc, hget⟩ := Option.bind_eq_some_iff.1 hcourse
    have hid : a.course.id = c := (Table.get_eq_some_iff.1 hget).2
    have hact : (Change.activate a.user.id).Single w.db.user ↔
        ∀ v ∈ w.db.user.rows, v.id ≠ a.user.id → ¬ ActiveFor a.user.cols.email a.course.id v := by
      constructor
      · intro h
        exact h a.user (Table.first_mem hfirst) rfl a.course.id (hid ▸ hc)
      · intro h u hu hk c' hc' v hv hne
        have hsame := w.db.user.id_inj hu (Table.first_mem hfirst) hk
        subst hsame
        have hcc : c' = a.course.id := by
          rw [hid]
          exact Option.some.inj (hc'.symm.trans hc)
        rw [hcc]
        exact h v hv hne
    simp only [Option.some.injEq, forall_eq', Accepted.isPayment, Accepted.change]
    split
    · rename_i ht
      simpa [ht] using hact
    · rename_i ht
      simpa [ht] using hact
    · rename_i ht
      split <;> simp [ht, Change.Single]
    · rename_i h1 h2 _
      refine iff_of_true trivial ?_
      rintro (ht | ht)
      · exact absurd ht h1
      · exact absurd ht h2

theorem change_single_iff (L : Lib) (w : World) (r : Request) :
    (change L w r).Single w.db.user ↔ SingleWhen L w r := by
  cases r with
  | register code form stripe commit => exact iff_of_true (register_single L w code form stripe commit) trivial
  | handleWebhook payload sigHeader stripe => exact webhook_single_iff L w payload sigHeader stripe
  | addUser form =>
    cases form with
    | none => exact Iff.rfl
    | some p =>
      obtain ⟨email, compaign⟩ := p
      simp only [SingleWhen, change, addUserChange]
      split_ifs with hc
      · constructor
        · intro h _
          exact h email compaign ⟨rfl, rfl, rfl⟩
        · rintro h email' c ⟨rfl, hc', _⟩
          cases hc'
          exact h hc
      · exact iff_of_true trivial fun h => absurd h hc
  | unsubscribe user campaign post stripe =>
    simp only [SingleWhen, change, iff_true]
    split
    · trivial
    · split_ifs <;> trivial
  | unsubscribeuser who userId campaign stripe =>
    simp only [SingleWhen, change, iff_true]
    split <;> trivial
  | _ => exact Iff.rfl

/-- **No double subscription.** Along a run no state has a double exactly if every `add_user` and every payment event
meets its condition in the state in which it is served. -/
theorem no_double_iff (L : Lib) (w : World) (h : NoDouble w.db.user) (reqs : List Request) :
    (app L).Always (fun w => NoDouble w.db.user) w reqs ↔ (app L).Along (SingleWhen L) w reqs := by
  refine (app L).always_iff_along (I := fun w => NoDouble w.db.user) (fun w r hw => ?_) h
  rw [next_user, noDouble_apply_iff hw, change_single_iff]

/-- the manual addition of `ann` to the first campaign -/
def Sample.addition : Request := .addUser (some ("ann@example.com", 1))

/-- a registration and its payment: no state on the way has a double -/
theorem no_double_iff_start :
    (app Sample.lib).Always (fun w => NoDouble w.db.user) Sample.start [Sample.registration, Sample.checkout] := by
  have hstart : NoDouble Sample.start.db.user := fun _ _ u hu => absurd hu List.not_mem_nil
  have hpending : ∀ v ∈ ((app Sample.lib).next Sample.start Sample.registration).db.user.rows,
      v.cols.status = some 1 := by decide
  refine (no_double_iff Sample.lib Sample.start hstart _).2 ⟨trivial, ?_, trivial⟩
  intro a _ _ v hv _ hactive
  have h2 := hactive.2.2
  rw [hpending v hv] at h2
  cases h2

/-- `ann` registers, is added by hand before the payment arrives, and the payment makes the pending row active too -/
theorem registered_added_paid :
    ((app Sample.lib).run Sample.start [Sample.registration, Sample.addition, Sample.checkout]).db.user.rows.map
      (fun u => (u.id, decide (ActiveFor "ann@example.com" 1 u))) = [(1, true), (2, true)] := by
  decide +kernel

end Newsletter
