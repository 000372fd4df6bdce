/-
Tables with an auto-increment primary key, as an object-relational mapper shows them to a program.

A table is a list of rows in primary-key order together with the counter that gives the next key. The structure
carries both facts (`sorted`, `below`), so a table with two rows of one key cannot be built, and every operation
below returns a table again:
- `insert` appends a row under a fresh key;
- `modify` rewrites the columns of the row with a given key;
- `erase` removes the rows that satisfy a condition;
- `first`, `get`, `all` are the three forms of query: the first match, the row of a key, every match.

The rules used elsewhere: a key names at most one row (`id_inj`, `get_eq_some_iff`); which rows an operation leaves
(`mem_insert`, `mem_modify`); and the frame rules, which say when a query does not see an update
(`first_modify`, `all_modify_of_not`, `all_insert_of_not`, `all_erase_of_not`, `all_foldl_insert_of_not`). Where the keys
of two tables differ, rows are compared by their position in a query (`place`, `cols_setAt`). A column that is not a key may
still name rows, if its values are distinct (`eq_of_nodup_filterMap`). What is made for each row of a query is made once, if
it bears the key of its row (`nodup_flatMap`). What every row satisfies (`Every`), a foreign key (`Refers`) and a column
without duplicates (`column`) have a rule for each operation.
-/
import Mathlib.Tactic

namespace Newsletter.Core

/-- a row: its primary key and its columns -/
structure Rec (α : Type) where
  id : ℕ
  cols : α
deriving DecidableEq, Repr

/-- rows in primary-key order and the auto-increment counter -/
@[ext] structure Table (α : Type) where
  rows : List (Rec α)
  next : ℕ
  sorted : rows.Pairwise fun a b => a.id < b.id
  below : ∀ r ∈ rows, r.id < next
deriving DecidableEq, Repr

namespace Table

variable {α : Type}

/-! ## Operations -/

def empty : Table α := ⟨[], 1, List.Pairwise.nil, by simp⟩

/-- append a row under the next key -/
def insert (t : Table α) (a : α) : Table α where
  rows := t.rows ++ [⟨t.next, a⟩]
  next := t.next + 1
  sorted := by
    refine List.pairwise_append.2 ⟨t.sorted, List.pairwise_singleton _ _, fun x hx y hy => ?_⟩
    rw [List.mem_singleton] at hy
    subst hy
    exact t.below x hx
  below := by
    intro r hr
    rcases List.mem_append.1 hr with hr | hr
    · exact Nat.lt_succ_of_lt (t.below r hr)
    · rw [List.mem_singleton] at hr
      subst hr
      exact Nat.lt_succ_self _

/-- the row `r` with its columns rewritten if its key is `k` -/
def setAt (k : ℕ) (f : α → α) (r : Rec α) : Rec α := if r.id = k then ⟨r.id, f r.cols⟩ else r

@[simp] theorem setAt_id (k : ℕ) (f : α → α) (r : Rec α) : (setAt k f r).id = r.id := by
  unfold setAt; split_ifs <;> rfl

theorem setAt_of_eq {k : ℕ} {f : α → α} {r : Rec α} (h : r.id = k) : setAt k f r = ⟨r.id, f r.cols⟩ := if_pos h

theorem setAt_of_ne {k : ℕ} {f : α → α} {r : Rec α} (h : r.id ≠ k) : setAt k f r = r := if_neg h

/-- rewrite the columns of the row with key `k` -/
def modify (t : Table α) (k : ℕ) (f : α → α) : Table α where
  rows := t.rows.map (setAt k f)
  next := t.next
  sorted := by
    rw [List.pairwise_map]
    exact t.sorted.imp fun h => by simpa using h
  below := by
    intro r hr
    obtain ⟨r0, h0, rfl⟩ := List.mem_map.1 hr
    simpa using t.below r0 h0

/-- remove the rows that satisfy `p` -/
def erase (t : Table α) (p : Rec α → Bool) : Table α where
  rows := t.rows.filter fun r => !p r
  next := t.next
  sorted := t.sorted.filter _
  below := fun r hr => t.below r (List.mem_filter.1 hr).1

/-- `filter_by(..).first()` -/
def first (t : Table α) (p : Rec α → Bool) : Option (Rec α) := t.rows.find? p

/-- the row with key `k` -/
def get (t : Table α) (k : ℕ) : Option (Rec α) := t.first fun r => r.id = k

/-- `filter_by(..).all()` -/
def all (t : Table α) (p : Rec α → Bool) : List (Rec α) := t.rows.filter p

/-! ## Keys -/

theorem id_inj (t : Table α) {r r' : Rec α} (h : r ∈ t.rows) (h' : r' ∈ t.rows) (he : r.id = r'.id) : r = r' := by
  have hnodup : (t.rows.map Rec.id).Nodup := List.pairwise_map.2 (t.sorted.imp Nat.ne_of_lt)
  exact List.inj_on_of_nodup_map hnodup h h' he

theorem first_mem {t : Table α} {p : Rec α → Bool} {r : Rec α} (h : t.first p = some r) : r ∈ t.rows :=
  List.mem_of_find?_eq_some h

theorem first_prop {t : Table α} {p : Rec α → Bool} {r : Rec α} (h : t.first p = some r) : p r = true :=
  List.find?_some h

theorem first_eq_none_iff {t : Table α} {p : Rec α → Bool} : t.first p = none ↔ ∀ r ∈ t.rows, p r = false := by
  simp [first]

theorem get_eq_some_iff {t : Table α} {k : ℕ} {r : Rec α} : t.get k = some r ↔ r ∈ t.rows ∧ r.id = k := by
  constructor
  · intro h
    exact ⟨first_mem h, by simpa using first_prop h⟩
  · rintro ⟨hr, rfl⟩
    cases hg : t.get r.id with
    | none => exact absurd (first_eq_none_iff.1 hg r hr) (by simp)
    | some r' =>
      have hid : r'.id = r.id := by simpa using first_prop hg
      rw [t.id_inj (first_mem hg) hr hid]

theorem get_of_mem {t : Table α} {r : Rec α} (h : r ∈ t.rows) : t.get r.id = some r :=
  get_eq_some_iff.2 ⟨h, rfl⟩

theorem get_eq_none_iff {t : Table α} {k : ℕ} : t.get k = none ↔ ∀ r ∈ t.rows, r.id ≠ k := by
  simp [get, first_eq_none_iff]

theorem all_and (t : Table α) (p q : Rec α → Prop) [DecidablePred p] [DecidablePred q] :
    (t.all fun r => p r ∧ q r) = (t.all fun r => p r).filter fun r => q r := by
  simp only [all, List.filter_filter]
  refine List.filter_congr fun r _ => ?_
  by_cases hp : p r <;> by_cases hq : q r <;> simp [hp, hq]

/-! ## Which rows an operation leaves -/

@[simp] theorem insert_rows (t : Table α) (a : α) : (t.insert a).rows = t.rows ++ [⟨t.next, a⟩] := rfl

@[simp] theorem modify_rows (t : Table α) (k : ℕ) (f : α → α) : (t.modify k f).rows = t.rows.map (setAt k f) := rfl

theorem mem_insert {t : Table α} {a : α} {r : Rec α} : r ∈ (t.insert a).rows ↔ r ∈ t.rows ∨ r = ⟨t.next, a⟩ := by
  simp

theorem mem_modify {t : Table α} {k : ℕ} {f : α → α} {r : Rec α} :
    r ∈ (t.modify k f).rows ↔ ∃ r0 ∈ t.rows, setAt k f r0 = r := by
  simp

theorem get_insert_self (t : Table α) (a : α) : (t.insert a).get t.next = some ⟨t.next, a⟩ :=
  get_eq_some_iff.2 ⟨mem_insert.2 (Or.inr rfl), rfl⟩

theorem get_insert_of_some {t : Table α} {k : ℕ} {r : Rec α} (h : t.get k = some r) (a : α) :
    (t.insert a).get k = some r := by
  obtain ⟨hmem, hid⟩ := get_eq_some_iff.1 h
  exact get_eq_some_iff.2 ⟨mem_insert.2 (Or.inl hmem), hid⟩

theorem get_insert_of_lt (t : Table α) (a : α) {k : ℕ} (h : k < t.next) : (t.insert a).get k = t.get k := by
  simp only [get, first, insert_rows, List.find?_append]
  have hnew : [(⟨t.next, a⟩ : Rec α)].find? (fun r => decide (r.id = k)) = none := by
    simp only [List.find?_singleton, decide_eq_true_eq]
    exact if_neg (by omega)
  rw [hnew, Option.or_none]

/-- a row keeps its columns, or is removed -/
theorem get_erase (t : Table α) (p : Rec α → Bool) (k : ℕ) : (t.erase p).get k = (t.get k).filter fun r => !p r := by
  cases hg : t.get k with
  | none =>
    rw [Option.filter_none]
    refine get_eq_none_iff.2 fun r hr => ?_
    exact get_eq_none_iff.1 hg r (List.mem_filter.1 hr).1
  | some r =>
    obtain ⟨hr, hk⟩ := get_eq_some_iff.1 hg
    by_cases hp : p r = true
    · rw [Option.filter_some_neg (by simp [hp])]
      refine get_eq_none_iff.2 fun r' hr' hk' => ?_
      obtain ⟨hmem, hp'⟩ := List.mem_filter.1 hr'
      rw [t.id_inj hmem hr (hk'.trans hk.symm)] at hp'
      simp [hp] at hp'
    · rw [Option.filter_some_pos (by simp [hp])]
      exact get_eq_some_iff.2 ⟨List.mem_filter.2 ⟨hr, by simp [hp]⟩, hk⟩

/-- rows inserted one after the other get the next keys in order -/
theorem foldl_insert_rows (l : List α) (t : Table α) :
    (l.foldl insert t).rows = t.rows ++ l.mapIdx fun i a => ⟨t.next + i, a⟩ := by
  induction l generalizing t with
  | nil => simp
  | cons a l ih =>
    rw [List.foldl_cons, ih, insert_rows, List.mapIdx_cons, List.append_assoc]
    simp only [insert, List.singleton_append, Nat.add_zero]
    congr 3
    funext i b
    rw [Nat.add_assoc, Nat.add_comm 1 i]

theorem foldl_insert_next (l : List α) (t : Table α) : (l.foldl insert t).next = t.next + l.length := by
  induction l generalizing t with
  | nil => rfl
  | cons a l ih =>
    rw [List.foldl_cons, ih]
    simp only [insert, List.length_cons]
    omega

theorem get_foldl_insert_of_lt (l : List α) (t : Table α) {k : ℕ} (h : k < t.next) :
    (l.foldl insert t).get k = t.get k := by
  induction l generalizing t with
  | nil => rfl
  | cons a l ih =>
    rw [List.foldl_cons, ih (t.insert a) (Nat.lt_succ_of_lt h), get_insert_of_lt t a h]

theorem modify_congr {t : Table α} {k : ℕ} {f g : α → α} (h : ∀ r, t.get k = some r → f r.cols = g r.cols) :
    t.modify k f = t.modify k g := by
  ext1
  · refine List.map_congr_left fun r hr => ?_
    by_cases hk : r.id = k
    · rw [setAt_of_eq hk, setAt_of_eq hk, h r (get_eq_some_iff.2 ⟨hr, hk⟩)]
    · rw [setAt_of_ne hk, setAt_of_ne hk]
  · rfl

theorem modify_of_get_none {t : Table α} {k : ℕ} {f : α → α} (h : t.get k = none) : t.modify k f = t := by
  ext1
  · have hid : ∀ r ∈ t.rows, setAt k f r = id r := fun r hr => setAt_of_ne (get_eq_none_iff.1 h r hr)
    rw [modify_rows, List.map_congr_left hid, List.map_id]
  · rfl

/-- an update that leaves the columns of its row as they are -/
theorem modify_of_fixed {t : Table α} {k : ℕ} {f : α → α} (h : ∀ r, t.get k = some r → f r.cols = r.cols) : t.modify k f = t := by
  have hid : ∀ r ∈ t.rows, setAt k id r = id r := fun r _ => by
    unfold setAt
    split_ifs <;> rfl
  rw [modify_congr (g := id) h]
  ext1
  · rw [modify_rows, List.map_congr_left hid, List.map_id]
  · rfl

/-! ## Frame rules -/

/-- a query whose condition the update does not touch finds the same row, updated -/
theorem first_modify {t : Table α} {p : Rec α → Bool} {k : ℕ} {f : α → α}
    (hp : ∀ r, p (setAt k f r) = p r) : (t.modify k f).first p = (t.first p).map (setAt k f) := by
  simp only [first, modify_rows, List.find?_map]
  congr 2
  funext r
  exact hp r

theorem first_insert_of_not {t : Table α} {p : Rec α → Bool} {a : α} (h : p ⟨t.next, a⟩ = false) :
    (t.insert a).first p = t.first p := by
  simp [first, List.find?_append, h]

theorem first_insert_of_some {t : Table α} {p : Rec α → Bool} {r : Rec α} (h : t.first p = some r) (a : α) :
    (t.insert a).first p = some r := by
  have hrows : t.rows.find? p = some r := h
  simp [first, List.find?_append, hrows]

theorem get_modify (t : Table α) (k j : ℕ) (f : α → α) : (t.modify k f).get j = (t.get j).map (setAt k f) :=
  first_modify fun r => by simp

theorem get_modify_self {t : Table α} {k : ℕ} {r : Rec α} (h : t.get k = some r) (f : α → α) :
    (t.modify k f).get k = some ⟨r.id, f r.cols⟩ := by
  rw [get_modify, h, Option.map_some, setAt_of_eq (get_eq_some_iff.1 h).2]

theorem get_modify_of_ne (t : Table α) {k j : ℕ} (f : α → α) (h : j ≠ k) : (t.modify k f).get j = t.get j := by
  rw [get_modify]
  cases hg : t.get j with
  | none => rfl
  | some r =>
    have hid : r.id ≠ k := (get_eq_some_iff.1 hg).2 ▸ h
    rw [Option.map_some, setAt_of_ne hid]

/-- an update of rows outside the query's condition, before and after, is not seen by it -/
theorem all_modify_of_not {t : Table α} {p : Rec α → Bool} {k : ℕ} {f : α → α}
    (h : ∀ r ∈ t.rows, r.id = k → p r = false ∧ p ⟨r.id, f r.cols⟩ = false) : (t.modify k f).all p = t.all p := by
  have hrow : ∀ r ∈ t.rows, p (setAt k f r) = p r ∧ (p r = true → setAt k f r = r) := by
    intro r hr
    by_cases hk : r.id = k
    · obtain ⟨h1, h2⟩ := h r hr hk
      rw [setAt_of_eq hk, h1, h2]
      exact ⟨rfl, fun hf => absurd hf (by decide)⟩
    · rw [setAt_of_ne hk]
      exact ⟨rfl, fun _ => rfl⟩
  simp only [all, modify_rows, List.filter_map]
  have hcongr : t.rows.filter (p ∘ setAt k f) = t.rows.filter p :=
    List.filter_congr fun r hr => (hrow r hr).1
  rw [hcongr]
  conv_rhs => rw [← List.map_id (t.rows.filter p)]
  exact List.map_congr_left fun r hr => (hrow r (List.mem_filter.1 hr).1).2 (List.mem_filter.1 hr).2

theorem all_insert_of_not {t : Table α} {p : Rec α → Bool} {a : α} (h : p ⟨t.next, a⟩ = false) :
    (t.insert a).all p = t.all p := by
  simp [all, List.filter_append, h]

theorem all_erase_of_not {t : Table α} {p q : Rec α → Bool} (h : ∀ r ∈ t.rows, q r = true → p r = false) :
    (t.erase q).all p = t.all p := by
  simp only [all, erase, List.filter_filter]
  refine List.filter_congr fun r hr => ?_
  cases hq : q r
  · simp
  · simp [h r hr hq]

/-- nothing to erase -/
theorem erase_of_all_nil {t : Table α} {p : Rec α → Bool} (h : t.all p = []) : t.erase p = t := by
  refine Table.ext (List.filter_eq_self.2 fun r hr => ?_) rfl
  have hr' := List.filter_eq_nil_iff.1 h r hr
  simpa using hr'

theorem all_erase_self (t : Table α) (p : Rec α → Bool) : (t.erase p).all p = [] := by
  simp only [all, erase, List.filter_filter, List.filter_eq_nil_iff, Bool.and_eq_true, Bool.not_eq_true', not_and,
    Bool.not_eq_false]
  exact fun r _ hp => hp

/-- rows inserted one after the other are not seen by a query that accepts none of them -/
theorem all_foldl_insert_of_not {p : Rec α → Bool} (l : List α) (t : Table α) (h : ∀ a ∈ l, ∀ k, p ⟨k, a⟩ = false) :
    (l.foldl insert t).all p = t.all p := by
  induction l generalizing t with
  | nil => rfl
  | cons a l ih =>
    rw [List.foldl_cons, ih _ fun b hb => h b (List.mem_cons_of_mem a hb)]
    exact all_insert_of_not (h a List.mem_cons_self t.next)

/-- and they come last in a query that accepts all of them -/
theorem all_foldl_insert {p : Rec α → Bool} (l : List α) (t : Table α) (h : ∀ a ∈ l, ∀ k, p ⟨k, a⟩ = true) :
    (l.foldl insert t).all p = t.all p ++ l.mapIdx fun i a => ⟨t.next + i, a⟩ := by
  have hnew : ∀ r ∈ l.mapIdx fun i a => (⟨t.next + i, a⟩ : Rec α), p r = true := by
    intro r hr
    obtain ⟨i, hi, rfl⟩ := List.mem_mapIdx.1 hr
    exact h _ (List.getElem_mem hi) _
  rw [all, foldl_insert_rows, List.filter_append, List.filter_eq_self.2 hnew, all]

/-! ## Updates commute and repeat -/

theorem modify_comm {t : Table α} {j k : ℕ} {f g : α → α} (h : j = k → ∀ a, f (g a) = g (f a)) :
    (t.modify j f).modify k g = (t.modify k g).modify j f := by
  ext1
  · simp only [modify_rows, List.map_map]
    refine List.map_congr_left fun r _ => ?_
    simp only [Function.comp]
    by_cases hj : r.id = j
    · by_cases hk : r.id = k
      · rw [setAt_of_eq hj, setAt_of_eq hk, setAt_of_eq (by exact hk), setAt_of_eq (by exact hj),
          h (hj.symm.trans hk)]
      · rw [setAt_of_ne hk, setAt_of_ne (by simpa using hk)]
    · rw [setAt_of_ne hj, setAt_of_ne (r := setAt k g r) (by simpa using hj)]
  · rfl

theorem modify_idem {t : Table α} {k : ℕ} {f : α → α} (h : ∀ a, f (f a) = f a) :
    (t.modify k f).modify k f = t.modify k f := by
  ext1
  · simp only [modify_rows, List.map_map]
    refine List.map_congr_left fun r _ => ?_
    simp only [Function.comp, setAt]
    by_cases hk : r.id = k <;> simp [hk, h]
  · rfl

/-! ## Positions in a list of rows -/

/-- the position of the row with key `k` -/
def place (l : List (Rec α)) (k : ℕ) : Option ℕ := l.findIdx? fun r => r.id = k

theorem place_map_setAt (l : List (Rec α)) (k j : ℕ) (f : α → α) : place (l.map (setAt k f)) j = place l j := by
  rw [place, List.findIdx?_map]
  congr 1
  funext r
  simp

theorem place_append {l l' : List (Rec α)} {k : ℕ} (h : ∀ r ∈ l', r.id ≠ k) : place (l ++ l') k = place l k := by
  have hnone : l'.findIdx? (fun r => decide (r.id = k)) = none :=
    List.findIdx?_eq_none_iff.2 fun r hr => decide_eq_false (h r hr)
  rw [place, List.findIdx?_append, hnone, Option.map_none, Option.or_none, place]

theorem place_eq_none_iff {l : List (Rec α)} {k : ℕ} : place l k = none ↔ ∀ r ∈ l, r.id ≠ k := by
  rw [place, List.findIdx?_eq_none_iff]
  exact forall₂_congr fun r _ => decide_eq_false_iff_not

theorem place_eq_some {l : List (Rec α)} {k i : ℕ} (h : place l k = some i) : ∃ r, l[i]? = some r ∧ r.id = k := by
  obtain ⟨hi, hp, _⟩ := List.findIdx?_eq_some_iff_getElem.1 h
  exact ⟨l[i], List.getElem?_eq_getElem hi, of_decide_eq_true hp⟩

/-- in a list sorted by keys, a row is found at its position -/
theorem place_getElem? {l : List (Rec α)} (hl : l.Pairwise fun a b => a.id < b.id) {i : ℕ} {r : Rec α}
    (h : l[i]? = some r) : place l r.id = some i := by
  obtain ⟨hi, rfl⟩ := List.getElem?_eq_some_iff.1 h
  refine List.findIdx?_eq_some_iff_getElem.2 ⟨hi, decide_eq_true rfl, fun j hji hj => ?_⟩
  have hlt : l[j].id < l[i].id := List.pairwise_iff_getElem.1 hl j i _ hi hji
  have heq : l[j].id = l[i].id := of_decide_eq_true hj
  omega

theorem map_setAt_of_place_none {l : List (Rec α)} {k : ℕ} {f : α → α} (h : place l k = none) : l.map (setAt k f) = l := by
  refine (List.map_congr_left fun r hr => ?_).trans (List.map_id l)
  exact setAt_of_ne (place_eq_none_iff.1 h r hr)

/-- an update by key is an update of the columns at the key's position -/
theorem cols_setAt {l : List (Rec α)} (hl : l.Pairwise fun a b => a.id < b.id) {k i : ℕ} {f : α → α}
    (h : place l k = some i) : (l.map (setAt k f)).map Rec.cols = (l.map Rec.cols).modify i f := by
  refine List.ext_getElem? fun j => ?_
  rw [List.getElem?_modify, List.getElem?_map, List.getElem?_map, List.getElem?_map, Option.map_map]
  cases hj : l[j]? with
  | none => split_ifs <;> rfl
  | some r =>
    have hplace : place l r.id = some j := place_getElem? hl hj
    by_cases hk : r.id = k
    · have hij : i = j := Option.some.inj (h.symm.trans (hk ▸ hplace))
      simp only [Option.map_some, Function.comp, setAt_of_eq hk, if_pos hij]
      rfl
    · have hij : i ≠ j := by
        rintro rfl
        obtain ⟨r', hr', hid⟩ := place_eq_some h
        cases hj.symm.trans hr'
        exact hk hid
      simp only [Option.map_some, Function.comp, setAt_of_ne hk, if_neg hij]
      rfl

theorem all_sorted (t : Table α) (p : Rec α → Bool) : (t.all p).Pairwise fun a b => a.id < b.id := t.sorted.filter _

/-- lists made from different rows have no element in common if their elements tell the row -/
theorem nodup_flatMap {β : Type} (key : β → ℕ) {l : List (Rec α)} {f : Rec α → List β}
    (hl : l.Pairwise fun a b => a.id < b.id) (hf : ∀ r ∈ l, (f r).Nodup) (hkey : ∀ r ∈ l, ∀ b ∈ f r, key b = r.id) :
    (l.flatMap f).Nodup := by
  refine List.nodup_flatMap.2 ⟨hf, hl.imp_of_mem fun {a b} ha hb hab x hxa hxb => ?_⟩
  have hid : a.id = b.id := (hkey a ha x hxa).symm.trans (hkey b hb x hxb)
  omega

/-! ## Facts of every row, references and distinct columns -/

/-- the columns of every row satisfy `P` -/
def Every (t : Table α) (P : α → Prop) : Prop := ∀ r ∈ t.rows, P r.cols

section Every

variable {t : Table α} {P Q : α → Prop}

theorem Every.mono (h : t.Every P) (hpq : ∀ a, P a → Q a) : t.Every Q := fun r hr => hpq _ (h r hr)

theorem Every.insert (h : t.Every P) {a : α} (ha : P a) : (t.insert a).Every P := by
  intro r hr
  rcases mem_insert.1 hr with hr | rfl
  · exact h r hr
  · exact ha

/-- only the row that is rewritten has to be looked at -/
theorem Every.modify (h : t.Every P) {k : ℕ} {f : α → α} (hf : ∀ r, t.get k = some r → P r.cols → P (f r.cols)) :
    (t.modify k f).Every P := by
  intro r hr
  obtain ⟨r0, h0, rfl⟩ := mem_modify.1 hr
  by_cases hk : r0.id = k
  · rw [setAt_of_eq hk]
    exact hf r0 (get_eq_some_iff.2 ⟨h0, hk⟩) (h r0 h0)
  · rw [setAt_of_ne hk]
    exact h r0 h0

theorem Every.erase (h : t.Every P) (p : Rec α → Bool) : (t.erase p).Every P :=
  fun r hr => h r (List.mem_filter.1 hr).1

theorem Every.foldl_insert {l : List α} (h : t.Every P) (hl : ∀ a ∈ l, P a) : (l.foldl Table.insert t).Every P := by
  induction l generalizing t with
  | nil => exact h
  | cons a l ih => exact ih (h.insert (hl a List.mem_cons_self)) fun b hb => hl b (List.mem_cons_of_mem a hb)

end Every

/-- a nullable foreign key that names a row -/
def Refers (t : Table α) (k : Option ℕ) : Prop := ∃ id, k = some id ∧ (t.get id).isSome

theorem refers_of_get {t : Table α} {k : ℕ} {r : Rec α} (h : t.get k = some r) : t.Refers (some k) :=
  ⟨k, rfl, by rw [h]; rfl⟩

theorem isSome_get_insert {t : Table α} {k : ℕ} (h : (t.get k).isSome) (a : α) : ((t.insert a).get k).isSome := by
  obtain ⟨r, hr⟩ := Option.isSome_iff_exists.1 h
  rw [get_insert_of_some hr]
  rfl

theorem isSome_get_modify (t : Table α) (k j : ℕ) (f : α → α) : ((t.modify k f).get j).isSome = (t.get j).isSome := by
  rw [get_modify, Option.isSome_map]

theorem Refers.insert {t : Table α} {k : Option ℕ} (h : t.Refers k) (a : α) : (t.insert a).Refers k := by
  obtain ⟨id, hk, hid⟩ := h
  exact ⟨id, hk, isSome_get_insert hid a⟩

theorem Refers.modify {t : Table α} {k : Option ℕ} (h : t.Refers k) (j : ℕ) (f : α → α) : (t.modify j f).Refers k := by
  obtain ⟨id, hk, hid⟩ := h
  exact ⟨id, hk, by rwa [isSome_get_modify]⟩

/-- the values of a column -/
def column {β : Type} (t : Table α) (f : α → β) : List β := t.rows.map fun r => f r.cols

theorem column_modify {β : Type} {f : α → β} {g : α → α} (t : Table α) (k : ℕ) (hg : ∀ a, f (g a) = f a) :
    (t.modify k g).column f = t.column f := by
  simp only [column, modify_rows, List.map_map]
  refine List.map_congr_left fun r _ => ?_
  simp only [Function.comp, setAt]
  split_ifs
  · exact hg r.cols
  · rfl

theorem nodup_column_insert {β : Type} {f : α → β} {t : Table α} {a : α} (h : (t.column f).Nodup)
    (ha : ∀ r ∈ t.rows, f r.cols ≠ f a) : ((t.insert a).column f).Nodup := by
  simp only [column, insert_rows, List.map_append, List.map_singleton]
  refine List.nodup_append.2 ⟨h, List.nodup_singleton _, ?_⟩
  rintro x hx y hy rfl
  obtain ⟨r, hr, hrx⟩ := List.mem_map.1 hx
  exact ha r hr (hrx.trans (List.mem_singleton.1 hy))

/-- a column without duplicates names its row -/
theorem first_of_nodup_column {β : Type} [DecidableEq β] {t : Table α} {f : α → β} (h : (t.column f).Nodup) {r : Rec α}
    (hr : r ∈ t.rows) : (t.first fun a => f a.cols = f r.cols) = some r := by
  cases hfirst : t.first fun a => f a.cols = f r.cols with
  | none => exact absurd (first_eq_none_iff.1 hfirst r hr) (by simp)
  | some r' =>
    have hsame : f r'.cols = f r.cols := of_decide_eq_true (first_prop hfirst)
    rw [List.inj_on_of_nodup_map h (first_mem hfirst) hr hsame]

end Table

/-! ## Columns without duplicates -/

/-- if the non-null values of a column are distinct, a value names one row -/
theorem eq_of_nodup_filterMap {α β : Type} {f : α → Option β} {l : List α} (h : (l.filterMap f).Nodup) {a a' : α}
    (ha : a ∈ l) (ha' : a' ∈ l) {b : β} (hb : f a = some b) (hb' : f a' = some b) : a = a' := by
  induction l with
  | nil => simp at ha
  | cons x l ih =>
    -- an element of the tail with the value of the head would give that value twice
    have hhead : ∀ y ∈ l, f x = some b → f y = some b → False := by
      intro y hy hx hyb
      rw [List.filterMap_cons_some hx] at h
      exact (List.nodup_cons.1 h).1 (List.mem_filterMap.2 ⟨y, hy, hyb⟩)
    have htail : (l.filterMap f).Nodup := h.sublist ((List.sublist_cons_self x l).filterMap f)
    rcases List.mem_cons.1 ha with hax | hal
    · rcases List.mem_cons.1 ha' with hax' | hal'
      · rw [hax, hax']
      · exact (hhead a' hal' (hax ▸ hb) hb').elim
    · rcases List.mem_cons.1 ha' with hax' | hal'
      · exact (hhead a hal (hax' ▸ hb') hb).elim
      · exact ih htail hal hal'

/-- among elements with distinct keys, a key selects one -/
theorem filter_eq_singleton_of_nodup {α β : Type} [DecidableEq β] {key : α → β} {l : List α} (h : (l.map key).Nodup)
    {a : α} (ha : a ∈ l) : l.filter (fun x => key x = key a) = [a] := by
  induction l with
  | nil => simp at ha
  | cons x l ih =>
    rw [List.map_cons, List.nodup_cons] at h
    rcases List.mem_cons.1 ha with rfl | hal
    · have hnone : l.filter (fun x => key x = key a) = [] := by
        rw [List.filter_eq_nil_iff]
        intro y hy hkey
        exact h.1 (List.mem_map.2 ⟨y, hy, by simpa using hkey⟩)
      rw [List.filter_cons_of_pos (by simp), hnone]
    · have hne : key x ≠ key a := fun hkey => h.1 (List.mem_map.2 ⟨a, hal, hkey.symm⟩)
      rw [List.filter_cons_of_neg (by simpa using hne), ih h.2 hal]

end Newsletter.Core
