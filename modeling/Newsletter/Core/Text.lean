/-
Text operations with the meaning they have in Python, on lists of characters.

`strip` removes the characters that `str.isspace` accepts from both ends. `replaceFirst` is `str.replace(old, new, 1)`
for a non-empty `old`, with `none` if `old` does not occur. `replaceFirst_count` is what makes a loop that replaces
until nothing is left to replace end: an occurrence of `old` is traded for one of `new`. `replaceAll` is
`str.replace(old, new)`, and `toggle` one pass that replaces the occurrences of a doubled character by two texts in turn.

What a pass inserts may stand next to characters of the text, so the rules below say when the two cannot be confused. A
string without the first character of what is inserted can start the result only if it starts the text
(`prefix_of_replaceChar`, `prefix_of_toggle`). From these: `replaceAll_replaceChar` (a character replaced by a longer text
that ends with it can be restored), `toggle_replaceFirst` (replacing the first occurrence is one step of the pass),
`replaceAll_toggle` (what a pass has inserted can be found again), `not_infix_toggle` (a pass leaves no occurrence) and
`exists_weave` (it keeps the pieces between the occurrences, in order).
-/
import Mathlib.Tactic
import Mathlib.Data.List.DropRight

namespace Newsletter.Core

def isSpace (c : Char) : Bool :=
  let n := c.toNat
  (9 ≤ n ∧ n ≤ 13) ∨ (28 ≤ n ∧ n ≤ 32) ∨ n = 0x85 ∨ n = 0xa0 ∨ n = 0x1680 ∨ (0x2000 ≤ n ∧ n ≤ 0x200a) ∨
    n = 0x2028 ∨ n = 0x2029 ∨ n = 0x202f ∨ n = 0x205f ∨ n = 0x3000

def strip (s : List Char) : List Char := (s.dropWhile isSpace).rdropWhile isSpace

/-- `s` with the first occurrence of `old` replaced by `new` -/
def replaceFirst (old new : List Char) : List Char → Option (List Char)
  | [] => none
  | c :: cs =>
    if old <+: c :: cs then some (new ++ (c :: cs).drop old.length)
    else (replaceFirst old new cs).map (c :: ·)

/-- every `a` replaced by `new` -/
def replaceChar (a : Char) (new : List Char) (s : List Char) : List Char :=
  s.flatMap fun c => if c = a then new else [c]

theorem replaceFirst_count {old new s s' : List Char} (h : replaceFirst old new s = some s') (a : Char) :
    s'.count a + old.count a = s.count a + new.count a := by
  induction s generalizing s' with
  | nil => simp [replaceFirst] at h
  | cons c cs ih =>
    unfold replaceFirst at h
    split_ifs at h with hp
    · obtain ⟨rest, hrest⟩ := hp
      simp only [Option.some.injEq] at h
      rw [← h, ← hrest]
      simp only [List.drop_left, List.count_append]
      omega
    · obtain ⟨t, ht, rfl⟩ := Option.map_eq_some_iff.1 h
      have := ih ht
      simp only [List.count_cons]
      omega

theorem replaceFirst_eq_none_iff {old new s : List Char} (hold : old ≠ []) :
    replaceFirst old new s = none ↔ ¬ old <:+: s := by
  induction s with
  | nil => simp [replaceFirst, hold]
  | cons c cs ih =>
    rw [replaceFirst, List.infix_cons_iff, not_or]
    split_ifs with hp
    · simp [hp]
    · rw [Option.map_eq_none_iff, ih]
      simp [hp]

/-- nothing is stripped from a text that neither starts nor ends with whitespace -/
theorem strip_eq_self_iff {s : List Char} :
    strip s = s ↔ (∀ c ∈ s.head?, isSpace c = false) ∧ ∀ c ∈ s.getLast?, isSpace c = false := by
  have hboth : strip s = s ↔ s.dropWhile isSpace = s ∧ s.rdropWhile isSpace = s := by
    constructor
    · intro h
      have hle := (List.rdropWhile_prefix isSpace (l := s.dropWhile isSpace)).length_le
      rw [← strip, h] at hle
      have hdrop : s.dropWhile isSpace = s := (List.dropWhile_suffix isSpace).eq_of_length_le hle
      exact ⟨hdrop, by rwa [strip, hdrop] at h⟩
    · rintro ⟨h1, h2⟩
      rw [strip, h1, h2]
  rw [hboth, List.dropWhile_eq_self_iff, List.rdropWhile_eq_self_iff]
  refine and_congr ?_ ?_
  · cases s <;> simp
  · constructor
    · intro h c hc
      obtain ⟨l, rfl⟩ := List.getLast?_eq_some_iff.1 hc
      simpa using h (by simp)
    · intro h hne
      simpa using h _ (List.getLast?_eq_some_getLast hne)

/-! ## Searching -/

/-- `text.includes(word)`, `word in text` -/
def includes (text word : String) : Bool := word.toList <:+: text.toList

/-- the next `skip` characters belong to an occurrence that has been replaced -/
def replaceFrom (old new : List Char) : ℕ → List Char → List Char
  | _, [] => []
  | skip + 1, _ :: cs => replaceFrom old new skip cs
  | 0, c :: cs =>
    if old <+: c :: cs then new ++ replaceFrom old new (old.length - 1) cs
    else c :: replaceFrom old new 0 cs

/-- `str.replace(old, new)` for a non-empty `old`: occurrences are taken from the left and do not overlap -/
def replaceAll (old new s : List Char) : List Char := replaceFrom old new 0 s

section ReplaceAll

variable {old new : List Char}

theorem replaceFrom_eq_drop (k : ℕ) (s : List Char) : replaceFrom old new k s = replaceAll old new (s.drop k) := by
  induction s generalizing k with
  | nil => cases k <;> simp [replaceAll, replaceFrom]
  | cons c cs ih =>
    cases k with
    | zero => rfl
    | succ k => exact ih k

theorem replaceAll_of_prefix (h : old ≠ []) (s : List Char) :
    replaceAll old new (old ++ s) = new ++ replaceAll old new s := by
  obtain ⟨c, cs, rfl⟩ := List.exists_cons_of_ne_nil h
  have hp : c :: cs <+: c :: (cs ++ s) := List.prefix_append (c :: cs) s
  rw [replaceAll, List.cons_append, replaceFrom, if_pos hp, replaceFrom_eq_drop]
  simp

theorem replaceAll_of_not_prefix {c : Char} {cs : List Char} (h : ¬ old <+: c :: cs) :
    replaceAll old new (c :: cs) = c :: replaceAll old new cs := by
  rw [replaceAll, replaceFrom, if_neg h, replaceAll]

end ReplaceAll

/-! ## Replacing a character -/

section ReplaceChar

variable {a : Char}

theorem replaceChar_self (new cs : List Char) : replaceChar a new (a :: cs) = new ++ replaceChar a new cs := by
  simp [replaceChar]

theorem replaceChar_of_ne {c : Char} (h : c ≠ a) (new cs : List Char) :
    replaceChar a new (c :: cs) = c :: replaceChar a new cs := by
  simp [replaceChar, h]

theorem prefix_of_replaceChar {b : Char} {new u s : List Char} (hb : b ∉ u) (h : u <+: replaceChar a (b :: new) s) :
    u <+: s := by
  induction u generalizing s with
  | nil => exact List.nil_prefix
  | cons x u ih =>
    cases s with
    | nil => exact h
    | cons c cs =>
      by_cases hc : c = a
      · rw [hc, replaceChar_self, List.cons_append, List.cons_prefix_cons] at h
        exact absurd h.1 fun hx => hb (hx ▸ List.mem_cons_self)
      · rw [replaceChar_of_ne hc, List.cons_prefix_cons] at h
        rw [List.cons_prefix_cons]
        exact ⟨h.1, ih (fun hu => hb (List.mem_cons_of_mem x hu)) h.2⟩

/-- an `a` of the result stands behind the rest of what replaces it -/
theorem not_prefix_replaceChar {b : Char} {new u : List Char} (ha : a ≠ b) (hb : b ∉ u) (hu : a ∉ u) (s : List Char) :
    ¬ u ++ [a] <+: replaceChar a (b :: new) s := by
  induction u generalizing s with
  | nil =>
    intro h
    cases s with
    | nil => simp [replaceChar] at h
    | cons c cs =>
      by_cases hc : c = a
      · rw [hc, replaceChar_self] at h
        exact ha (List.cons_prefix_cons.1 h).1
      · rw [replaceChar_of_ne hc] at h
        exact hc (List.cons_prefix_cons.1 h).1.symm
  | cons x u ih =>
    rw [List.mem_cons, not_or] at hb hu
    intro h
    cases s with
    | nil => simp [replaceChar] at h
    | cons c cs =>
      by_cases hc : c = a
      · rw [hc, replaceChar_self] at h
        exact hb.1 (List.cons_prefix_cons.1 h).1.symm
      · rw [replaceChar_of_ne hc] at h
        exact ih hb.2 hu.2 cs (List.cons_prefix_cons.1 h).2

/-- **Undoing a replacement.** If `a` was replaced by a text whose only `a` is its last character and whose first
character does not come again, replacing that text by `a` gives back what was there. -/
theorem replaceAll_replaceChar {b : Char} {u : List Char} (ha : a ≠ b) (hb : b ∉ u) (hu : a ∉ u) (s : List Char) :
    replaceAll (b :: u ++ [a]) [a] (replaceChar a (b :: u ++ [a]) s) = s := by
  induction s with
  | nil => rfl
  | cons c cs ih =>
    by_cases hc : c = a
    · rw [hc, replaceChar_self, replaceAll_of_prefix (by simp), ih, List.singleton_append]
    · have hnot : ¬ b :: u ++ [a] <+: c :: replaceChar a (b :: u ++ [a]) cs := fun h =>
        not_prefix_replaceChar ha hb hu cs (List.cons_prefix_cons.1 h).2
      rw [replaceChar_of_ne hc, replaceAll_of_not_prefix hnot, ih]

/-- a string that no replacement can complete is not in the result if it was not in the text -/
theorem not_infix_replaceChar {b x : Char} {new u s : List Char} (hb : b ∉ u) (hnew : ∀ t, ¬ x :: u <:+: t →
    ¬ x :: u <:+: b :: new ++ t) (h : ¬ x :: u <:+: s) : ¬ x :: u <:+: replaceChar a (b :: new) s := by
  induction s with
  | nil => exact h
  | cons c cs ih =>
    rw [List.infix_cons_iff, not_or] at h
    by_cases hc : c = a
    · rw [hc, replaceChar_self]
      exact hnew _ (ih h.2)
    · rw [replaceChar_of_ne hc, List.infix_cons_iff, not_or]
      refine ⟨fun hp => h.1 ?_, ih h.2⟩
      rw [List.cons_prefix_cons] at hp ⊢
      exact ⟨hp.1, prefix_of_replaceChar hb hp.2⟩

end ReplaceChar

/-! ## Replacing a doubled character by two texts in turn -/

section Toggle

variable (a : Char) (tag : Bool → List Char)

/-- one pass: the occurrences of `a a`, from the left, become `tag o`, `tag (!o)`, `tag o`, … -/
def toggle : Bool → List Char → List Char
  | _, [] => []
  | _, [c] => [c]
  | o, c :: d :: cs => if c = a ∧ d = a then tag o ++ toggle (!o) cs else c :: toggle o (d :: cs)

/-- `str.count` of the doubled character -/
def doubled : List Char → ℕ
  | [] => 0
  | [_] => 0
  | c :: d :: cs => if c = a ∧ d = a then doubled cs + 1 else doubled (d :: cs)

theorem pair_prefix_iff {c d : Char} {cs : List Char} : [a, a] <+: c :: d :: cs ↔ c = a ∧ d = a := by
  simp [List.cons_prefix_cons, eq_comm]

theorem toggle_pair (o : Bool) (cs : List Char) : toggle a tag o (a :: a :: cs) = tag o ++ toggle a tag (!o) cs := by
  rw [toggle, if_pos ⟨rfl, rfl⟩]

theorem doubled_pair (cs : List Char) : doubled a (a :: a :: cs) = doubled a cs + 1 := by
  rw [doubled, if_pos ⟨rfl, rfl⟩]

/-- the pieces `p`, `ps` of a text with `tag o`, `tag (!o)`, … between them -/
def weave : Bool → List Char → List (List Char) → List Char
  | _, p, [] => p
  | o, p, q :: ps => p ++ (tag o ++ weave (!o) q ps)

theorem prefix_weave (o : Bool) (p : List Char) (ps : List (List Char)) : p <+: weave tag o p ps := by
  cases ps with
  | nil => exact List.prefix_rfl
  | cons q ps => exact List.prefix_append p _

variable {a} {tag}

theorem pair_infix_append_iff {l s : List Char} (h : a ∉ l) : [a, a] <:+: l ++ s ↔ [a, a] <:+: s := by
  induction l with
  | nil => rfl
  | cons c l ih =>
    rw [List.mem_cons, not_or] at h
    rw [List.cons_append, List.infix_cons_iff, ih h.2]
    exact or_iff_right fun hp => h.1 (List.cons_prefix_cons.1 hp).1

theorem toggle_cons {c : Char} {cs : List Char} (h : ¬ [a, a] <+: c :: cs) (o : Bool) :
    toggle a tag o (c :: cs) = c :: toggle a tag o cs := by
  cases cs with
  | nil => rfl
  | cons d cs => rw [toggle, if_neg fun hp => h ((pair_prefix_iff a).2 hp)]

theorem doubled_cons {c : Char} {cs : List Char} (h : ¬ [a, a] <+: c :: cs) : doubled a (c :: cs) = doubled a cs := by
  cases cs with
  | nil => rfl
  | cons d cs => rw [doubled, if_neg fun hp => h ((pair_prefix_iff a).2 hp)]

theorem not_prefix_pair {c : Char} (h : c ≠ a) (cs : List Char) : ¬ [a, a] <+: c :: cs := fun hp =>
  h (List.cons_prefix_cons.1 hp).1.symm

/-- the cases of a pass: the end, an occurrence, a character that is kept -/
theorem toggle_induction {P : List Char → Prop} (hnil : P []) (hpair : ∀ cs, P cs → P (a :: a :: cs))
    (hcons : ∀ c cs, ¬ [a, a] <+: c :: cs → P cs → P (c :: cs)) (s : List Char) : P s := by
  induction hn : s.length using Nat.strong_induction_on generalizing s with
  | _ n ih =>
    cases s with
    | nil => exact hnil
    | cons c cs =>
      by_cases hp : [a, a] <+: c :: cs
      · obtain ⟨r, hr⟩ := hp
        rw [← hr]
        refine hpair r (ih r.length ?_ r rfl)
        rw [← hn, ← hr]
        simp
      · exact hcons c cs hp (ih cs.length (by rw [← hn]; simp) cs rfl)

theorem toggle_append {l : List Char} (h : a ∉ l) (o : Bool) (s : List Char) :
    toggle a tag o (l ++ s) = l ++ toggle a tag o s := by
  induction l with
  | nil => rfl
  | cons c l ih =>
    rw [List.mem_cons, not_or] at h
    rw [List.cons_append, toggle_cons (not_prefix_pair (Ne.symm h.1) _), ih h.2, List.cons_append]

/-- nothing to replace, nothing replaced -/
theorem toggle_of_replaceFirst_none {t s : List Char} (h : replaceFirst [a, a] t s = none) (o : Bool) :
    toggle a tag o s = s := by
  induction s with
  | nil => rfl
  | cons c cs ih =>
    unfold replaceFirst at h
    split_ifs at h with hp
    rw [toggle_cons hp, ih (Option.map_eq_none_iff.1 h)]

theorem replaceFirst_head {t s s' : List Char} (h : replaceFirst [a, a] t s = some s') {r : List Char}
    (hr : s' = a :: r) : ∃ cs, s = a :: cs := by
  cases s with
  | nil => simp [replaceFirst] at h
  | cons c cs =>
    unfold replaceFirst at h
    split_ifs at h with hp
    · exact ⟨cs, by rw [(List.cons_prefix_cons.1 hp).1]⟩
    · obtain ⟨t', _, rfl⟩ := Option.map_eq_some_iff.1 h
      exact ⟨cs, by rw [(List.cons.inj hr).1]⟩

/-- **One step of the pass.** Once the first occurrence is replaced, the pass goes on with the other text. -/
theorem toggle_replaceFirst {o : Bool} {s s' : List Char} (ha : a ∉ tag o)
    (h : replaceFirst [a, a] (tag o) s = some s') : toggle a tag (!o) s' = toggle a tag o s := by
  induction s generalizing s' with
  | nil => simp [replaceFirst] at h
  | cons c cs ih =>
    have hrest := h
    unfold replaceFirst at hrest
    split_ifs at hrest with hp
    · obtain ⟨r, hr⟩ := hp
      rw [← hr] at hrest ⊢
      cases hrest
      exact (toggle_append ha (!o) r).trans (toggle_pair a tag o r).symm
    · obtain ⟨t, ht, rfl⟩ := Option.map_eq_some_iff.1 hrest
      -- the character before the inserted text stays alone
      have hnot : ¬ [a, a] <+: c :: t := by
        intro hpair
        obtain ⟨rfl, htail⟩ := List.cons_prefix_cons.1 hpair
        obtain ⟨r, hr⟩ := htail
        obtain ⟨cs', rfl⟩ := replaceFirst_head ht hr.symm
        exact hp (List.prefix_append [a, a] cs')
      rw [toggle_cons hnot, toggle_cons hp, ih ht]

theorem prefix_of_toggle {u s : List Char} {o : Bool} (htag : ∀ o, ∃ b n, tag o = b :: n ∧ b ∉ u)
    (h : u <+: toggle a tag o s) : u <+: s := by
  induction u generalizing s with
  | nil => exact List.nil_prefix
  | cons x u ih =>
    cases s with
    | nil => exact h
    | cons c cs =>
      by_cases hp : [a, a] <+: c :: cs
      · obtain ⟨r, hr⟩ := hp
        obtain ⟨b, n, hn, hb⟩ := htag o
        rw [← hr, List.cons_append, List.cons_append, List.nil_append, toggle_pair, hn, List.cons_append] at h
        exact absurd (List.cons_prefix_cons.1 h).1 fun hx => hb (hx ▸ List.mem_cons_self)
      · rw [toggle_cons hp, List.cons_prefix_cons] at h
        rw [List.cons_prefix_cons]
        refine ⟨h.1, ih (fun o => ?_) h.2⟩
        obtain ⟨b, n, hn, hb⟩ := htag o
        exact ⟨b, n, hn, fun hu => hb (List.mem_cons_of_mem x hu)⟩

/-- **Replacing what a pass has inserted.** A text that was not there before the pass is replaced where the pass has
inserted it, and nowhere else. -/
theorem replaceAll_toggle {tag' : Bool → List Char} {x : Char} {u new s : List Char}
    (hu : ∀ o, ∃ b n, tag o = b :: n ∧ b ∉ u)
    (htag : ∀ o r, replaceAll (x :: u) new (tag o ++ r) = tag' o ++ replaceAll (x :: u) new r) (h : ¬ x :: u <:+: s)
    (o : Bool) : replaceAll (x :: u) new (toggle a tag o s) = toggle a tag' o s := by
  induction s using toggle_induction (a := a) generalizing o with
  | hnil => rfl
  | hpair cs ih =>
    have hcs : ¬ x :: u <:+: cs := fun hin => h (hin.trans (List.suffix_append [a, a] cs).isInfix)
    rw [toggle_pair, toggle_pair, htag, ih hcs]
  | hcons c cs hp ih =>
    rw [List.infix_cons_iff, not_or] at h
    have hnot : ¬ x :: u <+: c :: toggle a tag o cs := by
      intro hpre
      rw [List.cons_prefix_cons] at hpre
      exact h.1 (List.cons_prefix_cons.2 ⟨hpre.1, prefix_of_toggle hu hpre.2⟩)
    rw [toggle_cons hp, toggle_cons hp, replaceAll_of_not_prefix hnot, ih h.2]

/-- no occurrence is left, and none is completed by what the pass inserts -/
theorem not_infix_toggle (ha : ∀ o, a ∉ tag o) (htag : ∀ o, tag o ≠ []) (o : Bool) (s : List Char) :
    ¬ [a, a] <:+: toggle a tag o s := by
  induction s using toggle_induction (a := a) generalizing o with
  | hnil => simp [toggle]
  | hpair cs ih =>
    rw [toggle_pair, pair_infix_append_iff (ha o)]
    exact ih (!o)
  | hcons c cs hp ih =>
    rw [toggle_cons hp, List.infix_cons_iff, not_or]
    refine ⟨fun hpre => ?_, ih o⟩
    obtain ⟨rfl, hrest⟩ := List.cons_prefix_cons.1 hpre
    have hhead : [a] <+: cs := by
      refine prefix_of_toggle (fun o => ?_) hrest
      obtain ⟨b, n, hb⟩ := List.exists_cons_of_ne_nil (htag o)
      refine ⟨b, n, hb, fun hmem => ha o ?_⟩
      rw [hb, ← List.mem_singleton.1 hmem]
      exact List.mem_cons_self
    exact hp (List.cons_prefix_cons.2 ⟨rfl, hhead⟩)

theorem toggle_same (o : Bool) (s : List Char) : toggle a (fun _ => [a, a]) o s = s := by
  induction s using toggle_induction (a := a) generalizing o with
  | hnil => rfl
  | hpair cs ih =>
    rw [toggle_pair, ih]
    rfl
  | hcons c cs hp ih => rw [toggle_cons hp, ih]

/-- **What a pass keeps.** A text is cut at the occurrences, and the pass puts its own texts between the same pieces. -/
theorem exists_weave (s : List Char) :
    ∃ p ps, (∀ q ∈ p :: ps, ¬ [a, a] <:+: q) ∧ ∀ (tag : Bool → List Char) o, toggle a tag o s = weave tag o p ps := by
  induction s using toggle_induction (a := a) with
  | hnil => exact ⟨[], [], by simp, fun tag o => rfl⟩
  | hpair cs ih =>
    obtain ⟨p, ps, hnone, hweave⟩ := ih
    refine ⟨[], p :: ps, ?_, fun tag o => ?_⟩
    · rintro q (_ | ⟨_, hq⟩)
      · simp
      · exact hnone q hq
    · rw [toggle_pair, hweave, weave, List.nil_append]
  | hcons c cs hp ih =>
    obtain ⟨p, ps, hnone, hweave⟩ := ih
    refine ⟨c :: p, ps, ?_, fun tag o => ?_⟩
    · -- a piece that begins with an occurrence would be the beginning of the text
      have hpcs : p <+: cs := by
        rw [← toggle_same (a := a) true cs, hweave]
        exact prefix_weave _ true p ps
      rintro q (_ | ⟨_, hq⟩)
      · rw [List.infix_cons_iff, not_or]
        exact ⟨fun hpre => hp (hpre.trans ((List.prefix_cons_inj c).2 hpcs)), hnone p List.mem_cons_self⟩
      · exact hnone q (List.mem_cons_of_mem p hq)
    · rw [toggle_cons hp, hweave]
      cases ps <;> rfl

end Toggle

end Newsletter.Core
