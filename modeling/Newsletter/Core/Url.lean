/-
Paths and routing rules, as a web framework matches them.

A path is split at its slashes. A rule is a list of parts, each a fixed text, a variable for one non-empty segment (`text`) or a
variable for a decimal number (`int`); after them a rule may take everything that is left (`tail`). `routes` gives the endpoints
of all the rules that match a path, with the values of their variables, so that a result about it does not depend on how a
framework orders its rules.

The links of an application are texts in which numbers are filled in: a list of slots, literal or number. Whether a rule can
match a link does not depend on the numbers: `clash` decides it from the shape, a rule that clashes never matches
(`matchAll_of_clash`), and so the rules that are left after a computation are the only candidates for every number
(`routes_of_filter`).
-/
import Mathlib.Tactic

namespace Newsletter.Core.Url

/-- a part of a rule -/
inductive Part where
  | fixed (s : String)
  | text
  | int
deriving DecidableEq, Repr

/-- the value of a variable -/
inductive Arg where
  | text (s : List Char)
  | int (n : ℕ)
deriving DecidableEq, Repr

structure Rule (ε : Type) where
  parts : List Part
  endpoint : ε
  /-- one or more segments follow -/
  tail : Bool := false

/-- the texts between the slashes -/
def segments (path : String) : List (List Char) := path.toList.splitOn '/'

def join (segs : List (List Char)) : List Char := ['/'].intercalate segs

/-- one segment against one part: the values it gives, if it matches -/
def Part.takes (p : Part) (seg : List Char) : Option (List Arg) :=
  match p with
  | .fixed s => if seg = s.toList then some [] else none
  | .text => if seg = [] then none else some [.text seg]
  | .int => if seg ≠ [] ∧ seg.all Char.isDigit then some [.int (Nat.ofDigitChars 10 seg 0)] else none

/-- a list of parts against the segments of a path -/
def matchAll (tail : Bool) : List Part → List (List Char) → Option (List Arg)
  | [], [] => if tail then none else some []
  | [], seg :: segs => if tail then some [.text (join (seg :: segs))] else none
  | _ :: _, [] => none
  | p :: ps, seg :: segs =>
    match p.takes seg, matchAll tail ps segs with
    | some a, some as => some (a ++ as)
    | _, _ => none

/-- the endpoints of the rules that match -/
def routes {ε : Type} (rules : List (Rule ε)) (path : String) : List (ε × List Arg) :=
  rules.filterMap fun r => (matchAll r.tail r.parts (segments path)).map fun as => (r.endpoint, as)

/-! ## Links -/

/-- a segment of a link -/
inductive Slot where
  | lit (s : String)
  | num (n : ℕ)
deriving DecidableEq, Repr

def Slot.seg : Slot → List Char
  | .lit s => s.toList
  | .num n => Nat.toDigits 10 n

/-- the text has a character that is not a digit -/
def wordy (s : String) : Bool := !s.toList.all Char.isDigit

/-- the part matches no text of the slot, whatever the number is -/
def Part.clash : Part → Slot → Bool
  | .fixed s, .lit t => s ≠ t
  | .fixed s, .num _ => wordy s
  | .int, .lit t => wordy t
  | _, _ => false

/-- the parts match no text of the slots -/
def clash (tail : Bool) : List Part → List Slot → Bool
  | [], [] => tail
  | [], _ :: _ => !tail
  | _ :: _, [] => true
  | p :: ps, s :: ss => p.clash s || clash tail ps ss

theorem takes_of_clash {p : Part} {s : Slot} (h : p.clash s = true) : p.takes s.seg = none := by
  cases p with
  | text => cases s <;> cases h
  | fixed t =>
    refine if_neg fun heq => ?_
    cases s with
    | lit u =>
      have hne : t ≠ u := by simpa [Part.clash] using h
      exact hne (String.toList_inj.1 heq.symm)
    | num n =>
      have hword : ¬ ∀ c ∈ t.toList, c.isDigit = true := by simpa [Part.clash, wordy] using h
      refine hword fun c hc => Nat.isDigit_of_mem_toDigits (by norm_num) le_rfl (n := n) ?_
      rw [← heq] at hc
      exact hc
  | int =>
    cases s with
    | num n => cases h
    | lit u =>
      refine if_neg fun hall => ?_
      have hword : u.toList.all Char.isDigit = false := by simpa [Part.clash, wordy] using h
      rw [Slot.seg, hword] at hall
      exact absurd hall.2 (by decide)

/-- a rule that clashes with the shape of a link does not match it -/
theorem matchAll_of_clash {tail : Bool} {ps : List Part} {ss : List Slot} (h : clash tail ps ss = true) :
    matchAll tail ps (ss.map Slot.seg) = none := by
  induction ps generalizing ss with
  | nil =>
    cases ss with
    | nil => exact if_pos h
    | cons s ss => exact if_neg (by simpa [clash] using h)
  | cons p ps ih =>
    cases ss with
    | nil => rfl
    | cons s ss =>
      rw [List.map_cons, matchAll]
      rcases Bool.or_eq_true_iff.1 h with hp | hps
      · rw [takes_of_clash hp]
      · rw [ih hps]
        cases p.takes s.seg <;> rfl

/-- a link: its slots, none of which has a slash -/
def IsLink (path : String) (ss : List Slot) : Prop :=
  path.toList = join (ss.map Slot.seg) ∧ ss ≠ [] ∧ ∀ s ∈ ss, '/' ∉ s.seg

theorem segments_of_isLink {path : String} {ss : List Slot} (h : IsLink path ss) : segments path = ss.map Slot.seg := by
  obtain ⟨hpath, hne, hslash⟩ := h
  rw [segments, hpath, join]
  refine List.splitOn_intercalate '/' (fun l hl => ?_) (by simpa using hne)
  obtain ⟨s, hs, rfl⟩ := List.mem_map.1 hl
  exact hslash s hs

/-- the path with the numbers filled in -/
def fill (ss : List Slot) : String := String.ofList (join (ss.map Slot.seg))

theorem slash_not_mem_num (n : ℕ) : '/' ∉ (Slot.num n).seg :=
  fun h => absurd (Nat.isDigit_of_mem_toDigits (by norm_num) le_rfl h) (by decide)

theorem isLink_fill {ss : List Slot} (hne : ss ≠ []) (hlit : ∀ s, .lit s ∈ ss → '/' ∉ s.toList) : IsLink (fill ss) ss := by
  refine ⟨by simp [fill], hne, fun s hs => ?_⟩
  cases s with
  | lit t => exact hlit t hs
  | num n => exact slash_not_mem_num n

/-- **Routing of a link.** Only the rules that do not clash with its shape can match. -/
theorem routes_of_filter {ε : Type} {rules kept : List (Rule ε)} {path : String} {ss : List Slot} (h : IsLink path ss)
    (hkept : rules.filter (fun r => !clash r.tail r.parts ss) = kept) :
    routes rules path = kept.filterMap fun r => (matchAll r.tail r.parts (ss.map Slot.seg)).map fun as => (r.endpoint, as) := by
  subst hkept
  rw [routes, segments_of_isLink h, List.filterMap_filter]
  refine List.filterMap_congr fun r _ => ?_
  cases hc : clash r.tail r.parts ss with
  | false => rfl
  | true => rw [matchAll_of_clash hc]; rfl

/-- a path with one candidate left, which matches -/
theorem routes_of_single {ε : Type} {rules : List (Rule ε)} {r : Rule ε} {path : String} {ss : List Slot} {as : List Arg}
    (h : IsLink path ss) (hkept : rules.filter (fun r => !clash r.tail r.parts ss) = [r])
    (hmatch : matchAll r.tail r.parts (ss.map Slot.seg) = some as) : routes rules path = [(r.endpoint, as)] := by
  rw [routes_of_filter h hkept]
  simp [hmatch]

@[simp] theorem takes_fixed_lit (s : String) : (Part.fixed s).takes (Slot.lit s).seg = some [] := if_pos rfl

/-- a number fits a number variable and is read back -/
@[simp] theorem takes_int_num (n : ℕ) : Part.int.takes (Slot.num n).seg = some [.int n] := by
  have hdigits : (Nat.toDigits 10 n).all Char.isDigit = true :=
    List.all_eq_true.2 fun c hc => Nat.isDigit_of_mem_toDigits (by norm_num) le_rfl hc
  rw [Part.takes, Slot.seg, if_pos ⟨Nat.toDigits_ne_nil, hdigits⟩, Nat.ofDigitChars_toDigits (by norm_num) le_rfl]

@[simp] theorem takes_text_num (n : ℕ) : Part.text.takes (Slot.num n).seg = some [.text (Nat.toDigits 10 n)] := by
  rw [Part.takes, Slot.seg, if_neg Nat.toDigits_ne_nil]

end Newsletter.Core.Url
