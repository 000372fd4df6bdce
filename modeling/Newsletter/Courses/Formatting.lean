/-
The formatting of a newsletter (`app/course/route.py`, lines 667-668, 693-700 and 861-863).

Both tasks store `convert_bold_to_html(content.replace('\n', '<br>\n').strip())`. The loop of `convert_bold_to_html` searches
the whole rewritten text twice a round; it does the same as one pass that replaces the occurrences of `**` by `<b>` and
`</b>` in turn (`convertBoldToHtml_eq_toggle`), and the other results are about that pass.

- `bold_loop_is_one_pass`: the loop ends, with what that pass gives, for every text;
- `formatting_loses_nothing`: the content can be read back from the stored body;
- `bold_closed_iff`: every bold span is closed exactly if the number of `**` in the text is even.
-/
import Newsletter.Courses.Generation

namespace Newsletter.Courses

open Newsletter.Core

/-! ## The loop as one pass -/

/-- what the loop inserts -/
def boldTag : Bool → List Char
  | true => ['<', 'b', '>']
  | false => ['<', '/', 'b', '>']

/-- what stands for a newline in a body -/
def lineBreak : List Char := ['<', 'b', 'r', '>', '\n']

theorem toList_open : "<b>".toList = boldTag true := by simp [boldTag]

theorem toList_close : "</b>".toList = boldTag false := by simp [boldTag]

theorem toList_lineBreak : "<br>\n".toList = lineBreak := by simp [lineBreak]

theorem star_not_mem_boldTag (o : Bool) : '*' ∉ boldTag o := by
  cases o <;> decide

theorem convertBoldToHtml_eq_toggle (s : List Char) : convertBoldToHtml s = toggle '*' boldTag true s := by
  fun_induction convertBoldToHtml s with
  | case1 content h => exact (toggle_of_replaceFirst_none h true).symm
  | case2 content opened hopen ih =>
    rw [toList_open] at hopen
    rw [toList_close] at ih ⊢
    have hfirst : toggle '*' boldTag false opened = toggle '*' boldTag true content :=
      toggle_replaceFirst (star_not_mem_boldTag true) hopen
    rw [ih, ← hfirst]
    cases hclose : replaceFirst stars (boldTag false) opened with
    | some closed => exact toggle_replaceFirst (star_not_mem_boldTag false) hclose
    | none =>
      -- an unmatched marker was the last one
      rw [Option.getD_none, toggle_of_replaceFirst_none hclose, toggle_of_replaceFirst_none hclose]

/-- one round of the loop -/
def boldRound (content : List Char) : List Char :=
  let opened := (replaceFirst stars "<b>".toList content).getD content
  (replaceFirst stars "</b>".toList opened).getD opened

/-- the loop ends: after some number of rounds its test fails for the first time, and the text is the result -/
theorem convertBoldToHtml_rounds (s : List Char) :
    ∃ n, (∀ m < n, stars <:+: boldRound^[m] s) ∧ ¬ stars <:+: boldRound^[n] s ∧ boldRound^[n] s = convertBoldToHtml s := by
  have hstars : stars ≠ [] := by simp [stars]
  fun_induction convertBoldToHtml s with
  | case1 content h => exact ⟨0, by simp, (replaceFirst_eq_none_iff hstars).1 h, rfl⟩
  | case2 content opened hopen ih =>
    have hround : boldRound content = (replaceFirst stars "</b>".toList opened).getD opened := by
      rw [boldRound, hopen]
      rfl
    have hin : stars <:+: content := by
      by_contra hnot
      rw [(replaceFirst_eq_none_iff hstars).2 hnot] at hopen
      cases hopen
    obtain ⟨n, hbefore, hafter, hresult⟩ := ih
    rw [← hround] at hbefore hafter
    refine ⟨n + 1, fun m hm => ?_, hafter, ?_⟩
    · cases m with
      | zero => exact hin
      | succ m => exact hbefore m (by omega)
    · rw [Function.iterate_succ_apply, hround]
      exact hresult

/-- **The loop is one pass.** For every text the loop ends, with what one pass from the left makes of it that puts `<b>` and
`</b>` in turn for the occurrences of `**`. So no `**` is left, and the text between the occurrences is kept in order. -/
theorem bold_loop_is_one_pass (s : List Char) :
    (∃ n, (∀ m < n, stars <:+: boldRound^[m] s) ∧ ¬ stars <:+: boldRound^[n] s ∧ boldRound^[n] s = convertBoldToHtml s) ∧
      convertBoldToHtml s = toggle '*' boldTag true s ∧ ¬ stars <:+: convertBoldToHtml s ∧
      ∃ p ps, (∀ q ∈ p :: ps, ¬ stars <:+: q) ∧ s = weave (fun _ => stars) true p ps ∧
        convertBoldToHtml s = weave boldTag true p ps := by
  refine ⟨convertBoldToHtml_rounds s, convertBoldToHtml_eq_toggle s, ?_, ?_⟩
  · rw [convertBoldToHtml_eq_toggle]
    exact not_infix_toggle star_not_mem_boldTag (fun o => by cases o <;> simp [boldTag]) true s
  · obtain ⟨p, ps, hnone, hweave⟩ := exists_weave (a := '*') s
    refine ⟨p, ps, hnone, ?_, ?_⟩
    · rw [← toggle_same (a := '*') true s, hweave]
      rfl
    · rw [convertBoldToHtml_eq_toggle, hweave]

/-! ## Reading a body back -/

/-- every `<b>` and every `</b>` replaced by `**`, and then every `<br>` before a newline removed -/
def unformat (body : String) : String :=
  String.ofList (replaceAll lineBreak ['\n']
    (replaceAll (boldTag false) stars (replaceAll (boldTag true) stars body.toList)))

/-- no `<b>` and no `</b>` -/
def Untagged (s : List Char) : Prop := ∀ o, ¬ boldTag o <:+: s

theorem unbold_toggle {s : List Char} (h : Untagged s) :
    replaceAll (boldTag false) stars (replaceAll (boldTag true) stars (toggle '*' boldTag true s)) = s := by
  -- the opening tags first: then the pass has inserted `**` and `</b>` in turn
  have hopen : replaceAll (boldTag true) stars (toggle '*' boldTag true s) =
      toggle '*' (fun o => if o then stars else boldTag false) true s := by
    refine replaceAll_toggle (fun o => ?_) (fun o r => ?_) (h true) true
    · cases o
      · exact ⟨'<', _, rfl, by decide⟩
      · exact ⟨'<', _, rfl, by decide⟩
    · cases o
      · simp [boldTag, replaceAll_of_not_prefix, List.cons_prefix_cons]
      · exact replaceAll_of_prefix (by simp) r
  have hclose : replaceAll (boldTag false) stars (toggle '*' (fun o => if o then stars else boldTag false) true s) =
      toggle '*' (fun _ => stars) true s := by
    refine replaceAll_toggle (fun o => ?_) (fun o r => ?_) (h false) true
    · cases o
      · exact ⟨'<', _, rfl, by decide⟩
      · exact ⟨'*', _, rfl, by decide⟩
    · cases o
      · exact replaceAll_of_prefix (by simp) r
      · simp [stars, replaceAll_of_not_prefix, List.cons_prefix_cons]
  rw [hopen, hclose]
  exact toggle_same true s

theorem untagged_replaceChar {s : List Char} (h : Untagged s) : Untagged (replaceChar '\n' lineBreak s) := by
  intro o
  cases o
  · refine not_infix_replaceChar (by decide) (fun t ht => ?_) (h false)
    simpa [List.infix_cons_iff, List.cons_prefix_cons, boldTag] using ht
  · refine not_infix_replaceChar (by decide) (fun t ht => ?_) (h true)
    simpa [List.infix_cons_iff, List.cons_prefix_cons] using ht

theorem strip_replaceChar {s : List Char} (h : strip s = s) :
    strip (replaceChar '\n' lineBreak s) = replaceChar '\n' lineBreak s := by
  rw [strip_eq_self_iff] at h ⊢
  have hnewline : isSpace '\n' = true := by decide
  constructor
  · cases s with
    | nil => simp [replaceChar]
    | cons c cs =>
      have hc : isSpace c = false := h.1 c rfl
      have hne : c ≠ '\n' := by
        rintro rfl
        rw [hnewline] at hc
        cases hc
      rw [replaceChar_of_ne hne]
      exact h.1
  · cases hlast : s.getLast? with
    | none =>
      rw [List.getLast?_eq_none_iff.1 hlast]
      simp [replaceChar]
    | some c =>
      obtain ⟨cs, rfl⟩ := List.getLast?_eq_some_iff.1 hlast
      have hc : isSpace c = false := h.2 c hlast
      have hne : c ≠ '\n' := by
        rintro rfl
        rw [hnewline] at hc
        cases hc
      simp [replaceChar, hne, hc]

theorem unformat_formatBody {c : String} (hstrip : strip c.toList = c.toList) (htags : Untagged c.toList) :
    unformat (formatBody c) = c := by
  have hbr : replaceAll lineBreak ['\n'] (replaceChar '\n' lineBreak c.toList) = c.toList :=
    replaceAll_replaceChar (b := '<') (u := ['b', 'r', '>']) (by decide) (by decide) (by decide) c.toList
  rw [unformat, formatBody, toList_lineBreak, String.toList_ofList, convertBoldToHtml_eq_toggle, strip_replaceChar hstrip,
    unbold_toggle (untagged_replaceChar htags), hbr, String.ofList_toList]

/-- **Formatting loses no text.** A content without whitespace at its ends and without bold tags of its own can be read back
from the body that is stored for it; so different contents have different bodies. -/
theorem formatting_loses_nothing :
    (∀ c : String, strip c.toList = c.toList → Untagged c.toList → unformat (formatBody c) = c) ∧
      ∀ c c' : String, strip c.toList = c.toList → Untagged c.toList → strip c'.toList = c'.toList → Untagged c'.toList →
        formatBody c = formatBody c' → c = c' := by
  refine ⟨fun c hstrip htags => unformat_formatBody hstrip htags, fun c c' hstrip htags hstrip' htags' h => ?_⟩
  rw [← unformat_formatBody hstrip htags, h, unformat_formatBody hstrip' htags']

theorem formatting_loses_nothing_news :
    let c := "**News** of the *day*\n2 * 3 < 7, b> and ***"
    formatBody c = "<b>News</b> of the *day*<br>\n2 * 3 < 7, b> and <b>*" ∧ unformat (formatBody c) = c := by
  have hstrip : strip "**News** of the *day*\n2 * 3 < 7, b> and ***".toList =
      "**News** of the *day*\n2 * 3 < 7, b> and ***".toList := by
    decide +kernel
  have htags : Untagged "**News** of the *day*\n2 * 3 < 7, b> and ***".toList := by
    intro o
    cases o <;> decide +kernel
  refine ⟨?_, formatting_loses_nothing.1 _ hstrip htags⟩
  rw [formatBody, convertBoldToHtml_eq_toggle]
  decide +kernel

/-! ## Bold spans -/

/-- the occurrences of `<b>` (`true`) and `</b>` (`false`), in order -/
def boldTags : List Char → List Bool
  | [] => []
  | c :: cs =>
    if boldTag true <+: c :: cs then true :: boldTags cs
    else if boldTag false <+: c :: cs then false :: boldTags cs
    else boldTags cs

/-- the tags alternate, starting with `<b>` and ending with `</b>` -/
structure BoldClosed (tags : List Bool) : Prop where
  alternate : tags.IsChain (· ≠ ·)
  opens : ∀ t ∈ tags.head?, t = true
  closes : ∀ t ∈ tags.getLast?, t = false

/-- `o`, `!o`, `o`, … -/
def alternating : Bool → ℕ → List Bool
  | _, 0 => []
  | o, n + 1 => o :: alternating (!o) n

theorem boldTags_tag (o : Bool) (s : List Char) : boldTags (boldTag o ++ s) = o :: boldTags s := by
  cases o <;> simp [boldTags, boldTag, List.cons_prefix_cons]

theorem boldTags_cons {c : Char} {cs : List Char} (h : ∀ o, ¬ boldTag o <+: c :: cs) :
    boldTags (c :: cs) = boldTags cs := by
  rw [boldTags, if_neg (h true), if_neg (h false)]

/-- the pass inserts the tags in turn, one for each `**`, and completes no other -/
theorem boldTags_toggle {s : List Char} (h : Untagged s) (o : Bool) :
    boldTags (toggle '*' boldTag o s) = alternating o (doubled '*' s) := by
  induction s using toggle_induction (a := '*') generalizing o with
  | hnil => rfl
  | hpair cs ih =>
    have hcs : Untagged cs := fun t hin => h t (hin.trans (List.suffix_append ['*', '*'] cs).isInfix)
    rw [toggle_pair, doubled_pair, boldTags_tag, ih hcs, alternating]
  | hcons c cs hp ih =>
    have hcs : Untagged cs := fun t hin => h t (hin.trans (List.suffix_cons c cs).isInfix)
    have hnot : ∀ t, ¬ boldTag t <+: c :: toggle '*' boldTag o cs := by
      intro t hpre
      have hhead : ∃ u, boldTag t = '<' :: u ∧ '<' ∉ u := by
        cases t
        · exact ⟨_, rfl, by decide⟩
        · exact ⟨_, rfl, by decide⟩
      obtain ⟨u, hu, hb⟩ := hhead
      rw [hu, List.cons_prefix_cons] at hpre
      refine h t (List.IsPrefix.isInfix ?_)
      rw [hu, List.cons_prefix_cons]
      refine ⟨hpre.1, prefix_of_toggle (fun o => ?_) hpre.2⟩
      cases o
      · exact ⟨'<', _, rfl, hb⟩
      · exact ⟨'<', _, rfl, hb⟩
    rw [toggle_cons hp, doubled_cons hp, boldTags_cons hnot, ih hcs]

theorem alternating_getLast? (o : Bool) (n : ℕ) :
    (alternating o (n + 1)).getLast? = some (if Even n then o else !o) := by
  induction n generalizing o with
  | zero => simp [alternating]
  | succ n ih =>
    rw [alternating, alternating, List.getLast?_cons_cons, ← alternating, ih]
    by_cases hn : Even n <;> simp [hn, Nat.even_add_one]

theorem isChain_alternating (o : Bool) (n : ℕ) : (alternating o n).IsChain (· ≠ ·) := by
  induction n generalizing o with
  | zero => exact List.isChain_nil
  | succ n ih =>
    cases n with
    | zero => exact List.isChain_singleton _
    | succ n => exact List.isChain_cons_cons.2 ⟨by simp, ih (!o)⟩

theorem boldClosed_alternating_iff (n : ℕ) : BoldClosed (alternating true n) ↔ Even n := by
  cases n with
  | zero => exact ⟨fun _ => Even.zero, fun _ => ⟨List.isChain_nil, by simp [alternating], by simp [alternating]⟩⟩
  | succ n =>
    have hlast := alternating_getLast? true n
    constructor
    · intro h
      have hfalse := h.closes _ hlast
      by_cases hn : Even n
      · simp [hn] at hfalse
      · exact Nat.even_add_one.2 hn
    · intro h
      have hn : ¬ Even n := Nat.even_add_one.1 h
      refine ⟨isChain_alternating true (n + 1), by simp [alternating], fun t ht => ?_⟩
      rw [hlast, if_neg hn] at ht
      exact (Option.some.inj ht).symm

/-- **Closed bold spans.** In the result for a text without tags, `<b>` and `</b>` alternate and every `<b>` is closed
exactly if the text has an even number of `**`, counted from the left without overlap. -/
theorem bold_closed_iff (s : List Char) (h : Untagged s) :
    BoldClosed (boldTags (convertBoldToHtml s)) ↔ Even (doubled '*' s) := by
  rw [convertBoldToHtml_eq_toggle, boldTags_toggle h, boldClosed_alternating_iff]

theorem bold_closed_iff_two_spans :
    Untagged "**a** and **b**".toList ∧
      (BoldClosed (boldTags (convertBoldToHtml "**a** and **b**".toList)) ↔ Even (doubled '*' "**a** and **b**".toList)) := by
  have h : Untagged "**a** and **b**".toList := by
    intro o
    cases o <;> decide +kernel
  exact ⟨h, bold_closed_iff _ h⟩

/-- a text cut off inside its second bold span: the last `<b>` stays open -/
theorem bold_left_open :
    Untagged "**News** and **more".toList ∧
      convertBoldToHtml "**News** and **more".toList = "<b>News</b> and <b>more".toList ∧
      boldTags (convertBoldToHtml "**News** and **more".toList) = [true, false, true] ∧
      ¬ BoldClosed (boldTags (convertBoldToHtml "**News** and **more".toList)) := by
  have hresult : convertBoldToHtml "**News** and **more".toList = "<b>News</b> and <b>more".toList := by
    rw [convertBoldToHtml_eq_toggle]
    decide +kernel
  have htags : boldTags (convertBoldToHtml "**News** and **more".toList) = [true, false, true] := by
    rw [hresult]
    decide +kernel
  refine ⟨fun o => by cases o <;> decide +kernel, hresult, htags, fun h => ?_⟩
  rw [htags] at h
  exact absurd (h.closes true rfl) (by decide)

end Newsletter.Courses
