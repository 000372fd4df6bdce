/-
The retry helper `generate_response`, in its two versions (`app/course/route.py`, lines 702-740, and `app/course/tasks.py`,
lines 168-210), with the POSTs it makes.

Both send the same request up to `max_retries` times and differ in what ends the loop. The version of `tasks.py` goes on
after a rate limit, a time-out and any other exception. The version of `route.py` goes on after a time-out only: after a 429
it calls `time.sleep`, and the module does not import `time`.

- `response_val`: the value of a run is the `generateResponse` of `Newsletter.Courses.Generation`;
- `retry_law_iff`: the helper obeys the retry law, and agrees with its copy, exactly if the first outcome that is not a
  time-out is not a 429.
-/
import Newsletter.Courses.Generation

namespace Newsletter.Courses

open Newsletter.Core

/-! ## The two helpers -/

/-- the POST: the payload and the `Authorization` header -/
structure Completion where
  model : String
  messages : List ChatMessage
  maxTokens : ℕ
  temperature : ℚ
  authorization : String
deriving DecidableEq, Repr

/-- the stripped content of a 200, if it has one -/
def responseText (text : String) : String :=
  if strip text.toList = [] then contentError else String.ofList (strip text.toList)

/-- how an outcome ends the loop of `route.py`, if it does -/
def routeVerdict : Attempt → Option (Except Exn String)
  | .answered text => some (.ok (responseText text))
  -- `time.sleep`, with no `import time`
  | .rateLimited => some (.error .nameError)
  | .refused _ => some (.ok contentError)
  | .timeout => none
  | .raises e => some (.error e)

/-- how an outcome ends the loop of `tasks.py`, if it does -/
def tasksVerdict : Attempt → Option (Except Exn String)
  | .answered text => some (.ok (responseText text))
  | .refused _ => some (.ok contentError)
  | .rateLimited | .timeout | .raises _ => none

abbrev ApiProg := Prog Unit Completion Attempt Exn

/-- `generate_response` of `route.py` -/
def routeResponse (conversation : List ChatMessage) (authorization : String) (maxTokens maxRetries : ℕ) : ApiProg String :=
  Prog.retry routeVerdict ⟨"gpt-4", conversation, maxTokens, 1, authorization⟩ retriesExceeded maxRetries

/-- `generate_response` of `tasks.py` -/
def tasksResponse (conversation : List ChatMessage) (authorization : String) (maxTokens maxRetries : ℕ) : ApiProg String :=
  Prog.retry tasksVerdict ⟨"gpt-4", conversation, maxTokens, 7 / 10, authorization⟩ retriesExceeded maxRetries

/-! ## The first outcome that counts -/

/-- the first of the first `n` outcomes that satisfies `p` -/
def firstOutcome (p : Attempt → Bool) (api : ℕ → Attempt) (n : ℕ) : Option Attempt := ((List.range n).map api).find? p

theorem firstOutcome_some {p : Attempt → Bool} {api : ℕ → Attempt} {n : ℕ} {o : Attempt}
    (h : firstOutcome p api n = some o) : p o = true ∧ ∃ i, api i = o := by
  obtain ⟨i, _, hi⟩ := List.mem_map.1 (List.mem_of_find?_eq_some h)
  exact ⟨List.find?_some h, i, hi⟩

theorem findSome?_verdict {verdict : Attempt → Option (Except Exn String)} {p : Attempt → Bool} {api : ℕ → Attempt}
    (h : ∀ j, p (api j) = (verdict (api j)).isSome) (l : List ℕ) :
    l.findSome? (fun j => verdict (api j)) = ((l.map api).find? p).bind verdict := by
  induction l with
  | nil => rfl
  | cons j l ih =>
    rw [List.findSome?_cons, List.map_cons, List.find?_cons, h]
    cases hv : verdict (api j) with
    | none => exact ih
    | some result => exact hv.symm

/-- the outcome is not a time-out -/
def answers (o : Attempt) : Bool := o ≠ .timeout

theorem answers_eq_isSome (o : Attempt) : answers o = (routeVerdict o).isSome := by
  cases o <;> rfl

theorem routeResponse_val (conversation : List ChatMessage) (authorization : String) (maxTokens n : ℕ)
    (api : ℕ → Attempt) :
    (Prog.exec api (routeResponse conversation authorization maxTokens n) 0 ()).val =
      ((firstOutcome answers api n).bind routeVerdict).getD (.ok retriesExceeded) := by
  rw [routeResponse, Prog.exec_retry_val, findSome?_verdict (p := answers) fun j => answers_eq_isSome (api j),
    ← List.range_eq_range', firstOutcome]

/-- of the outcomes that are not time-outs, a run sees the first one only -/
theorem mem_routeResponse_calls_iff (conversation : List ChatMessage) (authorization : String) (maxTokens n : ℕ)
    (api : ℕ → Attempt) {o : Attempt} (h : answers o = true) :
    (∃ c ∈ (Prog.exec api (routeResponse conversation authorization maxTokens n) 0 ()).calls, c.ans = o) ↔
      firstOutcome answers api n = some o := by
  rw [answers_eq_isSome] at h
  rw [routeResponse, Prog.mem_exec_retry_calls_iff h, ← List.range_eq_range', firstOutcome, ← funext answers_eq_isSome]

/-- the value of a run that makes its POSTs is the one of the loop over the outcomes -/
theorem response_val (conversation : List ChatMessage) (authorization : String) (maxTokens n : ℕ) (api : ℕ → Attempt) :
    (Prog.exec api (routeResponse conversation authorization maxTokens n) 0 ()).val = generateResponse api n := by
  have hloop : ∀ i, (Prog.exec api (routeResponse conversation authorization maxTokens n) i ()).val =
      attemptLoop api n i := by
    induction n with
    | zero => exact fun _ => rfl
    | succ n ih =>
      intro i
      unfold attemptLoop
      cases ho : api i with
      | timeout =>
        rw [routeResponse, Prog.exec_retry_none (by rw [ho]; rfl)]
        exact ih (i + 1)
      | answered text =>
        rw [routeResponse, Prog.exec_retry_some (by rw [ho]; rfl)]
        simp only [responseText]
        split_ifs <;> rfl
      | rateLimited | refused | raises => rw [routeResponse, Prog.exec_retry_some (by rw [ho]; rfl)]
  exact hloop 0

/-- the value of the helper is decided by its first outcome that is not a time-out -/
theorem generateResponse_eq (api : ℕ → Attempt) (n : ℕ) :
    generateResponse api n = ((firstOutcome answers api n).bind routeVerdict).getD (.ok retriesExceeded) := by
  rw [← response_val [] "" 0, routeResponse_val]

/-! ## The retry law -/

/-- neither a rate limit nor a time-out -/
def decides (o : Attempt) : Bool := o ≠ .rateLimited ∧ o ≠ .timeout

/-- what the helper is to return: the content of the first outcome that decides, or one of the two error texts -/
def lawfulText : Option Attempt → String
  | none => retriesExceeded
  | some (.answered text) => responseText text
  | some _ => contentError

/-- the law for the outcomes `api`: `ran` is a run of the helper, and `copy` one of its copy -/
structure RetryLaw (api : ℕ → Attempt) (n : ℕ) (ran copy : Ran Unit Completion Attempt Exn String) : Prop where
  returns : ran.val = .ok (lawfulText (firstOutcome decides api n))
  exhausts : firstOutcome decides api n = none → ran.calls.length = n
  agrees : ran.val = copy.val

/-- the outcome is a response or a time-out -/
def Attempt.Regular : Attempt → Prop
  | .raises _ => False
  | _ => True

theorem verdict_of_decides {o : Attempt} (h : decides o = true) (hregular : o.Regular) :
    routeVerdict o = some (.ok (lawfulText (some o))) ∧ tasksVerdict o = some (.ok (lawfulText (some o))) := by
  cases o with
  | answered | refused => exact ⟨rfl, rfl⟩
  | rateLimited | timeout => exact absurd h (by decide)
  | raises e => exact absurd hregular id

theorem tasksResponse_val (conversation : List ChatMessage) (authorization : String) (maxTokens n : ℕ)
    {api : ℕ → Attempt} (hapi : ∀ i, (api i).Regular) :
    (Prog.exec api (tasksResponse conversation authorization maxTokens n) 0 ()).val =
      .ok (lawfulText (firstOutcome decides api n)) := by
  have hsome : ∀ j, decides (api j) = (tasksVerdict (api j)).isSome := by
    intro j
    have hj := hapi j
    cases ho : api j with
    | raises e => rw [ho] at hj; exact absurd hj id
    | answered | rateLimited | refused | timeout => rfl
  rw [tasksResponse, Prog.exec_retry_val, findSome?_verdict hsome, ← List.range_eq_range', ← firstOutcome]
  cases hfirst : firstOutcome decides api n with
  | none => rfl
  | some o =>
    obtain ⟨hdecides, i, rfl⟩ := firstOutcome_some hfirst
    rw [Option.bind_some, (verdict_of_decides hdecides (hapi i)).2, Option.getD_some]

/-- a first outcome that is neither a time-out nor a rate limit is the first that decides -/
theorem firstOutcome_decides {api : ℕ → Attempt} {n : ℕ} (h : firstOutcome answers api n ≠ some .rateLimited) :
    firstOutcome decides api n = firstOutcome answers api n := by
  unfold firstOutcome at h ⊢
  generalize (List.range n).map api = l at h ⊢
  induction l with
  | nil => rfl
  | cons o l ih =>
    rw [List.find?_cons] at h ⊢
    rw [List.find?_cons]
    cases o with
    | rateLimited => exact absurd rfl h
    | timeout => exact ih h
    | answered | refused | raises => rfl

/-- **The retry law.** For any bound and any outcomes, the helper obeys the law exactly if the first of them that is not a
time-out, if there is one within the bound, is not a rate limit. -/
theorem retry_law_iff (conversation : List ChatMessage) (authorization : String) (maxTokens n : ℕ) (api : ℕ → Attempt)
    (hapi : ∀ i, (api i).Regular) :
    RetryLaw api n (Prog.exec api (routeResponse conversation authorization maxTokens n) 0 ())
        (Prog.exec api (tasksResponse conversation authorization maxTokens n) 0 ()) ↔
      firstOutcome answers api n ≠ some .rateLimited := by
  constructor
  · intro h hlimit
    have hval := h.returns
    rw [routeResponse_val, hlimit] at hval
    cases hval
  · intro h
    have hsame := firstOutcome_decides h
    have hreturns : (Prog.exec api (routeResponse conversation authorization maxTokens n) 0 ()).val =
        .ok (lawfulText (firstOutcome decides api n)) := by
      rw [routeResponse_val, ← hsame]
      cases hfirst : firstOutcome decides api n with
      | none => rfl
      | some o =>
        obtain ⟨hdecides, i, rfl⟩ := firstOutcome_some hfirst
        rw [Option.bind_some, (verdict_of_decides hdecides (hapi i)).1, Option.getD_some]
    refine ⟨hreturns, fun hnone => ?_, ?_⟩
    · -- nothing but time-outs: every round makes its POST
      rw [hsame] at hnone
      have hall : ∀ j ∈ List.range' 0 n, routeVerdict (api j) = none := by
        intro j hj
        have hj' : api j ∈ (List.range n).map api := List.mem_map_of_mem (by rwa [List.range_eq_range'])
        have htimeout := List.find?_eq_none.1 hnone _ hj'
        cases ho : api j with
        | timeout => rfl
        | answered | rateLimited | refused | raises => rw [ho] at htimeout; exact absurd rfl htimeout
      rw [routeResponse, Prog.exec_retry_calls hall, List.length_map, List.length_range']
    · rw [hreturns, tasksResponse_val _ _ _ _ hapi]

/-- a time-out and then a content -/
theorem retry_law_iff_second_attempt :
    let api : ℕ → Attempt := fun i => if i = 0 then .timeout else .answered " Good news "
    (∀ i, (api i).Regular) ∧
      (RetryLaw api 3 (Prog.exec api (routeResponse [] "Bearer sk-1" 700 3) 0 ())
          (Prog.exec api (tasksResponse [] "Bearer sk-1" 700 3) 0 ()) ↔
        firstOutcome answers api 3 ≠ some .rateLimited) := by
  intro api
  have h : ∀ i, (api i).Regular := by
    intro i
    cases i <;> exact trivial
  exact ⟨h, retry_law_iff [] "Bearer sk-1" 700 3 api h⟩

/-- a rate limit and then a content: `route.py` raises `NameError` after one POST, `tasks.py` returns the content -/
theorem rate_limit_raises :
    let api : ℕ → Attempt := fun i => if i = 0 then .rateLimited else .answered "Good news"
    let ran := Prog.exec api (routeResponse [] "Bearer sk-1" 700 3) 0 ()
    let copy := Prog.exec api (tasksResponse [] "Bearer sk-1" 700 3) 0 ()
    (∀ i, (api i).Regular) ∧ lawfulText (firstOutcome decides api 3) = "Good news" ∧ ran.val = .error .nameError ∧
      copy.val = .ok "Good news" ∧ ¬ RetryLaw api 3 ran copy := by
  intro api ran copy
  have hval : ran.val = .error .nameError := rfl
  refine ⟨fun i => ?_, rfl, hval, by decide +kernel, fun h => ?_⟩
  · cases i <;> exact trivial
  · have hreturns := h.returns
    rw [hval] at hreturns
    cases hreturns

end Newsletter.Courses
