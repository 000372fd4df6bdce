/-
JSON texts of strings and arrays, as Python's `json.dumps` writes them with its defaults, and a reader for them.

A string is written by the units of its UTF-16 form: printable ASCII characters stand for themselves, the quote and the backslash
apart, and every other unit is escaped, by a letter or by four hexadecimal digits. The items of an array are separated by a comma
and a blank.

A reader takes a text and gives a value and the rest of the text. `unquote_quote` and `readArray_writeArray`: what was written is
read back, whatever follows it.
-/
import Mathlib.Tactic

namespace Newsletter.Core.Json

/-! ## UTF-16 -/

def units (c : Char) : List ℕ :=
  if c.toNat < 0x10000 then [c.toNat]
  else [0xd800 + (c.toNat - 0x10000) / 0x400, 0xdc00 + (c.toNat - 0x10000) % 0x400]

def isHigh (u : ℕ) : Bool := decide (0xd800 ≤ u ∧ u < 0xdc00)

def isLow (u : ℕ) : Bool := decide (0xdc00 ≤ u ∧ u < 0xe000)

/-- `none` for a surrogate without its partner: a Python string can hold one, a `Char` cannot -/
def chars : List ℕ → Option (List Char)
  | [] => some []
  | [u] => if isHigh u || isLow u then none else some [Char.ofNat u]
  | u :: v :: us =>
    if isHigh u then
      if isLow v then (chars us).map (Char.ofNat (0x10000 + (u - 0xd800) * 0x400 + (v - 0xdc00)) :: ·) else none
    else if isLow u then none
    else (chars (v :: us)).map (Char.ofNat u :: ·)

theorem toNat_bounds (c : Char) : c.toNat < 0xd800 ∨ 0xe000 ≤ c.toNat ∧ c.toNat < 0x110000 := by
  rcases c.valid with h | ⟨h, h'⟩
  · exact Or.inl h
  · exact Or.inr ⟨h, h'⟩

/-- a unit that is no surrogate is a character of its own -/
theorem chars_cons {u : ℕ} (h : u < 0xd800 ∨ 0xe000 ≤ u) (us : List ℕ) : chars (u :: us) = (chars us).map (Char.ofNat u :: ·) := by
  have hhigh : isHigh u = false := by simp only [isHigh, decide_eq_false_iff_not]; omega
  have hlow : isLow u = false := by simp only [isLow, decide_eq_false_iff_not]; omega
  cases us with
  | nil => simp [chars, hhigh, hlow]
  | cons v us => simp [chars, hhigh, hlow]

theorem chars_units (c : Char) (us : List ℕ) : chars (units c ++ us) = (chars us).map (c :: ·) := by
  have hbounds := toNat_bounds c
  unfold units
  split_ifs with h
  · rw [List.singleton_append, chars_cons (by omega), Char.ofNat_toNat]
  · obtain ⟨n, hn, hlt⟩ : ∃ n, c.toNat = 0x10000 + n ∧ n < 0x100000 := ⟨c.toNat - 0x10000, by omega, by omega⟩
    have hhigh : isHigh (0xd800 + n / 0x400) = true := by simp only [isHigh, decide_eq_true_eq]; omega
    have hlow : isLow (0xdc00 + n % 0x400) = true := by simp only [isLow, decide_eq_true_eq]; omega
    have hcode : 0x10000 + (0xd800 + n / 0x400 - 0xd800) * 0x400 + (0xdc00 + n % 0x400 - 0xdc00) = c.toNat := by omega
    rw [hn, Nat.add_sub_cancel_left, List.cons_append, List.singleton_append, chars, if_pos hhigh, if_pos hlow, hcode,
      Char.ofNat_toNat]

theorem chars_flatMap_units (s : List Char) : chars (s.flatMap units) = some s := by
  induction s with
  | nil => rfl
  | cons c s ih => rw [List.flatMap_cons, chars_units, ih, Option.map_some]

theorem units_lt {c : Char} {u : ℕ} (h : u ∈ units c) : u < 0x10000 := by
  have hbounds := toNat_bounds c
  unfold units at h
  split_ifs at h
  all_goals
    simp only [List.mem_cons, List.not_mem_nil, or_false] at h
    omega

/-! ## Strings -/

def hexDigit (n : ℕ) : Char := if n < 10 then Char.ofNat (48 + n) else Char.ofNat (87 + n)

def hexValue (c : Char) : Option ℕ :=
  if '0' ≤ c ∧ c ≤ '9' then some (c.toNat - 48)
  else if 'a' ≤ c ∧ c ≤ 'f' then some (c.toNat - 87)
  else if 'A' ≤ c ∧ c ≤ 'F' then some (c.toNat - 55)
  else none

theorem hexValue_hexDigit {n : ℕ} (h : n < 16) : hexValue (hexDigit n) = some n := by
  revert n
  decide

/-- the letter behind a backslash -/
def letter : ℕ → Option Char
  | 34 => some '"'
  | 92 => some '\\'
  | 10 => some 'n'
  | 13 => some 'r'
  | 9 => some 't'
  | 12 => some 'f'
  | 8 => some 'b'
  | _ => none

def ofLetter : Char → Option ℕ
  | '"' => some 34
  | '\\' => some 92
  | '/' => some 47
  | 'n' => some 10
  | 'r' => some 13
  | 't' => some 9
  | 'f' => some 12
  | 'b' => some 8
  | _ => none

/-- a unit as it is written between quotes -/
def escape (u : ℕ) : List Char :=
  match letter u with
  | some c => ['\\', c]
  | none =>
    if 32 ≤ u ∧ u < 127 then [Char.ofNat u]
    else ['\\', 'u', hexDigit (u / 4096), hexDigit (u / 256 % 16), hexDigit (u / 16 % 16), hexDigit (u % 16)]

/-- the units up to the closing quote, and what follows it; a control character is not allowed -/
def scan : List Char → Option (List ℕ × List Char)
  | [] => none
  | '"' :: rest => some ([], rest)
  | '\\' :: 'u' :: a :: b :: c :: d :: rest =>
    match hexValue a, hexValue b, hexValue c, hexValue d with
    | some a, some b, some c, some d => (scan rest).map fun p => ((((a * 16 + b) * 16 + c) * 16 + d) :: p.1, p.2)
    | _, _, _, _ => none
  | '\\' :: e :: rest =>
    match ofLetter e with
    | some u => (scan rest).map fun p => (u :: p.1, p.2)
    | none => none
  | c :: rest => if c.toNat < 32 then none else (scan rest).map fun p => (units c ++ p.1, p.2)

theorem scan_letter {u : ℕ} {e : Char} (h : letter u = some e) (rest : List Char) :
    scan ('\\' :: e :: rest) = (scan rest).map fun p => (u :: p.1, p.2) := by
  unfold letter at h
  split at h
  all_goals cases h
  all_goals simp [scan, ofLetter]

theorem scan_hex {u : ℕ} (h : u < 0x10000) (rest : List Char) :
    scan ('\\' :: 'u' :: hexDigit (u / 4096) :: hexDigit (u / 256 % 16) :: hexDigit (u / 16 % 16) :: hexDigit (u % 16) :: rest) =
      (scan rest).map fun p => (u :: p.1, p.2) := by
  have hvalue : ((u / 4096 * 16 + u / 256 % 16) * 16 + u / 16 % 16) * 16 + u % 16 = u := by omega
  simp only [scan, hexValue_hexDigit (show u / 4096 < 16 by omega), hexValue_hexDigit (show u / 256 % 16 < 16 by omega),
    hexValue_hexDigit (show u / 16 % 16 < 16 by omega), hexValue_hexDigit (show u % 16 < 16 by omega), hvalue]

theorem scan_plain {c : Char} (hquote : c ≠ '"') (hbackslash : c ≠ '\\') (hcontrol : 32 ≤ c.toNat) (rest : List Char) :
    scan (c :: rest) = (scan rest).map fun p => (units c ++ p.1, p.2) := by
  rw [scan.eq_def]
  split
  · contradiction
  · simp_all
  · simp_all
  · simp_all
  · rename_i heq
    cases heq
    rw [if_neg (by omega)]

theorem toNat_ofNat_of_ascii {u : ℕ} (h : u < 127) : (Char.ofNat u).toNat = u := by
  revert u
  decide

theorem scan_escape {u : ℕ} (h : u < 0x10000) (rest : List Char) :
    scan (escape u ++ rest) = (scan rest).map fun p => (u :: p.1, p.2) := by
  unfold escape
  split
  · rename_i hletter
    exact scan_letter hletter rest
  · rename_i hletter
    split_ifs with hprintable
    · have hcode : (Char.ofNat u).toNat = u := toNat_ofNat_of_ascii hprintable.2
      have hunits : units (Char.ofNat u) = [u] := by rw [units, hcode, if_pos h]
      have hne : ∀ c : Char, (letter c.toNat).isSome → Char.ofNat u ≠ c := by
        rintro c hc rfl
        rw [hcode, hletter] at hc
        cases hc
      rw [List.singleton_append, scan_plain (hne '"' rfl) (hne '\\' rfl) (by omega), hunits]
      rfl
    · exact scan_hex h rest

def quote (s : String) : List Char := '"' :: ((s.toList.flatMap units).flatMap escape ++ ['"'])

def unquote : List Char → Option (String × List Char)
  | '"' :: rest => (scan rest).bind fun p => (chars p.1).map fun cs => (String.ofList cs, p.2)
  | _ => none

theorem scan_flatMap_escape {us : List ℕ} (h : ∀ u ∈ us, u < 0x10000) (rest : List Char) :
    scan (us.flatMap escape ++ '"' :: rest) = some (us, rest) := by
  induction us with
  | nil => simp [scan]
  | cons u us ih =>
    rw [List.flatMap_cons, List.append_assoc, scan_escape (h u List.mem_cons_self), ih fun v hv => h v (List.mem_cons_of_mem u hv)]
    rfl

/-- **Strings.** What was quoted is read back. -/
theorem unquote_quote (s : String) (rest : List Char) : unquote (quote s ++ rest) = some (s, rest) := by
  have hlt : ∀ u ∈ s.toList.flatMap units, u < 0x10000 := by
    intro u hu
    obtain ⟨c, _, hc⟩ := List.mem_flatMap.1 hu
    exact units_lt hc
  simp only [quote, List.cons_append, List.append_assoc, List.nil_append, unquote, scan_flatMap_escape hlt, Option.bind_some,
    chars_flatMap_units, Option.map_some, String.ofList_toList]

/-! ## Fixed texts and arrays -/

/-- what follows a fixed text -/
def expect (text s : List Char) : Option (List Char) := if text <+: s then some (s.drop text.length) else none

theorem expect_append (text rest : List Char) : expect text (text ++ rest) = some rest := by
  rw [expect, if_pos (List.prefix_append ..), List.drop_left]

section Array

variable {α : Type*} (write : α → List Char) (read : List Char → Option (α × List Char))

/-- the items behind the first one, and the closing bracket -/
def writeItems : List α → List Char
  | [] => [']']
  | a :: as => ',' :: ' ' :: (write a ++ writeItems as)

def writeArray : List α → List Char
  | [] => ['[', ']']
  | a :: as => '[' :: (write a ++ writeItems write as)

/-- `n` bounds the number of items -/
def readItems : ℕ → List Char → Option (List α × List Char)
  | 0, _ => none
  | _ + 1, ']' :: s => some ([], s)
  | n + 1, ',' :: ' ' :: s => (read s).bind fun p => (readItems n p.2).map fun q => (p.1 :: q.1, q.2)
  | _ + 1, _ => none

def readArray : List Char → Option (List α × List Char)
  | '[' :: ']' :: s => some ([], s)
  | '[' :: s => (read s).bind fun p => (readItems read (p.2.length + 1) p.2).map fun q => (p.1 :: q.1, q.2)
  | _ => none

variable {write read}

theorem readItems_writeItems (h : ∀ a rest, read (write a ++ rest) = some (a, rest)) (as : List α) (rest : List Char) {n : ℕ}
    (hn : as.length < n) : readItems read n (writeItems write as ++ rest) = some (as, rest) := by
  induction as generalizing n with
  | nil =>
    obtain ⟨n, rfl⟩ : ∃ m, n = m + 1 := ⟨n - 1, by simp at hn; omega⟩
    rfl
  | cons a as ih =>
    obtain ⟨n, rfl⟩ : ∃ m, n = m + 1 := ⟨n - 1, by simp at hn; omega⟩
    have hless : as.length < n := by simpa using hn
    simp only [writeItems, List.cons_append, List.append_assoc, readItems, h, Option.bind_some, ih hless, Option.map_some]

theorem length_lt_writeItems (write : α → List Char) (as : List α) : as.length < (writeItems write as).length := by
  induction as with
  | nil => simp [writeItems]
  | cons a as ih =>
    simp only [writeItems, List.length_cons, List.length_append]
    omega

/-- **Arrays.** What was written is read back, if no item starts like the end of an array. -/
theorem readArray_writeArray (h : ∀ a rest, read (write a ++ rest) = some (a, rest))
    (hstart : ∀ a, ∃ c text, write a = c :: text ∧ c ≠ ']') (as : List α) (rest : List Char) :
    readArray read (writeArray write as ++ rest) = some (as, rest) := by
  cases as with
  | nil => rfl
  | cons a as =>
    obtain ⟨c, text, hc, hne⟩ := hstart a
    have hread := h a (writeItems write as ++ rest)
    have hitems : readItems read ((writeItems write as ++ rest).length + 1) (writeItems write as ++ rest) = some (as, rest) := by
      refine readItems_writeItems h as rest ?_
      have hlength := length_lt_writeItems write as
      simp only [List.length_append]
      omega
    rw [hc] at hread
    simp only [writeArray, hc, List.cons_append, List.append_assoc]
    rw [readArray.eq_def]
    simp_all

end Array

end Newsletter.Core.Json
