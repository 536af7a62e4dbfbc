import SurveyTables.Json.Basic

/-!
# JSON strings

* `escapeChar`, `stringText` : how a string is written;
* `readString?` : the characters of a string up to its closing quote. An escape may number half of
  a surrogate pair; a half whose other half does not follow denotes no character.
-/

namespace SurveyTables.Json

/-! ## Writing -/

/-- The hexadecimal digits of a number below `16 ^ 4`. -/
def hexText (n : Nat) : List Char :=
  [n / 4096 % 16, n / 256 % 16, n / 16 % 16, n % 16].map Nat.digitChar

/-- A character inside a string: a quote, a backslash or a control character is escaped, the common
control characters by a letter. -/
def escapeChar (c : Char) : List Char :=
  if c = '"' then ['\\', '"']
  else if c = '\\' then ['\\', '\\']
  else if c = '\x08' then ['\\', 'b']
  else if c = '\x0c' then ['\\', 'f']
  else if c = '\n' then ['\\', 'n']
  else if c = '\r' then ['\\', 'r']
  else if c = '\t' then ['\\', 't']
  else if c.toNat < 0x20 then '\\' :: 'u' :: hexText c.toNat
  else [c]

def stringText (s : String) : List Char := '"' :: s.toList.flatMap escapeChar ++ ['"']

/-! ## Reading -/

/-- The value of a hexadecimal digit. -/
def hexValue? (c : Char) : Option Nat :=
  if c.isDigit then some (c.toNat - '0'.toNat)
  else if 'a' ≤ c ∧ c ≤ 'f' then some (c.toNat - 'a'.toNat + 10)
  else if 'A' ≤ c ∧ c ≤ 'F' then some (c.toNat - 'A'.toNat + 10)
  else none

/-- Four hexadecimal digits at the start of a text, and what is left. -/
def readUnit? : List Char → Option (Nat × List Char)
  | a :: b :: c :: d :: r => do
    let a ← hexValue? a
    let b ← hexValue? b
    let c ← hexValue? c
    let d ← hexValue? d
    return (a * 4096 + b * 256 + c * 16 + d, r)
  | _ => none

/-- The second half of a surrogate pair at the start of a text, with its escape. -/
def readLowUnit? : List Char → Option (Nat × List Char)
  | '\\' :: 'u' :: r => (readUnit? r).filter fun p => 0xDC00 ≤ p.1 && p.1 < 0xE000
  | _ => none

/-- The character of a numbered escape, and what is left: one unit, or two that form a surrogate pair.
Half of a pair alone is no character. -/
def readNumbered? (s : List Char) : Option (Option Char × List Char) :=
  (readUnit? s).map fun p =>
    if 0xD800 ≤ p.1 ∧ p.1 < 0xDC00 then
      match readLowUnit? p.2 with
      | some q => (some (Char.ofNat (0x10000 + (p.1 - 0xD800) * 0x400 + (q.1 - 0xDC00))), q.2)
      | none => (none, p.2)
    else if 0xDC00 ≤ p.1 ∧ p.1 < 0xE000 then (none, p.2)
    else (some (Char.ofNat p.1), p.2)

/-- The character of an escape after its backslash, and what is left. -/
def readEscape? : List Char → Option (Option Char × List Char)
  | '"' :: r => some (some '"', r)
  | '\\' :: r => some (some '\\', r)
  | '/' :: r => some (some '/', r)
  | 'b' :: r => some (some '\x08', r)
  | 'f' :: r => some (some '\x0c', r)
  | 'n' :: r => some (some '\n', r)
  | 'r' :: r => some (some '\r', r)
  | 't' :: r => some (some '\t', r)
  | 'u' :: r => readNumbered? r
  | _ => none

/-- One character of a string, perhaps escaped, and what is left. Control characters have to be
escaped. -/
def readChar? : List Char → Option (Option Char × List Char)
  | [] => none
  | c :: r =>
    if c = '\\' then readEscape? r
    else if c.toNat < 0x20 then none
    else some (some c, r)

theorem length_lt_of_readUnit? {s : List Char} {p : Nat × List Char} (h : readUnit? s = some p) :
    p.2.length < s.length := by
  unfold readUnit? at h
  split at h
  · simp only [Option.bind_eq_bind, Option.pure_def, Option.bind_eq_some_iff,
      Option.some.injEq] at h
    obtain ⟨_, _, _, _, _, _, _, _, rfl⟩ := h
    simp only [List.length_cons]
    omega
  · simp at h

theorem length_lt_of_readLowUnit? {s : List Char} {p : Nat × List Char}
    (h : readLowUnit? s = some p) : p.2.length < s.length := by
  unfold readLowUnit? at h
  split at h
  · have := length_lt_of_readUnit? (Option.filter_eq_some_iff.1 h).1
    simp only [List.length_cons]
    omega
  · simp at h

theorem length_lt_of_readNumbered? {s : List Char} {p : Option Char × List Char}
    (h : readNumbered? s = some p) : p.2.length < s.length := by
  obtain ⟨u, hu, rfl⟩ := Option.map_eq_some_iff.1 h
  have h1 := length_lt_of_readUnit? hu
  split
  · split
    · rename_i q hq
      have h2 := length_lt_of_readLowUnit? hq
      simp only
      omega
    · exact h1
  · split <;> exact h1

theorem length_lt_of_readEscape? {s : List Char} {p : Option Char × List Char}
    (h : readEscape? s = some p) : p.2.length < s.length := by
  unfold readEscape? at h
  split at h
  case h_9 r =>
    have := length_lt_of_readNumbered? h
    simp only [List.length_cons]
    omega
  case h_10 => simp at h
  all_goals
    obtain rfl := Option.some.inj h
    simp

theorem length_lt_of_readChar? {s : List Char} {p : Option Char × List Char}
    (h : readChar? s = some p) : p.2.length < s.length := by
  unfold readChar? at h
  split at h
  · simp at h
  · split at h
    · have := length_lt_of_readEscape? h
      simp only [List.length_cons]
      omega
    · split at h
      · simp at h
      · obtain rfl := Option.some.inj h
        simp

def readString? (s : List Char) : Option (List (Option Char) × List Char) :=
  if s.head? = some '"' then some ([], s.tail)
  else
    match h : readChar? s with
    | none => none
    | some (c, r) =>
      have : r.length < s.length := length_lt_of_readChar? h
      (readString? r).map fun p => (c :: p.1, p.2)
termination_by s.length

theorem length_le_of_readString? {s : List Char} {p : List (Option Char) × List Char}
    (h : readString? s = some p) : p.2.length ≤ s.length := by
  fun_induction readString? s generalizing p with
  | case1 s hs =>
    obtain rfl := Option.some.inj h
    simp
  | case2 => simp at h
  | case3 s hs c r hc hlt ih =>
    obtain ⟨q, hq, rfl⟩ := Option.map_eq_some_iff.1 h
    have := ih hq
    simp only
    omega

end SurveyTables.Json
