import SurveyTables.Value

/-!
# Respondents

A `Record` holds one respondent's answers, at most one for each variable code, in the order in which
the codes were first given.

* `insert`, `ofList` : giving answers, a later one for a code replacing the earlier one;
* `get?`, `contains`, `response?` : looking them up; `get?_insert` and `get?_empty` say what is
  found. A missing answer is held but is no response.
-/

namespace SurveyTables

/-- The answers of one respondent, by variable code. -/
structure Record where
  entries : List (String × Value)
  distinct : (entries.map Prod.fst).Nodup

namespace Record

/-- No answers. -/
def empty : Record := ⟨[], List.nodup_nil⟩

instance : Inhabited Record := ⟨empty⟩

/-- The codes that have an answer, present or missing. -/
def codes (r : Record) : List String := r.entries.map Prod.fst

def contains (r : Record) (code : String) : Bool := r.codes.contains code

def get? (r : Record) (code : String) : Option Value := r.entries.lookup code

def response? (r : Record) (code : String) : Option Value :=
  (r.get? code).filter fun v => !v.isMissing

/-- The number of codes with a value. -/
def size (r : Record) : Nat := r.entries.length

/-- The entry of `code`, if it is the one, with a new value. -/
def replaceAt (code : String) (v : Value) (e : String × Value) : String × Value :=
  if e.1 = code then (code, v) else e

theorem fst_replaceAt (code : String) (v : Value) (e : String × Value) :
    (replaceAt code v e).1 = e.1 := by
  unfold replaceAt
  split <;> simp_all

theorem map_fst_replaceAt (code : String) (v : Value) (l : List (String × Value)) :
    (l.map (replaceAt code v)).map Prod.fst = l.map Prod.fst := by
  simp [fst_replaceAt]

def insert (r : Record) (code : String) (v : Value) : Record :=
  if h : code ∈ r.entries.map Prod.fst then
    ⟨r.entries.map (replaceAt code v), by rw [map_fst_replaceAt]; exact r.distinct⟩
  else
    ⟨r.entries ++ [(code, v)], by
      rw [List.map_append, List.nodup_append]
      exact ⟨r.distinct, by simp, by
        intro a ha b hb hab
        simp only [List.map_cons, List.map_nil, List.mem_singleton] at hb
        exact h (hb ▸ hab ▸ ha)⟩⟩

def ofList (l : List (String × Value)) : Record := l.foldl (fun r e => r.insert e.1 e.2) empty

/-! ## What is found -/

@[simp] theorem get?_empty (code : String) : empty.get? code = none := rfl

theorem lookup_cons (k : String) (w : Value) (l : List (String × Value)) (c : String) :
    ((k, w) :: l).lookup c = if c = k then some w else l.lookup c := by
  rw [List.lookup_cons]
  by_cases h : c = k
  · subst h; simp
  · rw [if_neg h, beq_false_of_ne h]

theorem lookup_map_replaceAt (code : String) (v : Value) (l : List (String × Value)) (c : String) :
    (l.map (replaceAt code v)).lookup c =
      if c = code then (if code ∈ l.map Prod.fst then some v else none) else l.lookup c := by
  induction l with
  | nil => simp
  | cons e l ih =>
    obtain ⟨k, w⟩ := e
    have hr : replaceAt code v (k, w) = (k, if k = code then v else w) := by
      unfold replaceAt; split <;> simp_all
    rw [List.map_cons, hr, lookup_cons, ih, lookup_cons]
    by_cases hk : k = code
    · subst hk
      by_cases hc : c = k <;> simp [hc]
    · by_cases hc : c = code
      · subst hc
        have hk2 : c ≠ k := fun h => hk h.symm
        simp only [hk2, if_false, if_true, List.map_cons, List.mem_cons, false_or]
      · simp [hk, hc]

theorem lookup_append_singleton (l : List (String × Value)) (code : String) (v : Value)
    (c : String) (h : code ∉ l.map Prod.fst) :
    (l ++ [(code, v)]).lookup c = if c = code then some v else l.lookup c := by
  induction l with
  | nil => rw [List.nil_append, lookup_cons, List.lookup_nil]
  | cons e l ih =>
    obtain ⟨k, w⟩ := e
    simp only [List.map_cons, List.mem_cons, not_or] at h
    rw [List.cons_append, lookup_cons, lookup_cons, ih h.2]
    by_cases hck : c = k
    · subst hck
      have hne : c ≠ code := fun e => h.1 e.symm
      simp [hne]
    · simp [hck]

/-- Inserting changes the value of one code and of no other. -/
theorem get?_insert (r : Record) (code : String) (v : Value) (c : String) :
    (r.insert code v).get? c = if c = code then some v else r.get? c := by
  unfold insert get?
  split
  · rename_i h
    rw [lookup_map_replaceAt]
    simp [h]
  · rename_i h
    exact lookup_append_singleton _ _ _ _ h

end Record

end SurveyTables
