import SurveyTables.Json.Shape
import SurveyTables.Proofs.Json.Written

/-!
# Names of fields

Some fields of a wire shape go by a second name too.

* `withFirstNames` : a value with every second name replaced by the first; `SameUpToNames` : two
  values that this makes equal. Names are no obstacle to reading a text
  (`Written.of_sameUpToNames`);
* `NameBlind read` : a reader to which the two names of a field are one. The readers of single
  fields do not look at more (`required?_renamed`, `withDefault?_renamed`, `optional?_renamed`), as
  long as of two names they look for both or neither (`closedNames`); so neither do readers of lists
  and objects (`nameBlind_listOf?`, `nameBlind_object?`, `nameBlind_keptFields?`).
-/

namespace SurveyTables.Json

/-! ## Two names of one field -/

/-- The second names, each with its first name. -/
def secondNames : List (String × String) :=
  [("variable", "questionId"), ("banner_columns", "columns"), ("banner_groups", "groups")]

def firstName (name : String) : String := (secondNames.lookup name).getD name

mutual

/-- The value with every second name of a field replaced by the first. -/
def withFirstNames : Json → Json
  | .array items => .array (itemsWithFirstNames items)
  | .object fields => .object (fieldsWithFirstNames fields)
  | v => v

/-- The items of an array, with first names. -/
def itemsWithFirstNames : List Json → List Json
  | [] => []
  | v :: vs => withFirstNames v :: itemsWithFirstNames vs

/-- The fields of an object, with first names. -/
def fieldsWithFirstNames : List (String × Json) → List (String × Json)
  | [] => []
  | (k, v) :: fs => (firstName k, withFirstNames v) :: fieldsWithFirstNames fs

end

/-- The values are the same but for names of fields. -/
def SameUpToNames (w v : Json) : Prop := w.withFirstNames = v.withFirstNames

/-- A field under its first name. -/
def renamed (f : String × Json) : String × Json := (firstName f.1, f.2.withFirstNames)

theorem withFirstNames_array (items : List Json) :
    (Json.array items).withFirstNames = .array (items.map withFirstNames) := by
  have hitems : itemsWithFirstNames items = items.map withFirstNames := by
    induction items with
    | nil => simp [itemsWithFirstNames]
    | cons v vs ih => simp [itemsWithFirstNames, ih]
  rw [withFirstNames, hitems]

theorem withFirstNames_object (fields : Fields) :
    (Json.object fields).withFirstNames = .object (fields.map renamed) := by
  have hfields : fieldsWithFirstNames fields = fields.map renamed := by
    induction fields with
    | nil => simp [fieldsWithFirstNames]
    | cons f fs ih => simp [fieldsWithFirstNames, renamed, ih]
  rw [withFirstNames, hfields]

theorem isLegible_withFirstNames (v : Json) : v.withFirstNames.IsLegible ↔ v.IsLegible := by
  cases v <;> simp [withFirstNames, IsLegible]

theorem Written.withFirstNames {n : Nat} {v : Json} (h : Written n v) :
    Written n v.withFirstNames := by
  induction h with
  | @scalar n v h => exact .scalar ((isLegible_withFirstNames v).2 h)
  | array h ih =>
    rw [withFirstNames_array]
    exact .array (List.forall_mem_map.2 ih)
  | object h ih =>
    rw [withFirstNames_object]
    exact .object (List.forall_mem_map.2 ih)

/-- Only the keys of objects differ, and a key is always read back. -/
theorem Written.of_withFirstNames {n : Nat} {v w : Json} (h : Written n v)
    (hw : w.withFirstNames = v) : Written n w := by
  induction h generalizing w with
  | scalar h =>
    subst hw
    exact .scalar ((isLegible_withFirstNames w).1 h)
  | @array n items h ih =>
    cases w with
    | array items' =>
      rw [withFirstNames_array, Json.array.injEq] at hw
      subst hw
      exact .array fun v hv => ih _ (List.mem_map_of_mem hv) rfl
    | _ => simp [Json.withFirstNames] at hw
  | @object n fields h ih =>
    cases w with
    | object fields' =>
      rw [withFirstNames_object, Json.object.injEq] at hw
      subst hw
      exact .object fun f hf => ih _ (List.mem_map_of_mem hf) rfl
    | _ => simp [Json.withFirstNames] at hw

theorem Written.of_sameUpToNames {n : Nat} {v w : Json} (h : Written n v)
    (hw : w.SameUpToNames v) : Written n w :=
  h.withFirstNames.of_withFirstNames hw

mutual

theorem isReadable_withFirstNames : ∀ v : Json, v.withFirstNames.isReadable = v.isReadable
  | .array items => by
    rw [withFirstNames, isReadable, isReadable, areReadable_withFirstNames items]
  | .object fields => by
    rw [withFirstNames, isReadable, isReadable, areFieldsReadable_withFirstNames fields]
  | .null | .bool _ | .int _ | .real _ | .string _ | .unreadable => by rw [withFirstNames] <;> simp

theorem areReadable_withFirstNames : ∀ items : List Json,
    areReadable (itemsWithFirstNames items) = areReadable items
  | [] => by rw [itemsWithFirstNames]
  | v :: vs => by
    rw [itemsWithFirstNames, areReadable, areReadable, isReadable_withFirstNames v,
      areReadable_withFirstNames vs]

theorem areFieldsReadable_withFirstNames : ∀ fields : Fields,
    areFieldsReadable (fieldsWithFirstNames fields) = areFieldsReadable fields
  | [] => by rw [fieldsWithFirstNames]
  | (k, v) :: fs => by
    rw [fieldsWithFirstNames, areFieldsReadable, areFieldsReadable, isReadable_withFirstNames v,
      areFieldsReadable_withFirstNames fs]

end

/-! ## Readers that take both names for one -/

/-- The reader does not tell the two names of a field apart. -/
def NameBlind {α : Type} (read : Json → Option α) : Prop := ∀ v, read v.withFirstNames = read v

/-- Of each second name and its first, both are among the names or neither is. -/
def closedNames (names : List String) : Bool :=
  secondNames.all fun p => names.contains p.1 == names.contains p.2

theorem firstName_cases (name : String) :
    firstName name = name ∨ (name, firstName name) ∈ secondNames := by
  cases h : secondNames.lookup name with
  | none => exact Or.inl (by simp [firstName, h])
  | some first =>
    have hmem : (name, first) ∈ secondNames := by
      obtain ⟨l₁, l₂, hsplit, -⟩ := List.lookup_eq_some_iff.1 h
      simp [hsplit]
    exact Or.inr (by simpa [firstName, h] using hmem)

theorem contains_firstName {names : List String} (h : closedNames names) (name : String) :
    names.contains (firstName name) = names.contains name := by
  rcases firstName_cases name with heq | hmem
  · rw [heq]
  · exact (beq_iff_eq.1 (List.all_eq_true.1 h _ hmem)).symm

section
variable {α : Type} {read : Json → Option α}

theorem fieldOf?_renamed {names : List String} (h : closedNames names) (fields : Fields) :
    fieldOf? names (fields.map renamed) =
      (fieldOf? names fields).map fun v => v.map withFirstNames := by
  have hfilter : (fields.map renamed).filter (fun f => names.contains f.1) =
      (fields.filter fun f => names.contains f.1).map renamed := by
    rw [List.filter_map]
    congr 2
    funext f
    exact contains_firstName h f.1
  unfold fieldOf?
  rw [hfilter]
  generalize fields.filter (fun f => names.contains f.1) = found
  rcases found with _ | ⟨f, _ | ⟨g, fs⟩⟩ <;> rfl

theorem required?_renamed (names : List String) (h : closedNames names) (hread : NameBlind read)
    (fields : Fields) :
    required? read names (fields.map renamed) = required? read names fields := by
  rw [required?, required?, fieldOf?_renamed h]
  rcases fieldOf? names fields with _ | _ | v
  · rfl
  · rfl
  · exact hread v

theorem withDefault?_renamed (fallback : α) (names : List String) (h : closedNames names)
    (hread : NameBlind read) (fields : Fields) :
    withDefault? read fallback names (fields.map renamed) =
      withDefault? read fallback names fields := by
  rw [withDefault?, withDefault?, fieldOf?_renamed h]
  rcases fieldOf? names fields with _ | _ | v
  · rfl
  · rfl
  · exact hread v

theorem nameBlind_nullable? (hread : NameBlind read) : NameBlind (nullable? read) := by
  intro v
  have h := hread v
  cases v with
  | array =>
    rw [withFirstNames_array] at h ⊢
    exact congrArg (Option.map some) h
  | object =>
    rw [withFirstNames_object] at h ⊢
    exact congrArg (Option.map some) h
  | _ => simp [withFirstNames]

theorem optional?_renamed (names : List String) (h : closedNames names) (hread : NameBlind read)
    (fields : Fields) : optional? read names (fields.map renamed) = optional? read names fields :=
  withDefault?_renamed none names h (nameBlind_nullable? hread) fields

theorem nameBlind_listOf? (hread : NameBlind read) : NameBlind (listOf? read) := by
  intro v
  cases v with
  | array items =>
    rw [withFirstNames_array]
    change (items.map withFirstNames).mapM read = items.mapM read
    induction items with
    | nil => rfl
    | cons v vs ih => rw [List.map_cons, List.mapM_cons, List.mapM_cons, hread v, ih]
  | object => rw [withFirstNames_object]; rfl
  | _ => simp [withFirstNames]

theorem nameBlind_string? : NameBlind string? := by
  intro v
  cases v <;> simp [withFirstNames, string?]

theorem nameBlind_float? : NameBlind float? := by
  intro v
  cases v <;> simp [withFirstNames, float?]

/-- The reader of an object's fields makes a reader of values. -/
theorem nameBlind_object? {build : Fields → Option α}
    (h : ∀ fields, build (fields.map renamed) = build fields) :
    NameBlind fun v => v.object?.bind build := by
  intro v
  cases v with
  | object fields => simpa [withFirstNames_object, object?] using h fields
  | array => rw [withFirstNames_array]; rfl
  | _ => simp [withFirstNames]

theorem nameBlind_keptFields? {build : Fields → Option α}
    (h : ∀ fields, build (fields.map renamed) = build fields) :
    NameBlind fun v => v.keptFields?.bind build := by
  intro v
  simp only [keptFields?, isReadable_withFirstNames]
  split
  · exact nameBlind_object? h v
  · rfl

end

end SurveyTables.Json
