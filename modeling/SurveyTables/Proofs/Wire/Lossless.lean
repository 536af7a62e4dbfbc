import SurveyTables.Proofs.Wire.FieldNames

/-!
# Shapes that lose nothing

* `Lossless write read floats settled depth` : a value is read back from the JSON it is written as,
  in its settled form, whichever names the fields go by. The text is no obstacle if the doubles in
  the value read back;
* `Lossless.list`, `Lossless.option` : shapes built from others. An optional value must not be
  written as the null that stands for none;
* `Lossless.parse?_compact` : what this means for whole texts.
-/

namespace SurveyTables.Json

/-- Of a value written and read again nothing is lost but what its settled form leaves out. The
doubles are those in the value, the depth bounds the containers around any part of it. -/
structure Lossless {α : Type} (write : α → Json) (read : Json → Option α) (floats : α → List Float)
    (settled : α → α) (depth : Nat) : Prop where
  written : ∀ a, (∀ x ∈ floats a, RoundTrips x) → Written depth (write a)
  nameBlind : NameBlind read
  read_write : ∀ a, read (write a) = some (settled a)

namespace Lossless

section
variable {α : Type} {write : α → Json} {read : Json → Option α} {floats : α → List Float}
  {settled : α → α} {depth : Nat}

theorem list (h : Lossless write read floats settled depth) :
    Lossless (ofList write) (listOf? read) (List.flatMap floats) (List.map settled)
      (depth + 1) where
  written l hl := by
    refine .array (List.forall_mem_map.2 fun a ha => h.written a fun x hx => ?_)
    exact hl x (List.mem_flatMap_of_mem ha hx)
  nameBlind := nameBlind_listOf? h.nameBlind
  read_write l := by
    change (l.map write).mapM read = some (l.map settled)
    induction l with
    | nil => rfl
    | cons a l ih =>
      rw [List.map_cons, List.mapM_cons, h.read_write, ih]
      rfl

theorem option (h : Lossless write read floats settled depth) (hnull : ∀ a, write a ≠ .null) :
    Lossless (ofOption write) (nullable? read) (fun o => o.toList.flatMap floats)
      (Option.map settled) depth where
  written o ho := by
    cases o with
    | none => exact written_null _
    | some a => exact h.written a (by simpa using ho)
  nameBlind := nameBlind_nullable? h.nameBlind
  read_write o := by
    cases o with
    | none => rfl
    | some a =>
      rw [ofOption, nullable?, h.read_write]
      · rfl
      · exact hnull a

/-- A value is read back from its text, whichever names its fields go by. -/
theorem parse?_compact (h : Lossless write read floats settled depth)
    (hdepth : depth ≤ State.greatestDepth + 1) {a : α} (ha : ∀ x ∈ floats a, RoundTrips x)
    {w : Json} (hw : w.SameUpToNames (write a)) :
    (parse? w.compact).bind read = some (settled a) := by
  have hwritten : Written depth w := (h.written a ha).of_sameUpToNames hw
  rw [Json.parse?_compact hwritten hdepth, Option.bind_some, ← h.nameBlind w, hw,
    h.nameBlind, h.read_write]

end

theorem string : Lossless Json.string string? (fun _ => []) id 0 where
  written s _ := written_string _ s
  nameBlind := nameBlind_string?
  read_write _ := rfl

theorem real : Lossless Json.real float? (fun x => [x]) id 0 where
  written x h := .scalar (h x (List.mem_singleton.2 rfl))
  nameBlind := nameBlind_float?
  read_write _ := rfl

end Lossless

/-! ## Texts -/

@[simp] theorem written_ofOption_string (n : Nat) (o : Option String) :
    Written n (ofOption .string o) := by
  cases o <;> simp [ofOption]

@[simp] theorem nullable?_ofOption_string (o : Option String) :
    nullable? string? (ofOption .string o) = some o := by
  cases o <;> rfl

@[simp] theorem written_ofList_string (n : Nat) (l : List String) :
    Written (n + 1) (ofList .string l) :=
  .array (List.forall_mem_map.2 fun s _ => written_string n s)

@[simp] theorem listOf?_ofList_string (l : List String) :
    listOf? string? (ofList .string l) = some l := by
  simpa using Lossless.string.list.read_write l

end SurveyTables.Json
