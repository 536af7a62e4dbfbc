import SurveyTables.Proofs.Wire.Lossless
import SurveyTables.Wire.Net
import SurveyTables.Wire.Question

/-!
# Questions and drafts of nets lose nothing

One lemma for each shape, from the value up to the question (`lossless_question`) and the draft of a
net (`lossless_netDraft`).

An optional value that is no answer is written as the null that stands for none, and read as none:
`settledValue` is what comes back of it, `Question.settled` and `NetDraft.settled` what comes back
of the whole.
-/

namespace SurveyTables

open Json

/-! ## Values -/

/-- The doubles in a value. -/
def Value.floats : Value → List Float
  | .number x => [x]
  | _ => []

theorem lossless_value : Lossless Value.toJson Value.ofJson? Value.floats (fun v => v) 0 where
  written v hv := by
    cases v with
    | empty => exact written_null 0
    | number x => exact .scalar (hv x (List.mem_singleton.2 rfl))
    | text s => exact written_string 0 s
  nameBlind v := by
    cases v <;> simp [withFirstNames, Value.ofJson?, float?]
  read_write v := by cases v <;> rfl

/-- An optional value as it comes back: no answer is none. -/
def settledValue : Option Value → Option Value
  | some .empty => none
  | o => o

theorem lossless_optionalValue :
    Lossless (ofOption Value.toJson) (nullable? Value.ofJson?)
      (fun o => o.toList.flatMap Value.floats) settledValue 0 where
  written o ho := by
    cases o with
    | none => exact written_null 0
    | some v => exact lossless_value.written v (by simpa using ho)
  nameBlind := nameBlind_nullable? lossless_value.nameBlind
  read_write o := by rcases o with _ | _ | _ | _ <;> rfl

/-! ## Questions -/

/-- The option as it comes back. -/
def QuestionOption.settled (o : QuestionOption) : QuestionOption :=
  { o with code := settledValue o.code }

/-- The question as it comes back. -/
def Question.settled (q : Question) : Question :=
  { q with options := q.options.map QuestionOption.settled }

/-- The doubles in an option. -/
def QuestionOption.floats (o : QuestionOption) : List Float := o.code.toList.flatMap Value.floats

/-- The doubles in a question. -/
def Question.floats (q : Question) : List Float := q.options.flatMap QuestionOption.floats

theorem lossless_questionOption :
    Lossless QuestionOption.toJson QuestionOption.ofJson? QuestionOption.floats
      QuestionOption.settled 1 where
  written o ho := by
    have hcode := lossless_optionalValue.written o.code ho
    exact .object (by simp [hcode])
  nameBlind := nameBlind_object? fun fields => by
    simp only [optional?_renamed ["code"] (by decide) lossless_value.nameBlind,
      optional?_renamed ["label"] (by decide) nameBlind_string?]
  read_write o := by
    have hcode := lossless_optionalValue.read_write o.code
    simp [QuestionOption.ofJson?, QuestionOption.toJson, object?, optional?, withDefault?, fieldOf?,
      hcode, QuestionOption.settled]

theorem lossless_grid : Lossless Grid.toJson Grid.ofJson? (fun _ => []) (fun g => g) 2 where
  written g _ := .object (by simp)
  nameBlind := nameBlind_object? fun fields => by
    have htexts := nameBlind_listOf? nameBlind_string?
    simp only [withDefault?_renamed [] ["rows"] (by decide) htexts,
      withDefault?_renamed [] ["cols"] (by decide) htexts]
  read_write g := by simp [Grid.ofJson?, Grid.toJson, object?, withDefault?, fieldOf?]

/-- The number of points of a scale. -/
theorem lossless_points :
    Lossless (fun p : UInt32 => Json.nat p.toNat) pointsOfJson? (fun _ => []) (fun p => p) 0 where
  written p _ := by
    have hp := p.toNat_lt
    exact .scalar ⟨by omega, Int.ofNat_lt.2 (Nat.lt_trans hp (by decide))⟩
  nameBlind v := by cases v <;> simp [withFirstNames, pointsOfJson?, natBelow?]
  read_write p := by
    have hp : (p.toNat : Int) < UInt32.size := Int.ofNat_lt.2 p.toNat_lt
    rw [pointsOfJson?, Json.nat, natBelow?, if_pos ⟨Int.natCast_nonneg _, hp⟩]
    simp

theorem lossless_scale : Lossless Scale.toJson Scale.ofJson? (fun _ => []) (fun s => s) 2 where
  written s _ := by
    have hpoints := (lossless_points.option (by simp [Json.nat])).written s.points (by simp)
    exact .object (by simp [hpoints.mono])
  nameBlind := nameBlind_object? fun fields => by
    simp only [optional?_renamed ["points"] (by decide) lossless_points.nameBlind,
      withDefault?_renamed [] ["labels"] (by decide) (nameBlind_listOf? nameBlind_string?)]
  read_write s := by
    have hpoints := (lossless_points.option (by simp [Json.nat])).read_write s.points
    simp [Scale.ofJson?, Scale.toJson, object?, optional?, withDefault?, fieldOf?, hpoints]

/-- A grid that may be missing. -/
theorem lossless_optionalGrid :
    Lossless (ofOption Grid.toJson) (nullable? Grid.ofJson?)
      (fun o => o.toList.flatMap fun _ => []) (Option.map fun g => g) 2 :=
  lossless_grid.option (by simp [Grid.toJson])

theorem lossless_question :
    Lossless Question.toJson Question.ofJson? Question.floats Question.settled 3 where
  written q hq := by
    have hoptions := lossless_questionOption.list.written q.options hq
    have hgrid := lossless_optionalGrid.written q.grid (by simp)
    have htable := lossless_optionalGrid.written q.advancedTable (by simp)
    have hscale := (lossless_scale.option (by simp [Scale.toJson])).written q.scale (by simp)
    exact .object (by simp [hoptions, hgrid, htable, hscale])
  nameBlind := nameBlind_object? fun fields => by
    have hoptions := nameBlind_listOf? lossless_questionOption.nameBlind
    simp only [required?_renamed ["id"] (by decide) nameBlind_string?,
      withDefault?_renamed "" ["type"] (by decide) nameBlind_string?,
      optional?_renamed ["mode"] (by decide) nameBlind_string?,
      withDefault?_renamed [] ["options"] (by decide) hoptions,
      optional?_renamed ["grid"] (by decide) lossless_grid.nameBlind,
      optional?_renamed ["advancedTable"] (by decide) lossless_grid.nameBlind,
      optional?_renamed ["scale"] (by decide) lossless_scale.nameBlind]
  read_write q := by
    have hoptions := lossless_questionOption.list.read_write q.options
    have hgrid := lossless_optionalGrid.read_write q.grid
    have htable := lossless_optionalGrid.read_write q.advancedTable
    have hscale := (lossless_scale.option (by simp [Scale.toJson])).read_write q.scale
    simp [Question.ofJson?, Question.toJson, object?, required?, optional?, withDefault?, fieldOf?,
      string?, hoptions, hgrid, htable, hscale, Question.settled]

/-! ## Drafts of nets -/

/-- The draft as it comes back. -/
def NetDraft.settled (d : NetDraft) : NetDraft :=
  { d with value1 := settledValue d.value1, value2 := settledValue d.value2 }

/-- The doubles in a draft. -/
def NetDraft.floats (d : NetDraft) : List Float :=
  d.codes.toList.flatMap (List.flatMap Value.floats) ++
    (d.value1.toList ++ d.value2.toList).flatMap Value.floats

theorem lossless_netDraft :
    Lossless NetDraft.toJson NetDraft.ofJson? NetDraft.floats NetDraft.settled 2 where
  written d hd := by
    simp only [NetDraft.floats, List.flatMap_append, List.forall_mem_append] at hd
    have hvalue (o : Option Value) (ho : ∀ x ∈ o.toList.flatMap Value.floats, RoundTrips x) :
        Written 1 (ofOption Value.toJson o) :=
      (lossless_optionalValue.written o ho).mono (Nat.zero_le 1)
    have hcodes := (lossless_value.list.option (by simp [ofList])).written d.codes hd.1
    exact .object (by simp [hcodes, hvalue d.value1 hd.2.1, hvalue d.value2 hd.2.2])
  nameBlind := nameBlind_object? fun fields => by
    have hcodes := nameBlind_listOf? lossless_value.nameBlind
    simp only [optional?_renamed ["kind"] (by decide) nameBlind_string?,
      optional?_renamed ["label"] (by decide) nameBlind_string?,
      optional?_renamed ["codes"] (by decide) hcodes,
      optional?_renamed ["operator"] (by decide) nameBlind_string?,
      optional?_renamed ["value1"] (by decide) lossless_value.nameBlind,
      optional?_renamed ["value2"] (by decide) lossless_value.nameBlind]
  read_write d := by
    have hcodes := (lossless_value.list.option (by simp [ofList])).read_write d.codes
    have hvalue1 := lossless_optionalValue.read_write d.value1
    have hvalue2 := lossless_optionalValue.read_write d.value2
    simp [NetDraft.ofJson?, NetDraft.toJson, object?, optional?, withDefault?, fieldOf?, hcodes,
      hvalue1, hvalue2, NetDraft.settled]

end SurveyTables
