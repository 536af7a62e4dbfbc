import SurveyTables.Proofs.Wire.Lossless
import SurveyTables.Wire.Plan

/-!
# Banners and tab plans lose nothing

One lemma for each shape, from the column of a banner up to the banner (`lossless_bannerPlan`), and
from the net up to the tab plan (`lossless_tabPlan`).

A net is kept as a whole before its kind is known, so nothing in it may be unreadable
(`keptFields?_toJson`).
-/

namespace SurveyTables

open Json

/-! ## Banners -/

theorem lossless_bannerColumn :
    Lossless BannerColumn.toJson BannerColumn.ofJson? (fun _ => []) id 1 where
  written c _ := by
    cases c with
    | mk id name equation group => cases group <;> exact .object (by simp)
  nameBlind := nameBlind_object? fun fields => by
    simp only [required?_renamed ["id"] (by decide) nameBlind_string?,
      required?_renamed ["name"] (by decide) nameBlind_string?,
      withDefault?_renamed "" ["equation"] (by decide) nameBlind_string?,
      optional?_renamed ["parentGroupName"] (by decide) nameBlind_string?]
  read_write c := by
    cases c with
    | mk id name equation group =>
      cases group <;>
        simp [BannerColumn.ofJson?, BannerColumn.toJson, object?, required?, withDefault?,
          optional?, fieldOf?, nullable?, string?]

theorem lossless_bannerGroup :
    Lossless BannerGroup.toJson BannerGroup.ofJson? (fun _ => []) id 3 where
  written g _ := by
    have hcolumns := lossless_bannerColumn.list.written g.columns (by simp)
    exact .object (by simp [hcolumns])
  nameBlind := nameBlind_object? fun fields => by
    have hcolumns := nameBlind_listOf? lossless_bannerColumn.nameBlind
    simp only [required?_renamed ["id"] (by decide) nameBlind_string?,
      required?_renamed ["name"] (by decide) nameBlind_string?,
      withDefault?_renamed [] ["columns", "banner_columns"] (by decide) hcolumns]
  read_write g := by
    have hcolumns := lossless_bannerColumn.list.read_write g.columns
    simp [BannerGroup.ofJson?, BannerGroup.toJson, object?, required?, withDefault?, fieldOf?,
      string?, hcolumns]

theorem lossless_bannerPlan :
    Lossless BannerPlan.toJson BannerPlan.ofJson? (fun _ => []) id 5 where
  written b _ := by
    have hgroups := lossless_bannerGroup.list.written b.groups (by simp)
    exact .object (by simp [hgroups])
  nameBlind := nameBlind_object? fun fields => by
    have hgroups := nameBlind_listOf? lossless_bannerGroup.nameBlind
    simp only [withDefault?_renamed "" ["name"] (by decide) nameBlind_string?,
      withDefault?_renamed [] ["groups", "banner_groups"] (by decide) hgroups]
  read_write b := by
    have hgroups := lossless_bannerGroup.list.read_write b.groups
    simp [BannerPlan.ofJson?, BannerPlan.toJson, object?, withDefault?, fieldOf?, string?, hgroups]

/-! ## Nets -/

/-- The doubles in a net. -/
def Net.floats : Net → List Float
  | .codes _ => []
  | .range n => n.value1 :: n.value2.toList

theorem ofExactSymbol?_firstName (s : String) :
    RangeOperator.ofExactSymbol? (firstName s) = RangeOperator.ofExactSymbol? s := by
  rcases firstName_cases s with heq | hmem
  · rw [heq]
  · have hall : ∀ p ∈ secondNames,
        RangeOperator.ofExactSymbol? p.2 = RangeOperator.ofExactSymbol? p.1 := by decide
    exact hall _ hmem

theorem nameBlind_rangeOperator : NameBlind RangeOperator.ofJson? := by
  intro v
  cases v with
  | object fields =>
    rw [withFirstNames_object]
    -- A bound may stand as the only key of an object, so its name can be a second name of a field.
    rcases fields with _ | ⟨⟨k, v⟩, _ | ⟨g, fs⟩⟩
    · rfl
    · cases v with
      | object inner =>
        cases inner with
        | nil => exact ofExactSymbol?_firstName k
        | cons f fs =>
          simp [renamed, withFirstNames_object, RangeOperator.ofJson?, keptName?, unitName?]
      | null => exact ofExactSymbol?_firstName k
      | array => simp [renamed, withFirstNames_array, RangeOperator.ofJson?, keptName?, unitName?]
      | _ => simp [renamed, withFirstNames, RangeOperator.ofJson?, keptName?, unitName?]
    · simp [RangeOperator.ofJson?, keptName?, unitName?]
  | array => rw [withFirstNames_array]; rfl
  | _ => simp [withFirstNames]

theorem CodesNet.ofFields?_renamed (fields : Fields) :
    CodesNet.ofFields? (fields.map renamed) = CodesNet.ofFields? fields := by
  simp only [CodesNet.ofFields?, optional?_renamed ["label"] (by decide) nameBlind_string?,
    withDefault?_renamed [] ["codes"] (by decide) (nameBlind_listOf? nameBlind_string?)]

theorem RangeNet.ofFields?_renamed (fields : Fields) :
    RangeNet.ofFields? (fields.map renamed) = RangeNet.ofFields? fields := by
  simp only [RangeNet.ofFields?, optional?_renamed ["label"] (by decide) nameBlind_string?,
    required?_renamed ["operator"] (by decide) nameBlind_rangeOperator,
    required?_renamed ["value1"] (by decide) nameBlind_float?,
    optional?_renamed ["value2"] (by decide) nameBlind_float?]

theorem areReadable_iff (items : List Json) :
    areReadable items ↔ ∀ v ∈ items, v.isReadable := by
  induction items with
  | nil => simp [areReadable]
  | cons v vs ih => simp [areReadable, ih]

theorem isReadable_ofOption {α : Type} {write : α → Json} (h : ∀ a, (write a).isReadable)
    (o : Option α) : (ofOption write o).isReadable := by
  cases o with
  | none => rfl
  | some a => exact h a

theorem isReadable_ofList {α : Type} {write : α → Json} (h : ∀ a, (write a).isReadable)
    (l : List α) : (ofList write l).isReadable := by
  rw [ofList, isReadable, areReadable_iff]
  exact List.forall_mem_map.2 fun a _ => h a

theorem keptFields?_toJson (n : Net) : n.toJson.keptFields? = n.toJson.object? := by
  have htext : ∀ s, (Json.string s).isReadable := fun _ => rfl
  have hreal : ∀ x, (Json.real x).isReadable := fun _ => rfl
  have hreadable : n.toJson.isReadable := by
    cases n <;>
      simp [Net.toJson, RangeOperator.toJson, isReadable, areFieldsReadable,
        isReadable_ofOption htext, isReadable_ofList htext, isReadable_ofOption hreal]
  rw [keptFields?, if_pos hreadable]

/-- A number that may be missing. -/
theorem lossless_optionalReal :
    Lossless (ofOption Json.real) (nullable? float?) (fun o => o.toList.flatMap fun x => [x])
      (Option.map id) 0 :=
  Lossless.real.option (by simp)

theorem lossless_net : Lossless Net.toJson Net.ofJson? Net.floats id 2 where
  written n hn := by
    cases n with
    | codes n => exact .object (by simp)
    | range n =>
      simp only [Net.floats, List.forall_mem_cons, Option.mem_toList] at hn
      have hvalue1 : Written 1 (.real n.value1) := .scalar hn.1
      have hvalue2 :=
        (lossless_optionalReal.written n.value2 (by simpa using hn.2)).mono (Nat.zero_le 1)
      exact .object (by simp [RangeOperator.toJson, hvalue1, hvalue2])
  nameBlind := nameBlind_keptFields? fun fields => by
    simp only [required?_renamed ["kind"] (by decide) nameBlind_string?,
      CodesNet.ofFields?_renamed, RangeNet.ofFields?_renamed]
  read_write n := by
    cases n with
    | codes n =>
      rw [Net.ofJson?, keptFields?_toJson]
      simp [Net.toJson, object?, required?, fieldOf?, string?, CodesNet.ofFields?, optional?,
        withDefault?]
    | range n =>
      have hoperator : RangeOperator.ofJson? n.operator.toJson = some n.operator :=
        RangeOperator.ofExactSymbol?_symbol n.operator
      have hvalue2 := lossless_optionalReal.read_write n.value2
      rw [Net.ofJson?, keptFields?_toJson]
      simp [Net.toJson, object?, required?, fieldOf?, string?, RangeNet.ofFields?, optional?,
        withDefault?, hoperator, float?, hvalue2]

/-! ## Tab plans -/

/-- The doubles in a question to tabulate. -/
def TabQuestion.floats (q : TabQuestion) : List Float :=
  q.topBox.toList.flatten ++ q.bottomBox.toList.flatten ++ q.nets.flatMap Net.floats

/-- The doubles in a tab plan. -/
def TabPlan.floats (p : TabPlan) : List Float := p.questions.flatMap TabQuestion.floats

theorem nameBlind_tableKind : NameBlind TableKind.ofJson? := fun v =>
  congrArg (Option.map TableKind.ofName) (nameBlind_string? v)

/-- The codes of a box that may be missing. -/
theorem lossless_box :
    Lossless (ofOption (ofList Json.real)) (nullable? (listOf? float?))
      (fun o => o.toList.flatMap (List.flatMap fun x => [x])) (Option.map (List.map id)) 1 :=
  Lossless.real.list.option (by simp [ofList])

theorem lossless_tabQuestion :
    Lossless TabQuestion.toJson TabQuestion.ofJson? TabQuestion.floats id 4 where
  written q hq := by
    simp only [TabQuestion.floats, List.forall_mem_append] at hq
    have htop : Written 3 (ofOption (ofList .real) q.topBox) :=
      (lossless_box.written q.topBox (by simpa using hq.1.1)).mono (by decide)
    have hbottom : Written 3 (ofOption (ofList .real) q.bottomBox) :=
      (lossless_box.written q.bottomBox (by simpa using hq.1.2)).mono (by decide)
    have hnets := lossless_net.list.written q.nets hq.2
    exact .object (by simp [TableKind.toJson, htop, hbottom, hnets])
  nameBlind := nameBlind_object? fun fields => by
    have hbox := nameBlind_listOf? nameBlind_float?
    have hnets := nameBlind_listOf? lossless_net.nameBlind
    simp only [required?_renamed ["questionId", "variable"] (by decide) nameBlind_string?,
      withDefault?_renamed "" ["questionText"] (by decide) nameBlind_string?,
      withDefault?_renamed TableKind.categorical ["questionType"] (by decide) nameBlind_tableKind,
      optional?_renamed ["topBoxCodes"] (by decide) hbox,
      optional?_renamed ["bottomBoxCodes"] (by decide) hbox,
      withDefault?_renamed [] ["nets"] (by decide) hnets]
  read_write q := by
    have hkind : TableKind.ofJson? q.kind.toJson = some q.kind :=
      congrArg some (TableKind.ofName_name q.kind)
    have htop := lossless_box.read_write q.topBox
    have hbottom := lossless_box.read_write q.bottomBox
    have hnets := lossless_net.list.read_write q.nets
    simp [TabQuestion.ofJson?, TabQuestion.toJson, object?, required?, withDefault?, optional?,
      fieldOf?, string?, hkind, htop, hbottom, hnets]

theorem lossless_tabPlan : Lossless TabPlan.toJson TabPlan.ofJson? TabPlan.floats id 6 where
  written p hp := by
    have hquestions := lossless_tabQuestion.list.written p.questions hp
    exact .object (by simp [hquestions])
  nameBlind := nameBlind_object? fun fields => by
    have hquestions := nameBlind_listOf? lossless_tabQuestion.nameBlind
    simp only [optional?_renamed ["projectName"] (by decide) nameBlind_string?,
      withDefault?_renamed [] ["questions"] (by decide) hquestions]
  read_write p := by
    have hquestions := lossless_tabQuestion.list.read_write p.questions
    simp [TabPlan.ofJson?, TabPlan.toJson, object?, optional?, withDefault?, fieldOf?,
      hquestions]

end SurveyTables
