import SurveyTables.Proofs.Wire.Plans
import SurveyTables.Proofs.Wire.Questions

/-!
# What the wire keeps and what it refuses

* `Json.hasBoth`, `Json.anyItem` : an object with two fields, and an array in a field with a certain
  item; from them `BannerPlan.namesTwice` and `TabPlan.namesTwice` say that some object of a plan
  has a field under both of its names;
* `BannerPlan.ofJson?_of_namesTwice`, `TabPlan.ofJson?_of_namesTwice` : such a plan is refused;
* `read_back_or_refused` : banners, tab plans, questions and drafts of nets are read back from their
  texts, under either name of each field but not under both.
-/

namespace SurveyTables

/-! ## Fields under both names -/

namespace Json

def hasField (name : String) (fields : Fields) : Bool := fields.any fun f => f.1 == name

/-- The value is an object with fields of both names. -/
def hasBoth (a b : String) : Json → Bool
  | .object fields => hasField a fields && hasField b fields
  | _ => false

/-- In the object's fields of these names stands an array with such an item. -/
def anyItem (names : List String) (p : Json → Bool) : Json → Bool
  | .object fields => fields.any fun f => names.contains f.1 && (f.2.array?.getD []).any p
  | _ => false

theorem fieldOf?_of_hasField {a b : String} (hne : a ≠ b) {fields : Fields}
    (ha : hasField a fields) (hb : hasField b fields) : fieldOf? [a, b] fields = none := by
  obtain ⟨f, hf, hfa⟩ := List.any_eq_true.1 ha
  obtain ⟨g, hg, hgb⟩ := List.any_eq_true.1 hb
  have hfound : f ∈ fields.filter fun f => [a, b].contains f.1 := by
    simp [List.mem_filter, hf, beq_iff_eq.1 hfa]
  have hfound' : g ∈ fields.filter fun f => [a, b].contains f.1 := by
    simp [List.mem_filter, hg, beq_iff_eq.1 hgb]
  unfold fieldOf?
  generalize fields.filter (fun f => [a, b].contains f.1) = found at hfound hfound'
  rcases found with _ | ⟨x, _ | ⟨y, rest⟩⟩
  · cases hfound
  · rw [List.mem_singleton] at hfound hfound'
    rw [beq_iff_eq, hfound] at hfa
    rw [beq_iff_eq, hfound'] at hgb
    exact absurd (hfa.symm.trans hgb) hne
  · rfl

section
variable {α : Type} {read : Json → Option α}

theorem mapM_of_mem {items : List Json} {v : Json} (hv : v ∈ items) (h : read v = none) :
    items.mapM read = none := by
  induction items with
  | nil => cases hv
  | cons w ws ih =>
    rw [List.mapM_cons]
    rcases List.mem_cons.1 hv with rfl | hv
    · rw [h]
      rfl
    · rw [ih hv]
      cases read w <;> rfl

/-- An array with an item that is refused is refused with the field it stands in. -/
theorem withDefault?_of_anyItem {names : List String} {p : Json → Bool} {fields : Fields}
    (hitem : (Json.object fields).anyItem names p) (hp : ∀ v, p v → read v = none)
    (fallback : List α) : withDefault? (listOf? read) fallback names fields = none := by
  obtain ⟨f, hf, hmatch⟩ := List.any_eq_true.1 hitem
  obtain ⟨hname, hany⟩ := Bool.and_eq_true_iff.1 hmatch
  have hlist : listOf? read f.2 = none := by
    cases hv : f.2 with
    | array items =>
      rw [hv] at hany
      obtain ⟨v, hmem, hpv⟩ := List.any_eq_true.1 hany
      exact mapM_of_mem hmem (hp v hpv)
    | _ => rfl
  have hfound : f ∈ fields.filter fun f => names.contains f.1 := List.mem_filter.2 ⟨hf, hname⟩
  unfold withDefault? fieldOf?
  generalize fields.filter (fun f => names.contains f.1) = found at hfound
  rcases found with _ | ⟨x, _ | ⟨y, rest⟩⟩
  · cases hfound
  · rw [List.mem_singleton] at hfound
    subst hfound
    exact hlist
  · rfl

end

end Json

open Json

/-- The group has its columns under both names. -/
def BannerGroup.namesTwice (v : Json) : Bool := v.hasBoth "columns" "banner_columns"

/-- The banner has its groups under both names, or one of them its columns. -/
def BannerPlan.namesTwice (v : Json) : Bool :=
  v.hasBoth "groups" "banner_groups" ||
    v.anyItem ["groups", "banner_groups"] BannerGroup.namesTwice

/-- The question to tabulate has its id under both names. -/
def TabQuestion.namesTwice (v : Json) : Bool := v.hasBoth "questionId" "variable"

/-- A question of the plan has its id under both names. -/
def TabPlan.namesTwice (v : Json) : Bool := v.anyItem ["questions"] TabQuestion.namesTwice

theorem BannerGroup.ofJson?_of_namesTwice {v : Json} (h : namesTwice v) : ofJson? v = none := by
  cases v with
  | object fields =>
    obtain ⟨hcolumns, hsecond⟩ := Bool.and_eq_true_iff.1 h
    have hnone := fieldOf?_of_hasField (by decide) hcolumns hsecond
    simp [ofJson?, object?, withDefault?, hnone]
  | _ => cases h

theorem BannerPlan.ofJson?_of_namesTwice {v : Json} (h : namesTwice v) : ofJson? v = none := by
  cases v with
  | object fields =>
    have hgroups : withDefault? (listOf? BannerGroup.ofJson?) []
        ["groups", "banner_groups"] fields = none := by
      rcases Bool.or_eq_true_iff.1 h with hboth | hitem
      · obtain ⟨hgroups, hsecond⟩ := Bool.and_eq_true_iff.1 hboth
        rw [withDefault?, fieldOf?_of_hasField (by decide) hgroups hsecond]
        rfl
      · exact withDefault?_of_anyItem hitem (fun _ => BannerGroup.ofJson?_of_namesTwice) []
    simp [ofJson?, object?, hgroups]
  | _ => cases h

theorem TabQuestion.ofJson?_of_namesTwice {v : Json} (h : namesTwice v) : ofJson? v = none := by
  cases v with
  | object fields =>
    obtain ⟨hid, hsecond⟩ := Bool.and_eq_true_iff.1 h
    have hnone := fieldOf?_of_hasField (by decide) hid hsecond
    simp [ofJson?, object?, required?, hnone]
  | _ => cases h

theorem TabPlan.ofJson?_of_namesTwice {v : Json} (h : namesTwice v) : ofJson? v = none := by
  cases v with
  | object fields =>
    have hquestions := withDefault?_of_anyItem h (fun _ => TabQuestion.ofJson?_of_namesTwice) []
    simp [ofJson?, object?, hquestions]
  | _ => cases h

/-! ## Read back or refused -/

/-- Banners, tab plans, questions and drafts of nets are read back from their texts, whichever of
its two names each field goes by: an optional value that is no answer as none, everything else as it
was. The digits of the doubles have to denote them again, which is the promise of a JSON library for
finite doubles. A text with a field under both of its names in one object is refused. -/
theorem read_back_or_refused :
    (∀ (b : BannerPlan) (w : Json), w.SameUpToNames b.toJson →
      (parse? w.compact).bind BannerPlan.ofJson? = some b) ∧
    (∀ (p : TabPlan) (w : Json), (∀ x ∈ p.floats, RoundTrips x) → w.SameUpToNames p.toJson →
      (parse? w.compact).bind TabPlan.ofJson? = some p) ∧
    (∀ (q : Question) (w : Json), (∀ x ∈ q.floats, RoundTrips x) → w.SameUpToNames q.toJson →
      (parse? w.compact).bind Question.ofJson? = some q.settled) ∧
    (∀ (d : NetDraft) (w : Json), (∀ x ∈ d.floats, RoundTrips x) → w.SameUpToNames d.toJson →
      (parse? w.compact).bind NetDraft.ofJson? = some d.settled) ∧
    (∀ (text : String) (v : Json), parse? text = some v → BannerPlan.namesTwice v →
      (parse? text).bind BannerPlan.ofJson? = none) ∧
    (∀ (text : String) (v : Json), parse? text = some v → TabPlan.namesTwice v →
      (parse? text).bind TabPlan.ofJson? = none) := by
  refine ⟨fun b w hw => ?_, fun p w hp hw => ?_, fun q w hq hw => ?_, fun d w hd hw => ?_,
    fun text v hparse htwice => ?_, fun text v hparse htwice => ?_⟩
  · exact lossless_bannerPlan.parse?_compact (by decide) (by simp) hw
  · exact lossless_tabPlan.parse?_compact (by decide) hp hw
  · exact lossless_question.parse?_compact (by decide) hq hw
  · exact lossless_netDraft.parse?_compact (by decide) hd hw
  · rw [hparse, Option.bind_some, BannerPlan.ofJson?_of_namesTwice htwice]
  · rw [hparse, Option.bind_some, TabPlan.ofJson?_of_namesTwice htwice]

/-- A banner and a tab plan under second names, a question and a draft with values that are no
answer, and two plans with a name too many. -/
theorem read_back_or_refused_second_names :
    (parse? (Json.object [("name", .string "B"), ("banner_groups", .array [.object [
        ("id", .string "g"), ("name", .string "Sex \"S1\""), ("banner_columns", .array [.object [
          ("id", .string "c"), ("name", .string "Men"),
          ("equation", .string "S1=1")]])]])]).compact).bind BannerPlan.ofJson? =
      some ⟨"B", [⟨"g", "Sex \"S1\"", [⟨"c", "Men", "S1=1", none⟩]⟩]⟩ ∧
    (parse? (Json.object [("projectName", .null), ("questions", .array [.object [
        ("variable", .string "Q1"), ("questionText", .string "Age"),
        ("questionType", .string "likert"), ("topBoxCodes", .array [.real 4, .real 5]),
        ("bottomBoxCodes", .null), ("nets", .array [
          .object [("kind", .string "codes"), ("label", .string "Low"),
            ("codes", .array [.string "1"])],
          .object [("kind", .string "range"), ("label", .null), ("operator", .string "-"),
            ("value1", .real 18), ("value2", .real 24.5)]])]])]).compact).bind TabPlan.ofJson? =
      some ⟨none, [⟨"Q1", "Age", .likert, some [4, 5], none,
        [.codes ⟨some "Low", ["1"]⟩, .range ⟨none, .between, 18, some 24.5⟩]⟩]⟩ ∧
    (parse? (Question.toJson ⟨"Q1", "single", none, [⟨some .empty, none⟩, ⟨some (.number 2), none⟩],
        none, none, some ⟨some 5, ["Good"]⟩⟩).compact).bind Question.ofJson? =
      some ⟨"Q1", "single", none, [⟨none, none⟩, ⟨some (.number 2), none⟩], none, none,
        some ⟨some 5, ["Good"]⟩⟩ ∧
    (parse? (NetDraft.toJson ⟨some "range", none, some [.empty], none, some (.number 18),
        some .empty⟩).compact).bind NetDraft.ofJson? =
      some ⟨some "range", none, some [.empty], none, some (.number 18), none⟩ ∧
    (parse? (Json.object [("groups", .array []), ("banner_groups", .array [])]).compact).bind
      BannerPlan.ofJson? = none ∧
    (parse? (Json.object [("questions", .array [.object [("questionId", .string "Q1"),
      ("variable", .string "Q1")]])]).compact).bind TabPlan.ofJson? = none := by
  obtain ⟨hbanner, hplan, hquestion, hdraft, hbanner', hplan'⟩ := read_back_or_refused
  have hempty : Written 1 (.array []) := .array (by simp)
  have hgroups : Written 2 (.object [("groups", .array []), ("banner_groups", .array [])]) :=
    .object (by simp [hempty])
  have hitem : Written 1 (.object [("questionId", .string "Q1"), ("variable", .string "Q1")]) :=
    .object (by simp)
  have hitems : Written 2 (.array [.object [("questionId", .string "Q1"),
      ("variable", .string "Q1")]]) :=
    .array (by simp [hitem])
  have hquestions : Written 3 (.object [("questions", .array [.object [("questionId", .string "Q1"),
      ("variable", .string "Q1")]])]) :=
    .object (by simp [hitems])
  exact ⟨hbanner _ _ rfl, hplan _ _ (by decide +kernel) rfl, hquestion _ _ (by decide +kernel) rfl,
    hdraft _ _ (by decide +kernel) rfl,
    hbanner' _ _ (Json.parse?_compact hgroups (by decide)) (by decide),
    hplan' _ _ (Json.parse?_compact hquestions (by decide)) (by decide)⟩

end SurveyTables
