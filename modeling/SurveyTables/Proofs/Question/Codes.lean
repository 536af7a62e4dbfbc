import Mathlib.Data.List.Nodup
import Std.Data.String.ToNat
import SurveyTables.Question.Choices

/-!
# Codes that tell the choices of a question apart

A plain option without a code of its own is counted under its position, and choices of any other
shape always are.

* `QuestionOption.givenCode?`, `Question.givenCodes` : the codes that were given;
* `Question.FreePositions` : no option was given the position of one that goes by its position;
* `Choice.nodup_numbered`, `Choice.labelOf_of_mem` : positions tell choices apart, and codes that
  do so lead back to their choices;
* `Question.nodup_codes_iff` : if the given codes differ, the codes of all choices differ exactly if
  the positions are free.
-/

namespace SurveyTables

/-! ## Choices with different codes -/

namespace Choice

theorem toString_succ_inj {i j : Nat} : toString (i + 1) = toString (j + 1) ↔ i = j := by
  refine Nat.repr_inj.trans ?_
  omega

theorem nodup_numbered (labels : List String) : ((numbered labels).map code).Nodup := by
  rw [codes_numbered]
  exact List.nodup_range.map fun i j h => toString_succ_inj.1 h

theorem find?_of_mem {choices : List Choice} (h : (choices.map code).Nodup) {c : Choice}
    (hc : c ∈ choices) : choices.find? (fun d => decide (d.code = c.code)) = some c := by
  obtain ⟨d, hd⟩ : ∃ d, choices.find? (fun d => decide (d.code = c.code)) = some d :=
    Option.isSome_iff_exists.1 (List.find?_isSome.2 ⟨c, hc, decide_eq_true rfl⟩)
  have hcode : d.code = c.code := by simpa using List.find?_some hd
  rw [hd, List.inj_on_of_nodup_map h (List.mem_of_find?_eq_some hd) hc hcode]

/-- A code leads to the label of the choice that it belongs to. -/
theorem labelOf_of_mem {choices : List Choice} (h : (choices.map code).Nodup) {c : Choice}
    (hc : c ∈ choices) : labelOf choices c.code = if c.label = "" then c.code else c.label := by
  rw [labelOf, find?_of_mem h hc]

end Choice

/-! ## Given codes -/

/-- The code that the option was given, as it is shown. -/
def QuestionOption.givenCode? (o : QuestionOption) : Option String :=
  (o.code.filter fun v => !v.isMissing).map Value.display

theorem QuestionOption.code_choice (i : Nat) (o : QuestionOption) :
    (o.choice i).code = o.givenCode?.getD (toString (i + 1)) := by
  unfold choice givenCode?
  cases o.code.filter fun v => !v.isMissing <;> rfl

namespace Question

/-- The codes that were given to plain options. -/
def givenCodes (q : Question) : List String := q.options.filterMap QuestionOption.givenCode?

/-- No code that was given is the position of an option without one. -/
def FreePositions (q : Question) : Prop :=
  ∀ i o, q.options[i]? = some o → o.givenCode? = none → toString (i + 1) ∉ q.givenCodes

variable {q : Question}

theorem mem_givenCodes {i : Nat} (hi : i < q.options.length) {code : String}
    (h : q.options[i].givenCode? = some code) : code ∈ q.givenCodes :=
  List.mem_filterMap.2 ⟨_, List.getElem_mem hi, h⟩

/-- Two options in a row of options do not share a given code. -/
theorem givenCode?_ne (h : q.givenCodes.Nodup) {i j : Nat} (hij : i < j)
    (hj : j < q.options.length) {a b : String}
    (ha : q.options[i].givenCode? = some a) (hb : q.options[j].givenCode? = some b) : a ≠ b :=
  List.pairwise_iff_getElem.1 (List.pairwise_filterMap.1 h) i j (by omega) hj hij a ha b hb

theorem code_choice_ne (h : q.givenCodes.Nodup) (hfree : q.FreePositions) {i j : Nat} (hij : i < j)
    (hj : j < q.options.length) :
    (q.options[i].choice i).code ≠ (q.options[j].choice j).code := by
  have hi : i < q.options.length := by omega
  rw [QuestionOption.code_choice, QuestionOption.code_choice]
  cases ha : q.options[i].givenCode? with
  | none =>
    have hout := hfree i _ (List.getElem?_eq_getElem hi) ha
    cases hb : q.options[j].givenCode? with
    | none =>
      intro heq
      exact absurd (Choice.toString_succ_inj.1 heq) (by omega)
    | some b =>
      rintro rfl
      exact hout (mem_givenCodes hj hb)
  | some a =>
    cases hb : q.options[j].givenCode? with
    | none =>
      have hout := hfree j _ (List.getElem?_eq_getElem hj) hb
      rintro rfl
      exact hout (mem_givenCodes hi ha)
    | some b => exact givenCode?_ne h hij hj ha hb

theorem freePositions_of_nodup (h : (q.authoredChoices.map Choice.code).Nodup) :
    q.FreePositions := by
  intro i o hi ho hmem
  obtain ⟨p, hp, hcode⟩ := List.mem_filterMap.1 hmem
  obtain ⟨j, hj, rfl⟩ := List.getElem_of_mem hp
  obtain ⟨hlt, rfl⟩ := List.getElem?_eq_some_iff.1 hi
  have hne : q.options ≠ [] := List.ne_nil_of_mem hp
  rw [authoredChoices, if_neg (by simpa using hne)] at h
  -- the codes at the two places are the same, so the places are, but only one has a code
  have hij : i = j := by
    have hlength : i < ((q.options.mapIdx QuestionOption.choice).map Choice.code).length := by
      simpa using hlt
    refine (List.getElem?_inj hlength h).1 ?_
    simp [List.getElem?_eq_getElem hlt, List.getElem?_eq_getElem hj, QuestionOption.code_choice, ho,
      hcode]
  subst hij
  rw [ho] at hcode
  cases hcode

theorem nodup_authoredChoices_iff (h : q.givenCodes.Nodup) :
    (q.authoredChoices.map Choice.code).Nodup ↔ q.FreePositions := by
  refine ⟨freePositions_of_nodup, fun hfree => ?_⟩
  unfold authoredChoices
  split
  · exact Choice.nodup_numbered q.labels
  · refine List.pairwise_iff_getElem.2 fun i j hi hj hij => ?_
    simp only [List.getElem_map, List.getElem_mapIdx]
    exact code_choice_ne h hfree hij (by simpa using hj)

theorem nodup_validCodes_iff (h : q.givenCodes.Nodup) : q.validCodes.Nodup ↔ q.FreePositions := by
  rw [← nodup_authoredChoices_iff h]
  unfold validCodes choices
  split
  · rename_i hnil
    rw [List.isEmpty_iff.1 hnil]
    refine iff_of_true ?_ List.nodup_nil
    cases q.likertMode? with
    | none => exact List.nodup_nil
    | some mode => exact Choice.nodup_numbered _
  · rfl

/-- If the codes that were given differ, the codes of all choices differ exactly if no given code is
the position of an option that has none. Then each of the codes leads to its own choice. -/
theorem nodup_codes_iff (q : Question) (h : q.givenCodes.Nodup) :
    ((q.authoredChoices.map Choice.code).Nodup ↔ q.FreePositions) ∧
      (q.validCodes.Nodup ↔ q.FreePositions) ∧
      (q.FreePositions → ∀ c ∈ q.choices,
        Choice.labelOf q.choices c.code = if c.label = "" then c.code else c.label) :=
  ⟨nodup_authoredChoices_iff h, nodup_validCodes_iff h,
    fun hfree _ hc => Choice.labelOf_of_mem ((nodup_validCodes_iff h).2 hfree) hc⟩

/-- A text, a position and a number as codes, the last without a label. -/
theorem nodup_codes_iff_mixed :
    let options : List QuestionOption :=
      [⟨some (.text "a"), some "Yes"⟩, ⟨none, some "No"⟩, ⟨some (.number 9), none⟩]
    let q : Question := ⟨"Q1", "single", none, options, none, none, none⟩
    q.givenCodes.Nodup ∧ q.FreePositions ∧ q.validCodes = ["a", "2", "9"] ∧ q.validCodes.Nodup ∧
      Choice.labelOf q.choices "2" = "No" ∧ Choice.labelOf q.choices "9" = "9" := by
  intro options q
  have hgiven : q.givenCodes.Nodup := by decide +kernel
  have hcodes : q.validCodes = ["a", "2", "9"] := by decide +kernel
  obtain ⟨-, hvalid, hlabels⟩ := nodup_codes_iff q hgiven
  have hfree : q.FreePositions := hvalid.1 (by rw [hcodes]; decide)
  exact ⟨hgiven, hfree, hcodes, hvalid.2 hfree, hlabels hfree ⟨"2", "No"⟩ (by decide +kernel),
    hlabels hfree ⟨"9", ""⟩ (by decide +kernel)⟩

/-- The first option was given the position of the second, which goes by it. Both are then found
under the label of the first. -/
theorem not_nodup_codes_of_position :
    let options : List QuestionOption := [⟨some (.number 2), some "Yes"⟩, ⟨none, some "No"⟩]
    let q : Question := ⟨"Q1", "single", none, options, none, none, none⟩
    q.givenCodes.Nodup ∧ q.authoredChoices = [⟨"2", "Yes"⟩, ⟨"2", "No"⟩] ∧
      ¬ (q.authoredChoices.map Choice.code).Nodup ∧ ¬ q.validCodes.Nodup ∧
      Choice.labelOf q.choices "2" = "Yes" := by
  decide +kernel

end Question

end SurveyTables
