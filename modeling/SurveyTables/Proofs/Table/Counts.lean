import Mathlib.Algebra.BigOperators.Group.List.Lemmas
import Mathlib.Algebra.GroupWithZero.Nat
import SurveyTables.Proofs.Equation.WrittenForm
import SurveyTables.Proofs.Table.Tally

/-!
# Exact counts

A cell of codes counts respondents, not texts: each code once, in the order in which it first
occurs, with the number of those who gave it. A net adds the codes that belong to it.

* `Record.shows` : the record has an answer that is shown as a code;
* `pairwise_findIdx_eraseDups` : a list with each element once keeps the order of first occurrence;
* `sum_count_filter` : the numbers of occurrences of some elements add up;
* `Net.matchesValue_text_display` : whether an answer belongs to a net can be seen from its code, if
  a number is shown as a text that reads back;
* `CategoricalStats.Exact`, `exact_categoricalStats` : all of this of a cell.
-/

namespace SurveyTables

/-! ## The order of first occurrence -/

section
variable {α : Type} (f : α → Option String)

theorem findIdx_of_mem_filterMap {l : List α} {c : String} (h : c ∈ l.filterMap f) (m : List α) :
    (l ++ m).findIdx (fun x => f x == some c) = l.findIdx (fun x => f x == some c) ∧
      l.findIdx (fun x => f x == some c) < l.length := by
  obtain ⟨x, hx, hc⟩ := List.mem_filterMap.1 h
  have hlt : l.findIdx (fun x => f x == some c) < l.length :=
    List.findIdx_lt_length_of_exists ⟨x, hx, beq_iff_eq.2 hc⟩
  exact ⟨by rw [List.findIdx_append, if_pos hlt], hlt⟩

/-- What is found in a list is kept in the order of the places where it is found first. -/
theorem pairwise_findIdx_eraseDups (l : List α) :
    (l.filterMap f).eraseDups.Pairwise fun a b =>
      l.findIdx (fun x => f x == some a) < l.findIdx (fun x => f x == some b) := by
  induction l using List.reverseRecOn with
  | nil => exact List.Pairwise.nil
  | append_singleton l x ih =>
    have hold : (l.filterMap f).eraseDups.Pairwise fun a b =>
        (l ++ [x]).findIdx (fun x => f x == some a) <
          (l ++ [x]).findIdx (fun x => f x == some b) := by
      refine ih.imp_of_mem fun {a b} ha hb hab => ?_
      rw [List.mem_eraseDups] at ha hb
      rwa [(findIdx_of_mem_filterMap f ha [x]).1, (findIdx_of_mem_filterMap f hb [x]).1]
    rw [List.filterMap_append]
    cases hx : f x with
    | none => simpa [hx] using hold
    | some c =>
      have hone : [x].filterMap f = [c] := by simp [hx]
      rw [hone, eraseDups_append_singleton]
      split
      · exact hold
      · rename_i hc
        refine List.pairwise_append.2 ⟨hold, List.pairwise_singleton _ _, fun a ha b hb => ?_⟩
        obtain rfl := List.mem_singleton.1 hb
        have hfirst := findIdx_of_mem_filterMap f (List.mem_eraseDups.1 ha) [x]
        -- nothing before the last place gives the new element
        have hnone : ¬ l.findIdx (fun y => f y == some b) < l.length := by
          intro hlt
          obtain ⟨y, hy, hyb⟩ := List.findIdx_lt_length.1 hlt
          exact hc (List.mem_filterMap.2 ⟨y, hy, beq_iff_eq.1 hyb⟩)
        rw [hfirst.1, List.findIdx_append, if_neg hnone]
        exact Nat.lt_add_left _ hfirst.2

end

/-! ## Adding counts up -/

theorem sum_count_filter (p : String → Bool) (l : List String) :
    ((l.eraseDups.filter p).map fun c => l.count c).sum = l.countP p := by
  rw [← List.sum_map_count_dedup_filter_eq_countP p l]
  exact (((eraseDups_perm_dedup l).filter p).map _).sum_eq

/-! ## Nets and codes -/

/-- A number is shown as a text that reads back, unless it is not a number at all. -/
def Value.ReadsBack (v : Value) : Prop :=
  ∀ x, v = .number x → x.isNaN = false → SurveyTables.ReadsBack x

theorem RangeNet.contains_of_beq {x y : Float} (h : x == y) (n : RangeNet) :
    n.contains x = n.contains y := by
  have hbeq : (x == n.value1) = (y == n.value1) := by
    rw [Bool.eq_iff_iff, beq_iff_compare, beq_iff_compare, compare_left_congr h]
  unfold contains
  simp only [ge_iff_le, gt_iff_lt, le_iff_compare, lt_iff_compare, compare_left_congr h,
    compare_right_congr h, hbeq]

theorem Value.display_ne_empty {v : Value} (hm : v.isMissing = false) (hread : v.ReadsBack) :
    v.display ≠ "" := by
  cases v with
  | empty => cases hm
  | text s => exact of_decide_eq_false hm
  | number x =>
    cases hx : x.isNaN with
    | true =>
      rw [display, numberText_of_isNaN hx]
      decide
    | false =>
      obtain ⟨y, hy, -⟩ := hread x rfl hx
      intro hempty
      rw [show numberText x = "" from hempty] at hy
      have hnone : numberOfText? "" = none := by decide +kernel
      rw [hnone] at hy
      cases hy

/-- A net tells answers apart by what is shown of them. -/
theorem Net.matchesValue_text_display {v : Value} (hm : v.isMissing = false) (hread : v.ReadsBack)
    (n : Net) : n.matchesValue (.text v.display) = n.matchesValue v := by
  have hshown : (Value.text v.display).isMissing = false :=
    decide_eq_false (Value.display_ne_empty hm hread)
  cases n with
  | codes c => simp only [matchesValue, hm, hshown, Value.display_text]
  | range r =>
    simp only [matchesValue, hm, hshown]
    congr 1
    cases v with
    | empty => cases hm
    | text s => rfl
    | number x =>
      show (numberOfText? (numberText x)).any r.contains = (Value.number x).number?.any r.contains
      cases hx : x.isNaN with
      | true => rw [numberText_of_isNaN hx, numberOfText?_nan, Value.number?, if_pos hx]
      | false =>
        obtain ⟨y, hy, hyx⟩ := hread x rfl hx
        rw [hy, Value.number?, if_neg (by rw [hx]; exact Bool.false_ne_true), Option.any_some,
          Option.any_some, RangeNet.contains_of_beq hyx]

/-! ## A cell -/

/-- The record has an answer that is shown as the code. -/
def Record.shows (questionId code : String) (r : Record) : Bool :=
  (r.response? questionId).map Value.display == some code

/-- The cell says of the records which codes they show, in the order of first occurrence, how many
show each of them, and how many belong to each net. -/
structure CategoricalStats.Exact (questionId : String) (nets : List Net) (records : List Record)
    (s : CategoricalStats) : Prop where
  base : s.base = records.length
  distinct : (s.frequencies.map Frequency.code).Nodup
  order : (s.frequencies.map Frequency.code).Pairwise fun a b =>
    records.findIdx (Record.shows questionId a) < records.findIdx (Record.shows questionId b)
  complete : ∀ code,
    code ∈ s.frequencies.map Frequency.code ↔ ∃ r ∈ records, r.shows questionId code
  count : ∀ f ∈ s.frequencies, f.count = records.countP (Record.shows questionId f.code)
  total : (s.frequencies.map Frequency.count).sum =
    records.countP fun r => (r.response? questionId).isSome
  total_le : (s.frequencies.map Frequency.count).sum ≤ s.base
  nets : (∀ r ∈ records, ∀ v ∈ r.response? questionId, v.ReadsBack) →
    s.nets.map NetFrequency.count = nets.map fun n =>
      ((s.frequencies.filter fun f => n.matchesValue (.text f.code)).map Frequency.count).sum

section
variable (questionId : String) (records : List Record)

theorem answerCodes_eq_filterMap : answerCodes questionId records =
    records.filterMap fun r => (r.response? questionId).map Value.display :=
  List.map_filterMap

theorem count_answerCodes (code : String) :
    (answerCodes questionId records).count code =
      records.countP (Record.shows questionId code) := by
  rw [answerCodes_eq_filterMap, List.count, List.countP_filterMap]
  refine List.countP_congr fun r _ => ?_
  unfold Record.shows
  cases r.response? questionId <;> simp

theorem length_answerCodes : (answerCodes questionId records).length =
    records.countP fun r => (r.response? questionId).isSome := by
  rw [answerCodes, List.length_map, responses, List.length_filterMap_eq_countP]

/-- The statistics of a cell in terms of the codes of the answers. -/
theorem map_frequencies_categoricalStats {β : Type} {base : Nat} (hb : base ≠ 0) (nets : List Net)
    (g : Frequency → β) :
    (categoricalStats questionId nets base records).frequencies.map g =
      (answerCodes questionId records).eraseDups.map fun c =>
        g ⟨c, (answerCodes questionId records).count c,
          percentOf base ((answerCodes questionId records).count c)⟩ := by
  rw [frequencies_categoricalStats hb, tally_eq, List.map_map, List.map_map]
  rfl

end

/-- A cell of someone is exact. -/
theorem exact_categoricalStats (questionId : String) (nets : List Net) {records : List Record}
    (hb : 0 < records.length) :
    (categoricalStats questionId nets records.length records).Exact questionId nets records := by
  have hne := Nat.ne_of_gt hb
  have hcodes : (categoricalStats questionId nets records.length records).frequencies.map
      Frequency.code = (answerCodes questionId records).eraseDups := by
    rw [map_frequencies_categoricalStats _ _ hne]
    exact List.map_id _
  have hsum (p : String → Bool) : (((categoricalStats questionId nets records.length
      records).frequencies.filter fun f => p f.code).map Frequency.count).sum =
        (answerCodes questionId records).countP p := by
    rw [← sum_count_filter, frequencies_categoricalStats hne, tally_eq, List.map_map,
      List.filter_map, List.map_map]
    rfl
  have htotal : ((categoricalStats questionId nets records.length records).frequencies.map
      Frequency.count).sum = records.countP fun r => (r.response? questionId).isSome := by
    have hall := hsum fun _ => true
    rwa [List.filter_true, List.countP_true, length_answerCodes] at hall
  refine ⟨base_categoricalStats, nodup_codes_categoricalStats, ?_, ?_, ?_, htotal, ?_, ?_⟩
  · rw [hcodes, answerCodes_eq_filterMap]
    exact pairwise_findIdx_eraseDups _ _
  · intro code
    rw [hcodes, List.mem_eraseDups, ← List.count_pos_iff, count_answerCodes, List.countP_pos_iff]
  · intro f hf
    obtain ⟨c, -, rfl⟩ := (mem_frequencies_iff hne).1 hf
    exact count_answerCodes questionId records c
  · rw [htotal, base_categoricalStats]
    exact List.countP_le_length
  · intro hread
    rw [nets_categoricalStats hne, List.map_map]
    refine List.map_congr_left fun n _ => ?_
    rw [hsum fun c => n.matchesValue (.text c), answerCodes, List.countP_map]
    refine List.countP_congr fun v hv => ?_
    obtain ⟨r, hr, hrv⟩ := List.mem_filterMap.1 hv
    have hm : v.isMissing = false := by simpa using (Option.filter_eq_some_iff.1 hrv).2
    rw [Function.comp_apply, Net.matchesValue_text_display hm (hread r hr v hrv)]

/-- Five respondents, of whom two give one code as a number and as a text and one gives none, and
two nets. -/
theorem exact_categoricalStats_mixed :
    let records := [Record.ofList [("Q", .text "2.5")], Record.ofList [("Q", .number 7)],
      Record.ofList [("Q", .number 2.5)], Record.ofList [("Q", .text "")],
      Record.ofList [("Q", .text "no")]]
    let nets : List Net := [.codes ⟨none, ["no", "2.5"]⟩, .range ⟨none, .less, 7, none⟩]
    let s := categoricalStats "Q" nets records.length records
    0 < records.length ∧ s.Exact "Q" nets records ∧
      (∀ r ∈ records, ∀ v ∈ r.response? "Q", v.ReadsBack) ∧
      s.frequencies.map Frequency.code = ["2.5", "7", "no"] ∧
      (s.nets.map NetFrequency.count) = [3, 2] := by
  intro records nets s
  have hexact : s.Exact "Q" nets records := exact_categoricalStats "Q" nets (by decide)
  have htext (t : String) : (Value.text t).ReadsBack := fun _ h => nomatch h
  have hnumber {x : Float} (h : ReadsBack x) : (Value.number x).ReadsBack := by
    rintro _ ⟨⟩ -
    exact h
  have hread : ∀ r ∈ records, ∀ v ∈ r.response? "Q", v.ReadsBack := by
    have hvalues : responses "Q" records = [.text "2.5", .number 7, .number 2.5, .text "no"] := by
      decide +kernel
    intro r hr v hv
    have hmem : v ∈ responses "Q" records := List.mem_filterMap.2 ⟨r, hr, hv⟩
    rw [hvalues] at hmem
    simp only [List.mem_cons, List.not_mem_nil, or_false] at hmem
    rcases hmem with rfl | rfl | rfl | rfl
    · exact htext _
    · exact hnumber ⟨7, by decide +kernel⟩
    · exact hnumber ⟨2.5, by decide +kernel⟩
    · exact htext _
  refine ⟨by decide, hexact, hread, by decide +kernel, ?_⟩
  rw [hexact.nets hread]
  decide +kernel

end SurveyTables
