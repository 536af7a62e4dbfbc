import Mathlib.Data.List.Find
import Mathlib.Data.Nat.Find
import SurveyTables.Proofs.Text.Search
import SurveyTables.Question.Likert

/-!
# What the labels of a question say of it

* `Covers`, `Mentions`, `Opposed` : what can be read from labels, as statements about parts of the
  labels in lower case;
* `MatchesAt` : the first vocabulary that is covered, with its place in the table;
* `Classifies` : the rules in their order, `classifies_iff` that `classifyLabels` follows them;
* `Covers.mono`, `Mentions.mono` : more labels do not cover or mention less;
  `MatchesAt.exists_le` : they do not move the match behind its place;
* `classifyLabels_ordered_monotone` : all of it;
* `classifyLabels_eq_of_lowered` : any lower case of the labels will do, since the keywords are ASCII
  texts (`ascii_vocabularies`, `ascii_words`).
-/

namespace SurveyTables

variable {labels : List String}

/-- The labels in lower case, with a space between any two. -/
def joinedLabels (labels : List String) : List Char :=
  [' '].intercalate (labels.map fun l => Text.lower l.toList)

/-- Three fifths of the keywords, or more, are parts of the joined labels. -/
def Covers (labels keywords : List String) : Prop :=
  3 * keywords.length ≤
    5 * keywords.countP fun k => decide (k.toList <:+: joinedLabels labels)

/-- One of the words is a part of one of the labels. -/
def Mentions (labels words : List String) : Prop :=
  ∃ label ∈ labels, ∃ w ∈ words, w.toList <:+: Text.lower label.toList

/-- The labels name both ends of a scale, or its middle and an end. -/
def Opposed (labels : List String) : Prop :=
  (Mentions labels negativeWords ∧ Mentions labels positiveWords) ∨
    (Mentions labels neutralWords ∧
      (Mentions labels negativeWords ∨ Mentions labels positiveWords))

/-- There are enough labels, and the vocabulary at place `i` of the table, one for `v`, is the
first that they cover. -/
structure MatchesAt (labels : List String) (i : Nat) (v : ScaleVocabulary) : Prop where
  enough : 4 ≤ labels.length
  covers : ∃ keywords, vocabularies[i]? = some (v, keywords) ∧ Covers labels keywords
  first : ∀ j, j < i → ∀ entry, vocabularies[j]? = some entry → ¬ Covers labels entry.2

/-- The rules for labels, in the order in which they are tried. -/
inductive Classifies (labels : List String) : Option LikertRule → Prop where
  | tooFew (h : labels.length < 4) : Classifies labels none
  | vocabulary {i : Nat} {v : ScaleVocabulary} (h : MatchesAt labels i v) :
      Classifies labels (some (.vocabulary v))
  | opposed (enough : 4 ≤ labels.length)
      (uncovered : ∀ entry ∈ vocabularies, ¬ Covers labels entry.2) (h : Opposed labels) :
      Classifies labels (some .symmetricKeywords)
  | nothing (enough : 4 ≤ labels.length)
      (uncovered : ∀ entry ∈ vocabularies, ¬ Covers labels entry.2) (h : ¬ Opposed labels) :
      Classifies labels none

/-! ## The tests of the classifier -/

theorem coversVocabulary_iff (keywords : List String) :
    coversVocabulary (joinedLabels labels) keywords = true ↔ Covers labels keywords := by
  have hfound : ∀ k : String, Text.occursIn k.toList (joinedLabels labels) =
      decide (k.toList <:+: joinedLabels labels) := by
    intro k
    rw [Bool.eq_iff_iff, Text.occursIn_iff, decide_eq_true_iff]
  simp only [coversVocabulary, Covers, hfound, decide_eq_true_iff]

theorem hasWord_iff (words : List String) :
    hasWord words (labels.map fun l => Text.lower l.toList) = true ↔ Mentions labels words := by
  simp only [hasWord, Mentions, List.any_map, List.any_eq_true, Function.comp_apply,
    Text.occursIn_iff]

theorem hasOppositeWords_iff :
    hasOppositeWords (labels.map fun l => Text.lower l.toList) = true ↔ Opposed labels := by
  simp only [hasOppositeWords, Opposed, Bool.or_eq_true, Bool.and_eq_true, hasWord_iff]

theorem firstVocabulary?_eq_none :
    firstVocabulary? (joinedLabels labels) = none ↔
      ∀ entry ∈ vocabularies, ¬ Covers labels entry.2 := by
  simp only [firstVocabulary?, Option.map_eq_none_iff, List.find?_eq_none, coversVocabulary_iff]

theorem firstVocabulary?_eq_some (enough : 4 ≤ labels.length) {v : ScaleVocabulary} :
    firstVocabulary? (joinedLabels labels) = some v ↔ ∃ i, MatchesAt labels i v := by
  unfold firstVocabulary?
  simp only [Option.map_eq_some_iff, List.find?_eq_some_iff_getElem, coversVocabulary_iff,
    Bool.not_eq_true', ← Bool.not_eq_true]
  constructor
  · rintro ⟨⟨w, keywords⟩, ⟨hcovers, i, hi, hentry, hfirst⟩, rfl⟩
    refine ⟨i, enough, ⟨keywords, List.getElem?_eq_some_iff.2 ⟨hi, hentry⟩, hcovers⟩, ?_⟩
    intro j hj entry he
    obtain ⟨-, rfl⟩ := List.getElem?_eq_some_iff.1 he
    exact hfirst j hj
  · rintro ⟨i, -, ⟨keywords, hentry, hcovers⟩, hfirst⟩
    obtain ⟨hi, he⟩ := List.getElem?_eq_some_iff.1 hentry
    refine ⟨(v, keywords), ⟨hcovers, i, hi, he, fun j hj => ?_⟩, rfl⟩
    exact hfirst j hj _ (List.getElem?_eq_getElem (hj.trans hi))

theorem classifyLabels_of_enough (enough : 4 ≤ labels.length) :
    classifyLabels labels = match firstVocabulary? (joinedLabels labels) with
      | some v => some (.vocabulary v)
      | none => if hasOppositeWords (labels.map fun l => Text.lower l.toList) then
          some .symmetricKeywords else none :=
  if_neg (Nat.not_lt.2 enough)

/-! ## The rules -/

theorem classifies (labels : List String) : Classifies labels (classifyLabels labels) := by
  rcases Nat.lt_or_ge labels.length 4 with hfew | enough
  · have hnone : classifyLabels labels = none := if_pos hfew
    rw [hnone]
    exact .tooFew hfew
  · rw [classifyLabels_of_enough enough]
    cases hv : firstVocabulary? (joinedLabels labels) with
    | some v =>
      obtain ⟨i, hi⟩ := (firstVocabulary?_eq_some enough).1 hv
      exact .vocabulary hi
    | none =>
      have uncovered := firstVocabulary?_eq_none.1 hv
      show Classifies labels (if _ then _ else _)
      split
      · rename_i h
        exact .opposed enough uncovered (hasOppositeWords_iff.1 h)
      · rename_i h
        exact .nothing enough uncovered fun hopposed => h (hasOppositeWords_iff.2 hopposed)

theorem classifies_iff (r : Option LikertRule) : Classifies labels r ↔ classifyLabels labels = r := by
  refine ⟨fun h => ?_, fun h => h ▸ classifies labels⟩
  cases h with
  | tooFew h => exact if_pos h
  | vocabulary h =>
    rw [classifyLabels_of_enough h.enough, (firstVocabulary?_eq_some h.enough).2 ⟨_, h⟩]
  | opposed enough uncovered h =>
    rw [classifyLabels_of_enough enough, firstVocabulary?_eq_none.2 uncovered]
    exact if_pos (hasOppositeWords_iff.2 h)
  | nothing enough uncovered h =>
    rw [classifyLabels_of_enough enough, firstVocabulary?_eq_none.2 uncovered]
    exact if_neg fun hopposed => h (hasOppositeWords_iff.1 hopposed)

/-! ## More labels -/

section
variable (before after : List String)

theorem length_le_length_append : labels.length ≤ (before ++ labels ++ after).length := by
  rw [List.length_append, List.length_append]
  omega

theorem infix_joinedLabels :
    joinedLabels labels <:+: joinedLabels (before ++ labels ++ after) := by
  rw [joinedLabels, joinedLabels, List.map_append, List.map_append]
  exact Text.infix_intercalate _ _ _ _

/-- A keyword may begin in one label and end in the next, so this rests on the joined labels. -/
theorem Covers.mono {keywords : List String} (h : Covers labels keywords) :
    Covers (before ++ labels ++ after) keywords := by
  have hcount : keywords.countP (fun k => decide (k.toList <:+: joinedLabels labels)) ≤
      keywords.countP
        fun k => decide (k.toList <:+: joinedLabels (before ++ labels ++ after)) := by
    refine List.countP_mono_left fun k _ hk => ?_
    exact decide_eq_true ((of_decide_eq_true hk).trans (infix_joinedLabels before after))
  unfold Covers at h ⊢
  omega

theorem Mentions.mono {words : List String} (h : Mentions labels words) :
    Mentions (before ++ labels ++ after) words := by
  obtain ⟨label, hlabel, w, hw, hpart⟩ := h
  exact ⟨label, List.mem_append_left _ (List.mem_append_right _ hlabel), w, hw, hpart⟩

theorem Opposed.mono (h : Opposed labels) : Opposed (before ++ labels ++ after) :=
  h.imp (And.imp (Mentions.mono before after) (Mentions.mono before after))
    (And.imp (Mentions.mono before after)
      (Or.imp (Mentions.mono before after) (Mentions.mono before after)))

end

/-- If any vocabulary is covered, one at its place or before it is the first. -/
theorem Covers.exists_matchesAt (enough : 4 ≤ labels.length) {i : Nat}
    {entry : ScaleVocabulary × List String} (hi : vocabularies[i]? = some entry)
    (h : Covers labels entry.2) : ∃ j, j ≤ i ∧ ∃ v, MatchesAt labels j v := by
  classical
  have hex : ∃ j, ∃ e : ScaleVocabulary × List String,
      vocabularies[j]? = some e ∧ Covers labels e.2 := ⟨i, entry, hi, h⟩
  obtain ⟨⟨v, keywords⟩, he, hcovers⟩ := Nat.find_spec hex
  refine ⟨Nat.find hex, Nat.find_min' hex ⟨entry, hi, h⟩, v, enough, ⟨keywords, he, hcovers⟩, ?_⟩
  intro k hk e hke hcov
  exact Nat.find_min hex hk ⟨e, hke, hcov⟩

theorem MatchesAt.exists_le {i : Nat} {v : ScaleVocabulary} (h : MatchesAt labels i v)
    (before after : List String) :
    ∃ j, j ≤ i ∧ ∃ w, MatchesAt (before ++ labels ++ after) j w := by
  obtain ⟨keywords, hi, hcovers⟩ := h.covers
  exact (hcovers.mono before after).exists_matchesAt
    (h.enough.trans (length_le_length_append before after)) hi

theorem isSome_classifyLabels_append (before after : List String)
    (h : (classifyLabels labels).isSome) :
    (classifyLabels (before ++ labels ++ after)).isSome := by
  obtain ⟨r, hr⟩ := Option.isSome_iff_exists.1 h
  cases (classifies_iff _).2 hr with
  | vocabulary hi =>
    obtain ⟨j, -, w, hj⟩ := hi.exists_le before after
    rw [(classifies_iff _).1 (.vocabulary hj)]
    rfl
  | opposed enough uncovered hopposed =>
    have hlonger : 4 ≤ (before ++ labels ++ after).length :=
      enough.trans (length_le_length_append before after)
    by_cases hnone : ∀ entry ∈ vocabularies, ¬ Covers (before ++ labels ++ after) entry.2
    · rw [(classifies_iff _).1 (.opposed hlonger hnone (hopposed.mono before after))]
      rfl
    · -- the added labels may also make a vocabulary match
      push Not at hnone
      obtain ⟨entry, hentry, hcovers⟩ := hnone
      obtain ⟨i, hi⟩ := List.getElem?_of_mem hentry
      obtain ⟨j, -, w, hj⟩ := hcovers.exists_matchesAt hlonger hi
      rw [(classifies_iff _).1 (.vocabulary hj)]
      rfl

/-- The labels are classified by the first rule that applies. With more labels around them they are
still classified, and a vocabulary is then matched at the same place of the table or before it. -/
theorem classifyLabels_ordered_monotone (labels : List String) :
    (∀ r, classifyLabels labels = r ↔ Classifies labels r) ∧
      ∀ before after : List String,
        ((classifyLabels labels).isSome →
          (classifyLabels (before ++ labels ++ after)).isSome) ∧
        ∀ i v, MatchesAt labels i v → ∃ j, j ≤ i ∧ ∃ w,
          MatchesAt (before ++ labels ++ after) j w ∧
            classifyLabels (before ++ labels ++ after) = some (.vocabulary w) := by
  refine ⟨fun r => (classifies_iff r).symm, fun before after =>
    ⟨isSome_classifyLabels_append before after, fun i v h => ?_⟩⟩
  obtain ⟨j, hj, w, hw⟩ := h.exists_le before after
  exact ⟨j, hj, w, hw, (classifies_iff _).1 (.vocabulary hw)⟩

/-- Labels about satisfaction, and two more by which a vocabulary for agreement is matched first. -/
theorem classifyLabels_ordered_monotone_mixed :
    let labels := ["Very dissatisfied", "Dissatisfied", "Satisfied", "Very satisfied"]
    let more := ["Disagree", "Strongly agree"]
    classifyLabels labels = some (.vocabulary .satisfaction) ∧
      ∃ i, MatchesAt labels i .satisfaction ∧
        ∃ j, j ≤ i ∧ MatchesAt ([] ++ labels ++ more) j .agreement := by
  intro labels more
  obtain ⟨hrules, hmore⟩ := classifyLabels_ordered_monotone labels
  have hfirst : classifyLabels labels = some (.vocabulary .satisfaction) := by decide +kernel
  have hlonger : classifyLabels ([] ++ labels ++ more) = some (.vocabulary .agreement) := by
    decide +kernel
  refine ⟨hfirst, ?_⟩
  cases (hrules _).1 hfirst with
  | @vocabulary i v hi =>
    obtain ⟨j, hj, w, hw, hclass⟩ := (hmore [] more).2 i _ hi
    rw [hlonger] at hclass
    cases hclass
    exact ⟨i, hi, j, hj, hw⟩

/-! ## Lower case -/

theorem ascii_vocabularies :
    ∀ entry ∈ vocabularies, ∀ k ∈ entry.2, ∀ c ∈ k.toList, c.toNat < 128 := by
  have hall : vocabularies.all fun entry =>
      entry.2.all fun k => k.toList.all fun c => decide (c.toNat < 128) := by
    decide +kernel
  simpa only [List.all_eq_true, decide_eq_true_iff] using hall

theorem ascii_words : ∀ words ∈ [negativeWords, positiveWords, neutralWords], ∀ w ∈ words,
    ∀ c ∈ w.toList, c.toNat < 128 := by
  have hall : [negativeWords, positiveWords, neutralWords].all fun words =>
      words.all fun w => w.toList.all fun c => decide (c.toNat < 128) := by
    decide +kernel
  simpa only [List.all_eq_true, decide_eq_true_iff] using hall

section
variable {lowered : List (List Char)}
  (h : List.Forall₂ (fun l t => Text.Lowered l.toList t) labels lowered)
include h

theorem sameAscii_joinedLabels :
    List.Forall₂ Text.SameAscii (joinedLabels labels) ([' '].intercalate lowered) := by
  unfold joinedLabels
  induction h with
  | nil => exact .nil
  | @cons l t labels lowered hlt hrest ih =>
    cases hrest with
    | nil =>
      rw [List.map_singleton, List.intercalate_singleton, List.intercalate_singleton]
      exact hlt
    | @cons m u labels lowered hmu hrest =>
      rw [List.map_cons] at ih
      rw [List.map_cons, List.map_cons, List.intercalate_cons_cons, List.intercalate_cons_cons]
      exact List.rel_append (List.rel_append hlt (.cons (Or.inl rfl) .nil)) ih

theorem firstVocabulary?_eq_of_lowered :
    firstVocabulary? (joinedLabels labels) = firstVocabulary? ([' '].intercalate lowered) := by
  have hcovers : ∀ entry ∈ vocabularies, coversVocabulary (joinedLabels labels) entry.2 =
      coversVocabulary ([' '].intercalate lowered) entry.2 := by
    intro entry hentry
    have hcount : entry.2.countP (fun k => Text.occursIn k.toList (joinedLabels labels)) =
        entry.2.countP fun k => Text.occursIn k.toList ([' '].intercalate lowered) := by
      refine List.countP_congr fun k hk => ?_
      rw [Text.occursIn_congr (ascii_vocabularies entry hentry k hk) (sameAscii_joinedLabels h)]
    rw [coversVocabulary, coversVocabulary, hcount]
  rw [firstVocabulary?, firstVocabulary?, List.find?_congr hcovers]

theorem hasWord_eq_of_lowered {words : List String}
    (hascii : ∀ w ∈ words, ∀ c ∈ w.toList, c.toNat < 128) :
    hasWord words (labels.map fun l => Text.lower l.toList) = hasWord words lowered := by
  unfold hasWord
  induction h with
  | nil => rfl
  | @cons l t labels lowered hlt hrest ih =>
    have hhead : (words.any fun w => Text.occursIn w.toList (Text.lower l.toList)) =
        words.any fun w => Text.occursIn w.toList t := by
      rw [Bool.eq_iff_iff, List.any_eq_true, List.any_eq_true]
      refine exists_congr fun w => and_congr_right fun hw => ?_
      rw [Text.occursIn_congr (hascii w hw) hlt]
    rw [List.map_cons, List.any_cons, List.any_cons, hhead, ih]

theorem hasOppositeWords_eq_of_lowered :
    hasOppositeWords (labels.map fun l => Text.lower l.toList) = hasOppositeWords lowered := by
  have hwords : ∀ words ∈ [negativeWords, positiveWords, neutralWords],
      hasWord words (labels.map fun l => Text.lower l.toList) = hasWord words lowered :=
    fun words hmem => hasWord_eq_of_lowered h (ascii_words words hmem)
  rw [hasOppositeWords, hasOppositeWords, hwords negativeWords (by simp),
    hwords positiveWords (by simp), hwords neutralWords (by simp)]

/-- The labels may be put in lower case in any way that treats ASCII characters alike. -/
theorem classifyLabels_eq_of_lowered :
    classifyLabels labels =
      if labels.length < 4 then none
      else match firstVocabulary? ([' '].intercalate lowered) with
        | some v => some (.vocabulary v)
        | none => if hasOppositeWords lowered then some .symmetricKeywords else none := by
  rw [← firstVocabulary?_eq_of_lowered h, ← hasOppositeWords_eq_of_lowered h]
  rfl

end

end SurveyTables
