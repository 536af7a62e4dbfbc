import Mathlib.Data.List.Nodup
import SurveyTables.Net.Summary
import SurveyTables.Proofs.Net.Editing
import SurveyTables.Question.BoxNets

/-!
# Boxes of a question

The boxes of a Likert scale are cut out of its choices by position, and are in order as they are.

* `firstOf?`, `lastOf?`, `Question.cutBoxNets?` : the same boxes, where a cut that reaches past an
  end of the choices gives nothing;
* `boxLabel`, `Question.boxesOf` : the two boxes of `k` choices;
* `Question.clean_boxesOf`, `Question.text_boxesOf`, `Question.disjoint_boxesOf` : syncing leaves
  them, they are named as one, and different codes keep them apart;
* `Question.Customary`, `Question.boxNets_of_customary` : the boxes for a number of points;
* `Question.boxNets_agrees` : all of this together.
-/

namespace SurveyTables

/-! ## Cuts within bounds -/

/-- The first `n` elements, if there are as many. -/
def firstOf? {α : Type} (n : Nat) (l : List α) : Option (List α) :=
  if n ≤ l.length then some (l.take n) else none

/-- The last `n` elements, if there are as many. -/
def lastOf? {α : Type} (n : Nat) (l : List α) : Option (List α) :=
  if n ≤ l.length then some (l.drop (l.length - n)) else none

/-- The two nets of `n` choices each, if there are as many choices. -/
def cutBoxPair? (choices : List Choice) (n : Nat) (top bottom : String) : Option Nets :=
  (lastOf? n choices).bind fun last => (firstOf? n choices).map fun first =>
    [.codes (CodesNet.make (some top) (last.map Choice.code)),
      .codes (CodesNet.make (some bottom) (first.map Choice.code))]

theorem cutBoxPair?_eq {choices : List Choice} {n : Nat} (h : n ≤ choices.length)
    (top bottom : String) :
    cutBoxPair? choices n top bottom = some (boxPair choices n top bottom) := by
  simp [cutBoxPair?, lastOf?, firstOf?, boxPair, h, List.map_drop, List.map_take]

namespace Question

def cutBoxes? (q : Question) (least n : Nat) (top bottom : String) : Option Nets :=
  if q.isLikert && decide (least ≤ q.choices.length) then cutBoxPair? q.choices n top bottom
  else some []

/-- The boxes that are customary for a scale, if no cut reaches past an end of the choices. -/
def cutBoxNets? (q : Question) (points : UInt32) : Option Nets :=
  if points = 5 then (q.cutBoxes? 4 2 "T2B" "B2B").map (Nets.sync q.validCodes)
  else if points = 7 ∨ points = 10 then
    (q.cutBoxes? 6 3 "T3B" "B3B").map (Nets.sync q.validCodes)
  else some []

theorem cutBoxes?_eq (q : Question) {least n : Nat} (h : n ≤ least) (top bottom : String) :
    q.cutBoxes? least n top bottom = some (q.boxes least n top bottom) := by
  unfold cutBoxes? boxes
  split
  · rename_i hq
    simp only [Bool.and_eq_true, decide_eq_true_eq] at hq
    exact cutBoxPair?_eq (Nat.le_trans h hq.2) top bottom
  · rfl

theorem cutBoxNets?_eq (q : Question) (points : UInt32) :
    q.cutBoxNets? points = some (q.boxNets points) := by
  unfold cutBoxNets? boxNets
  rw [cutBoxes?_eq q (by decide), cutBoxes?_eq q (by decide)]
  split
  · rfl
  · split <;> rfl

end Question

/-! ## The boxes of `k` choices -/

/-- The name of the box of `k` choices at one end of a scale. -/
def boxLabel (side : String) (k : Nat) : String := side ++ toString k ++ "B"

theorem boxLabel_ne (side : String) (k : Nat) : boxLabel side k ≠ "" := by
  intro h
  have hlength := congrArg String.length h
  simp [boxLabel] at hlength

namespace Question

/-- The codes of the last `k` choices, each once. -/
def topCodes (q : Question) (k : Nat) : List String :=
  (q.validCodes.drop (q.validCodes.length - k)).eraseDups

/-- The codes of the first `k` choices, each once. -/
def bottomCodes (q : Question) (k : Nat) : List String := (q.validCodes.take k).eraseDups

/-- The top and the bottom box of `k` choices. -/
def boxesOf (q : Question) (k : Nat) : Nets :=
  [.codes ⟨some (boxLabel "T" k), q.topCodes k⟩, .codes ⟨some (boxLabel "B" k), q.bottomCodes k⟩]

theorem length_validCodes (q : Question) : q.validCodes.length = q.choices.length :=
  List.length_map ..

theorem labelGiven_boxLabel (side : String) (k : Nat) :
    labelGiven (some (boxLabel side k)) = some (boxLabel side k) := by
  simp [labelGiven, boxLabel_ne]

theorem boxes_eq (q : Question) (least k : Nat) :
    q.boxes least k (boxLabel "T" k) (boxLabel "B" k) =
      if q.isLikert ∧ least ≤ q.choices.length then q.boxesOf k else [] := by
  simp only [boxes, boxPair, CodesNet.make, labelGiven_boxLabel, Bool.and_eq_true,
    decide_eq_true_eq]
  rfl

/-- Codes of the question in a box, if there is one, are left by syncing. -/
theorem synced_box {q : Question} {codes : List String} (hne : codes ≠ [])
    (hcodes : ∀ c ∈ codes, c ∈ q.validCodes) (label : Option String) :
    (Net.codes ⟨label, codes.eraseDups⟩).Synced q.validCodes := by
  refine .codes _ ?_ (fun c hc => hcodes c (List.mem_eraseDups.1 hc)) (nodup_eraseDups codes)
  obtain ⟨c, hc⟩ := List.exists_mem_of_ne_nil _ hne
  exact List.ne_nil_of_mem (List.mem_eraseDups.2 hc)

section
variable {q : Question} {k : Nat}

theorem clean_boxesOf (hk : 0 < k) (h : k ≤ q.choices.length) :
    Nets.Clean q.validCodes (q.boxesOf k) := by
  have hlength := q.length_validCodes
  refine Nets.clean_of_synced fun n hn => ?_
  rcases List.mem_pair.1 hn with rfl | rfl
  · refine synced_box ?_ (fun c hc => List.mem_of_mem_drop hc) _
    rw [Ne, List.drop_eq_nil_iff]
    omega
  · refine synced_box ?_ (fun c hc => List.mem_of_mem_take hc) _
    rw [Ne, List.take_eq_nil_iff, ← List.length_eq_zero_iff]
    omega

/-- Different codes make boxes of `k` codes each, with none in common. -/
theorem disjoint_boxesOf (hcodes : q.validCodes.Nodup) (h : k + k ≤ q.choices.length) :
    (q.topCodes k).length = k ∧ (q.bottomCodes k).length = k ∧
      (q.topCodes k).Disjoint (q.bottomCodes k) := by
  have hlength := q.length_validCodes
  rw [topCodes, bottomCodes, eraseDups_of_nodup (hcodes.sublist (List.drop_sublist _ _)),
    eraseDups_of_nodup (hcodes.sublist (List.take_sublist _ _)), List.length_drop, List.length_take]
  refine ⟨by omega, by omega, ?_⟩
  exact (List.disjoint_take_drop hcodes (by omega)).symm

theorem hasLabel_boxesOf (label : String) :
    Nets.hasLabel (q.boxesOf k) label =
      (boxLabel "T" k == label || boxLabel "B" k == label) := by
  simp [Nets.hasLabel, boxesOf, Net.label?]

theorem text_boxesOf (hk : k = 2 ∨ k = 3) (choices : List Choice) :
    Nets.text choices (q.boxesOf k) = "Net: " ++ boxLabel "T" k ++ ", " ++ boxLabel "B" k := by
  have hpair : Nets.boxPair? (q.boxesOf k) = some (boxLabel "T" k ++ ", " ++ boxLabel "B" k) := by
    rw [Nets.boxPair?, if_neg (by simp [boxesOf])]
    simp only [hasLabel_boxesOf]
    rcases hk with rfl | rfl <;> rfl
  rw [Nets.text, hpair]
  simp only [String.append_assoc]

end

/-! ## The boxes for a number of points -/

/-- On a scale of so many points, a box customarily has `k` choices if the question has at least
`least`. -/
inductive Customary : UInt32 → Nat → Nat → Prop
  | five : Customary 5 4 2
  | seven : Customary 7 6 3
  | ten : Customary 10 6 3

section
variable {q : Question} {points : UInt32} {least k : Nat}

/-- A box is not empty, and the two of them do not overlap. -/
theorem Customary.bounds (h : Customary points least k) :
    (k = 2 ∨ k = 3) ∧ k + k ≤ least := by
  cases h <;> decide

theorem boxNets_of_customary (h : Customary points least k) :
    q.boxNets points = if q.isLikert ∧ least ≤ q.choices.length then q.boxesOf k else [] := by
  have hboxes : q.boxNets points =
      Nets.sync q.validCodes (q.boxes least k (boxLabel "T" k) (boxLabel "B" k)) := by
    cases h <;> rfl
  obtain ⟨hk, hleast⟩ := h.bounds
  rw [hboxes, boxes_eq]
  split
  · rename_i hq
    exact (clean_boxesOf (by omega) (by omega)).synced
  · rfl

theorem boxNets_of_not_customary (h : ∀ least k, ¬ Customary points least k) :
    q.boxNets points = [] := by
  rw [boxNets, if_neg, if_neg]
  · rintro (rfl | rfl)
    · exact h _ _ .seven
    · exact h _ _ .ten
  · rintro rfl
    exact h _ _ .five

theorem boxNets_ne_nil_iff :
    q.boxNets points ≠ [] ↔
      q.isLikert ∧ ∃ least k, Customary points least k ∧ least ≤ q.choices.length := by
  by_cases hc : ∃ least k, Customary points least k
  · obtain ⟨least, k, h⟩ := hc
    have hunique : ∀ {l m : Nat}, Customary points l m → l = least := by
      intro l m hm
      cases h <;> cases hm <;> rfl
    rw [boxNets_of_customary h]
    constructor
    · intro hne
      split at hne
      · rename_i hq
        exact ⟨hq.1, least, k, h, hq.2⟩
      · exact absurd rfl hne
    · rintro ⟨hlikert, l, m, hm, hlength⟩
      obtain rfl := hunique hm
      rw [if_pos ⟨hlikert, hlength⟩]
      exact List.cons_ne_nil _ _
  · refine iff_of_false ?_ ?_
    · have hnone : ∀ least k, ¬ Customary points least k := fun l m hm => hc ⟨l, m, hm⟩
      rw [boxNets_of_not_customary hnone]
      exact fun hne => hne rfl
    · rintro ⟨-, l, m, hm, -⟩
      exact hc ⟨l, m, hm⟩

end

/-- The boxes for a number of points never need a choice that is not there. There are any exactly if
the question is a Likert scale with enough choices for a customary box. They are then the last and
the first choices by position, in order, left by syncing, and named as one; if the codes of the
choices differ, they are of full size and have nothing in common. -/
theorem boxNets_agrees (q : Question) (points : UInt32) :
    q.cutBoxNets? points = some (q.boxNets points) ∧
      (q.boxNets points ≠ [] ↔
        q.isLikert ∧ ∃ least k, Customary points least k ∧ least ≤ q.choices.length) ∧
      ∀ least k, Customary points least k → q.boxNets points ≠ [] →
        q.boxNets points = q.boxesOf k ∧ Nets.Clean q.validCodes (q.boxNets points) ∧
          (∀ choices, Nets.text choices (q.boxNets points) =
            "Net: " ++ boxLabel "T" k ++ ", " ++ boxLabel "B" k) ∧
          (q.validCodes.Nodup → (q.topCodes k).length = k ∧ (q.bottomCodes k).length = k ∧
            (q.topCodes k).Disjoint (q.bottomCodes k)) := by
  refine ⟨q.cutBoxNets?_eq points, boxNets_ne_nil_iff, fun least k h hne => ?_⟩
  obtain ⟨hk, hleast⟩ := h.bounds
  have heq := boxNets_of_customary (q := q) h
  split at heq
  · rename_i hq
    have hlength := hq.2
    rw [heq]
    exact ⟨rfl, clean_boxesOf (by omega) (by omega), text_boxesOf hk,
      fun hcodes => disjoint_boxesOf hcodes (by omega)⟩
  · exact absurd heq hne

/-- A scale of satisfaction without options, which has five customary labels. -/
theorem boxNets_agrees_sentiment :
    let q : Question := ⟨"Q7", "single", some "likert_sentiment", [], none, none, none⟩
    q.boxNets 5 ≠ [] ∧ q.validCodes = ["1", "2", "3", "4", "5"] ∧
      q.boxNets 5 = [.codes ⟨some "T2B", ["4", "5"]⟩, .codes ⟨some "B2B", ["1", "2"]⟩] ∧
      Nets.text q.choices (q.boxNets 5) = "Net: T2B, B2B" ∧
      (q.topCodes 2).Disjoint (q.bottomCodes 2) ∧ q.boxNets 7 = [] := by
  intro q
  obtain ⟨-, hiff, hboxes⟩ := boxNets_agrees q 5
  have hne : q.boxNets 5 ≠ [] := hiff.2 ⟨by decide, 4, 2, .five, by decide⟩
  have hcodes : q.validCodes = ["1", "2", "3", "4", "5"] := by decide +kernel
  obtain ⟨heq, -, htext, hdisjoint⟩ := hboxes 4 2 .five hne
  have hnodup : q.validCodes.Nodup := by
    rw [hcodes]
    decide
  refine ⟨hne, hcodes, heq.trans (by decide +kernel), (htext q.choices).trans (by decide +kernel),
    (hdisjoint hnodup).2.2, ?_⟩
  by_contra h7
  obtain ⟨-, least, k, h, hlength⟩ := (boxNets_agrees q 7).2.1.1 h7
  cases h
  revert hlength
  decide

end Question

end SurveyTables
