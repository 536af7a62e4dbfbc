import SurveyTables.Statistics
import SurveyTables.Text.Order

/-!
# Sorted lists

Texts are sorted by their code points and doubles by their rank. Both orders tell any two elements
apart, so a sorted list is determined by its elements (`mergeSort_eq_of_perm`).

* `pairwise_sortTexts`, `sortTexts_eq_of_perm` : sorting texts; `pairwise_lt_sortTexts` : texts
  that are all different are sorted strictly; `codePoints_lt` says by what;
* `pairwise_sortFloats`, `sortFloats_eq_of_perm` : sorting doubles, and with it
  `median?_eq_of_perm`.
-/

namespace SurveyTables

theorem mergeSort_eq_of_perm {α : Type} {le : α → α → Bool}
    (trans : ∀ a b c, le a b → le b c → le a c) (total : ∀ a b, le a b || le b a)
    (antisymm : ∀ a b, le a b → le b a → a = b) {l l' : List α} (h : l.Perm l') :
    l.mergeSort le = l'.mergeSort le := by
  have hp : (l.mergeSort le).Perm (l'.mergeSort le) :=
    ((List.mergeSort_perm l le).trans h).trans (List.mergeSort_perm l' le).symm
  exact List.Perm.eq_of_pairwise (fun a b _ _ => antisymm a b)
    (List.pairwise_mergeSort trans total l) (List.pairwise_mergeSort trans total l') hp

/-! ## Texts -/

namespace Text

theorem decide_le_trans (a b c : String) (hab : decide (a ≤ b)) (hbc : decide (b ≤ c)) :
    decide (a ≤ c) :=
  decide_eq_true (String.le_trans (of_decide_eq_true hab) (of_decide_eq_true hbc))

theorem decide_le_total (a b : String) : decide (a ≤ b) || decide (b ≤ a) := by
  simpa using String.le_total a b

theorem pairwise_sortTexts (l : List String) : (sortTexts l).Pairwise (· ≤ ·) :=
  (List.pairwise_mergeSort decide_le_trans decide_le_total l).imp of_decide_eq_true

theorem pairwise_lt_sortTexts {l : List String} (h : l.Nodup) :
    (sortTexts l).Pairwise (· < ·) := by
  have hnodup : (sortTexts l).Nodup := (List.mergeSort_perm l _).nodup_iff.2 h
  exact (pairwise_sortTexts l).imp₂
    (fun _ _ hle hne => String.not_le.1 fun hge => hne (String.le_antisymm hle hge)) hnodup

/-- The numbers of the characters of a text. -/
def codePoints (s : String) : List Nat := s.toList.map Char.toNat

theorem codePoints_lt {s t : String} (h : s < t) : codePoints s < codePoints t :=
  List.map_lt (fun _ _ hlt => hlt) (String.lt_iff.1 h)

theorem sortTexts_eq_of_perm {l l' : List String} (h : l.Perm l') : sortTexts l = sortTexts l' := by
  refine mergeSort_eq_of_perm decide_le_trans decide_le_total (fun a b hab hba => ?_) h
  exact String.le_antisymm (of_decide_eq_true hab) (of_decide_eq_true hba)

end Text

/-! ## Doubles -/

theorem decide_rank_le_trans (a b c : Float) (hab : decide (Binary64.rank a ≤ Binary64.rank b))
    (hbc : decide (Binary64.rank b ≤ Binary64.rank c)) :
    decide (Binary64.rank a ≤ Binary64.rank c) :=
  decide_eq_true (Int.le_trans (of_decide_eq_true hab) (of_decide_eq_true hbc))

theorem decide_rank_le_total (a b : Float) :
    decide (Binary64.rank a ≤ Binary64.rank b) || decide (Binary64.rank b ≤ Binary64.rank a) := by
  simpa using Int.le_total (Binary64.rank a) (Binary64.rank b)

theorem pairwise_sortFloats (xs : List Float) :
    (sortFloats xs).Pairwise fun a b => Binary64.rank a ≤ Binary64.rank b :=
  (List.pairwise_mergeSort decide_rank_le_trans decide_rank_le_total xs).imp of_decide_eq_true

theorem sortFloats_eq_of_perm {xs ys : List Float} (h : xs.Perm ys) :
    sortFloats xs = sortFloats ys := by
  refine mergeSort_eq_of_perm decide_rank_le_trans decide_rank_le_total (fun a b hab hba => ?_) h
  exact Binary64.rank_injective (Int.le_antisymm (of_decide_eq_true hab) (of_decide_eq_true hba))

theorem median?_eq_of_perm {xs ys : List Float} (h : xs.Perm ys) : median? xs = median? ys := by
  rw [median?, median?, sortFloats_eq_of_perm h]

end SurveyTables
