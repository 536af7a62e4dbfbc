import Mathlib.Data.List.Perm.Subperm
import SurveyTables.Proofs.Sorting
import SurveyTables.Proofs.Statistics

/-!
# The median

The median of an odd number of doubles is the one in the middle of their total order, and that of an
even number the mean of the two in the middle.

* `exists_odd_halves`, `exists_even_halves` : a list cut in the middle; `middle?_of_odd_halves` and
  `middle?_of_even_halves` read the middle off;
* `IsMiddle`, `AreMiddle` : the middle in terms of how many lie on either side of it, which does not
  depend on the order of the list (`IsMiddle.of_perm`, `AreMiddle.of_perm`);
* `length_low_lt_countP`, `length_high_lt_countP` : in a sorted list, what stands before an entry is
  at most it and what stands behind at least; so `isMiddle_of_pairwise`, `areMiddle_of_pairwise`;
* `median?_middle` : the median of any list.
-/

namespace SurveyTables

open Binary64 (rank)

/-! ## Halves -/

section
variable {α : Type} {l : List α}

theorem exists_odd_halves (h : l.length % 2 = 1) :
    ∃ low m high, l = low ++ m :: high ∧ low.length = high.length := by
  have hlt : l.length / 2 < l.length := by omega
  refine ⟨l.take (l.length / 2), l[l.length / 2], l.drop (l.length / 2 + 1), ?_, ?_⟩
  · rw [List.getElem_cons_drop, List.take_append_drop]
  · rw [List.length_take, List.length_drop]
    omega

theorem exists_even_halves (h : l.length % 2 = 0) (hne : l ≠ []) :
    ∃ low a b high, l = low ++ a :: b :: high ∧ low.length = high.length := by
  have hpos := List.length_pos_iff.2 hne
  have hlow : l.length / 2 - 1 < l.length := by omega
  have hhigh : l.length / 2 - 1 + 1 < l.length := by omega
  refine ⟨l.take (l.length / 2 - 1), l[l.length / 2 - 1], l[l.length / 2 - 1 + 1],
    l.drop (l.length / 2 - 1 + 1 + 1), ?_, ?_⟩
  · rw [List.getElem_cons_drop, List.getElem_cons_drop, List.take_append_drop]
  · rw [List.length_take, List.length_drop]
    omega

end

section
variable {low high : List Float} (hl : low.length = high.length)
include hl

theorem middle?_of_odd_halves (m : Float) : middle? (low ++ m :: high) = some m := by
  have hlength : (low ++ m :: high).length = 2 * low.length + 1 := by
    rw [List.length_append, List.length_cons]
    omega
  have hhalf : (2 * low.length + 1) / 2 = low.length := by omega
  have hodd : (2 * low.length + 1) % 2 = 1 := by omega
  rw [middle?, hlength, hhalf, if_pos hodd, List.getElem?_append_right (Nat.le_refl _),
    Nat.sub_self, List.getElem?_cons_zero]

theorem middle?_of_even_halves (a b : Float) :
    middle? (low ++ a :: b :: high) = some ((a + b) / 2) := by
  have hlength : (low ++ a :: b :: high).length = 2 * low.length + 2 := by
    rw [List.length_append, List.length_cons, List.length_cons]
    omega
  have hhalf : (2 * low.length + 2) / 2 = low.length + 1 := by omega
  have heven : (2 * low.length + 2) % 2 ≠ 1 := by omega
  rw [middle?, hlength, hhalf, if_neg heven, Nat.add_sub_cancel,
    List.getElem?_append_right (Nat.le_refl _), List.getElem?_append_right (Nat.le_add_right _ _),
    Nat.sub_self, Nat.add_sub_cancel_left, List.getElem?_cons_zero, List.getElem?_cons_succ,
    List.getElem?_cons_zero]
  rfl

end

/-! ## The middle of a list in any order -/

/-- An entry with at least half of the list on either side of it, itself on both. -/
structure IsMiddle (xs : List Float) (m : Float) : Prop where
  mem : m ∈ xs
  below : (xs.length + 1) / 2 ≤ xs.countP fun x => decide (rank x ≤ rank m)
  above : (xs.length + 1) / 2 ≤ xs.countP fun x => decide (rank m ≤ rank x)

/-- Two entries in order with half of the list on either side of the two and nothing between
them. -/
structure AreMiddle (xs : List Float) (a b : Float) : Prop where
  entries : [a, b].Subperm xs
  le : rank a ≤ rank b
  below : xs.length / 2 ≤ xs.countP fun x => decide (rank x ≤ rank a)
  above : xs.length / 2 ≤ xs.countP fun x => decide (rank b ≤ rank x)
  adjacent : ∀ x ∈ xs, ¬ (rank a < rank x ∧ rank x < rank b)

section
variable {xs ys : List Float} (hp : xs.Perm ys)
include hp

theorem IsMiddle.of_perm {m : Float} (h : IsMiddle xs m) : IsMiddle ys m := by
  refine ⟨hp.mem_iff.1 h.mem, ?_, ?_⟩
  · rw [← hp.length_eq, ← hp.countP_eq]
    exact h.below
  · rw [← hp.length_eq, ← hp.countP_eq]
    exact h.above

theorem AreMiddle.of_perm {a b : Float} (h : AreMiddle xs a b) : AreMiddle ys a b := by
  refine ⟨h.entries.trans hp.subperm, h.le, ?_, ?_, fun x hx => h.adjacent x (hp.mem_iff.2 hx)⟩
  · rw [← hp.length_eq, ← hp.countP_eq]
    exact h.below
  · rw [← hp.length_eq, ← hp.countP_eq]
    exact h.above

end

/-! ## The middle of a sorted list -/

section
variable {low high : List Float} {m : Float}
  (h : (low ++ m :: high).Pairwise fun a b => rank a ≤ rank b)
include h

theorem rank_le_of_mem_low : ∀ x ∈ low ++ [m], rank x ≤ rank m := by
  intro x hx
  rcases List.mem_append.1 hx with hx | hx
  · exact (List.pairwise_append.1 h).2.2 x hx m List.mem_cons_self
  · obtain rfl := List.mem_singleton.1 hx
    exact Int.le_refl _

theorem le_rank_of_mem_high : ∀ x ∈ m :: high, rank m ≤ rank x := by
  intro x hx
  rcases List.mem_cons.1 hx with rfl | hx
  · exact Int.le_refl _
  · exact (List.pairwise_cons.1 (List.pairwise_append.1 h).2.1).1 x hx

theorem length_low_lt_countP :
    low.length < (low ++ m :: high).countP fun x => decide (rank x ≤ rank m) := by
  have hall : (low ++ [m]).countP (fun x => decide (rank x ≤ rank m)) = (low ++ [m]).length :=
    List.countP_eq_length.2 fun x hx => decide_eq_true (rank_le_of_mem_low h x hx)
  rw [List.append_cons, List.countP_append, hall, List.length_append, List.length_singleton]
  omega

theorem length_high_lt_countP :
    high.length < (low ++ m :: high).countP fun x => decide (rank m ≤ rank x) := by
  have hall : (m :: high).countP (fun x => decide (rank m ≤ rank x)) = (m :: high).length :=
    List.countP_eq_length.2 fun x hx => decide_eq_true (le_rank_of_mem_high h x hx)
  rw [List.countP_append, hall, List.length_cons]
  omega

end

section
variable {low high : List Float} (hl : low.length = high.length)
include hl

theorem isMiddle_of_pairwise {m : Float}
    (h : (low ++ m :: high).Pairwise fun a b => rank a ≤ rank b) :
    IsMiddle (low ++ m :: high) m := by
  have hhalf : ((low ++ m :: high).length + 1) / 2 = low.length + 1 := by
    rw [List.length_append, List.length_cons]
    omega
  refine ⟨List.mem_append_right _ List.mem_cons_self, ?_, ?_⟩
  · rw [hhalf]
    exact length_low_lt_countP h
  · rw [hhalf, hl]
    exact length_high_lt_countP h

theorem areMiddle_of_pairwise {a b : Float}
    (h : (low ++ a :: b :: high).Pairwise fun a b => rank a ≤ rank b) :
    AreMiddle (low ++ a :: b :: high) a b := by
  have hhalf : (low ++ a :: b :: high).length / 2 = low.length + 1 := by
    rw [List.length_append, List.length_cons, List.length_cons]
    omega
  have hcut : low ++ a :: b :: high = (low ++ [a]) ++ b :: high := List.append_cons low a _
  have hb := h
  rw [hcut] at hb
  refine ⟨?_, ?_, ?_, ?_, ?_⟩
  · have htail : [a, b].Sublist (a :: b :: high) := List.sublist_append_left [a, b] high
    exact (List.sublist_append_of_sublist_right htail).subperm
  · exact le_rank_of_mem_high h b (List.mem_cons_of_mem a List.mem_cons_self)
  · rw [hhalf]
    exact length_low_lt_countP h
  · rw [hhalf, hl, hcut]
    exact length_high_lt_countP hb
  · intro x hx hbetween
    rw [hcut] at hx
    rcases List.mem_append.1 hx with hx | hx
    · exact absurd (rank_le_of_mem_low h x hx) (Int.not_le.2 hbetween.1)
    · exact absurd (le_rank_of_mem_high hb x hx) (Int.not_le.2 hbetween.2)

end

/-! ## The median -/

/-- The median of an odd number of doubles is one of them, with at least half of them at most it and
at least half of them at least it. That of an even number is half the sum of two of them next to
each other in the total order, with half of them up to the lower and half from the upper on. The
order of the list does not matter, and there are a mean, a median and a deviation exactly if there
is a double. -/
theorem median?_middle (xs : List Float) :
    (xs.length % 2 = 1 → ∃ m, median? xs = some m ∧ IsMiddle xs m) ∧
      (xs ≠ [] → xs.length % 2 = 0 → 0 < xs.length / 2 ∧
        ∃ a b, median? xs = some ((a + b) / 2) ∧ AreMiddle xs a b) ∧
      (∀ ys : List Float, xs.Perm ys → median? ys = median? xs) ∧
      medianOfData? (xs.map Datum.double) = median? xs ∧
      ((mean? xs).isSome ↔ xs ≠ []) ∧ ((median? xs).isSome ↔ xs ≠ []) ∧
      ((deviation? xs).isSome ↔ xs ≠ []) := by
  have hsorted := pairwise_sortFloats xs
  have hp : (sortFloats xs).Perm xs := List.mergeSort_perm xs _
  refine ⟨fun hodd => ?_, fun hne heven => ⟨?_, ?_⟩, fun ys h => (median?_eq_of_perm h).symm,
    medianOfData?_map xs, ?_, ?_, ?_⟩
  · rw [← hp.length_eq] at hodd
    obtain ⟨low, m, high, hcut, hl⟩ := exists_odd_halves hodd
    rw [hcut] at hp hsorted
    rw [median?, hcut]
    exact ⟨m, middle?_of_odd_halves hl m, (isMiddle_of_pairwise hl hsorted).of_perm hp⟩
  · have hpos := List.length_pos_iff.2 hne
    omega
  · rw [← hp.length_eq] at heven
    have hne' : sortFloats xs ≠ [] := fun h => hne (List.perm_nil.1 (h ▸ hp).symm)
    obtain ⟨low, a, b, high, hcut, hl⟩ := exists_even_halves heven hne'
    rw [hcut] at hp hsorted
    rw [median?, hcut]
    exact ⟨a, b, middle?_of_even_halves hl a b, (areMiddle_of_pairwise hl hsorted).of_perm hp⟩
  · rw [isSome_mean?, decide_eq_true_iff, List.length_pos_iff]
  · rw [isSome_median?, decide_eq_true_iff, List.length_pos_iff]
  · rw [isSome_deviation?, decide_eq_true_iff, List.length_pos_iff]

/-- Zeros of both signs, which are apart in the total order, and an entry given twice. -/
theorem median?_middle_zeros :
    let xs : List Float := [0, -0.0, 3, -0.0]
    let ys : List Float := [2.5, -1, 2.5]
    (xs ≠ [] ∧ xs.length % 2 = 0 ∧
        ∃ a b, median? xs = some ((a + b) / 2) ∧ AreMiddle xs a b) ∧
      ys.length % 2 = 1 ∧ (∃ m, median? ys = some m ∧ IsMiddle ys m) ∧
      ys.Perm ys.reverse ∧ median? ys.reverse = median? ys := by
  intro xs ys
  have hne : xs ≠ [] := List.cons_ne_nil _ _
  have heven : xs.length % 2 = 0 := by decide
  have hodd : ys.length % 2 = 1 := by decide
  have hreverse : ys.Perm ys.reverse := (List.reverse_perm ys).symm
  exact ⟨⟨hne, heven, ((median?_middle xs).2.1 hne heven).2⟩, hodd, (median?_middle ys).1 hodd,
    hreverse, (median?_middle ys).2.2.1 _ hreverse⟩

end SurveyTables
