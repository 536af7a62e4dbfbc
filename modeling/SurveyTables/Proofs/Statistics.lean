import SurveyTables.Statistics

/-!
# When there are statistics

Mean, median and deviation are there together, exactly when there are numbers.

* `isSome_mean?`, `isSome_median?`, `isSome_deviation?` : one lemma for each of them;
* `isSome_percent?` : a share is there when its base is not empty.
-/

namespace SurveyTables

variable (xs : List Float)

theorem isSome_mean? : (mean? xs).isSome = decide (0 < xs.length) := by
  cases xs with
  | nil => rfl
  | cons x xs => simp [mean?]

theorem isSome_deviation? : (deviation? xs).isSome = decide (0 < xs.length) := by
  rw [deviation?, Option.isSome_map, isSome_mean?]

/-- The places in the middle of a sorted list are places of the list. -/
theorem isSome_middle? (sorted : List Float) :
    (middle? sorted).isSome = decide (0 < sorted.length) := by
  unfold middle?
  split
  · have hlt : sorted.length / 2 < sorted.length := by omega
    have hpos : 0 < sorted.length := by omega
    simp [List.getElem?_eq_getElem hlt, hpos]
  · rcases Nat.eq_zero_or_pos sorted.length with h0 | hpos
    · rw [List.eq_nil_of_length_eq_zero h0]
      rfl
    · have hlow : sorted.length / 2 - 1 < sorted.length := by omega
      have hhigh : sorted.length / 2 < sorted.length := by omega
      simp [List.getElem?_eq_getElem hlow, List.getElem?_eq_getElem hhigh, hpos]

theorem isSome_median? : (median? xs).isSome = decide (0 < xs.length) := by
  have hlength : (sortFloats xs).length = xs.length := List.length_mergeSort xs
  rw [median?, isSome_middle?, hlength]

theorem isSome_percent? (count base : Nat) : (percent? count base).isSome = decide (0 < base) := by
  unfold percent?
  split
  · rename_i h
    rw [h]
    rfl
  · rename_i h
    exact (decide_eq_true (Nat.pos_of_ne_zero h)).symm

end SurveyTables
