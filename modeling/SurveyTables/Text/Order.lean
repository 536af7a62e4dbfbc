/-!
# The order of texts

* `sortTexts` : texts in ascending order, by the code points of their characters from the first on.
-/

namespace SurveyTables.Text

def sortTexts (l : List String) : List String := l.mergeSort fun a b => decide (a ≤ b)

/-- Sorting keeps the texts. -/
theorem mem_sortTexts {l : List String} {s : String} : s ∈ sortTexts l ↔ s ∈ l :=
  (List.mergeSort_perm l _).mem_iff

end SurveyTables.Text
