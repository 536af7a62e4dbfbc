import SurveyTables.Proofs.Text.Blank
import SurveyTables.Proofs.Value.Number

/-!
# Numerals

* `Numeral` : an optional minus sign, digits and an optional fraction; how it is written and the
  double that it denotes;
* `Numeral.readFloat?_text`, `Numeral.numberOfText?_text` : the text of a numeral is read as its
  value.
-/

namespace SurveyTables

open Text

/-- The text of a number in ASCII digits. -/
structure Numeral where
  negative : Bool
  whole : Run Char.isDigit
  fraction : Option (Run Char.isDigit)

namespace Numeral

/-- The minus sign, if there is one. -/
def sign (n : Numeral) : List Char := if n.negative then ['-'] else []

/-- The digits after the point. -/
def places (n : Numeral) : List Char := n.fraction.elim [] Run.chars

/-- The point and the digits after it, if there are any. -/
def fractionText (n : Numeral) : List Char := n.fraction.elim [] fun f => '.' :: f.chars

/-- The numeral as it is written. -/
def text (n : Numeral) : List Char := n.sign ++ n.whole.chars ++ n.fractionText

/-- The double nearest to the number without its sign. -/
def magnitude (n : Numeral) : Float := (Decimal.ofDigits n.whole.chars n.places 0).toFloat

/-- The number that the numeral denotes. -/
def value (n : Numeral) : Float := if n.negative then -n.magnitude else n.magnitude

theorem text_ne_nil (n : Numeral) : n.text ≠ [] := by
  simp [text, n.whole.ne_nil]

theorem mem_text {n : Numeral} {c : Char} (h : c ∈ n.text) : c.isDigit ∨ c = '-' ∨ c = '.' := by
  obtain ⟨negative, whole, fraction⟩ := n
  rcases List.mem_append.1 h with h | h
  · rcases List.mem_append.1 h with h | h
    · cases negative with
      | false => cases h
      | true => exact Or.inr (Or.inl (List.mem_singleton.1 h))
    · exact Or.inl (whole.all c h)
  · cases fraction with
    | none => cases h
    | some f =>
      rcases List.mem_cons.1 h with h | h
      · exact Or.inr (Or.inr h)
      · exact Or.inl (f.all c h)

theorem isBlank_of_mem {n : Numeral} {c : Char} (h : c ∈ n.text) : isBlank c = false := by
  rcases mem_text h with h | rfl | rfl
  · exact isBlank_of_isDigit h
  · decide
  · decide

theorem tight (n : Numeral) : Tight n.text :=
  Tight.of_forall n.text_ne_nil fun _ => isBlank_of_mem

/-! ## Reading -/

/-- The numeral without its sign. -/
def unsigned (n : Numeral) : List Char := n.whole.chars ++ n.fractionText

theorem text_eq (n : Numeral) : n.text = n.sign ++ n.unsigned := by
  rw [text, unsigned, List.append_assoc]

theorem takePlaces_fractionText (n : Numeral) :
    Decimal.takePlaces n.fractionText = (n.places, []) := by
  obtain ⟨negative, whole, fraction⟩ := n
  cases fraction with
  | none => rfl
  | some f =>
    have hf : f.chars.takeWhile Char.isDigit = f.chars := by
      simpa using stops_nil.takeWhile f.all
    have hd : f.chars.dropWhile Char.isDigit = [] := by
      simpa using stops_nil.dropWhile f.all
    show (f.chars.takeWhile Char.isDigit, f.chars.dropWhile Char.isDigit) = (f.chars, [])
    rw [hf, hd]

theorem stops_fractionText (n : Numeral) : Stops Char.isDigit n.fractionText := by
  obtain ⟨negative, whole, fraction⟩ := n
  cases fraction with
  | none => exact stops_nil
  | some f => exact stops_cons.2 (by decide)

theorem read?_unsigned (n : Numeral) :
    Decimal.read? n.unsigned = some (Decimal.ofDigits n.whole.chars n.places 0) := by
  have hstop := n.stops_fractionText
  rw [Decimal.read?, unsigned, hstop.takeWhile n.whole.all, hstop.dropWhile n.whole.all,
    takePlaces_fractionText, if_neg (by simp [n.whole.ne_nil])]
  rfl

theorem exists_unsigned (n : Numeral) : ∃ d t, n.unsigned = d :: t ∧ d.isDigit := by
  obtain ⟨negative, ⟨digits, hne, hd⟩, fraction⟩ := n
  cases digits with
  | nil => exact absurd rfl hne
  | cons d digits => exact ⟨d, _, rfl, hd d List.mem_cons_self⟩

theorem readMagnitude?_unsigned (n : Numeral) :
    Decimal.readMagnitude? n.unsigned = some n.magnitude := by
  obtain ⟨d, t, hn, hd⟩ := n.exists_unsigned
  have halnum : d.isAlphanum := Bool.or_eq_true_iff.2 (Or.inr hd)
  have hlower : d.toLower ≠ 'i' ∧ d.toLower ≠ 'n' :=
    forall_ascii (P := fun d => d.isDigit → d.toLower ≠ 'i' ∧ d.toLower ≠ 'n') (by decide +kernel)
      (toNat_lt_of_isAlphanum halnum) hd
  have hinf : ¬ (n.unsigned.map Char.toLower = "inf".toList ∨
      n.unsigned.map Char.toLower = "infinity".toList) := by
    rw [hn]
    rintro (h | h)
    · exact hlower.1 (List.cons.inj h).1
    · exact hlower.1 (List.cons.inj h).1
  have hnan : n.unsigned.map Char.toLower ≠ "nan".toList := by
    rw [hn]
    intro h
    exact hlower.2 (List.cons.inj h).1
  rw [Decimal.readMagnitude?, if_neg hinf, if_neg hnan, read?_unsigned]
  rfl

theorem readFloat?_text (n : Numeral) : Decimal.readFloat? n.text = some n.value := by
  rw [text_eq, sign, value]
  split
  · show (Decimal.readMagnitude? n.unsigned).map (fun x => -x) = _
    rw [readMagnitude?_unsigned, Option.map_some]
  · rw [List.nil_append, ← readMagnitude?_unsigned]
    obtain ⟨d, t, hn, hd⟩ := n.exists_unsigned
    rw [hn]
    unfold Decimal.readFloat?
    split
    · rename_i h
      exact absurd ((List.cons.inj h).1 ▸ hd) (by decide)
    · rename_i h
      exact absurd ((List.cons.inj h).1 ▸ hd) (by decide)
    · rfl

theorem numberOfText?_text (n : Numeral) :
    numberOfText? (String.ofList n.text) = if n.value.isNaN then none else some n.value := by
  rw [numberOfText?, String.toList_ofList, n.tight.trim_eq, readFloat?_text, Option.filter_some]
  cases n.value.isNaN <;> rfl

end Numeral

end SurveyTables
