import Mathlib.Data.List.Forall2
import Mathlib.Data.List.Infix
import SurveyTables.Text.Search

/-!
# What a search finds

* `occursIn_iff` : the search finds the words that are a part of the text;
* `infix_intercalate` : some texts of a list in a row, joined, are a part of the whole list joined;
* `Lowered s t` : `t` is `s` in lower case; `occursIn_congr` : a search for ASCII words finds the
  same in it as in `lower s`.
-/

namespace SurveyTables.Text

theorem occursIn_iff {w s : List Char} : occursIn w s = true ↔ w <:+: s := by
  induction s with
  | nil => simp [occursIn]
  | cons c s ih =>
    rw [occursIn, Bool.or_eq_true, List.isPrefixOf_iff_prefix, ih, List.infix_cons_iff]

/-! ## Joined texts -/

section
variable {α : Type} (sep : List α) (l : List (List α))

theorem prefix_intercalate (after : List (List α)) :
    sep.intercalate l <+: sep.intercalate (l ++ after) := by
  induction l with
  | nil => exact List.nil_prefix
  | cons u l ih =>
    match l, after with
    | [], [] => exact List.prefix_rfl
    | [], v :: after =>
      rw [List.singleton_append, List.intercalate_singleton, List.intercalate_cons_cons,
        List.append_assoc]
      exact List.prefix_append u _
    | v :: l, after =>
      rw [List.cons_append, List.cons_append, List.intercalate_cons_cons,
        List.intercalate_cons_cons]
      exact (List.prefix_append_right_inj _).2 ih

theorem suffix_intercalate (before : List (List α)) :
    sep.intercalate l <:+ sep.intercalate (before ++ l) := by
  induction before with
  | nil => exact List.suffix_rfl
  | cons u before ih =>
    match hrest : before ++ l with
    | [] =>
      obtain ⟨rfl, rfl⟩ := List.append_eq_nil_iff.1 hrest
      exact List.nil_suffix
    | v :: rest =>
      rw [List.cons_append, hrest, List.intercalate_cons_cons, ← hrest]
      exact ih.trans (List.suffix_append _ _)

theorem infix_intercalate (before after : List (List α)) :
    sep.intercalate l <:+: sep.intercalate (before ++ l ++ after) :=
  (suffix_intercalate sep l before).isInfix.trans
    (prefix_intercalate sep (before ++ l) after).isInfix

end

/-! ## Texts in lower case -/

/-- Both are the same character, or neither is an ASCII character. -/
def SameAscii (c d : Char) : Prop := c = d ∨ (128 ≤ c.toNat ∧ 128 ≤ d.toNat)

/-- `t` is `s` in lower case: each character is lowered to as many characters as `lowerChar` has
for it, and where one of these is not the same, neither is an ASCII character. -/
def Lowered (s t : List Char) : Prop := List.Forall₂ SameAscii (lower s) t

section
variable {w s t : List Char} (hw : ∀ c ∈ w, c.toNat < 128)
include hw

theorem isPrefixOf_congr (h : List.Forall₂ SameAscii s t) : w.isPrefixOf s = w.isPrefixOf t := by
  induction w generalizing s t with
  | nil => rfl
  | cons a w ih =>
    cases h with
    | nil => rfl
    | @cons c d s t hcd h =>
      have ha := hw a List.mem_cons_self
      have hhead : (a == c) = (a == d) := by
        rcases hcd with rfl | ⟨hc, hd⟩
        · rfl
        · have hac : a ≠ c := by
            rintro rfl
            omega
          have had : a ≠ d := by
            rintro rfl
            omega
          rw [beq_false_of_ne hac, beq_false_of_ne had]
      rw [List.isPrefixOf, List.isPrefixOf, hhead,
        ih (fun x hx => hw x (List.mem_cons_of_mem a hx)) h]

theorem occursIn_congr (h : List.Forall₂ SameAscii s t) : occursIn w s = occursIn w t := by
  induction h with
  | nil => rfl
  | @cons c d s t hcd h ih =>
    rw [occursIn, occursIn, ih, isPrefixOf_congr hw (List.Forall₂.cons hcd h)]

end

end SurveyTables.Text
