import SurveyTables.Text.DecimalDigit
import SurveyTables.Text.WordChar

/-!
# Blanks, runs and what stops them

* `inRanges_of_apart` : tables of code points without a common range have no common character;
  so a blank is no letter, no digit and no word character (`isWordChar_of_isBlank`);
* `Stops p t` : a run of the class `p` ends where `t` begins (`Stops.takeWhile`, `Stops.dropWhile`,
  and `skipBlanks?_append` for blanks);
* `Run p` : one or more characters of a class;
* `Tight u` : a text with no blank at either end; blanks around it are what `trim` takes away
  (`Tight.trim_padded`, `trim_trim`).
-/

namespace SurveyTables.Text

/-! ## Classes of characters -/

/-- No range of one table meets a range of the other. -/
def apart (a b : List (Nat × Nat)) : Bool :=
  a.all fun r => b.all fun s => decide (r.2 < s.1) || decide (s.2 < r.1)

theorem inRanges_of_apart {a b : List (Nat × Nat)} (h : apart a b) {c : Char}
    (hc : inRanges a c) : inRanges b c = false := by
  rw [Bool.eq_false_iff]
  intro hb
  obtain ⟨r, hr, hrc⟩ := List.any_eq_true.1 hc
  obtain ⟨s, hs, hsc⟩ := List.any_eq_true.1 hb
  have hrs := List.all_eq_true.1 (List.all_eq_true.1 h r hr) s hs
  simp only [Bool.and_eq_true, Bool.or_eq_true, decide_eq_true_eq] at hrc hsc hrs
  omega

theorem isWordChar_of_isBlank {c : Char} (h : isBlank c) : isWordChar c = false :=
  inRanges_of_apart (by decide +kernel) h

theorem isDecimalDigit_of_isBlank {c : Char} (h : isBlank c) : isDecimalDigit c = false :=
  inRanges_of_apart (by decide +kernel) h

/-- A property of all ASCII characters, checked one by one. -/
theorem forall_ascii {P : Char → Prop} (h : ∀ n, n < 128 → P (Char.ofNat n)) {c : Char}
    (hc : c.toNat < 128) : P c := by
  have hn := h c.toNat hc
  rwa [Char.ofNat_toNat] at hn

theorem toNat_lt_of_val_le {c : Char} {b : UInt32} (h : c.val ≤ b) (hb : b.toNat < 128) :
    c.toNat < 128 :=
  Nat.lt_of_le_of_lt (UInt32.le_iff_toNat_le.1 h) hb

theorem toNat_lt_of_isAlphanum {c : Char} (h : c.isAlphanum) : c.toNat < 128 := by
  rcases Bool.or_eq_true_iff.1 h with h | h
  · rcases Bool.or_eq_true_iff.1 h with h | h
    · exact toNat_lt_of_val_le (of_decide_eq_true h).2 (by decide)
    · exact toNat_lt_of_val_le (of_decide_eq_true (Bool.and_eq_true_iff.1 h).2) (by decide)
  · exact toNat_lt_of_val_le (of_decide_eq_true (Bool.and_eq_true_iff.1 h).2) (by decide)

theorem isBlank_of_isAlphanum {c : Char} (h : c.isAlphanum) : isBlank c = false :=
  forall_ascii (P := fun c => c.isAlphanum → isBlank c = false) (by decide +kernel)
    (toNat_lt_of_isAlphanum h) h

theorem isBlank_of_isAlpha {c : Char} (h : c.isAlpha) : isBlank c = false :=
  isBlank_of_isAlphanum (Bool.or_eq_true_iff.2 (Or.inl h))

theorem isDecimalDigit_of_isAlpha {c : Char} (h : c.isAlpha) : isDecimalDigit c = false :=
  forall_ascii (P := fun c => c.isAlpha → isDecimalDigit c = false) (by decide +kernel)
    (toNat_lt_of_isAlphanum (Bool.or_eq_true_iff.2 (Or.inl h))) h

theorem isAlpha_of_isBlank {c : Char} (h : isBlank c) : c.isAlpha = false := by
  rw [Bool.eq_false_iff]
  intro ha
  rw [isBlank_of_isAlpha ha] at h
  cases h

theorem isBlank_of_isDigit {c : Char} (h : c.isDigit) : isBlank c = false :=
  isBlank_of_isAlphanum (Bool.or_eq_true_iff.2 (Or.inr h))

/-- Only a letter has a capital letter as its capital form. -/
theorem isAlpha_of_isUpper_toUpper {c : Char} (h : c.toUpper.isUpper) : c.isAlpha := by
  unfold Char.toUpper at h
  split at h
  · rename_i hc
    have hlower : c.isLower := Bool.and_eq_true_iff.2 ⟨decide_eq_true hc.1, decide_eq_true hc.2⟩
    exact Bool.or_eq_true_iff.2 (Or.inr hlower)
  · exact Bool.or_eq_true_iff.2 (Or.inl h)

/-! ## Where a run ends -/

def Stops (p : Char → Bool) (t : List Char) : Prop := ∀ c ∈ t.head?, p c = false

section
variable {p : Char → Bool} {c : Char} {u t : List Char}

@[simp] theorem stops_nil : Stops p [] := by simp [Stops]

@[simp] theorem stops_cons : Stops p (c :: t) ↔ p c = false := by simp [Stops]

theorem Stops.append (h : Stops p u) (hu : u ≠ []) (t : List Char) : Stops p (u ++ t) := by
  cases u with
  | nil => exact absurd rfl hu
  | cons c u => simpa using h

theorem stops_of_forall (h : ∀ c ∈ u, p c = false) : Stops p u := by
  intro c hc
  exact h c (List.mem_of_mem_head? hc)

theorem Stops.takeWhile_eq (h : Stops p t) : t.takeWhile p = [] := by
  cases t with
  | nil => rfl
  | cons c t => exact List.takeWhile_cons_of_neg (by simpa using h)

theorem Stops.dropWhile_eq (h : Stops p t) : t.dropWhile p = t := by
  cases t with
  | nil => rfl
  | cons c t => exact List.dropWhile_cons_of_neg (by simpa using h)

theorem Stops.takeWhile (h : Stops p t) (hu : ∀ c ∈ u, p c) : (u ++ t).takeWhile p = u := by
  rw [List.takeWhile_append_of_pos hu, h.takeWhile_eq, List.append_nil]

theorem Stops.dropWhile (h : Stops p t) (hu : ∀ c ∈ u, p c) : (u ++ t).dropWhile p = t := by
  rw [List.dropWhile_append_of_pos hu, h.dropWhile_eq]

/-- What stands after the end of a run does not change it. -/
theorem Stops.takeWhile_append (h : Stops p t) (s : List Char) :
    (s ++ t).takeWhile p = s.takeWhile p := by
  induction s with
  | nil => exact h.takeWhile_eq
  | cons c s ih =>
    rw [List.cons_append, List.takeWhile_cons, List.takeWhile_cons, ih]

theorem Stops.dropWhile_append (h : Stops p t) (s : List Char) :
    (s ++ t).dropWhile p = s.dropWhile p ++ t := by
  induction s with
  | nil => exact h.dropWhile_eq
  | cons c s ih =>
    rw [List.cons_append, List.dropWhile_cons, List.dropWhile_cons, ih]
    split <;> rfl

end

theorem trimStart_append {b t : List Char} (hb : ∀ c ∈ b, isBlank c) (ht : Stops isBlank t) :
    trimStart (b ++ t) = t :=
  ht.dropWhile hb

theorem skipBlanks?_of_stops {t : List Char} (ht : Stops isBlank t) : skipBlanks? t = none := by
  cases t with
  | nil => rfl
  | cons c t => rw [skipBlanks?, if_neg (by simpa using ht)]

theorem skipBlanks?_append {b t : List Char} (hne : b ≠ []) (hb : ∀ c ∈ b, isBlank c)
    (ht : Stops isBlank t) : skipBlanks? (b ++ t) = some t := by
  cases b with
  | nil => exact absurd rfl hne
  | cons c b =>
    rw [List.cons_append, skipBlanks?, if_pos (hb c List.mem_cons_self)]
    rw [trimStart_append (fun d hd => hb d (List.mem_cons_of_mem c hd)) ht]

/-! ## Runs -/

/-- One or more characters of a class. -/
structure Run (p : Char → Bool) where
  chars : List Char
  ne_nil : chars ≠ []
  all : ∀ c ∈ chars, p c

/-- Any number of blanks. -/
structure Blanks where
  chars : List Char
  all : ∀ c ∈ chars, isBlank c

/-- The blanks of a gap. -/
def Run.blanks (g : Run isBlank) : Blanks := ⟨g.chars, g.all⟩

theorem Run.stops {p q : Char → Bool} (r : Run p) (h : ∀ c, p c → q c = false) (t : List Char) :
    Stops q (r.chars ++ t) :=
  (stops_of_forall fun c hc => h c (r.all c hc)).append r.ne_nil t

theorem Run.skipBlanks? (g : Run isBlank) {t : List Char} (ht : Stops isBlank t) :
    Text.skipBlanks? (g.chars ++ t) = some t :=
  skipBlanks?_append g.ne_nil g.all ht

/-! ## Texts without blanks at the ends -/

/-- The text has a first and a last character, and neither is a blank. -/
structure Tight (u : List Char) : Prop where
  ne_nil : u ≠ []
  first : Stops isBlank u
  last : Stops isBlank u.reverse

namespace Tight
variable {u v : List Char}

theorem of_forall (hne : u ≠ []) (h : ∀ c ∈ u, isBlank c = false) : Tight u :=
  ⟨hne, stops_of_forall h, stops_of_forall fun c hc => h c (List.mem_reverse.1 hc)⟩

theorem stops (h : Tight u) (t : List Char) : Stops isBlank (u ++ t) :=
  h.first.append h.ne_nil t

theorem append (hu : Tight u) (m : List Char) (hv : Tight v) : Tight (u ++ m ++ v) where
  ne_nil := by simp [hu.ne_nil]
  first := by
    rw [List.append_assoc]
    exact hu.stops _
  last := by
    rw [List.reverse_append]
    exact hv.last.append (by simpa using hv.ne_nil) _

theorem trim_padded (h : Tight u) (pre post : Blanks) :
    trim (pre.chars ++ u ++ post.chars) = u := by
  have hpost : ∀ c ∈ post.chars.reverse, isBlank c := fun c hc =>
    post.all c (List.mem_reverse.1 hc)
  rw [trim, List.append_assoc, trimStart_append pre.all (h.stops _), trimEnd,
    List.reverse_append, h.last.dropWhile hpost, List.reverse_reverse]

theorem trim_eq (h : Tight u) : trim u = u := by
  have hp := h.trim_padded ⟨[], by simp⟩ ⟨[], by simp⟩
  simpa using hp

end Tight

theorem trim_of_forall {u : List Char} (h : ∀ c ∈ u, isBlank c = false) : trim u = u := by
  by_cases hne : u = []
  · rw [hne]
    rfl
  · exact (Tight.of_forall hne h).trim_eq

theorem stops_dropWhile (p : Char → Bool) (t : List Char) : Stops p (t.dropWhile p) := by
  induction t with
  | nil => exact stops_nil
  | cons c t ih =>
    rw [List.dropWhile_cons]
    split
    · exact ih
    · rename_i hc
      exact stops_cons.2 (Bool.eq_false_iff.2 hc)

theorem trimStart_eq (s : List Char) :
    trimStart s = trim s ++ ((trimStart s).reverse.takeWhile isBlank).reverse := by
  rw [trim, trimEnd, ← List.reverse_append, List.takeWhile_append_dropWhile, List.reverse_reverse]

theorem tight_trim {s : List Char} (h : trim s ≠ []) : Tight (trim s) where
  ne_nil := h
  first := by
    have hstart : Stops isBlank (trimStart s) := stops_dropWhile isBlank s
    obtain ⟨c, u, hcons⟩ := List.exists_cons_of_ne_nil h
    rw [trimStart_eq, hcons, List.cons_append, stops_cons] at hstart
    rw [hcons]
    exact stops_cons.2 hstart
  last := by
    rw [trim, trimEnd, List.reverse_reverse]
    exact stops_dropWhile isBlank _

theorem trim_trim (s : List Char) : trim (trim s) = trim s := by
  by_cases h : trim s = []
  · rw [h]
    rfl
  · exact (tight_trim h).trim_eq

theorem trim_trimStart (s : List Char) : trim (trimStart s) = trim s := by
  rw [trim, trim, trimStart, trimStart, (stops_dropWhile isBlank s).dropWhile_eq]

/-- Every text is what `trim` leaves between two texts of blanks. -/
theorem eq_padded_trim (s : List Char) :
    ∃ pre post : Blanks, s = pre.chars ++ trim s ++ post.chars := by
  refine ⟨⟨s.takeWhile isBlank, fun c hc => ?_⟩,
    ⟨((trimStart s).reverse.takeWhile isBlank).reverse, fun c hc => ?_⟩, ?_⟩
  · exact List.all_eq_true.1 List.all_takeWhile c hc
  · exact List.all_eq_true.1 List.all_takeWhile c (List.mem_reverse.1 hc)
  · rw [List.append_assoc, ← trimStart_eq, trimStart, List.takeWhile_append_dropWhile]

theorem trim_ne_nil {u : List Char} (hne : u ≠ []) (h : Stops isBlank u.reverse) :
    trim u ≠ [] := by
  intro hnil
  obtain ⟨c, r, hcr⟩ := List.exists_cons_of_ne_nil (List.reverse_ne_nil_iff.2 hne)
  have hc : c ∈ u := by
    rw [← List.mem_reverse, hcr]
    exact List.mem_cons_self
  obtain ⟨pre, post, hu⟩ := eq_padded_trim u
  rw [hu, hnil, List.append_nil] at hc
  have hblank : isBlank c := (List.mem_append.1 hc).elim (pre.all c) (post.all c)
  rw [hcr, stops_cons, hblank] at h
  cases h

end SurveyTables.Text
