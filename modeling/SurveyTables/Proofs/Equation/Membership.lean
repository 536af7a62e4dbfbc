import SurveyTables.Proofs.Equation.Connectives
import SurveyTables.Proofs.Equation.Trichotomy
import SurveyTables.Proofs.Equation.WrittenForm
import SurveyTables.Proofs.Text.Whole

/-!
# Lists and ranges decide membership

* `expandBetween_of_whole` : a clause has an `AND` between blanks in it, so a text without
  separators has no clause. `groups_of_whole` : it is a single piece;
* `ListItem` : an item of a list with the blanks around it, `listText` the items with commas
  between them;
* `read_listText` : a comparison with a list is read as one, whatever its items look like;
* `Equation.holds_membership` : what an equation with a list or a range means.
-/

namespace SurveyTables

open Text

namespace Equation

/-! ## Texts without separators -/

theorem drop?_of_skipWord? {k : Connective} {s r : List Char}
    (h : Between.skipWord? k.word s = some r) : k.drop? s = some r := by
  cases s with
  | nil => cases h
  | cons c s =>
    simp only [Between.skipWord?, skipBlanks?, Option.bind_eq_bind] at h
    rw [Connective.drop?]
    split
    · rename_i hc
      rwa [if_pos hc, Option.bind_some] at h
    · rename_i hc
      rw [if_neg hc] at h
      cases h

/-- The bounds of a clause have an `AND` between them that would cut the text. -/
theorem read?_of_whole {s : List Char} (h : conjunction.Whole s) : Between.read? s = none := by
  rw [Option.eq_none_iff_forall_ne_some]
  rintro ⟨b, rest⟩ hr
  rw [read?_eq] at hr
  split at hr
  · cases hr
  · obtain ⟨s₁, h₁, hr⟩ := Option.bind_eq_some_iff.1 hr
    obtain ⟨low, hlow, hr⟩ := Option.bind_eq_some_iff.1 hr
    obtain ⟨s₂, h₂, -⟩ := Option.bind_eq_some_iff.1 hr
    have hsuffix : low.2 <:+ s := ((suffix_of_takeNumber? hlow).trans
      (suffix_of_skipWord? h₁)).trans (List.dropWhile_suffix Between.isNameChar)
    have hdrop := drop?_of_skipWord? (k := conjunction) h₂
    rw [h low.2 hsuffix] at hdrop
    cases hdrop

theorem expandBetween_of_whole {s : List Char} (h : conjunction.Whole s) (w : Bool) :
    expandBetween w s = s := by
  induction s generalizing w with
  | nil => rw [expandBetween]
  | cons c s ih =>
    have hs : conjunction.Whole s := h.of_isInfix (List.suffix_cons c s).isInfix
    rw [expandBetween_cons (Or.inr (read?_of_whole h)), ih hs]

theorem groups_of_whole {s : List Char} (hor : disjunction.Whole s) (hand : conjunction.Whole s) :
    groups s = [[trim s]] := by
  obtain ⟨pre, post, hs⟩ := eq_padded_trim s
  have htrim : trim s <:+: s := ⟨pre.chars, post.chars, hs.symm⟩
  rw [groups, expandBetween_of_whole (hand.of_isInfix htrim), (hor.of_isInfix htrim).split_eq,
    List.map_singleton, (hand.of_isInfix htrim).split_eq]

/-- A text without separators that is a condition holds if the condition does. -/
theorem holds_of_whole {s : List Char} (hor : disjunction.Whole s) (hand : conjunction.Whole s)
    (hm : isMatchAll s = false) {c : Condition} (hc : Condition.read s = .ok c) (r : Record) :
    holds (String.ofList s) r = c.holds r := by
  rw [holds_of_isMatchAll (by rwa [String.toList_ofList]), String.toList_ofList,
    groups_of_whole hor hand]
  show ((((ofPiece (trim s)).holds r && true) || false) : Bool) = c.holds r
  rw [ofPiece_trim, ofPiece, hc, Bool.and_true, Bool.or_false]
  rfl

/-! ## Lists -/

/-- An item of a list with the blanks around it: no blanks, commas and symbols of connectives in
it, and no line break around it. The words of the connectives are no items, since between blanks
they would be separators. -/
structure ListItem where
  before : Blanks
  chars : List Char
  after : Blanks
  isItemChar : ∀ c ∈ chars, isItemChar c
  not_or : chars.map Char.toUpper ≠ disjunction.word
  not_and : chars.map Char.toUpper ≠ conjunction.word
  one_line : '\n' ∉ before.chars ++ after.chars

namespace ListItem

def text (x : ListItem) : List Char := x.before.chars ++ x.chars ++ x.after.chars

def value (x : ListItem) : String := String.ofList x.chars

variable (x : ListItem)

theorem isBlank_of_mem {c : Char} (hc : c ∈ x.chars) : isBlank c = false :=
  isBlank_of_isValueChar (isValueChar_of_isItemChar (x.isItemChar c hc))

theorem trim_text : trim x.text = x.chars := by
  rw [text, trim_blanks_append, trim_of_forall fun c => x.isBlank_of_mem]

theorem comma_not_mem : ',' ∉ x.text := by
  have hblank : ∀ b : Blanks, ',' ∉ b.chars := fun b hb => absurd (b.all ',' hb) (by decide)
  intro h
  rcases List.mem_append.1 h with h | h
  · rcases List.mem_append.1 h with h | h
    · exact hblank _ h
    · exact ne_comma_of_isItemChar (x.isItemChar ',' h) rfl
  · exact hblank _ h

theorem newline_not_mem : '\n' ∉ x.text := by
  intro h
  rcases List.mem_append.1 h with h | h
  · rcases List.mem_append.1 h with h | h
    · exact x.one_line (List.mem_append_left _ h)
    · exact absurd (x.isBlank_of_mem h) (by decide)
  · exact x.one_line (List.mem_append_right _ h)

theorem whole {k : Connective} (hk : k.Plain) (hs : isBoundaryChar k.symbol)
    (hne : x.chars.map Char.toUpper ≠ k.word) : k.Whole x.text := by
  refine Connective.whole_padded hk (fun c hc => ⟨x.isBlank_of_mem hc, ?_⟩) hne x.before x.after
  exact ne_symbol_of_isValueChar hs (isValueChar_of_isItemChar (x.isItemChar c hc))

end ListItem

/-- The items with commas between them. -/
def listText (items : List ListItem) : List Char := [','].intercalate (items.map ListItem.text)

/-- A comparison of the variable with the list. -/
def listEquation (code : Run Condition.isCodeChar) (op : Operator) (items : List ListItem) :
    List Char :=
  code.chars ++ op.symbol.toList ++ listText items

section
variable {items : List ListItem}

theorem whole_listText {k : Connective} (hk : k.Plain) (hs : isBoundaryChar k.symbol)
    (hcomma : ',' ≠ k.symbol) (hne : ∀ x ∈ items, x.chars.map Char.toUpper ≠ k.word) :
    k.Whole (listText items) := by
  refine Connective.Whole.intercalate hk (by decide) (by decide) hcomma fun u hu => ?_
  obtain ⟨x, hx, rfl⟩ := List.mem_map.1 hu
  exact x.whole hk hs (hne x hx)

theorem newline_not_mem_listText : '\n' ∉ listText items := by
  intro h
  rcases mem_intercalate h with h | ⟨u, hu, h⟩
  · exact absurd h (by decide)
  · obtain ⟨x, -, rfl⟩ := List.mem_map.1 hu
    exact x.newline_not_mem h

/-- Commas make a text a list before its dashes could make it a range. -/
theorem read_trim_listText (h : 2 ≤ items.length) {op : Operator}
    (hop : op = .equal ∨ op = .notEqual) :
    ',' ∈ trim (listText items) ∧
      Operand.read op (trim (listText items)) = .ok (.list (items.map ListItem.value)) := by
  have hpieces : splitOn ',' (listText items) = items.map ListItem.text := by
    refine splitOn_intercalate ?_ fun u hu => ?_
    · intro hnil
      rw [List.map_eq_nil_iff.1 hnil] at h
      cases h
    · obtain ⟨x, -, rfl⟩ := List.mem_map.1 hu
      exact x.comma_not_mem
  have htrim : (splitOn ',' (trim (listText items))).map trim = items.map ListItem.chars := by
    rw [map_trim_splitOn_trim (by decide), hpieces, List.map_map]
    exact List.map_congr_left fun x _ => x.trim_text
  have hcomma : ',' ∈ trim (listText items) := by
    by_contra hnot
    have hone := splitOn_append_of_not_mem hnot []
    rw [List.append_nil, splitOn, Connective.foldr_consFirst] at hone
    rw [hone] at htrim
    have hlength := congrArg List.length htrim
    simp only [List.map_cons, List.map_nil, List.length_cons, List.length_nil,
      List.length_map] at hlength
    omega
  refine ⟨hcomma, ?_⟩
  have hvalues : (splitOn ',' (trim (listText items))).map (fun p => String.ofList (trim p)) =
      items.map ListItem.value := by
    have hmap := congrArg (List.map String.ofList) htrim
    rwa [List.map_map, List.map_map] at hmap
  have hrange := Operand.readRange?_eq_none_iff.1 (readRange?_of_comma hcomma)
  obtain ⟨-, hsep, hraw⟩ := splitOn_spec ',' (trim (listText items))
  rw [(Operand.Reads.list hrange hcomma hop hsep hraw.symm).read_eq, hvalues]

variable (code : Run Condition.isCodeChar)

/-- The equation without the blanks at its end, which are those of a list that ends with an empty
item. -/
theorem trim_listEquation (op : Operator) (h : trim (listText items) ≠ []) :
    ∃ pre : Blanks, trim (listEquation code op items) =
        code.chars ++ op.symbol.toList ++ (pre.chars ++ trim (listText items)) ∧
      pre.chars ++ trim (listText items) <:+: listText items := by
  obtain ⟨pre, post, hlist⟩ := eq_padded_trim (listText items)
  have hfront : Tight (code.chars ++ op.symbol.toList) := by
    refine Tight.of_forall (by simp [code.ne_nil]) fun c hc => ?_
    rcases List.mem_append.1 hc with hc | hc
    · exact isBlank_of_isCodeChar (code.all c hc)
    · exact isBlank_of_isValueChar (mem_symbol op c hc).1
  have hshape : listEquation code op items = [] ++ (code.chars ++ op.symbol.toList ++ pre.chars ++
      trim (listText items)) ++ post.chars := by
    rw [listEquation]
    conv => lhs; rw [hlist]
    simp only [List.append_assoc, List.nil_append]
  refine ⟨pre, ?_, ⟨[], post.chars, by rw [List.nil_append]; exact hlist.symm⟩⟩
  rw [hshape, (hfront.append pre.chars (tight_trim h)).trim_padded ⟨[], nofun⟩ post,
    List.append_assoc]

theorem read_listEquation (h : 2 ≤ items.length) {op : Operator}
    (hop : op = .equal ∨ op = .notEqual) :
    Condition.read (listEquation code op items) =
      .ok ⟨String.ofList code.chars, op, .list (items.map ListItem.value)⟩ := by
  obtain ⟨hcomma, hread⟩ := read_trim_listText h hop
  have hne : trim (listText items) ≠ [] := List.ne_nil_of_mem hcomma
  obtain ⟨pre, htrim, hpart⟩ := trim_listEquation code op hne
  have hline : '\n' ∉ trimStart (pre.chars ++ trim (listText items)) := fun hn =>
    newline_not_mem_listText (hpart.subset ((List.dropWhile_suffix isBlank).subset hn))
  let p : Condition.Parts (trim (listEquation code op items)) :=
    ⟨code, ⟨[], nofun⟩, op, pre.chars ++ trim (listText items), by
      rw [htrim, List.append_assoc]
      rfl, List.append_ne_nil_of_right_ne_nil _ hne, hline,
      fun h => absurd hop (by rcases h with rfl | rfl <;> decide)⟩
  have hraw : p.raw = trim (listText items) := by
    have hpad := trim_blanks_append pre ⟨[], nofun⟩ (trim (listText items))
    rw [List.append_nil, trim_trim] at hpad
    exact hpad
  rw [Condition.read_of_parts p, hraw]
  show (Operand.read op _).map _ = _
  rw [hread]
  rfl

theorem isMatchAll_listEquation (h : 2 ≤ items.length) {op : Operator}
    (hop : op = .equal ∨ op = .notEqual) :
    isMatchAll (listEquation code op items) = false := by
  have hne : trim (listText items) ≠ [] := List.ne_nil_of_mem (read_trim_listText h hop).1
  obtain ⟨pre, htrim, -⟩ := trim_listEquation code op hne
  have htight : Tight (trim (listEquation code op items)) :=
    tight_trim (by rw [htrim]; simp [code.ne_nil])
  obtain ⟨c, hc⟩ : ∃ c, c ∈ op.symbol.toList :=
    List.exists_mem_of_ne_nil _ (by cases op <;> decide)
  have hall := isMatchAll_of_tight htight ⟨c, by simp [htrim, hc], (mem_symbol op c hc).2.1⟩
  rwa [isMatchAll, trim_trim] at hall

theorem whole_listEquation {k : Connective} (hk : k.Plain) (hs : isBoundaryChar k.symbol)
    (hcomma : ',' ≠ k.symbol) (op : Operator)
    (hne : ∀ x ∈ items, x.chars.map Char.toUpper ≠ k.word) :
    k.Whole (listEquation code op items) := by
  refine (whole_listText hk hs hcomma hne).forall_append fun c hc => ?_
  have hvalue : isValueChar c := by
    rcases List.mem_append.1 hc with hc | hc
    · exact isValueChar_of_isCodeChar (code.all c hc)
    · exact (mem_symbol op c hc).1
  exact ⟨isBlank_of_isValueChar hvalue, ne_symbol_of_isValueChar hs hvalue⟩

theorem holds_listEquation (h : 2 ≤ items.length) {op : Operator}
    (hop : op = .equal ∨ op = .notEqual) (r : Record) :
    holds (String.ofList (listEquation code op items)) r =
      (r.response? (String.ofList code.chars)).any fun v =>
        op.ofEquality ((items.map ListItem.value).contains v.display) :=
  holds_of_whole
    (whole_listEquation code disjunction_plain (by decide) (by decide) op fun x _ => x.not_or)
    (whole_listEquation code conjunction_plain (by decide) (by decide) op fun x _ => x.not_and)
    (isMatchAll_listEquation code h hop) (read_listEquation code h hop) r

end

/-! ## Ranges -/

/-- A comparison of the variable with the two bounds. -/
def rangeEquation (code : Run Condition.isCodeChar) (op : Operator) (low high : List Char) :
    List Char :=
  code.chars ++ op.symbol.toList ++ (low ++ '-' :: high)

section
variable {low high : List Char} (hlow : ∀ c ∈ low, isValueChar c)
  (hhigh : ∀ c ∈ high, isValueChar c) (hdash : '-' ∉ low) {min max : Float}
  (hmin : numberOfText? (String.ofList low) = some min)
  (hmax : numberOfText? (String.ofList high) = some max)
include hlow hhigh hdash hmin hmax

theorem holds_rangeEquation (code : Run Condition.isCodeChar) (op : Operator) (r : Record) :
    holds (String.ofList (rangeEquation code op low high)) r =
      (r.response? (String.ofList code.chars)).any fun v =>
        v.number?.any fun x => decide (min ≤ x) && decide (x ≤ max) := by
  have hall : ∀ c ∈ low ++ '-' :: high, isValueChar c := by
    intro c hc
    rcases List.mem_append.1 hc with hc | hc
    · exact hlow c hc
    · rcases List.mem_cons.1 hc with rfl | hc
      · decide
      · exact hhigh c hc
  have hne : low ≠ [] := by
    rintro rfl
    cases hmin
  have hrange : Operand.IsRange (low ++ '-' :: high) min max :=
    ⟨low, high, rfl, hne, hdash, hmin, hmax⟩
  let c : Comparison := ⟨code, op, ⟨low ++ '-' :: high, by simp, hall⟩⟩
  have hapart : c.Apart := by
    -- a number does not begin with an equals sign
    intro _ hhead
    have hmem : '=' ∈ low := by
      cases low with
      | nil => exact absurd rfl hne
      | cons d low => exact Option.some.inj hhead ▸ List.mem_cons_self
    rcases isNumeralChar_of_mem_numberOfText? hmin (by rwa [String.toList_ofList]) with h | h
    · exact absurd h (by decide)
    · exact absurd h (by decide)
  exact holds_of_read (c := c) hapart (Operand.Reads.range hrange).read_eq r

end

/-! ## Membership -/

/-- An equation with a list holds of the respondents whose response is one of its items, or none of
them, as a text. An equation with a range holds of those whose response is a number between its
bounds, whatever the operator. -/
theorem holds_membership (code : Run Condition.isCodeChar) :
    let response (r : Record) : Option Value := r.response? (String.ofList code.chars)
    (∀ items : List ListItem, 2 ≤ items.length → ∀ r,
      (holds (String.ofList (listEquation code .equal items)) r ↔
        ∃ v, response r = some v ∧ v.display ∈ items.map ListItem.value) ∧
      (holds (String.ofList (listEquation code .notEqual items)) r ↔
        ∃ v, response r = some v ∧ v.display ∉ items.map ListItem.value)) ∧
    (∀ low high : List Char, (∀ c ∈ low, isValueChar c) → (∀ c ∈ high, isValueChar c) →
      '-' ∉ low → ∀ min max, numberOfText? (String.ofList low) = some min →
        numberOfText? (String.ofList high) = some max → ∀ op r,
          (holds (String.ofList (rangeEquation code op low high)) r ↔
            ∃ x, (response r).bind Value.number? = some x ∧ min ≤ x ∧ x ≤ max)) := by
  intro response
  refine ⟨fun items h r => ⟨?_, ?_⟩, fun low high hlow hhigh hdash min max hmin hmax op r => ?_⟩
  · rw [holds_listEquation code h (Or.inl rfl), Option.any_eq_true]
    simp [Operator.ofEquality, response]
  · rw [holds_listEquation code h (Or.inr rfl), Option.any_eq_true]
    simp [Operator.ofEquality, response]
  · rw [holds_rangeEquation hlow hhigh hdash hmin hmax, Option.any_eq_true]
    simp only [Option.any_eq_true, Bool.and_eq_true, decide_eq_true_eq, Option.bind_eq_some_iff,
      response]
    constructor
    · rintro ⟨v, hv, x, hx, hle⟩
      exact ⟨x, ⟨v, hv, hx⟩, hle⟩
    · rintro ⟨x, ⟨v, hv, hx⟩, hle⟩
      exact ⟨v, hv, x, hx, hle⟩

/-- Items with dashes and an empty one make no range, and a dash in the upper bound makes no
list. -/
theorem holds_membership_dashes :
    let code : Run Condition.isCodeChar := ⟨"Q1".toList, by decide, List.all_eq_true.1 rfl⟩
    let bare : Blanks := ⟨[], nofun⟩
    let space : Blanks := ⟨[' '], List.all_eq_true.1 rfl⟩
    let items : List ListItem :=
      [⟨bare, "1-2".toList, space, List.all_eq_true.1 rfl, by decide, by decide, by decide⟩,
        ⟨space, "-3".toList, bare, List.all_eq_true.1 rfl, by decide, by decide, by decide⟩,
        ⟨bare, [], space, nofun, by decide, by decide, by decide⟩]
    let r (v : Value) := Record.ofList [("Q1", v)]
    listEquation code .equal items = "Q1=1-2 , -3, ".toList ∧ 2 ≤ items.length ∧
      holds (String.ofList (listEquation code .equal items)) (r (.number (-3))) = true ∧
      holds (String.ofList (listEquation code .notEqual items)) (r (.number 1)) = true ∧
      rangeEquation code .greater "0".toList "15e-1".toList = "Q1>0-15e-1".toList ∧
      holds (String.ofList (rangeEquation code .greater "0".toList "15e-1".toList))
        (r (.text "1.0")) = true := by
  intro code bare space items r
  obtain ⟨hlist, hrange⟩ := holds_membership code
  have hlength : 2 ≤ items.length := by decide
  have hmember := (hlist items hlength (r (.number (-3)))).1.2
    ⟨.number (-3), by decide +kernel, by decide +kernel⟩
  have hother := (hlist items hlength (r (.number 1))).2.2
    ⟨.number 1, by decide +kernel, by decide +kernel⟩
  have hzero : numberOfText? (String.ofList "0".toList) = some 0 := by decide +kernel
  have hhalf : numberOfText? (String.ofList "15e-1".toList) = some 1.5 := by decide +kernel
  have hbetween := (hrange "0".toList "15e-1".toList (List.all_eq_true.1 rfl)
    (List.all_eq_true.1 rfl) (by decide) 0 1.5 hzero hhalf .greater (r (.text "1.0"))).2
      ⟨1, by decide +kernel, by decide +kernel, by decide +kernel⟩
  exact ⟨by decide +kernel, hlength, hmember, hother, by decide +kernel, hbetween⟩

end Equation

end SurveyTables
