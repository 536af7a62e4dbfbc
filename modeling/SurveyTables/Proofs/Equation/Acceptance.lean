import Mathlib.Data.List.Basic
import SurveyTables.Proofs.Equation.Reading
import SurveyTables.Proofs.Text.Cut

/-!
# Which texts are conditions

* `Condition.Parts t` : a way to write `t` as a code, an operator and a rest. There is one exactly if
  the reader splits the text, and the reader finds its parts (`Parts.splitParts?_eq`,
  `exists_parts`);
* `Operand.IsRange`, `Operand.Reads` : what the text of a value stands for under an operator. It is
  read as that (`Operand.reads_read`) and as nothing else (`Operand.Reads.read_eq`);
* `Condition.Reads` : what a text stands for as a condition, or why it is none;
* `Condition.read_grammar` : the reader gives just this result, for every text.
-/

namespace SurveyTables

open Text Equation

/-! ## Values -/

namespace Operand

/-- Both sides of the first dash are numbers, and the dash is not in front. -/
def IsRange (raw : List Char) (min max : Float) : Prop :=
  ∃ low high, raw = low ++ '-' :: high ∧ low ≠ [] ∧ '-' ∉ low ∧
    numberOfText? (String.ofList low) = some min ∧ numberOfText? (String.ofList high) = some max

/-- What the text of a value stands for: a range under any operator, else a list if there is a
comma, which can only be equal or not equal, else the text itself. -/
inductive Reads (op : Operator) (raw : List Char) : Except ConditionError Operand → Prop
  | range {min max : Float} (h : IsRange raw min max) : Reads op raw (.ok (.range min max))
  | list (h : ∀ min max, ¬ IsRange raw min max) (hcomma : ',' ∈ raw)
      (hop : op = .equal ∨ op = .notEqual) {pieces : List (List Char)}
      (hpieces : ∀ p ∈ pieces, ',' ∉ p) (hraw : raw = [','].intercalate pieces) :
      Reads op raw (.ok (.list (pieces.map fun p => String.ofList (trim p))))
  | unsupportedList (h : ∀ min max, ¬ IsRange raw min max) (hcomma : ',' ∈ raw)
      (hop : op ≠ .equal ∧ op ≠ .notEqual) : Reads op raw (.error (.unsupportedList op))
  | scalar (h : ∀ min max, ¬ IsRange raw min max) (hcomma : ',' ∉ raw) :
      Reads op raw (.ok (.scalar (String.ofList raw)))

theorem readRange?_eq_some_iff {raw : List Char} {v : Operand} :
    readRange? raw = some v ↔ ∃ min max, IsRange raw min max ∧ v = .range min max := by
  constructor
  · intro h
    unfold readRange? at h
    split at h
    · cases h
    · rename_i hhead
      obtain ⟨⟨low, high⟩, hs, h⟩ := Option.bind_eq_some_iff.1 h
      obtain ⟨min, hmin, h⟩ := Option.bind_eq_some_iff.1 h
      obtain ⟨max, hmax, rfl⟩ := Option.map_eq_some_iff.1 h
      obtain ⟨hdash, rfl⟩ := of_splitOnce? hs
      have hne : low ≠ [] := by
        rintro rfl
        exact hhead rfl
      exact ⟨min, max, ⟨low, high, rfl, hne, hdash, hmin, hmax⟩, rfl⟩
  · rintro ⟨min, max, ⟨low, high, rfl, -, hdash, hmin, hmax⟩, rfl⟩
    exact readRange?_append hdash hmin hmax

theorem readRange?_eq_none_iff {raw : List Char} :
    readRange? raw = none ↔ ∀ min max, ¬ IsRange raw min max := by
  rw [Option.eq_none_iff_forall_ne_some]
  constructor
  · intro h min max hr
    exact h _ (readRange?_eq_some_iff.2 ⟨min, max, hr, rfl⟩)
  · intro h v hv
    obtain ⟨min, max, hr, -⟩ := readRange?_eq_some_iff.1 hv
    exact h min max hr

theorem reads_read (op : Operator) (raw : List Char) : Reads op raw (read op raw) := by
  unfold read
  split
  · rename_i v hr
    obtain ⟨min, max, h, rfl⟩ := readRange?_eq_some_iff.1 hr
    exact .range h
  · rename_i hr
    have h := readRange?_eq_none_iff.1 hr
    split
    · rename_i hcomma
      have hcomma := List.contains_iff_mem.1 hcomma
      obtain ⟨-, hpieces, hraw⟩ := splitOn_spec ',' raw
      split
      · rename_i hop
        exact .list h hcomma (Operator.isEquality_iff.1 hop) hpieces hraw.symm
      · rename_i hop
        exact .unsupportedList h hcomma (not_or.1 fun heq => hop (Operator.isEquality_iff.2 heq))
    · rename_i hcomma
      exact .scalar h fun hmem => hcomma (List.contains_iff_mem.2 hmem)

theorem Reads.read_eq {op : Operator} {raw : List Char} {r : Except ConditionError Operand}
    (h : Reads op raw r) : read op raw = r := by
  unfold read
  cases h with
  | range h => rw [readRange?_eq_some_iff.2 ⟨_, _, h, rfl⟩]
  | list h hcomma hop hpieces hraw =>
    rename_i pieces
    have hne : pieces ≠ [] := by
      rintro rfl
      rw [hraw] at hcomma
      cases hcomma
    rw [readRange?_eq_none_iff.2 h, if_pos (List.contains_iff_mem.2 hcomma),
      if_pos (Operator.isEquality_iff.2 hop), hraw, splitOn_intercalate hne hpieces]
  | unsupportedList h hcomma hop =>
    rw [readRange?_eq_none_iff.2 h, if_pos (List.contains_iff_mem.2 hcomma),
      if_neg fun heq => not_or.2 hop (Operator.isEquality_iff.1 heq)]
  | scalar h hcomma =>
    rw [readRange?_eq_none_iff.2 h, if_neg fun hc => hcomma (List.contains_iff_mem.1 hc)]

theorem isNaN_of_numberOfText? {s : String} {x : Float} (h : numberOfText? s = some x) :
    x.isNaN = false := by
  simpa using (Option.filter_eq_some_iff.1 h).2

theorem IsRange.isNaN {raw : List Char} {min max : Float} (h : IsRange raw min max) :
    min.isNaN = false ∧ max.isNaN = false := by
  obtain ⟨low, high, -, -, -, hmin, hmax⟩ := h
  exact ⟨isNaN_of_numberOfText? hmin, isNaN_of_numberOfText? hmax⟩

end Operand

namespace Condition

/-! ## Code, operator and rest -/

/-- A way to write a text as a code, blanks, an operator and a rest that is not empty and, without
its leading blanks, on one line. An equals sign behind `>` or `<` belongs to the operator, unless it
is all that there is for the value. -/
structure Parts (t : List Char) where
  code : Run isCodeChar
  gap : Blanks
  operator : Operator
  rest : List Char
  eq : t = code.chars ++ (gap.chars ++ (operator.symbol.toList ++ rest))
  rest_ne_nil : rest ≠ []
  one_line : '\n' ∉ trimStart rest
  longest : operator = .greater ∨ operator = .less → rest.head? = some '=' → rest = ['=']

/-- The text of the value. -/
def Parts.raw {t : List Char} (p : Parts t) : List Char := trim p.rest

section
variable {s v rest : List Char} {op : Operator}

theorem valueText?_eq_some_iff (hne : rest ≠ []) (h : Stops isBlank rest.reverse) :
    valueText? rest = some v ↔ '\n' ∉ trimStart rest ∧ v = trimStart rest := by
  have hstart : trimStart rest ≠ [] := fun hnil => trim_ne_nil hne h (by rw [trim, hnil]; rfl)
  rw [valueText?, List.isEmpty_eq_false_iff.2 hstart, Bool.false_or]
  split
  · rename_i hline
    simp [List.contains_iff_mem.1 hline]
  · rename_i hline
    simp only [List.contains_iff_mem] at hline
    simp [hline, eq_comm]

/-- A longer symbol is tried first. -/
theorem mem_of_length_lt {before after : List Operator} {a b : Operator}
    (hall : Operator.all = before ++ b :: after) (h : b.symbol.length < a.symbol.length) :
    a ∈ before := by
  have hmem := mem_all a
  have hpairs := pairwise_all
  rw [hall] at hmem hpairs
  rcases List.mem_append.1 hmem with hmem | hmem
  · exact hmem
  rcases List.mem_cons.1 hmem with rfl | hmem
  · exact absurd h (Nat.lt_irrefl _)
  · have hle := ((List.pairwise_cons.1 (List.pairwise_append.1 hpairs).2.1).1 a hmem).2
    exact absurd h (Nat.not_lt.2 hle)

/-- `>` and `<` become another operator with an equals sign behind them. -/
theorem exists_longer (h : op = .greater ∨ op = .less) :
    ∃ a : Operator, a.symbol.toList = op.symbol.toList ++ ['='] ∧
      op.symbol.length < a.symbol.length := by
  rcases h with rfl | rfl
  · exact ⟨.greaterEqual, by decide⟩
  · exact ⟨.lessEqual, by decide⟩

theorem splitOperator?_of_rest (hne : rest ≠ []) (h : Stops isBlank rest.reverse)
    (hline : '\n' ∉ trimStart rest)
    (hlong : op = .greater ∨ op = .less → rest.head? = some '=' → rest = ['=']) :
    splitOperator? (op.symbol.toList ++ rest) = some (op, trimStart rest) := by
  by_cases heq : (op = .greater ∨ op = .less) ∧ rest.head? = some '='
  · obtain rfl := hlong heq.1 heq.2
    rcases heq.1 with rfl | rfl <;> decide +kernel
  · exact splitOperator?_append ((valueText?_eq_some_iff hne h).2 ⟨hline, rfl⟩)
      fun hop hhead => heq ⟨hop, hhead⟩

theorem of_splitOperator? (hs : Stops isBlank s.reverse) (h : splitOperator? s = some (op, v)) :
    ∃ rest, s = op.symbol.toList ++ rest ∧ rest ≠ [] ∧ '\n' ∉ trimStart rest ∧
      v = trimStart rest ∧
      (op = .greater ∨ op = .less → rest.head? = some '=' → rest = ['=']) := by
  obtain ⟨before, a, after, hall, ha, hbefore⟩ := List.findSome?_eq_some_iff.1 h
  obtain ⟨rest, hrest, hmap⟩ := Option.bind_eq_some_iff.1 ha
  obtain ⟨w, hw, he⟩ := Option.map_eq_some_iff.1 hmap
  obtain ⟨rfl, rfl⟩ := Prod.mk.inj he
  have hsplit := List.isPrefixOf?_eq_some_iff_append_eq.1 hrest
  have hne : rest ≠ [] := by
    rintro rfl
    cases hw
  have hlast : Stops isBlank rest.reverse := hs.reverse_of_suffix ⟨_, hsplit⟩ hne
  obtain ⟨hline, hv⟩ := (valueText?_eq_some_iff hne hlast).1 hw
  refine ⟨rest, hsplit.symm, hne, hline, hv, fun hop hhead => ?_⟩
  -- the longer operator was tried before, and left nothing for a value
  obtain ⟨b, hb, hlength⟩ := exists_longer hop
  obtain ⟨r, rfl⟩ := List.head?_eq_some_iff.1 hhead
  have hbs : b.symbol.toList.isPrefixOf? s = some r := by
    rw [List.isPrefixOf?_eq_some_iff_append_eq, hb, List.append_assoc]
    exact hsplit
  have hnone := hbefore b (mem_of_length_lt hall hlength)
  rw [hbs, Option.bind_some, Option.map_eq_none_iff] at hnone
  by_contra hr
  have hrne : r ≠ [] := fun hnil => hr (by rw [hnil])
  have hrlast := hlast.reverse_of_suffix (List.suffix_cons '=' r) hrne
  have hrline : '\n' ∉ trimStart r := by
    intro hmem
    refine hline ?_
    rw [trimStart, (stops_cons.2 (by decide) : Stops isBlank ('=' :: r)).dropWhile_eq]
    exact List.mem_cons_of_mem '=' ((List.dropWhile_suffix isBlank).subset hmem)
  rw [(valueText?_eq_some_iff hrne hrlast).2 ⟨hrline, rfl⟩] at hnone
  cases hnone

end

namespace Parts
variable {t : List Char} (p : Parts t)

include p in
theorem ne_nil : t ≠ [] := by
  intro hnil
  exact p.code.ne_nil (List.append_eq_nil_iff.1 (p.eq.symm.trans hnil)).1

theorem suffix_rest : p.rest <:+ t :=
  ⟨p.code.chars ++ p.gap.chars ++ p.operator.symbol.toList, by
    rw [List.append_assoc, List.append_assoc]
    exact p.eq.symm⟩

theorem stops_blank : Stops isBlank (p.operator.symbol.toList ++ p.rest) := by
  have hne : p.operator.symbol.toList ≠ [] := by cases p.operator <;> decide
  exact (stops_of_forall fun x hx => isBlank_of_isValueChar (mem_symbol _ x hx).1).append hne _

theorem stops_code :
    Stops isCodeChar (p.gap.chars ++ (p.operator.symbol.toList ++ p.rest)) := by
  have hne : p.operator.symbol.toList ≠ [] := by cases p.operator <;> decide
  rw [← List.append_assoc]
  refine (stops_of_forall fun x hx => ?_).append (by simp [hne]) _
  rcases List.mem_append.1 hx with hx | hx
  · rw [Bool.eq_false_iff]
    intro hcode
    have hblank := p.gap.all x hx
    rw [isBlank_of_isCodeChar hcode] at hblank
    cases hblank
  · exact (mem_symbol _ x hx).2.2

/-- The code reaches as far as possible. -/
theorem takeWhile_eq : t.takeWhile isCodeChar = p.code.chars := by
  conv_lhs => rw [p.eq]
  exact p.stops_code.takeWhile p.code.all

theorem dropWhile_eq :
    t.dropWhile isCodeChar = p.gap.chars ++ (p.operator.symbol.toList ++ p.rest) := by
  conv_lhs => rw [p.eq]
  exact p.stops_code.dropWhile p.code.all

section
variable (ht : Tight t)
include ht

theorem raw_ne_nil : p.raw ≠ [] :=
  trim_ne_nil p.rest_ne_nil (ht.last.reverse_of_suffix p.suffix_rest p.rest_ne_nil)

theorem splitParts?_eq : splitParts? t = some (p.code.chars, p.operator, p.raw) := by
  have hlast := ht.last.reverse_of_suffix p.suffix_rest p.rest_ne_nil
  rw [splitParts?, p.takeWhile_eq, p.dropWhile_eq, if_neg (by simp [p.code.ne_nil]),
    trimStart_append p.gap.all p.stops_blank,
    splitOperator?_of_rest p.rest_ne_nil hlast p.one_line p.longest, Option.map_some,
    trim_trimStart, raw]

end

end Parts

theorem exists_parts {t code raw : List Char} {op : Operator} (ht : Tight t)
    (h : splitParts? t = some (code, op, raw)) :
    ∃ p : Parts t, p.code.chars = code ∧ p.operator = op ∧ p.raw = raw := by
  rw [splitParts?] at h
  split at h
  · cases h
  · rename_i hcode
    obtain ⟨⟨a, v⟩, hv, he⟩ := Option.map_eq_some_iff.1 h
    obtain ⟨hcodes, he⟩ := Prod.mk.inj he
    obtain ⟨rfl, rfl⟩ := Prod.mk.inj he
    have hsuffix : trimStart (t.dropWhile isCodeChar) <:+ t :=
      (List.dropWhile_suffix isBlank).trans (List.dropWhile_suffix isCodeChar)
    have hlast : Stops isBlank (trimStart (t.dropWhile isCodeChar)).reverse := by
      refine ht.last.reverse_of_suffix hsuffix ?_
      intro hnil
      rw [hnil] at hv
      cases hv
    obtain ⟨rest, hrest, hne, hline, rfl, hlong⟩ := of_splitOperator? hlast hv
    refine ⟨⟨⟨t.takeWhile isCodeChar, by simpa using hcode,
      List.all_eq_true.1 List.all_takeWhile⟩, ⟨(t.dropWhile isCodeChar).takeWhile isBlank,
      List.all_eq_true.1 List.all_takeWhile⟩, a, rest, ?_, hne, hline, hlong⟩, hcodes, rfl,
      (trim_trimStart rest).symm⟩
    rw [← hrest, trimStart, List.takeWhile_append_dropWhile, List.takeWhile_append_dropWhile]

/-! ## Conditions -/

/-- What a text stands for as a condition. Blanks at its ends do not count. -/
inductive Reads (s : List Char) : Except ConditionError Condition → Prop
  | empty (h : trim s = []) : Reads s (.error .empty)
  | malformed (h : trim s ≠ []) (hparts : ¬ Nonempty (Parts (trim s))) :
      Reads s (.error (.malformed (String.ofList (trim s))))
  | condition (p : Parts (trim s)) {v : Operand} (h : Operand.Reads p.operator p.raw (.ok v)) :
      Reads s (.ok ⟨String.ofList p.code.chars, p.operator, v⟩)
  | unsupported (p : Parts (trim s)) {e : ConditionError}
      (h : Operand.Reads p.operator p.raw (.error e)) : Reads s (.error e)

theorem read_of_parts {s : List Char} (p : Parts (trim s)) :
    read s = (Operand.read p.operator p.raw).map fun v =>
      ⟨String.ofList p.code.chars, p.operator, v⟩ := by
  rw [read, p.splitParts?_eq (tight_trim p.ne_nil), if_neg (by simpa using p.ne_nil)]

theorem read_of_not_parts {s : List Char} (h : trim s ≠ []) (hparts : ¬ Nonempty (Parts (trim s))) :
    read s = .error (.malformed (String.ofList (trim s))) := by
  have hnone : splitParts? (trim s) = none := by
    rw [Option.eq_none_iff_forall_ne_some]
    rintro ⟨code, op, raw⟩ hsome
    obtain ⟨p, -⟩ := exists_parts (tight_trim h) hsome
    exact hparts ⟨p⟩
  rw [read, if_neg (by simpa using h), hnone]

theorem reads_read (s : List Char) : Reads s (read s) := by
  by_cases hne : trim s = []
  · rw [read, if_pos (by simpa using hne)]
    exact .empty hne
  by_cases hparts : Nonempty (Parts (trim s))
  · obtain ⟨p⟩ := hparts
    have hvalue := Operand.reads_read p.operator p.raw
    rw [read_of_parts p]
    cases hv : Operand.read p.operator p.raw with
    | ok v => exact .condition p (hv ▸ hvalue)
    | error e => exact .unsupported p (hv ▸ hvalue)
  · rw [read_of_not_parts hne hparts]
    exact .malformed hne hparts

theorem Reads.read_eq {s : List Char} {r : Except ConditionError Condition} (h : Reads s r) :
    read s = r := by
  cases h with
  | empty h => rw [read, if_pos (by simpa using h)]
  | malformed h hparts => exact read_of_not_parts h hparts
  | condition p h => rw [read_of_parts p, h.read_eq]; rfl
  | unsupported p h => rw [read_of_parts p, h.read_eq]; rfl

theorem read_eq_iff {s : List Char} {r : Except ConditionError Condition} :
    read s = r ↔ Reads s r :=
  ⟨fun h => h ▸ reads_read s, Reads.read_eq⟩

theorem read_eq_empty_iff {s : List Char} : read s = .error .empty ↔ trim s = [] := by
  refine ⟨fun h => ?_, fun h => (Reads.empty h).read_eq⟩
  cases read_eq_iff.1 h with
  | empty h => exact h
  | unsupported p h => cases h

theorem read_eq_malformed_iff {s text : List Char} :
    read s = .error (.malformed (String.ofList text)) ↔
      trim s ≠ [] ∧ ¬ Nonempty (Parts (trim s)) ∧ text = trim s := by
  constructor
  · intro h
    have hr := read_eq_iff.1 h
    generalize htext : String.ofList text = u at hr
    cases hr with
    | malformed hne hparts => exact ⟨hne, hparts, String.ofList_injective htext⟩
    | unsupported p h => cases h
  · rintro ⟨hne, hparts, rfl⟩
    exact read_of_not_parts hne hparts

/-- A text is read as what it stands for, whatever it is: blank texts, texts that do not fall into
parts, lists under an operator that orders, and ranges, lists and single values. The parts have the
longest possible code and a value, and no bound of a range is a NaN. -/
theorem read_grammar (s : List Char) :
    (∀ r, read s = r ↔ Reads s r) ∧ (read s = .error .empty ↔ trim s = []) ∧
      (∀ text, read s = .error (.malformed (String.ofList text)) ↔
        trim s ≠ [] ∧ ¬ Nonempty (Parts (trim s)) ∧ text = trim s) ∧
      (∀ p : Parts (trim s), p.code.chars = (trim s).takeWhile isCodeChar ∧ p.raw ≠ []) ∧
      ∀ c min max, read s = .ok c → c.operand = .range min max →
        min.isNaN = false ∧ max.isNaN = false := by
  refine ⟨fun r => read_eq_iff, read_eq_empty_iff, fun text => read_eq_malformed_iff, fun p =>
    ⟨p.takeWhile_eq.symm, p.raw_ne_nil (tight_trim p.ne_nil)⟩, fun c min max hc hrange => ?_⟩
  cases read_eq_iff.1 hc with
  | condition p h =>
    obtain rfl := hrange
    cases h with
    | range h => exact h.isNaN

/-- A range under an operator that orders, lists under those that do not and under two that do, a
dash in front that makes no range, an equals sign that is the value, a blank text and one that does
not begin with a code. -/
theorem read_grammar_values :
    let results : List (String × Except ConditionError Condition) := [
      (" AGE >= 18-34 ", .ok ⟨"AGE", .greaterEqual, .range 18 34⟩),
      ("S1=1, 2", .ok ⟨"S1", .equal, .list ["1", "2"]⟩),
      ("S1!=1-2,", .ok ⟨"S1", .notEqual, .list ["1-2", ""]⟩),
      ("S1>1,2", .error (.unsupportedList .greater)),
      ("S1<=1,2", .error (.unsupportedList .lessEqual)),
      ("Q1<-1-2", .ok ⟨"Q1", .less, .scalar "-1-2"⟩),
      ("S_7 >=", .ok ⟨"S_7", .greater, .scalar "="⟩),
      (" ", .error .empty), ("Ä=1", .error (.malformed "Ä=1"))]
    (∀ e ∈ results, read e.1.toList = e.2 ∧ Reads e.1.toList e.2) ∧
      (18 : Float).isNaN = false ∧ (34 : Float).isNaN = false := by
  intro results
  have hread : ∀ e ∈ results, read e.1.toList = e.2 := by decide +kernel
  exact ⟨fun e he => ⟨hread e he, ((read_grammar e.1.toList).1 e.2).1 (hread e he)⟩,
    (read_grammar " AGE >= 18-34 ".toList).2.2.2.2 ⟨"AGE", .greaterEqual, .range 18 34⟩ 18 34
      (hread _ List.mem_cons_self) rfl⟩

end Condition

end SurveyTables
