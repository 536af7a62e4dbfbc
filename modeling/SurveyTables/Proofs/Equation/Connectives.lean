import SurveyTables.Proofs.Equation.Meaning
import SurveyTables.Proofs.Equation.Sides

/-!
# Equations under connectives

* `Expression.disjuncts`, `Expression.conjuncts` : the parts of an expression under either
  connective; `disjuncts_ofGroups`, `conjuncts_conjoin_map` : the groups of an equation and the
  pieces of a group;
* `groups_disjunction`, `groups_conjunction`, `groups_keyword` : the groups of two texts with a
  symbol or a keyword between them. The keyword, unlike the symbols, can be taken for the variable
  of a clause;
* `parse_append_symbol`, `holds_append_keyword` : what two equations mean with a connective between
  them.
-/

namespace SurveyTables

namespace Expression

/-- The parts of a disjunction. Any other expression is its own single part. -/
def disjuncts : Expression → List Expression
  | .or parts => parts
  | e => [e]

/-- The parts of a conjunction. Any other expression is its own single part. -/
def conjuncts : Expression → List Expression
  | .and parts => parts
  | e => [e]

/-- The expression is a disjunction. -/
def isOr : Expression → Bool
  | .or _ => true
  | _ => false

end Expression

namespace Equation

open Text

/-! ## Parts of a parsed equation -/

theorem disjuncts_disjoin {es : List Expression} (h : ∀ e ∈ es, e.isOr = false) :
    (disjoin es).disjuncts = es := by
  unfold disjoin
  split
  · rename_i e
    have he : e.isOr = false := h e List.mem_cons_self
    cases e with
    | or parts => cases he
    | _ => rfl
  · rfl

theorem isOr_conjoin_map (g : List (List Char)) : (conjoin (g.map ofPiece)).isOr = false := by
  unfold conjoin
  split
  · rename_i e he
    obtain ⟨p, -, rfl⟩ := List.mem_map.1 (he ▸ List.mem_singleton_self e)
    unfold ofPiece
    split <;> rfl
  · rfl

theorem disjuncts_ofGroups (gs : List (List (List Char))) :
    (ofGroups gs).disjuncts = gs.map fun g => conjoin (g.map ofPiece) := by
  refine disjuncts_disjoin fun e he => ?_
  obtain ⟨g, -, rfl⟩ := List.mem_map.1 he
  exact isOr_conjoin_map g

theorem conjuncts_conjoin_map (g : List (List Char)) :
    (conjoin (g.map ofPiece)).conjuncts = g.map ofPiece := by
  unfold conjoin
  split
  · rename_i e he
    obtain ⟨p, -, rfl⟩ := List.mem_map.1 (he ▸ List.mem_singleton_self e)
    rw [he]
    unfold ofPiece
    split <;> rfl
  · rfl

/-- An equation that is no disjunction has one group. -/
theorem exists_eq_singleton_of_isOr {gs : List (List (List Char))}
    (h : (ofGroups gs).isOr = false) : ∃ g, gs = [g] := by
  match gs with
  | [] => cases h
  | [g] => exact ⟨g, rfl⟩
  | _ :: _ :: _ => cases h

theorem parse_of_isMatchAll {s : String} (h : isMatchAll s.toList = false) :
    parse s = ofGroups (groups s.toList) := by
  rw [parse, h]
  rfl

theorem warnings_of_isMatchAll {s : String} (h : isMatchAll s.toList = false) :
    warnings s = (groups s.toList).flatten.filterMap warning? := by
  rw [warnings, h]
  rfl

theorem holds_of_isMatchAll {s : String} (h : isMatchAll s.toList = false) (r : Record) :
    holds s r = (groups s.toList).any fun g => g.all fun p => (ofPiece p).holds r := by
  rw [holds, parse_of_isMatchAll h, holds_ofGroups]

theorem tight_of_trimmed {s : String} (h : trimmed s = s) (hm : isMatchAll s.toList = false) :
    Tight s.toList := by
  have htrim : trim s.toList = s.toList := by
    rw [← String.toList_ofList (l := trim s.toList)]
    exact congrArg String.toList h
  rw [← htrim]
  refine tight_trim fun hnil => ?_
  rw [isMatchAll, hnil] at hm
  cases hm

/-! ## A symbol between two texts -/

theorem expandBetween_symbol {c : Char} (h : isBoundaryChar c) (hb : isBlank c = false)
    (u v : List Char) :
    expandBetween false (u ++ c :: v) = expandBetween false u ++ c :: expandBetween false v := by
  have hc : ∀ d ∈ [c], isBoundaryChar d := by simpa using h
  rw [(severs_symbol h hb v).expandBetween_append]
  exact congrArg _ (expandBetween_boundary hc v)

section
variable {u v : List Char} (hu : Tight u) (hv : Tight v)
include hu hv

theorem trim_append_cons (c : Char) : trim (u ++ c :: v) = u ++ c :: v := by
  have htight := hu.append [c] hv
  rw [List.append_assoc] at htight
  exact htight.trim_eq

theorem groups_disjunction :
    groups (u ++ disjunction.symbol :: v) = groups u ++ groups v := by
  have hcut := (Connective.parts_symbol disjunction_plain disjunction_plain (expandBetween false u)
    (expandBetween false v)).split_append_of_nil_cons (Connective.split_of_drop? rfl)
  rw [groups, groups, groups, trim_append_cons hu hv, hu.trim_eq, hv.trim_eq,
    expandBetween_symbol (by decide) (by decide), hcut, List.map_append]

theorem groups_conjunction {g h : List (List Char)} (hg : groups u = [g]) (hh : groups v = [h]) :
    groups (u ++ conjunction.symbol :: v) = [g ++ h] := by
  rw [groups, hu.trim_eq] at hg
  rw [groups, hv.trim_eq] at hh
  obtain ⟨p, hp, rfl⟩ := List.map_eq_singleton_iff.1 hg
  obtain ⟨q, hq, rfl⟩ := List.map_eq_singleton_iff.1 hh
  obtain rfl := Connective.eq_of_split_eq_singleton hp
  obtain rfl := Connective.eq_of_split_eq_singleton hq
  -- neither side has a separator of groups, so the whole is one group
  have hsymbol : disjunction.split (conjunction.symbol :: expandBetween false v) =
      [conjunction.symbol :: expandBetween false v] := by
    rw [Connective.split_cons rfl, hq]
    rfl
  have hwhole := (Connective.parts_symbol disjunction_plain conjunction_plain
    (expandBetween false u) (expandBetween false v)).split_append_of_singleton hp hsymbol
  have hcut := (Connective.parts_symbol conjunction_plain conjunction_plain
    (expandBetween false u) (expandBetween false v)).split_append_of_nil_cons
      (Connective.split_of_drop? rfl)
  rw [groups, trim_append_cons hu hv, expandBetween_symbol (by decide) (by decide), hwhole,
    List.map_singleton, hcut]

end

/-! ## A keyword between two texts -/

/-- The keyword of disjunctions between single blanks. -/
def orWord : Spaced disjunction.word :=
  ⟨space, ⟨disjunction.word, by decide⟩, space⟩

theorem stops_expandBetween {p : Char → Bool} {w : Bool} {s : List Char} (h : Stops p s) :
    Stops p (expandBetween w s) := by
  rw [Stops, head?_expandBetween]
  exact h

theorem stops_reverse_expandBetween {w : Bool} {s : List Char} (h : Stops isBlank s.reverse) :
    Stops isBlank (expandBetween w s).reverse := by
  refine stops_reverse_iff.2 fun c hc hs => ?_
  have hdigit : ∀ d ∈ [c], isDecimalDigit d = false := by
    simpa using isDecimalDigit_of_isBlank hc
  exact stops_reverse_iff.1 h c hc (suffix_of_expandBetween hdigit hs)

theorem endsInWord_of_expandBetween {word : List Char} (hword : word.all Char.isUpper) {w : Bool}
    {s : List Char} (h : EndsInWord word (expandBetween w s)) : EndsInWord word s := by
  obtain ⟨g, k, hs⟩ := h
  refine ⟨g, k, suffix_of_expandBetween (fun c hc => ?_) hs⟩
  rcases List.mem_append.1 hc with hc | hc
  · exact isDecimalDigit_of_isBlank (g.all c hc)
  · exact isDecimalDigit_of_isAlpha (k.isAlpha hword hc)

theorem expandBetween_true_append {u : List Char} (hu : ∀ c ∈ u, isWordChar c) (t : List Char) :
    expandBetween true (u ++ t) = u ++ expandBetween true t := by
  induction u with
  | nil => rfl
  | cons c u ih =>
    rw [List.cons_append, expandBetween_cons (Or.inl rfl), hu c List.mem_cons_self,
      ih fun d hd => hu d (List.mem_cons_of_mem c hd), List.cons_append]

/-- A word at which no clause starts stays as it is. -/
theorem expandBetween_word {u t : List Char} (hne : u ≠ []) (hu : ∀ c ∈ u, isWordChar c)
    (hr : Between.read? (u ++ t) = none) :
    expandBetween false (u ++ t) = u ++ expandBetween true t := by
  cases u with
  | nil => exact absurd rfl hne
  | cons c u =>
    rw [List.cons_append] at hr
    rw [List.cons_append, expandBetween_cons (Or.inr hr), hu c List.mem_cons_self,
      expandBetween_true_append fun d hd => hu d (List.mem_cons_of_mem c hd), List.cons_append]

section
variable {u v : List Char} (w : Spaced disjunction.word)

/-- Both sides of the gap before the keyword are written out on their own. -/
theorem expandBetween_before_keyword (u v : List Char) :
    expandBetween false (u ++ w.text ++ v) = expandBetween false u ++ (w.before.chars ++
      expandBetween false (w.keyword.chars ++ (w.after.chars ++ v))) := by
  have hbefore : ∀ c ∈ w.before.chars, isBoundaryChar c :=
    fun c hc => isBoundaryChar_of_isBlank (w.before.all c hc)
  rw [List.append_assoc,
    (severs_spaced disjunction_plain (by decide) (by decide) w v).expandBetween_append,
    Spaced.text, List.append_assoc, List.append_assoc, expandBetween_boundary hbefore]

theorem expandBetween_keyword
    (hr : Between.read? (w.keyword.chars ++ (w.after.chars ++ v)) = none) :
    expandBetween false (u ++ w.text ++ v) =
      expandBetween false u ++ (w.text ++ expandBetween false v) := by
  have hkeyword : ∀ c ∈ w.keyword.chars, isWordChar c := fun c hc =>
    isWordChar_of_isNameChar (isNameChar_of_isCodeChar
      (isCodeChar_of_isAlpha (w.keyword.isAlpha disjunction_plain.word_isUpper hc)))
  have hafter : ∀ c ∈ w.after.chars, isBoundaryChar c :=
    fun c hc => isBoundaryChar_of_isBlank (w.after.all c hc)
  rw [expandBetween_before_keyword,
    expandBetween_word (w.keyword.ne_nil disjunction_plain.word_ne_nil) hkeyword hr,
    (boundary_run w.after v).expandBetween_eq, expandBetween_boundary hafter, Spaced.text,
    List.append_assoc, List.append_assoc]

theorem groups_keyword (hu : Tight u) (hv : Tight v) (hend : ¬ EndsInWord disjunction.word u)
    (hr : Between.read? (w.keyword.chars ++ (w.after.chars ++ v)) = none) :
    groups (u ++ w.text ++ v) = groups u ++ groups v := by
  have hparts : disjunction.Parts (expandBetween false u) (w.text ++ expandBetween false v) := by
    rw [Spaced.text, List.append_assoc, List.append_assoc]
    exact Connective.parts_of_gap disjunction_plain w.before (stops_reverse_expandBetween hu.last)
      (fun h => hend (endsInWord_of_expandBetween disjunction_plain.word_isUpper h)) _
  have hcut := hparts.split_append_of_nil_cons
    (Connective.split_word w disjunction_plain (stops_expandBetween hv.first))
  rw [groups, groups, groups, (hu.append w.text hv).trim_eq, hu.trim_eq, hv.trim_eq,
    expandBetween_keyword w hr, hcut, List.map_append]

end

/-! ## Two equations with a connective between them -/

section
variable {e₁ e₂ : String} (h₁ : trimmed e₁ = e₁) (h₂ : trimmed e₂ = e₂)
    (hm₁ : isMatchAll e₁.toList = false) (hm₂ : isMatchAll e₂.toList = false)
include h₁ h₂ hm₁ hm₂

theorem isMatchAll_append {s : String} (hs : ∃ c ∈ s.toList, c.isAlpha = false) :
    isMatchAll (e₁ ++ s ++ e₂).toList = false := by
  obtain ⟨c, hc, hca⟩ := hs
  rw [String.toList_append, String.toList_append]
  refine isMatchAll_of_tight ?_ ⟨c, by simp [hc], hca⟩
  exact (tight_of_trimmed h₁ hm₁).append s.toList (tight_of_trimmed h₂ hm₂)

theorem groups_append_disjunction :
    groups (e₁ ++ "|" ++ e₂).toList = groups e₁.toList ++ groups e₂.toList := by
  rw [← groups_disjunction (tight_of_trimmed h₁ hm₁) (tight_of_trimmed h₂ hm₂)]
  simp [disjunction]

theorem groups_append_conjunction {g h : List (List Char)} (hg : groups e₁.toList = [g])
    (hh : groups e₂.toList = [h]) : groups (e₁ ++ "&" ++ e₂).toList = [g ++ h] := by
  rw [← groups_conjunction (tight_of_trimmed h₁ hm₁) (tight_of_trimmed h₂ hm₂) hg hh]
  simp [conjunction]

theorem groups_append_keyword (hend : ¬ EndsInWord disjunction.word e₁.toList)
    (hr : Between.read? ("OR ".toList ++ e₂.toList) = none) :
    groups (e₁ ++ " OR " ++ e₂).toList = groups e₁.toList ++ groups e₂.toList := by
  rw [String.toList_append, String.toList_append]
  exact groups_keyword orWord (tight_of_trimmed h₁ hm₁) (tight_of_trimmed h₂ hm₂) hend hr

end

/-- With `|` between them, two equations that do not mean every record are read as the disjunction
of what they are read as, and what is reported about the two is reported in turn. With `&` between
them, they are read as the conjunction, provided that neither is a disjunction itself. -/
theorem parse_append_symbol (e₁ e₂ : String) (h₁ : trimmed e₁ = e₁) (h₂ : trimmed e₂ = e₂)
    (hm₁ : isMatchAll e₁.toList = false) (hm₂ : isMatchAll e₂.toList = false) :
    (parse (e₁ ++ "|" ++ e₂)).disjuncts = (parse e₁).disjuncts ++ (parse e₂).disjuncts ∧
      (∀ r, holds (e₁ ++ "|" ++ e₂) r = (holds e₁ r || holds e₂ r)) ∧
      warnings (e₁ ++ "|" ++ e₂) = warnings e₁ ++ warnings e₂ ∧
      ((parse e₁).isOr = false → (parse e₂).isOr = false →
        (parse (e₁ ++ "&" ++ e₂)).conjuncts = (parse e₁).conjuncts ++ (parse e₂).conjuncts ∧
          (∀ r, holds (e₁ ++ "&" ++ e₂) r = (holds e₁ r && holds e₂ r)) ∧
          warnings (e₁ ++ "&" ++ e₂) = warnings e₁ ++ warnings e₂) := by
  have hor := isMatchAll_append h₁ h₂ hm₁ hm₂ (s := "|") ⟨'|', by decide, by decide⟩
  have hgroups := groups_append_disjunction h₁ h₂ hm₁ hm₂
  refine ⟨?_, fun r => ?_, ?_, fun ho₁ ho₂ => ?_⟩
  · rw [parse_of_isMatchAll hor, parse_of_isMatchAll hm₁, parse_of_isMatchAll hm₂,
      disjuncts_ofGroups, disjuncts_ofGroups, disjuncts_ofGroups, hgroups, List.map_append]
  · rw [holds_of_isMatchAll hor, holds_of_isMatchAll hm₁, holds_of_isMatchAll hm₂, hgroups,
      List.any_append]
  · rw [warnings_of_isMatchAll hor, warnings_of_isMatchAll hm₁, warnings_of_isMatchAll hm₂,
      hgroups, List.flatten_append, List.filterMap_append]
  · rw [parse_of_isMatchAll hm₁] at ho₁
    rw [parse_of_isMatchAll hm₂] at ho₂
    obtain ⟨g₁, hg₁⟩ := exists_eq_singleton_of_isOr ho₁
    obtain ⟨g₂, hg₂⟩ := exists_eq_singleton_of_isOr ho₂
    have hand := isMatchAll_append h₁ h₂ hm₁ hm₂ (s := "&") ⟨'&', by decide, by decide⟩
    have hgroup := groups_append_conjunction h₁ h₂ hm₁ hm₂ hg₁ hg₂
    refine ⟨?_, fun r => ?_, ?_⟩
    · rw [parse_of_isMatchAll hand, parse_of_isMatchAll hm₁, parse_of_isMatchAll hm₂, hgroup, hg₁,
        hg₂]
      show (conjoin ((g₁ ++ g₂).map ofPiece)).conjuncts =
        (conjoin (g₁.map ofPiece)).conjuncts ++ (conjoin (g₂.map ofPiece)).conjuncts
      rw [conjuncts_conjoin_map, conjuncts_conjoin_map, conjuncts_conjoin_map, List.map_append]
    · rw [holds_of_isMatchAll hand, holds_of_isMatchAll hm₁, holds_of_isMatchAll hm₂, hgroup, hg₁,
        hg₂]
      simp only [List.any_cons, List.any_nil, Bool.or_false, List.all_append]
    · rw [warnings_of_isMatchAll hand, warnings_of_isMatchAll hm₁, warnings_of_isMatchAll hm₂,
        hgroup, hg₁, hg₂]
      simp only [List.flatten_singleton, List.filterMap_append]

/-- A clause and a dangling separator, on a record that satisfies the clause. -/
theorem parse_append_symbol_dangling :
    let r := Record.ofList [("AGE", .text "20")]
    trimmed "AGE BETWEEN 18 AND 34" = "AGE BETWEEN 18 AND 34" ∧ trimmed "sex &" = "sex &" ∧
      isMatchAll "AGE BETWEEN 18 AND 34".toList = false ∧ isMatchAll "sex &".toList = false ∧
      (parse "AGE BETWEEN 18 AND 34").isOr = false ∧ (parse "sex &").isOr = false ∧
      holds "AGE BETWEEN 18 AND 34|sex &" r = true ∧
      holds "AGE BETWEEN 18 AND 34&sex &" r = false ∧
      (warnings "AGE BETWEEN 18 AND 34&sex &").length = 2 := by
  intro r
  have h₁ : trimmed "AGE BETWEEN 18 AND 34" = "AGE BETWEEN 18 AND 34" := by decide +kernel
  have h₂ : trimmed "sex &" = "sex &" := by decide +kernel
  have hm₁ : isMatchAll "AGE BETWEEN 18 AND 34".toList = false := by decide +kernel
  have hm₂ : isMatchAll "sex &".toList = false := by decide +kernel
  have ho₁ : (parse "AGE BETWEEN 18 AND 34").isOr = false := by decide +kernel
  have ho₂ : (parse "sex &").isOr = false := by decide +kernel
  have hclause : holds "AGE BETWEEN 18 AND 34" r = true := by decide +kernel
  have hsex : holds "sex &" r = false := by decide +kernel
  have hwarnings : (warnings "AGE BETWEEN 18 AND 34" ++ warnings "sex &").length = 2 := by
    decide +kernel
  obtain ⟨-, hor, -, hand⟩ :=
    parse_append_symbol "AGE BETWEEN 18 AND 34" "sex &" h₁ h₂ hm₁ hm₂
  obtain ⟨-, hboth, hreported⟩ := hand ho₁ ho₂
  refine ⟨h₁, h₂, hm₁, hm₂, ho₁, ho₂, ?_, ?_, hreported ▸ hwarnings⟩
  · exact (hor r).trans (by rw [hclause, Bool.true_or])
  · exact (hboth r).trans (by rw [hsex, Bool.and_false])

/-- With the keyword `OR` between them, two equations are read as with `|` and hold if either does,
unless the second begins with what is missing of a clause behind the keyword: then the keyword is
taken for the variable of that clause and stands in its two conditions. -/
theorem holds_append_keyword (e₁ e₂ : String) (h₁ : trimmed e₁ = e₁) (h₂ : trimmed e₂ = e₂)
    (hm₁ : isMatchAll e₁.toList = false) (hm₂ : isMatchAll e₂.toList = false)
    (hend : ¬ EndsInWord disjunction.word e₁.toList) :
    (Between.read? ("OR ".toList ++ e₂.toList) = none →
      parse (e₁ ++ " OR " ++ e₂) = parse (e₁ ++ "|" ++ e₂) ∧
        ∀ r, holds (e₁ ++ " OR " ++ e₂) r = (holds e₁ r || holds e₂ r)) ∧
      ∀ b rest, Between.read? ("OR ".toList ++ e₂.toList) = some (b, rest) →
        b.code = "OR".toList ∧
          expandBetween false (e₁ ++ " OR " ++ e₂).toList = expandBetween false e₁.toList ++
            (" ".toList ++ (b.conditionsText ++ expandBetween true rest)) := by
  refine ⟨fun hr => ?_, fun b rest hr => ⟨(of_read? hr).1, ?_⟩⟩
  · have hkeyword := isMatchAll_append h₁ h₂ hm₁ hm₂ (s := " OR ") ⟨' ', by decide, by decide⟩
    have hsymbol := isMatchAll_append h₁ h₂ hm₁ hm₂ (s := "|") ⟨'|', by decide, by decide⟩
    have hgroups := groups_append_keyword h₁ h₂ hm₁ hm₂ hend hr
    refine ⟨?_, fun r => ?_⟩
    · rw [parse_of_isMatchAll hkeyword, parse_of_isMatchAll hsymbol, hgroups,
        groups_append_disjunction h₁ h₂ hm₁ hm₂]
    · rw [holds_of_isMatchAll hkeyword, holds_of_isMatchAll hm₁, holds_of_isMatchAll hm₂, hgroups,
        List.any_append]
  · rw [String.toList_append, String.toList_append]
    refine (expandBetween_before_keyword orWord e₁.toList e₂.toList).trans ?_
    rw [← expandBetween_of_read? hr]
    rfl

/-- The first side is an unfinished clause, and the record satisfies the second. -/
theorem holds_append_keyword_unfinished :
    let r := Record.ofList [("S1", .text "1")]
    trimmed "AGE BETWEEN 1 AND" = "AGE BETWEEN 1 AND" ∧ trimmed "S1=1" = "S1=1" ∧
      isMatchAll "AGE BETWEEN 1 AND".toList = false ∧ isMatchAll "S1=1".toList = false ∧
      ¬ EndsInWord disjunction.word "AGE BETWEEN 1 AND".toList ∧
      Between.read? ("OR ".toList ++ "S1=1".toList) = none ∧
      holds "AGE BETWEEN 1 AND OR S1=1" r = true := by
  intro r
  have h₁ : trimmed "AGE BETWEEN 1 AND" = "AGE BETWEEN 1 AND" := by decide +kernel
  have h₂ : trimmed "S1=1" = "S1=1" := by decide +kernel
  have hm₁ : isMatchAll "AGE BETWEEN 1 AND".toList = false := by decide +kernel
  have hm₂ : isMatchAll "S1=1".toList = false := by decide +kernel
  have hend : ¬ EndsInWord disjunction.word "AGE BETWEEN 1 AND".toList :=
    not_endsInWord_of_dropKeyword? (by decide +kernel)
  have hr : Between.read? ("OR ".toList ++ "S1=1".toList) = none := by decide +kernel
  have hsecond : holds "S1=1" r = true := by decide +kernel
  have hor := ((holds_append_keyword "AGE BETWEEN 1 AND" "S1=1" h₁ h₂ hm₁ hm₂ hend).1 hr).2 r
  exact ⟨h₁, h₂, hm₁, hm₂, hend, hr, hor.trans (by rw [hsecond, Bool.or_true])⟩

/-- A record that satisfies the first side does not satisfy the whole. Neither side has the keyword
at its start or end, and with the symbol the whole is satisfied. -/
theorem holds_append_keyword_between :
    let r := Record.ofList [("S1", .text "1")]
    trimmed "S1=1" = "S1=1" ∧ trimmed "BETWEEN 1 AND 2" = "BETWEEN 1 AND 2" ∧
      isMatchAll "S1=1".toList = false ∧ isMatchAll "BETWEEN 1 AND 2".toList = false ∧
      (∀ e ∈ ["S1=1", "BETWEEN 1 AND 2"], dropKeyword? "OR".toList e.toList = none ∧
        dropKeyword? "RO".toList e.toList.reverse = none) ∧
      holds "S1=1" r = true ∧ holds "S1=1 OR BETWEEN 1 AND 2" r = false ∧
      holds "S1=1|BETWEEN 1 AND 2" r = true := by
  decide +kernel

end Equation

end SurveyTables
