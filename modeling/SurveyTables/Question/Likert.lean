import SurveyTables.Question.Choices

/-!
# Likert scales

A question is a Likert scale if it was authored as one, if it declares a scale of four or more
points, or if the labels of its choices read like one.

* `LikertRule` : the rule that says so, `LikertRule.text` its wording;
* `classifyLabels` : the verdict on labels alone. The first vocabulary of which three fifths of the
  keywords occur wins; failing all, opposite keywords do;
* `Question.likertRule?` : the verdict on a question.
-/

namespace SurveyTables

/-- What the points of a scale express. -/
inductive ScaleVocabulary where
  | agreement
  | satisfaction
  | frequency
  | likelihood
  | quality
  | importance
  | intensity
  deriving DecidableEq, Repr

namespace ScaleVocabulary

/-- All vocabularies. -/
def all : List ScaleVocabulary :=
  [.agreement, .satisfaction, .frequency, .likelihood, .quality, .importance, .intensity]

/-- The name of the vocabulary. -/
def name : ScaleVocabulary → String
  | .agreement => "agreement"
  | .satisfaction => "satisfaction"
  | .frequency => "frequency"
  | .likelihood => "likelihood"
  | .quality => "quality"
  | .importance => "importance"
  | .intensity => "intensity"

/-- The vocabulary with this name. -/
def ofName? (s : String) : Option ScaleVocabulary := all.find? fun v => decide (v.name = s)

end ScaleVocabulary

/-- Why a question counts as a Likert scale. -/
inductive LikertRule where
  | explicitMode
  | scalePoints
  | vocabulary (v : ScaleVocabulary)
  | symmetricKeywords
  deriving DecidableEq, Repr

namespace LikertRule

def text : LikertRule → String
  | .explicitMode => "explicit Likert mode"
  | .scalePoints => "declared scale of 4+ points"
  | .vocabulary v => v.name ++ " vocabulary"
  | .symmetricKeywords => "symmetric keywords"

/-- The vocabulary that was recognised. -/
def vocabulary? : LikertRule → Option ScaleVocabulary
  | .vocabulary v => some v
  | _ => none

end LikertRule

/-- The fewest labels that are looked at, and the fewest points of a scale. -/
def leastScaleSize : Nat := 4

/-- The keywords of the vocabularies, in the order in which they are tried. -/
def vocabularies : List (ScaleVocabulary × List String) :=
  [(.agreement, ["strongly disagree", "disagree", "agree", "strongly agree"]),
    (.agreement, ["strongly", "disagree", "agree"]),
    (.agreement, ["completely disagree", "disagree", "agree", "completely agree"]),
    (.satisfaction, ["very dissatisfied", "dissatisfied", "satisfied", "very satisfied"]),
    (.satisfaction, ["extremely dissatisfied", "dissatisfied", "satisfied",
      "extremely satisfied"]),
    (.satisfaction, ["unsatisfied", "satisfied"]),
    (.frequency, ["never", "rarely", "sometimes", "often", "always"]),
    (.frequency, ["never", "occasionally", "frequently", "always"]),
    (.likelihood, ["very unlikely", "unlikely", "likely", "very likely"]),
    (.likelihood, ["extremely unlikely", "unlikely", "likely", "extremely likely"]),
    (.quality, ["very poor", "poor", "good", "very good", "excellent"]),
    (.quality, ["terrible", "poor", "fair", "good", "excellent"]),
    (.importance, ["not important", "important", "very important"]),
    (.importance, ["unimportant", "important", "extremely important"]),
    (.intensity, ["not at all", "slightly", "moderately", "very", "extremely"]),
    (.intensity, ["none", "little", "some", "lot", "great deal"])]

/-- Words of the lower end of a scale. -/
def negativeWords : List String := ["not", "dis", "un", "never", "poor", "bad", "low", "weak"]

/-- Words of the upper end of a scale. -/
def positiveWords : List String :=
  ["very", "good", "excellent", "high", "strong", "always", "extremely"]

/-- Words of the middle of a scale. -/
def neutralWords : List String := ["neutral", "neither", "moderate", "medium", "sometimes", "fair"]

/-- Three fifths of the keywords, or more, occur in the text. -/
def coversVocabulary (text : List Char) (keywords : List String) : Bool :=
  decide (3 * keywords.length ≤ 5 * keywords.countP fun k => Text.occursIn k.toList text)

/-- The first vocabulary that the text covers. -/
def firstVocabulary? (text : List Char) : Option ScaleVocabulary :=
  (vocabularies.find? fun entry => coversVocabulary text entry.2).map Prod.fst

/-- Some label has one of the words in it. -/
def hasWord (words : List String) (labels : List (List Char)) : Bool :=
  labels.any fun label => words.any fun w => Text.occursIn w.toList label

/-- The labels name two opposite ends, or the middle and an end. -/
def hasOppositeWords (labels : List (List Char)) : Bool :=
  let negative := hasWord negativeWords labels
  let positive := hasWord positiveWords labels
  (negative && positive) || (hasWord neutralWords labels && (negative || positive))

def classifyLabels (labels : List String) : Option LikertRule :=
  if labels.length < leastScaleSize then none
  else
    let lowered := labels.map fun l => Text.lower l.toList
    match firstVocabulary? ([' '].intercalate lowered) with
    | some v => some (.vocabulary v)
    | none => if hasOppositeWords lowered then some .symmetricKeywords else none

def Question.likertRule? (q : Question) : Option LikertRule :=
  if q.likertMode?.isSome then some .explicitMode
  else if q.scalePoints?.any fun p => decide (leastScaleSize ≤ p.toNat) then some .scalePoints
  else classifyLabels (q.authoredChoices.map Choice.label)

/-- The question is a Likert scale. -/
def Question.isLikert (q : Question) : Bool := q.likertRule?.isSome

end SurveyTables
