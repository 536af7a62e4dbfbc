import SurveyTables.Net.Collection
import SurveyTables.Question.Likert

/-!
# Top and bottom boxes

The last few choices of a Likert scale are its top box, the first few its bottom box.

* `boxPair` : the two nets of `n` choices each;
* `Question.topTwoBoxes`, `Question.topThreeBoxes` : those of a question, if it is a Likert scale
  with enough choices;
* `Question.boxNets` : those that are customary for a number of points.
-/

namespace SurveyTables

def boxPair (choices : List Choice) (n : Nat) (top bottom : String) : Nets :=
  let codes := choices.map Choice.code
  [.codes (CodesNet.make (some top) (codes.drop (codes.length - n))),
    .codes (CodesNet.make (some bottom) (codes.take n))]

namespace Question

/-- The boxes of `n` choices, if the question is a Likert scale with at least `least` choices. -/
def boxes (q : Question) (least n : Nat) (top bottom : String) : Nets :=
  if q.isLikert && decide (least ≤ q.choices.length) then boxPair q.choices n top bottom else []

def topTwoBoxes (q : Question) : Nets := q.boxes 4 2 "T2B" "B2B"

def topThreeBoxes (q : Question) : Nets := q.boxes 6 3 "T3B" "B3B"

/-- The boxes that are customary for a scale: two choices each on five points, three on seven or
ten. -/
def boxNets (q : Question) (points : UInt32) : Nets :=
  if points = 5 then Nets.sync q.validCodes q.topTwoBoxes
  else if points = 7 ∨ points = 10 then Nets.sync q.validCodes q.topThreeBoxes
  else []

end Question

end SurveyTables
