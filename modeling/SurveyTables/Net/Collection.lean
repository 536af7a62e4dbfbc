import SurveyTables.Net.Draft

/-!
# The nets of a question

Nets are kept in step with the codes that their question offers: after every edit, codes that are
no longer offered leave their nets, and a net without any meaning left is dropped.

* `Net.sync?` : what is left of one net;
* `Nets.sync` : the list of what is left of each;
* `Nets.add`, `Nets.update`, `Nets.delete` : an edit followed by `Nets.sync`. An index is checked
  against the list before the edit.
-/

namespace SurveyTables

/-- The net with the codes that are offered, each once, if any is; a range as it is, if it is well
formed. -/
def Net.sync? (valid : List String) : Net → Option Net
  | .codes n =>
    let kept := (n.codes.filter fun c => valid.contains c).eraseDups
    if kept.isEmpty then none else some (.codes ⟨n.label, kept⟩)
  | .range n => if n.wellFormed then some (.range n) else none

/-- The nets of one question, in order. -/
abbrev Nets := List Net

namespace Nets

def sync (valid : List String) (nets : Nets) : Nets := nets.filterMap (Net.sync? valid)

def add (valid : List String) (nets : Nets) (n : Net) : Nets := sync valid (nets ++ [n])

def update (valid : List String) (nets : Nets) (index : Nat) (n : Net) : Except NetError Nets :=
  if index < nets.length then .ok (sync valid (nets.set index n))
  else .error (.indexOutOfBounds index nets.length)

def delete (valid : List String) (nets : Nets) (index : Nat) : Except NetError Nets :=
  if index < nets.length then .ok (sync valid (nets.eraseIdx index))
  else .error (.indexOutOfBounds index nets.length)

end Nets

end SurveyTables
