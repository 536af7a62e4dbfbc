import SurveyTables.CommandLine.Options
import SurveyTables.Decimal.Reader

/-!
# Commands

* `Command` : what the program can be asked to do: tabulate a data file, select rows of one, tell
  whether a question is a Likert scale, or make its box nets;
* `Invocation` : a command, and whether to say more about what is done;
* `Invocation.parse?` : what a list of arguments asks for; nothing if they are not used correctly.
-/

namespace SurveyTables

/-- The form of a report. -/
inductive OutputFormat where
  | csv
  | json
  deriving DecidableEq, Repr

/-- What to tabulate. -/
structure ReportCommand where
  data : String
  banner : String
  tabplan : String
  output : Option String
  project : Option String
  delimiter : Char
  format : OutputFormat
  cache : Bool
  checkbox : Bool
  deriving DecidableEq, Repr

/-- What the program is asked to do. -/
inductive Command where
  | report (c : ReportCommand)
  | filter (data equation : String) (delimiter : Char)
  | likert (question : String)
  | nets (question : String) (points : Option UInt32) (summary : Bool)
  deriving DecidableEq, Repr

/-- What the program is called for. -/
structure Invocation where
  verbose : Bool
  command : Command
  deriving DecidableEq, Repr

namespace Invocation

/-- The flag that every command knows: to say more about what is done. -/
def verboseSpec : OptionSpec := ⟨"verbose", some 'v', false⟩

/-- The options of the command that tabulates. -/
def reportSpecs : List OptionSpec :=
  [⟨"data", some 'd', true⟩, ⟨"banner", some 'b', true⟩, ⟨"tabplan", some 't', true⟩,
    ⟨"output", some 'o', true⟩, ⟨"project", some 'p', true⟩, ⟨"delimiter", none, true⟩,
    ⟨"format", some 'f', true⟩, ⟨"no-cache", none, false⟩, ⟨"no-checkbox", none, false⟩,
    verboseSpec]

/-- The options of the command that selects rows. -/
def filterSpecs : List OptionSpec :=
  [⟨"data", some 'd', true⟩, ⟨"equation", some 'e', true⟩, ⟨"delimiter", none, true⟩, verboseSpec]

/-- The options of the command that looks for a Likert scale. -/
def likertSpecs : List OptionSpec := [⟨"question", some 'q', true⟩, verboseSpec]

/-- The options of the command that makes box nets. -/
def netsSpecs : List OptionSpec :=
  [⟨"question", some 'q', true⟩, ⟨"points", some 'p', true⟩, ⟨"summary", some 's', false⟩,
    verboseSpec]

/-- The options given, each at most once. -/
def given? (specs : List OptionSpec) (args : List String) : Option Given :=
  (parseOptions? specs args).filter Given.distinct

/-- The path of a file, which is not empty. -/
def path? (s : String) : Option String := if s = "" then none else some s

/-- A single character. -/
def char? (s : String) : Option Char :=
  match s.toList with
  | [c] => some c
  | _ => none

/-- The form with this name. -/
def format? (s : String) : Option OutputFormat :=
  if s = "csv" then some .csv else if s = "json" then some .json else none

/-- A number of points of at most `largest`. -/
def pointsUpTo? (largest : Nat) (digits : List Char) : Option UInt32 :=
  (Decimal.readNat? digits).bind fun n => if n ≤ largest then some (UInt32.ofNat n) else none

/-- A number of points below `2 ^ 32`, perhaps with a plus sign; a minus sign is for zero only. -/
def points? (s : String) : Option UInt32 :=
  match s.toList with
  | '-' :: digits => pointsUpTo? 0 digits
  | '+' :: digits => pointsUpTo? (UInt32.size - 1) digits
  | digits => pointsUpTo? (UInt32.size - 1) digits

/-- The value of an option that has to be given. -/
def required? {α : Type} (g : Given) (name : String) (read : String → Option α) : Option α :=
  (g.value? name).bind read

/-- The value of an option that may be left out. -/
def optional? {α : Type} (g : Given) (name : String) (read : String → Option α) :
    Option (Option α) :=
  match g.value? name with
  | none => some none
  | some s => (read s).map some

/-- The flag to say more is among the options. -/
def isVerbose (g : Given) : Bool := g.has verboseSpec.long

/-- A call of the command that tabulates. -/
def parseReport? (args : List String) : Option Invocation := do
  let g ← given? reportSpecs args
  let data ← required? g "data" path?
  let banner ← required? g "banner" path?
  let tabplan ← required? g "tabplan" path?
  let output ← optional? g "output" path?
  let delimiter ← optional? g "delimiter" char?
  let format ← optional? g "format" format?
  return ⟨isVerbose g, .report ⟨data, banner, tabplan, output, g.value? "project",
    delimiter.getD ',', format.getD .csv, !g.has "no-cache", !g.has "no-checkbox"⟩⟩

/-- A call of the command that selects rows. -/
def parseFilter? (args : List String) : Option Invocation := do
  let g ← given? filterSpecs args
  let data ← required? g "data" path?
  let equation ← required? g "equation" some
  let delimiter ← optional? g "delimiter" char?
  return ⟨isVerbose g, .filter data equation (delimiter.getD ',')⟩

/-- A call of the command that looks for a Likert scale. -/
def parseLikert? (args : List String) : Option Invocation := do
  let g ← given? likertSpecs args
  let question ← required? g "question" path?
  return ⟨isVerbose g, .likert question⟩

/-- A call of the command that makes box nets. -/
def parseNets? (args : List String) : Option Invocation := do
  let g ← given? netsSpecs args
  let question ← required? g "question" path?
  let points ← optional? g "points" points?
  return ⟨isVerbose g, .nets question points (g.has "summary")⟩

/-- A call of the command with this name, from the arguments after the name. -/
def parseNamed? (name : String) (args : List String) : Option Invocation :=
  if name = "report" then parseReport? args
  else if name = "filter" then parseFilter? args
  else if name = "likert" then parseLikert? args
  else if name = "nets" then parseNets? args
  else none

/-- What a list of arguments asks for. The flag to say more may stand before the name of the command
as well, but not the `--` that ends options. -/
def parse? (args : List String) : Option Invocation :=
  let front := args.takeWhile looksLikeOption
  match args.dropWhile looksLikeOption with
  | [] => none
  | name :: rest =>
    if front.contains "--" then none
    else do
      let g ← given? [verboseSpec] front
      let call ← parseNamed? name rest
      return ⟨isVerbose g || call.verbose, call.command⟩

end Invocation

end SurveyTables
