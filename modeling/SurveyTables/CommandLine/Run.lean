import SurveyTables.CommandLine.Command
import SurveyTables.CommandLine.Log
import SurveyTables.Delimited.Reader
import SurveyTables.Json.Reader
import SurveyTables.Json.Writer
import SurveyTables.Report.Export
import SurveyTables.Wire.Question
import SurveyTables.Wire.Report

/-!
# Running commands

A command reads files and answers with text; files are given as a function from paths to bytes, so
that nothing here touches a disk.

* `Response` : what file to write, what to print and what to report;
* `CommandError` : why there is no response, `CommandError.message` its wording and
  `CommandError.report` what is reported of it;
* `CommandOutcome` : the response or the reason, and what was logged on the way;
* `Command.run` : the outcome of a command.
-/

namespace SurveyTables

/-- The answer to a command, as texts that end their lines themselves. A file is written first, and
only if that succeeds comes the rest. -/
structure Response where
  file : Option (String × String)
  output : String
  reports : String
  deriving DecidableEq, Repr

/-- Why a command has no answer. -/
inductive CommandError where
  | badDelimiter (c : Char)
  | cannotLoad (path : String)
  | cannotRead (path : String)
  | invalidJson (path : String)
  | cannotRender
  | cannotWrite (path : String)
  deriving DecidableEq, Repr

def CommandError.message : CommandError → String
  | .badDelimiter c =>
    "Delimiter must be a single ASCII character, got '" ++ String.ofList [c] ++ "'"
  | .cannotLoad path => "Failed to load '" ++ path ++ "'"
  | .cannotRead path => "Failed to read '" ++ path ++ "'"
  | .invalidJson path => "Invalid JSON in '" ++ path ++ "'"
  | .cannotRender => "Failed to render CSV"
  | .cannotWrite path => "Failed to write '" ++ path ++ "'"

def CommandError.report (e : CommandError) : Option String → String
  | none => "Error: " ++ e.message ++ "\n"
  | some cause => "Error: " ++ e.message ++ "\n\nCaused by:\n    " ++ cause ++ "\n"

/-- How a command ends, and what is logged until then. -/
structure CommandOutcome where
  log : Log
  result : Except CommandError Response

/-- The contents of files, by path. -/
abbrev FileReader := String → Option (List UInt8)

/-- The value, or the reason why there is none. -/
def orError {α : Type} (e : CommandError) : Option α → Except CommandError α
  | some a => .ok a
  | none => .error e

/-- The shape that a JSON file holds. -/
def readJson {α : Type} (files : FileReader) (shape : Json → Option α) (path : String) :
    Except CommandError α :=
  (orError (.cannotRead path) ((files path).bind ofUtf8Bytes?)).bind fun text =>
    orError (.invalidJson path) ((Json.parse? text).bind shape)

/-- The dataset that a file of delimited text holds. -/
def readDataset (files : FileReader) (path : String) (delimiter : Char) :
    Except CommandError Dataset :=
  if delimiter.toNat < 128 then
    let options : ReadOptions := ⟨{ Dialect.standard with delimiter := delimiter.toUInt8 }, true⟩
    orError (.cannotLoad path) ((files path).bind fun bytes => (Dataset.read options bytes).toOption)
  else .error (.badDelimiter delimiter)

/-- The settings of a run that a command asks for. -/
def ReportCommand.options (c : ReportCommand) (now : Timestamp) : ReportOptions :=
  { ReportOptions.standard now with
    projectName := c.project, cacheSelections := c.cache, translateCheckboxes := c.checkbox }

/-- The text of a report in a form. -/
def OutputFormat.render (f : OutputFormat) (r : Report) : Except CommandError String :=
  match f with
  | .csv => orError .cannotRender (r.text? .standard)
  | .json => .ok r.toJson.pretty

/-- The report that a report was written to a file. -/
def writtenReport (r : Report) (path : String) : String :=
  s!"Wrote {r.tables.length} tables ({r.heading.totalBase} respondents) to '" ++ path ++ "'\n"

namespace Command

/-- The plans that a command tabulates by. -/
def readPlans (files : FileReader) (c : ReportCommand) :
    Except CommandError (BannerPlan × TabPlan) := do
  let b ← readJson files BannerPlan.ofJson? c.banner
  let p ← readJson files TabPlan.ofJson? c.tabplan
  return (b, p)

/-- The response with a report. -/
def respondReport (c : ReportCommand) (r : Report) : Except CommandError Response :=
  (c.format.render r).map fun text =>
    match c.output with
    | some path => ⟨some (path, text), "", writtenReport r path⟩
    | none => ⟨none, text, ""⟩

/-- Tabulating. -/
def runReport (now : Timestamp) (files : FileReader) (c : ReportCommand) : CommandOutcome :=
  match readDataset files c.data c.delimiter with
  | .error e => ⟨[], .error e⟩
  | .ok d =>
    match readPlans files c with
    | .error e => ⟨d.loadLog c.data, .error e⟩
    | .ok (b, p) =>
      let o := c.options now
      ⟨d.loadLog c.data ++ o.log b d, respondReport c (Report.generate o p b d)⟩

/-- The response with the rows that an equation selects. -/
def respondFilter (d : Dataset) (equation : String) : Response :=
  let e := Equation.parse equation
  let selection := RowSelection.select d e
  let doubts :=
    if e.hasUnparsed then "Warning: '" ++ equation ++ "' contains conditions that match nothing\n"
    else ""
  ⟨none, String.join (selection.indices.map fun i => toString i ++ "\n"),
    doubts ++ s!"Matched {selection.size} of {d.size} rows\n"⟩

/-- Selecting rows. -/
def runFilter (files : FileReader) (data equation : String) (delimiter : Char) : CommandOutcome :=
  match readDataset files data delimiter with
  | .error e => ⟨[], .error e⟩
  | .ok d => ⟨d.loadLog data ++ Equation.parseLog equation, .ok (respondFilter d equation)⟩

/-- The wording of a rule for the command line. -/
def ruleText : LikertRule → String
  | .explicitMode => "explicit Likert mode"
  | .scalePoints => "declared scale points"
  | .vocabulary v => v.name ++ " vocabulary"
  | .symmetricKeywords => "symmetric positive/negative labels"

/-- The response that tells whether a question is a Likert scale, and its choices. -/
def respondLikert (q : Question) : Response :=
  let verdict :=
    match q.likertRule? with
    | some rule => q.id ++ ": Likert (" ++ ruleText rule ++ ")\n"
    | none => q.id ++ ": not a Likert scale\n"
  let lines := q.choices.map fun c => "  " ++ c.code ++ "\t" ++ c.label ++ "\n"
  ⟨none, verdict ++ String.join lines, ""⟩

/-- Looking for a Likert scale. -/
def runLikert (files : FileReader) (question : String) : CommandOutcome :=
  match readJson files Question.ofJson? question with
  | .error e => ⟨[], .error e⟩
  | .ok q => ⟨q.choicesLog, .ok (respondLikert q)⟩

/-- The points of a scale: those asked for, those declared, or one for each choice. -/
def pointsOf (q : Question) (points : Option UInt32) : UInt32 :=
  (points.or q.scalePoints?).getD (UInt32.ofNat q.choices.length)

/-- The response with the box nets of a question. -/
def respondNets (q : Question) (points : UInt32) (summary : Bool) : Response :=
  let nets := q.boxNets points
  let reports :=
    if nets.isEmpty then s!"No box nets for a {points}-point scale\n" else ""
  let text :=
    if summary then Nets.text q.choices nets else (Json.ofList Net.toJson nets).pretty
  ⟨none, text ++ "\n", reports⟩

/-- Making box nets. -/
def runNets (files : FileReader) (question : String) (points : Option UInt32) (summary : Bool) :
    CommandOutcome :=
  match readJson files Question.ofJson? question with
  | .error e => ⟨[], .error e⟩
  | .ok q =>
    ⟨q.choicesLog ++ q.boxNetsLog (pointsOf q points),
      .ok (respondNets q (pointsOf q points) summary)⟩

def run (now : Timestamp) (files : FileReader) : Command → CommandOutcome
  | .report c => runReport now files c
  | .filter data equation delimiter => runFilter files data equation delimiter
  | .likert question => runLikert files question
  | .nets question points summary => runNets files question points summary

end Command

end SurveyTables
