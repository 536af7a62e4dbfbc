import SurveyTables.Banner
import SurveyTables.Choice
import SurveyTables.CommandLine.Command
import SurveyTables.CommandLine.Log
import SurveyTables.CommandLine.Options
import SurveyTables.CommandLine.Run
import SurveyTables.Dataset
import SurveyTables.Decimal.Basic
import SurveyTables.Decimal.Binary64
import SurveyTables.Decimal.Fixed
import SurveyTables.Decimal.Layout
import SurveyTables.Decimal.Reader
import SurveyTables.Decimal.Shortest
import SurveyTables.Delimited.Dialect
import SurveyTables.Delimited.Reader
import SurveyTables.Delimited.Row
import SurveyTables.Equation.Between
import SurveyTables.Equation.Checkbox
import SurveyTables.Equation.Condition
import SurveyTables.Equation.Expression
import SurveyTables.Equation.Reader
import SurveyTables.Equation.Selection
import SurveyTables.Json.Basic
import SurveyTables.Json.Number
import SurveyTables.Json.Quoted
import SurveyTables.Json.Reader
import SurveyTables.Json.Shape
import SurveyTables.Json.Token
import SurveyTables.Json.Writer
import SurveyTables.Main
import SurveyTables.Net.Basic
import SurveyTables.Net.Collection
import SurveyTables.Net.Draft
import SurveyTables.Net.Problems
import SurveyTables.Net.Summary
import SurveyTables.Proofs.Dataset.Loading
import SurveyTables.Proofs.Dataset.Rows
import SurveyTables.Proofs.Decimal.Binary64
import SurveyTables.Proofs.Decimal.Characters
import SurveyTables.Proofs.Decimal.FixedPlaces
import SurveyTables.Proofs.Decimal.Nearest
import SurveyTables.Proofs.Decimal.Numeral
import SurveyTables.Proofs.Decimal.Order
import SurveyTables.Proofs.Decimal.Rounding
import SurveyTables.Proofs.Decimal.Storing
import SurveyTables.Proofs.Delimited.Rows
import SurveyTables.Proofs.Delimited.Utf8
import SurveyTables.Proofs.Equation.Acceptance
import SurveyTables.Proofs.Equation.Answers
import SurveyTables.Proofs.Equation.Checkbox
import SurveyTables.Proofs.Equation.Connectives
import SurveyTables.Proofs.Equation.Expansion
import SurveyTables.Proofs.Equation.Grammar
import SurveyTables.Proofs.Equation.Meaning
import SurveyTables.Proofs.Equation.Membership
import SurveyTables.Proofs.Equation.Order
import SurveyTables.Proofs.Equation.Reading
import SurveyTables.Proofs.Equation.Sides
import SurveyTables.Proofs.Equation.Tree
import SurveyTables.Proofs.Equation.Trichotomy
import SurveyTables.Proofs.Equation.WrittenForm
import SurveyTables.Proofs.Json.Tokens
import SurveyTables.Proofs.Json.Written
import SurveyTables.Proofs.Median
import SurveyTables.Proofs.Net.Drafts
import SurveyTables.Proofs.Net.Editing
import SurveyTables.Proofs.Net.Meaning
import SurveyTables.Proofs.Net.Problems
import SurveyTables.Proofs.Net.Sync
import SurveyTables.Proofs.Question.BoxNets
import SurveyTables.Proofs.Question.Codes
import SurveyTables.Proofs.Question.Likert
import SurveyTables.Proofs.Report.Bases
import SurveyTables.Proofs.Report.Cells
import SurveyTables.Proofs.Report.CodeRows
import SurveyTables.Proofs.Report.NetRows
import SurveyTables.Proofs.Report.ReadBack
import SurveyTables.Proofs.Report.RowOrder
import SurveyTables.Proofs.Sorting
import SurveyTables.Proofs.Statistics
import SurveyTables.Proofs.Table.Counts
import SurveyTables.Proofs.Table.Tally
import SurveyTables.Proofs.Text.Blank
import SurveyTables.Proofs.Text.Cut
import SurveyTables.Proofs.Text.Search
import SurveyTables.Proofs.Text.Separator
import SurveyTables.Proofs.Text.Whole
import SurveyTables.Proofs.Value.Number
import SurveyTables.Proofs.Wire.FieldNames
import SurveyTables.Proofs.Wire.Lossless
import SurveyTables.Proofs.Wire.Plans
import SurveyTables.Proofs.Wire.Questions
import SurveyTables.Proofs.Wire.ReadBack
import SurveyTables.Question.Basic
import SurveyTables.Question.BoxNets
import SurveyTables.Question.Choices
import SurveyTables.Question.Likert
import SurveyTables.Record
import SurveyTables.Report.Assembly
import SurveyTables.Report.Basic
import SurveyTables.Report.Export
import SurveyTables.Statistics
import SurveyTables.TabPlan
import SurveyTables.Table.Basic
import SurveyTables.Table.Tabulation
import SurveyTables.Text.Blank
import SurveyTables.Text.DecimalDigit
import SurveyTables.Text.Order
import SurveyTables.Text.Search
import SurveyTables.Text.Split
import SurveyTables.Text.WordChar
import SurveyTables.Timestamp.Basic
import SurveyTables.Timestamp.Format
import SurveyTables.Timestamp.Rfc3339
import SurveyTables.Value
import SurveyTables.Wire.Data
import SurveyTables.Wire.Net
import SurveyTables.Wire.Plan
import SurveyTables.Wire.Question
import SurveyTables.Wire.Report
