import GasAdvisor.Analysis.Json
import GasAdvisor.Json.Writer
import GasAdvisor.Render.Markdown

/-!
# Views of a batch

The texts that can be made of a batch, each under its name.
-/

namespace GasAdvisor

/-- A text that can be made of a batch. -/
inductive View where
  | list
  | table
  | json
  | suggestions
  | diagnostics
  | markdown
  | jsonReport
  deriving DecidableEq, Repr

namespace View

/-- All views. -/
def all : List View :=
  [.list, .table, .json, .suggestions, .diagnostics, .markdown, .jsonReport]

/-- The name of a view. -/
def keyword : View → String
  | .list => "list"
  | .table => "table"
  | .json => "json"
  | .suggestions => "suggestions"
  | .diagnostics => "diagnostics"
  | .markdown => "markdown"
  | .jsonReport => "report_json"

/-- A batch in JSON over several lines. -/
def batchJson (batch : Batch) : String :=
  String.ofList batch.toJson.pretty

/-- The text of a view. -/
def render (look : Look) (modelEnabled : Bool) (batch : Batch) : View → String
  | .list => (Terminal.analysisDocument look .list batch).render look
  | .table => (Terminal.analysisDocument look .table batch).render look
  | .json | .jsonReport => batchJson batch
  | .suggestions => (Terminal.suggestionsDocument batch modelEnabled).render look
  | .diagnostics => (Terminal.diagnosticsDocument batch).render look
  | .markdown => Markdown.report batch

end View

end GasAdvisor
