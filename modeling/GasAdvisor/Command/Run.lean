import GasAdvisor.Advice.Remote
import GasAdvisor.Analysis.Files
import GasAdvisor.Command.Options
import GasAdvisor.Configuration.Loading
import GasAdvisor.Render.View

/-!
# Runs of the command line

What a run prints, writes and ends with. A run loads the configuration, lets the options go before it,
analyses the files and renders the batch; it fails if the configuration cannot be loaded, if its report
cannot be written, or if no file could be analysed.

A configuration can ask for answers of a language model to be kept longer than its arithmetic allows. Then
there is nothing to analyse with, and the run is stopped before it looks at any file.
-/

namespace GasAdvisor

open Text

/-- How a run ended: its exit status and what it printed on both channels. -/
structure CommandResult where
  status : Nat
  output : String
  errors : String
  deriving DecidableEq, Repr

namespace CommandResult

/-- The text of a cause under its number, if it has one, with all its lines indented. -/
def causeText (number : Option Nat) (cause : String) : List Char :=
  let head := match number with
    | none => "    ".toList
    | some n => "    ".toList ++ Decimal.digits n ++ ": ".toList
  let margin := match number with
    | none => "    ".toList
    | some _ => "       ".toList
  head ++ join ('\n' :: margin) (pieces '\n' cause.toList)

/-- The text of an error and its causes. Several causes are numbered. -/
def errorText (message : String) (causes : List String) : String :=
  let listed := match causes with
    | [] => []
    | [cause] => ["\n\nCaused by:".toList, causeText none cause]
    | causes => "\n\nCaused by:".toList ::
        causes.zipIdx.map fun (cause, n) => causeText (some n) cause
  String.ofList ("Error: ".toList ++ message.toList ++ join ['\n'] listed ++ ['\n'])

/-- The result of a run after more output. -/
def after (output errors : String) (result : CommandResult) : CommandResult :=
  { result with output := output ++ result.output, errors := errors ++ result.errors }

/-- A run that printed all and failed with an error. -/
def failed (message : String) (causes : List String) : CommandResult :=
  ⟨1, "", errorText message causes⟩

/-- A run that succeeded. -/
def succeeded : CommandResult := ⟨0, "", ""⟩

/-- A run that was stopped at a product that does not fit its word. -/
def overflowed : CommandResult := ⟨101, "", "attempt to multiply with overflow\n"⟩

/-- The end of a run that analysed files: it succeeded if one of them could be. -/
def ofBatch (batch : Batch) : CommandResult :=
  if batch.allFailed then
    failed ("All " ++ Terminal.number batch.failures.length ++ " input file(s) failed to analyze") []
  else succeeded

end CommandResult

namespace CommandLine

/-- The value of an option that names one of several. -/
def choice? {α : Type} (line : CommandLine) (option : CommandOption) (all : List α)
    (keyword : α → String) : Option α :=
  (line.value? option).bind (named? all keyword)

/-- The configuration with the options of a command line in place of its settings. -/
def override (line : CommandLine) (config : Configuration) : Configuration :=
  { config with
    framework := (line.choice? .framework Framework.all Framework.keyword).getD config.framework
    scanning := (line.choice? .parser Scanning.all Scanning.keyword).getD config.scanning
    model := { config.model with enabled := config.model.enabled || line.has .llm } }

/-- How the output looks, where escape sequences are shown or not. -/
def look (line : CommandLine) (escapes : Bool) : Look :=
  if line.has .noColor then .plain else if escapes then .colored else .boxed

/-- The layout of the output of an analysis. -/
def layout (line : CommandLine) : OutputLayout :=
  (line.choice? .output OutputLayout.all OutputLayout.keyword).getD .list

/-- The format of a report. -/
def format (line : CommandLine) : ReportFormat :=
  (line.choice? .format ReportFormat.all ReportFormat.keyword).getD .markdown

end CommandLine

namespace OutputLayout

/-- The view that an analysis is printed in. -/
def view : OutputLayout → View
  | .list => .list
  | .table => .table
  | .json => .json

end OutputLayout

namespace ReportFormat

/-- The view that a report is written in. -/
def view : ReportFormat → View
  | .markdown => .markdown
  | .json => .jsonReport

end ReportFormat

namespace Command

/-- What the question for the version is answered with. -/
def versionText : String := "gas-guardian 0.1.0\n"

/-- What the question for help is answered with. -/
def usageText : String :=
  "Usage: gas-guardian [OPTIONS] <COMMAND>\n\nCommands:\n" ++
  "  analyze  Analyze contracts against gas measured by the test framework\n" ++
  "  suggest  List optimization suggestions for every function\n" ++
  "  report   Write a markdown or JSON report\n"

variable {m : Type → Type} [Monad m] [MonadWorkspace m]

/-- The survey that a configuration describes, unless the language model that it asks for is none. -/
def survey? (config : Configuration) (measurement : Option Measurement) : m (Option (Survey m)) := do
  let analyzer := Analyzer.ofConfiguration config
  if config.model.enabled then
    let home ← MonadWorkspace.home?
    return (RemoteModel.ofSettings? config.model home).map fun model =>
      ⟨analyzer, fun f => model.ask f.sourceCode, measurement⟩
  else return some (.ofAnalyzer analyzer measurement)

/-- A run that analyses the files of a command line, with measured costs or without, and makes something
of the batch. -/
def onBatch (config : Configuration) (measured : Bool) (files : List String)
    (conclude : Batch → m CommandResult) : m CommandResult := do
  let root := Path.ofNames (← MonadWorkspace.directory)
  let measurement := if measured then some ⟨config.framework, root, config.runTool⟩ else none
  match ← survey? config measurement with
  | none => return .overflowed
  | some survey => conclude (← survey.analyzeFiles files)

/-- The heading of an analysis, which JSON goes without. -/
def heading (look : Look) (layout : OutputLayout) (config : Configuration) (files : List String) :
    String :=
  if layout = .json then "" else (Terminal.headingDocument config.framework files).render look

/-- The text that says where a report was saved. -/
def savedText (look : Look) (path : String) : String :=
  let line : Line :=
    if look = .plain then [.bare "Report saved to"]
    else [.styled .green "✅ Report saved to"]
  Document.render look [line ++ [.bare (" " ++ path)]]

/-- A run that analyses files. -/
def analyze (look : Look) (layout : OutputLayout) (config : Configuration) (files : List String) :
    m CommandResult :=
  onBatch config true files fun batch =>
    return (CommandResult.ofBatch batch).after
      (heading look layout config files ++ layout.view.render look config.model.enabled batch)
      (View.diagnostics.render look config.model.enabled batch)

/-- A run that lists suggestions. -/
def suggest (look : Look) (config : Configuration) (files : List String) : m CommandResult :=
  onBatch config false files fun batch =>
    return (CommandResult.ofBatch batch).after
      (View.suggestions.render look config.model.enabled batch)
      (View.diagnostics.render look config.model.enabled batch)

/-- What comes of a report: it is saved to a path or else printed. -/
def deliver (look : Look) (report : String) : Option String → m (Except FileFault String)
  | none => return .ok report
  | some path => do
    match ← Workspace.writeText path report with
    | .error fault => return .error fault
    | .ok _ => return .ok (savedText look path)

/-- A run that makes a report. -/
def report (look : Look) (format : ReportFormat) (path : Option String) (config : Configuration)
    (files : List String) : m CommandResult :=
  onBatch config true files fun batch => do
    let diagnostics := View.diagnostics.render look config.model.enabled batch
    match ← deliver look (format.view.render look config.model.enabled batch) path with
    | .error fault =>
      return (CommandResult.failed ("Failed to write report to " ++ path.getD "") [fault.cause]).after
        "" diagnostics
    | .ok printed => return (CommandResult.ofBatch batch).after printed diagnostics

/-- A run of a subcommand under a configuration. -/
def runWith (escapes : Bool) (line : CommandLine) (config : Configuration) : m CommandResult :=
  let look := line.look escapes
  match line.subcommand with
  | some .suggest => suggest look config line.files
  | some .report => report look line.format (line.value? .output) config line.files
  | _ => analyze look line.layout config line.files

/-- A run for the words of a command line, where escape sequences are shown or not. -/
def run (escapes : Bool) (words : List String) : m CommandResult := do
  match CommandLine.read words with
  | .error .version => return ⟨0, versionText, ""⟩
  | .error .help => return ⟨0, usageText, ""⟩
  | .error .usage => return ⟨2, "", usageText⟩
  | .ok line =>
    match ← Configuration.load (line.value? .config) with
    | .error e => return .failed "Failed to load configuration" e.causes
    | .ok config => runWith escapes line (line.override config)

end Command

end GasAdvisor
