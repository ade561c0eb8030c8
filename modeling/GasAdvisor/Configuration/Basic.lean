import GasAdvisor.Analysis.Basic
import GasAdvisor.Checked
import GasAdvisor.Contract.Reading
import GasAdvisor.Decimal.Text
import GasAdvisor.Rule.Findings
import GasAdvisor.Text.Lines
import GasAdvisor.Toml.Report

/-!
# Configuration

What can be set for an analysis, and what is set where nothing is said. A configuration is accepted
by `Configuration.check?` if its similarity threshold lies between zero and one and the confidences
that it sets are finite; the threshold is looked at first.
-/

namespace GasAdvisor

open Text

/-- Settings of the language model. -/
structure ModelSettings where
  enabled : Bool
  endpoint : String
  model : String
  /-- The environment variable that holds the key. -/
  keyVariable : String
  timeoutSeconds : Nat
  maxTokens : Nat
  temperature : Float32
  /-- How long suggestions are kept, in hours. -/
  keepHours : Nat
  /-- Where suggestions are kept, in the home directory if nothing is said. -/
  cacheDirectory : Option String

/-- Settings of an analysis. -/
structure Configuration where
  framework : Framework
  scanning : Scanning
  similarityThreshold : Float
  rules : RuleSettings
  model : ModelSettings
  /-- Whether the framework's tool is run where there is no report. -/
  runTool : Bool

namespace ModelSettings

/-- What is set for the language model where nothing is said. -/
def standard : ModelSettings where
  enabled := false
  endpoint := "https://api.openai.com/v1/chat/completions"
  model := "gpt-4o-mini"
  keyVariable := "OPENAI_API_KEY"
  timeoutSeconds := 30
  maxTokens := 512
  temperature := 0.1
  keepHours := 24
  cacheDirectory := none

/-- Where suggestions are kept for the user with a home directory, or without one. -/
def cacheDirectoryIn? (settings : ModelSettings) (home : Option String) : Option String :=
  settings.cacheDirectory.or (home.map fun home => home ++ "/.gas-guardian/cache")

/-- How long suggestions are kept in seconds. There is no answer if they do not fit 64 bits. -/
def keepSeconds? (settings : ModelSettings) : Option Nat :=
  Checked.mul? settings.keepHours 3600

end ModelSettings

namespace Configuration

/-- What is set where nothing is said. -/
def standard : Configuration where
  framework := default
  scanning := default
  similarityThreshold := 0.7
  rules := .standard
  model := .standard
  runTool := true

/-- Why a configuration is refused. -/
inductive Error where
  /-- The text is no TOML, or its values do not fit. -/
  | malformed (report : Toml.Report)
  | threshold (value : Float)
  | confidence (ids : List String)
  deriving DecidableEq

namespace Error

/-- The text of an error. -/
def message : Error → String
  | .malformed report => report.text
  | .threshold value =>
    "ranking.similarity_threshold must be within [0, 1], got " ++
      String.ofList (Decimal.plain value)
  | .confidence ids =>
    "rules.confidence must be finite numbers, got non-finite values for " ++
      String.ofList (join ", ".toList (ids.map String.toList))

end Error

/-- The identifiers with a confidence that is not finite, in ascending order. -/
def nonFinite (settings : RuleSettings) : List String :=
  ((settings.confidence.filter fun (_, x) => !x.isFinite).map (·.1)).mergeSort (· ≤ ·)

/-- A configuration, if it is accepted. -/
def check? (config : Configuration) : Except Error Configuration :=
  if !(0 ≤ config.similarityThreshold && config.similarityThreshold ≤ 1) then
    .error (.threshold config.similarityThreshold)
  else if !(nonFinite config.rules).isEmpty then .error (.confidence (nonFinite config.rules))
  else .ok config

end Configuration

end GasAdvisor
