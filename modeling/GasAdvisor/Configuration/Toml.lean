import GasAdvisor.Configuration.Basic
import GasAdvisor.Toml.Reader
import GasAdvisor.Toml.Setting

/-!
# Configurations in TOML

A configuration is a document with sections of settings. What is missing is as it is by default,
and what is unknown is passed over. The first value in the order of the keys that does not fit is
the one that is reported.
-/

namespace GasAdvisor

namespace ModelSettings

/-- The names of the settings on the language model. -/
def names : List String :=
  ["enabled", "endpoint", "model", "api_key_env", "timeout_secs", "max_tokens", "temperature",
   "cache_ttl_hours", "cache_dir"]

/-- Settings with one of them set. -/
def set (settings : ModelSettings) (name : String) (value : Toml) :
    Except Toml.Error ModelSettings := do
  match name with
  | "enabled" => return { settings with enabled := ← value.toBool }
  | "endpoint" => return { settings with endpoint := ← value.toText "a string" }
  | "model" => return { settings with model := ← value.toText "a string" }
  | "api_key_env" => return { settings with keyVariable := ← value.toText "a string" }
  | "timeout_secs" => return { settings with timeoutSeconds := ← value.toNat 64 }
  | "max_tokens" => return { settings with maxTokens := ← value.toNat 32 }
  | "temperature" => return { settings with temperature := ← value.toSingle }
  | "cache_ttl_hours" => return { settings with keepHours := ← value.toNat 64 }
  | "cache_dir" => return { settings with cacheDirectory := some (← value.toText "path string") }
  | _ => do
    value.checkRange
    return settings

end ModelSettings

namespace RuleSettings

/-- The names of the settings on the rules. -/
def names : List String :=
  ["disabled", "confidence"]

/-- Settings with one of them set. -/
def set (settings : RuleSettings) (name : String) (value : Toml) :
    Except Toml.Error RuleSettings := do
  match name with
  | "disabled" => return { settings with disabled := ← value.toTexts }
  | "confidence" => return { settings with confidence := ← value.toFloats }
  | _ => do
    value.checkRange
    return settings

end RuleSettings

namespace Configuration

/-- A configuration with a setting on ranking set. -/
def setRanking (config : Configuration) (name : String) (value : Toml) :
    Except Toml.Error Configuration := do
  match name with
  | "similarity_threshold" => return { config with similarityThreshold := ← value.toFloat }
  | _ => do
    value.checkRange
    return config

/-- A configuration with a setting on measured gas set. -/
def setMeasuring (config : Configuration) (name : String) (value : Toml) :
    Except Toml.Error Configuration := do
  match name with
  | "run_tool" => return { config with runTool := ← value.toBool }
  | _ => do
    value.checkRange
    return config

/-- A configuration with a setting or a section set. -/
def set (config : Configuration) (name : String) (value : Toml) :
    Except Toml.Error Configuration := do
  match name with
  | "framework" =>
    return { config with framework := ← value.toChoice Framework.all Framework.keyword }
  | "parser" => return { config with scanning := ← value.toChoice Scanning.all Scanning.keyword }
  | "ranking" =>
    value.setSection "struct RankingConfig" ["similarity_threshold"] setRanking config
  | "rules" =>
    let rules ← value.setSection "struct RulesConfig" RuleSettings.names RuleSettings.set
      config.rules
    return { config with rules }
  | "llm" =>
    let model ← value.setSection "struct LlmConfig" ModelSettings.names ModelSettings.set
      config.model
    return { config with model }
  | "gas" => value.setSection "struct GasConfig" ["run_tool"] setMeasuring config
  | _ => do
    value.checkRange
    return config

/-- The configuration that a text holds, or why it holds none. -/
def ofText (text : List Char) : Except Toml.Error Configuration := do
  Toml.setEntries set standard (← Toml.parse text)

/-- The configuration that a text holds, if it is accepted. -/
def read (text : String) : Except Error Configuration :=
  match ofText text.toList with
  | .ok config => config.check?
  | .error e => .error (.malformed (e.report text.toList))

end Configuration

end GasAdvisor
