import GasAdvisor.Analysis.Basic
import GasAdvisor.Contract.Reading
import GasAdvisor.Text.Lines

/-!
# Options of the command line

A command line is a subcommand, its options and its files. Options may stand before the subcommand,
if they are known there, and before, between and after the files; after `--` there are files alone.

* A long option is `--name`, with its value as `--name=value` or in the next word.
* Short options stand together in one word after `-`; the value of the last one may follow it in the
  word, after an equals sign or not, or in the next word. Such a next word does not start with `-`.
* An option is given at most once at each of the two levels, and with a value that it accepts.
* Where a subcommand may stand, `help` asks for help, and all words after it name a subcommand.

The words are taken one by one (`CommandLine.step`), and the first fault, or the first question for the
version or for help, ends the reading.
-/

namespace GasAdvisor

open Text

/-- An option of the command line. -/
inductive CommandOption where
  | config
  | debug
  | noColor
  | framework
  | output
  | llm
  | parser
  | format
  | version
  | help
  deriving DecidableEq, Repr

/-- A subcommand. -/
inductive Subcommand where
  | analyze
  | suggest
  | report
  deriving DecidableEq, Repr

/-- A layout of the output of an analysis. -/
inductive OutputLayout where
  | list
  | table
  | json
  deriving DecidableEq, Repr

/-- A format of a report. -/
inductive ReportFormat where
  | markdown
  | json
  deriving DecidableEq, Repr

namespace OutputLayout

/-- All layouts. -/
def all : List OutputLayout := [.list, .table, .json]

/-- The name of a layout. -/
def keyword : OutputLayout → String
  | .list => "list"
  | .table => "table"
  | .json => "json"

end OutputLayout

namespace ReportFormat

/-- All formats. -/
def all : List ReportFormat := [.markdown, .json]

/-- The name of a format. -/
def keyword : ReportFormat → String
  | .markdown => "markdown"
  | .json => "json"

end ReportFormat

namespace Subcommand

/-- All subcommands. -/
def all : List Subcommand := [.analyze, .suggest, .report]

/-- The names of a subcommand. -/
def names : Subcommand → List String
  | .analyze => ["analyze", "a"]
  | .suggest => ["suggest", "s"]
  | .report => ["report", "r"]

/-- The subcommand with a name. -/
def ofName? (name : String) : Option Subcommand :=
  all.find? fun c => c.names.contains name

end Subcommand

/-- The value of a type with a name. -/
def named? {α : Type} (all : List α) (keyword : α → String) (name : String) : Option α :=
  all.find? (keyword · = name)

namespace CommandOption

/-- The long name of an option. -/
def long : CommandOption → String
  | .config => "config"
  | .debug => "debug"
  | .noColor => "no-color"
  | .framework => "framework"
  | .output => "output"
  | .llm => "llm"
  | .parser => "parser"
  | .format => "format"
  | .version => "version"
  | .help => "help"

/-- The short name of an option. -/
def short? : CommandOption → Option Char
  | .framework => some 'f'
  | .output => some 'o'
  | .version => some 'V'
  | .help => some 'h'
  | _ => none

/-- Whether an option has a value. -/
def hasValue : CommandOption → Bool
  | .config | .framework | .output | .parser | .format => true
  | _ => false

/-- The options that are known everywhere. -/
def everywhere : List CommandOption := [.config, .debug, .noColor, .help]

/-- The options that are known before the subcommand, or after it. -/
def known : Option Subcommand → List CommandOption
  | none => everywhere ++ [.version]
  | some .analyze => everywhere ++ [.framework, .output, .llm, .parser]
  | some .suggest => everywhere ++ [.llm, .parser]
  | some .report => everywhere ++ [.format, .output, .framework, .llm]

/-- Whether an option of a subcommand accepts a value. -/
def accepts (command : Option Subcommand) (option : CommandOption) (value : String) : Bool :=
  match option, command with
  | .framework, _ => (named? Framework.all Framework.keyword value).isSome
  | .parser, _ => (named? Scanning.all Scanning.keyword value).isSome
  | .format, _ => (named? ReportFormat.all ReportFormat.keyword value).isSome
  | .output, some .analyze => (named? OutputLayout.all OutputLayout.keyword value).isSome
  | _, _ => !value.isEmpty

end CommandOption

/-- What help is asked for: the program, or one of its subcommands. -/
inductive HelpTopic where
  | program
  | subcommand
  deriving DecidableEq, Repr

/-- The topic that one more word leads to; `help` is a subcommand here. -/
def HelpTopic.narrow? : HelpTopic → String → Option HelpTopic
  | .program, word =>
    if word = "help" ∨ (Subcommand.ofName? word).isSome then some .subcommand else none
  | .subcommand, _ => none

/-- Why the reading of a command line ends without a command. -/
inductive CommandStop where
  | usage
  | version
  | help
  deriving DecidableEq, Repr

/-- What has been read of a command line. -/
structure CommandLine where
  subcommand : Option Subcommand
  /-- The options before the subcommand, with their values. -/
  outer : List (CommandOption × String)
  /-- The options after the subcommand, with their values. -/
  inner : List (CommandOption × String)
  /-- The option whose value the next word is. -/
  pending : Option CommandOption
  /-- What help is asked for by name. -/
  topic : Option HelpTopic
  /-- Whether all words from here on are files. -/
  filesOnly : Bool
  files : List String
  deriving DecidableEq, Repr

namespace CommandLine

/-- Nothing read so far. -/
def start : CommandLine := ⟨none, [], [], none, none, false, []⟩

/-- The options given at the present level. -/
def level (line : CommandLine) : List (CommandOption × String) :=
  match line.subcommand with
  | none => line.outer
  | some _ => line.inner

/-- The command line with one more option. -/
def give (line : CommandLine) (option : CommandOption) (value : String) :
    Except CommandStop CommandLine :=
  if option = .version then .error .version
  else if option = .help then .error .help
  else if (line.level.lookup option).isSome then .error .usage
  else
    match line.subcommand with
    | none => .ok { line with outer := line.outer ++ [(option, value)], pending := none }
    | some _ => .ok { line with inner := line.inner ++ [(option, value)], pending := none }

/-- The command line with the value of an option. -/
def giveValue (line : CommandLine) (option : CommandOption) (value : String) :
    Except CommandStop CommandLine :=
  if option.accepts line.subcommand value then line.give option value else .error .usage

/-- The command line with a long option: the word after its dashes. -/
def giveLong (line : CommandLine) (word : List Char) : Except CommandStop CommandLine :=
  let name := word.takeWhile (· != '=')
  match (CommandOption.known line.subcommand).find? (·.long.toList = name), word.drop name.length with
  | none, _ => .error .usage
  | some option, [] =>
    if option.hasValue then .ok { line with pending := some option } else line.give option ""
  | some option, _ :: value =>
    if option.hasValue then line.giveValue option (String.ofList value) else .error .usage

/-- The value that follows a short option in its word. -/
def attached : List Char → List Char
  | '=' :: value => value
  | value => value

/-- The command line with short options: the word after its dash. -/
def giveShort (line : CommandLine) : List Char → Except CommandStop CommandLine
  | [] => .ok line
  | c :: rest =>
    match (CommandOption.known line.subcommand).find? (·.short? = some c) with
    | none => .error .usage
    | some option =>
      if option.hasValue then
        if rest.isEmpty then .ok { line with pending := some option }
        else line.giveValue option (String.ofList (attached rest))
      else do giveShort (← line.give option "") rest

/-- The command line with a word that is no option: the value of the pending one, the subcommand, the
question for help, or a file. -/
def giveOperand (line : CommandLine) (word : String) : Except CommandStop CommandLine :=
  match line.pending, line.subcommand with
  | some option, _ => line.giveValue option word
  | none, none =>
    if line.filesOnly then .error .usage
    else match Subcommand.ofName? word with
      | none => if word = "help" then .ok { line with topic := some .program } else .error .usage
      | some command => .ok { line with subcommand := some command }
  | none, some _ => if word.isEmpty then .error .usage else .ok { line with files := line.files ++ [word] }

/-- The command line with a word that belongs to the question for help. -/
def giveTopic (line : CommandLine) (topic : HelpTopic) (word : String) :
    Except CommandStop CommandLine :=
  match topic.narrow? word with
  | some topic => .ok { line with topic := some topic }
  | none => .error .usage

/-- The command line with a word that may be an option. -/
def giveWord (line : CommandLine) (word : String) : Except CommandStop CommandLine :=
  match word.toList with
  | '-' :: rest =>
    if rest.isEmpty then line.giveOperand word
    else if line.pending.isSome then .error .usage
    else match rest with
      | ['-'] => .ok { line with filesOnly := true }
      | '-' :: name => line.giveLong name
      | names => line.giveShort names
  | _ => line.giveOperand word

/-- The command line with one more word. -/
def step (line : CommandLine) (word : String) : Except CommandStop CommandLine :=
  match line.topic with
  | some topic => line.giveTopic topic word
  | none => if line.filesOnly then line.giveOperand word else line.giveWord word

/-- The command line that words make: with a subcommand, at least one file and no value missing. -/
def read (words : List String) : Except CommandStop CommandLine := do
  let line ← words.foldlM step start
  if line.topic.isSome then .error .help
  else if line.subcommand.isNone || line.files.isEmpty || line.pending.isSome then .error .usage
  else .ok line

/-- The value of an option, that after the subcommand before the other. -/
def value? (line : CommandLine) (option : CommandOption) : Option String :=
  (line.inner.lookup option).or (line.outer.lookup option)

/-- Whether an option is given. -/
def has (line : CommandLine) (option : CommandOption) : Bool :=
  (line.value? option).isSome

end CommandLine

end GasAdvisor
