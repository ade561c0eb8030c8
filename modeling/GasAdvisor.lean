import GasAdvisor.Advice.Answer
import GasAdvisor.Advice.Prompt
import GasAdvisor.Main
import GasAdvisor.Proofs.Advice.Phrases
import GasAdvisor.Proofs.Advice.Sentences
import GasAdvisor.Proofs.Advice.Snippets
import GasAdvisor.Proofs.Analysis.Batches
import GasAdvisor.Proofs.Analysis.Costs
import GasAdvisor.Proofs.Analysis.Integration
import GasAdvisor.Proofs.Analysis.Json
import GasAdvisor.Proofs.Analysis.Outcomes
import GasAdvisor.Proofs.Analysis.SavingsBound
import GasAdvisor.Proofs.Analysis.Scannings
import GasAdvisor.Proofs.Analysis.Summaries
import GasAdvisor.Proofs.Cache.Lifetimes
import GasAdvisor.Proofs.Cache.Session
import GasAdvisor.Proofs.Cache.Sharing
import GasAdvisor.Proofs.Contract.Balance
import GasAdvisor.Proofs.Contract.ByteBraces
import GasAdvisor.Proofs.Contract.Extents
import GasAdvisor.Proofs.Contract.Lines
import GasAdvisor.Proofs.Contract.Masked
import GasAdvisor.Proofs.Contract.ParameterGrammar
import GasAdvisor.Proofs.Contract.Places
import GasAdvisor.Proofs.Contract.Printing
import GasAdvisor.Proofs.Contract.Qualification
import GasAdvisor.Proofs.Contract.Qualifiers
import GasAdvisor.Proofs.Contract.Slicing
import GasAdvisor.Proofs.Contract.Spacing
import GasAdvisor.Proofs.Contract.StateVariables
import GasAdvisor.Proofs.Contract.Tokens
import GasAdvisor.Proofs.Contract.Validity
import GasAdvisor.Proofs.Cost.JsonReport
import GasAdvisor.Proofs.Cost.Measured
import GasAdvisor.Proofs.Cost.Snapshot
import GasAdvisor.Proofs.Cost.Table
import GasAdvisor.Proofs.Cost.TestRuns
import GasAdvisor.Proofs.Project.Root
import GasAdvisor.Proofs.Render.Views
import GasAdvisor.Proofs.Rule.Calls
import GasAdvisor.Proofs.Rule.Comparisons
import GasAdvisor.Proofs.Rule.Settings
import GasAdvisor.Proofs.Rule.WholeWords
import GasAdvisor.Proofs.Suggestion.Duplicates
import GasAdvisor.Proofs.Suggestion.Incremental
import GasAdvisor.Proofs.Suggestion.Merge
import GasAdvisor.Proofs.Text.Slices
import GasAdvisor.Rule.Checked
import GasAdvisor.Workspace.Memory
