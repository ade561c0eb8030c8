import GasAdvisor.Command.Run
import GasAdvisor.Proofs.Analysis.Outcomes
import GasAdvisor.Proofs.Analysis.Summaries
import GasAdvisor.Proofs.Workspace.Reading

/-!
# Batches of files

The files of a batch are analysed one after the other, and each analysis may change the workspace that
the next one finds. Where the answer for a file does not depend on the files before it
(`Survey.Independent`), a batch holds what each file answers alone: `Survey.mapM_analyzeFile` follows
the workspace from file to file, and `Survey.analyzeFiles_partitions` draws the conclusions. Surveys
that run no tool and keep no state are of this kind (`Survey.independent_ofAnalyzer`).

The figures of a batch do not depend on the order of its contracts (`Summary.of_perm`).
-/

namespace GasAdvisor

/-! ## Outcomes in a batch -/

/-- A batch holds the outcome for each of the paths: of those that could be analysed the analysis, of
the others the error, both in the order of the paths, and the figures over the analyses. -/
structure Batch.Partitions (paths : List String)
    (outcome : String → Except FileError ContractAnalysis) (batch : Batch) : Prop where
  contracts : List.Forall₂ (fun path analysis => outcome path = .ok analysis)
    (paths.filter fun path => (outcome path).isOk) batch.contracts
  failures : List.Forall₂
    (fun path failure => ∃ e, outcome path = .error e ∧ failure = ⟨path, e.message⟩)
    (paths.filter fun path => !(outcome path).isOk) batch.failures
  summary : batch.summary = Summary.of batch.contracts

namespace Batch

variable (paths : List String) (outcome : String → Except FileError ContractAnalysis)
  (framework : Option Framework) (timestamp : String)

theorem contracts_of :
    (Batch.of (paths.map fun path => (path, outcome path)) framework timestamp).contracts =
      paths.filterMap fun path => (outcome path).toOption :=
  List.filterMap_map

theorem failures_of :
    (Batch.of (paths.map fun path => (path, outcome path)) framework timestamp).failures =
      paths.filterMap fun path => Failure.ofOutcome? path (outcome path) :=
  List.filterMap_map

theorem partitions_of :
    Partitions paths outcome
      (Batch.of (paths.map fun path => (path, outcome path)) framework timestamp) where
  contracts := by
    have hok : (fun path => (outcome path).isOk) =
        fun path => ((outcome path).toOption).isSome := by
      funext path
      cases outcome path <;> rfl
    rw [contracts_of, hok]
    refine (forall₂_filter_filterMap _ paths).imp fun path analysis h => ?_
    cases hpath : outcome path with
    | error e => rw [hpath] at h; cases h.2
    | ok found => rw [hpath] at h; exact congrArg _ (Option.some.inj h.2)
  failures := by
    have herror : (fun path => !(outcome path).isOk) =
        fun path => (Failure.ofOutcome? path (outcome path)).isSome := by
      funext path
      cases outcome path <;> rfl
    rw [failures_of, herror]
    refine (forall₂_filter_filterMap _ paths).imp fun path failure h => ?_
    cases hpath : outcome path with
    | error e => rw [hpath] at h; exact ⟨e, rfl, (Option.some.inj h.2).symm⟩
    | ok found => rw [hpath] at h; cases h.2
  summary := rfl

variable {paths outcome} {batch : Batch}

/-- Nothing is lost and nothing is put in twice. -/
theorem Partitions.length_add (h : Partitions paths outcome batch) :
    batch.contracts.length + batch.failures.length = paths.length := by
  rw [← h.contracts.length_eq, ← h.failures.length_eq]
  exact (List.length_eq_length_filter_add fun path => (outcome path).isOk).symm

/-- **A run of the command fails exactly if no file could be analysed.** -/
theorem Partitions.ofBatch_eq (h : Partitions paths outcome batch) (hne : paths ≠ []) :
    CommandResult.ofBatch batch =
      if batch.contracts = [] then
        .failed ("All " ++ Terminal.number paths.length ++ " input file(s) failed to analyze") []
      else .succeeded := by
  have hlength := h.length_add
  have hpaths : paths.length ≠ 0 := fun h0 => hne (List.length_eq_zero_iff.1 h0)
  rw [CommandResult.ofBatch, Batch.allFailed]
  by_cases hnone : batch.contracts = []
  · rw [hnone, List.length_nil, Nat.zero_add] at hlength
    have hfailures : batch.failures ≠ [] := fun h0 => hpaths (by rw [← hlength, h0]; rfl)
    have hall : (batch.contracts.isEmpty && !batch.failures.isEmpty) = true := by
      simp [hnone, hfailures]
    rw [if_pos hall, if_pos hnone, hlength]
  · have hsome : ¬ (batch.contracts.isEmpty && !batch.failures.isEmpty) = true := by
      simp [hnone]
    rw [if_neg hsome, if_neg hnone]

end Batch

/-! ## Files one after the other -/

namespace Survey

section Runs

variable {σ : Type} [MonadWorkspace (StateM σ)] (survey : Survey (StateM σ))

/-- What the analysis of a file answers in a workspace. -/
def answer (w : σ) (path : String) : Except FileError ContractAnalysis :=
  ((survey.analyzeFile path).run w).1

/-- The workspace after the analysis of some files. -/
def after (w : σ) (paths : List String) : σ :=
  paths.foldl (fun w path => ((survey.analyzeFile path).run w).2) w

/-- The answer for a file does not depend on the files that were analysed before it. -/
def Independent (w : σ) : Prop :=
  ∀ earlier path, survey.answer (survey.after w earlier) path = survey.answer w path

variable {survey} {w : σ}

/-- **Each file answers as it does alone**, in the workspace that the files before it leave. -/
theorem mapM_analyzeFile (h : survey.Independent w) (paths : List String) :
    (paths.mapM fun path => (do return (path, ← survey.analyzeFile path) : StateM σ _)).run w =
      (paths.map fun path => (path, survey.answer w path), survey.after w paths) := by
  -- the answers in later workspaces are those in the first one
  have key (earlier : List String) :
      (paths.mapM fun path => (do return (path, ← survey.analyzeFile path) : StateM σ _)).run
          (survey.after w earlier) =
        (paths.map fun path => (path, survey.answer w path),
          survey.after w (earlier ++ paths)) := by
    induction paths generalizing earlier with
    | nil => rw [List.append_nil]; rfl
    | cons path paths ih =>
      have hnext : survey.after w (earlier ++ [path]) =
          ((survey.analyzeFile path).run (survey.after w earlier)).2 := by
        rw [after, List.foldl_append]
        rfl
      have hmore := ih (earlier ++ [path])
      rw [hnext, List.append_assoc, List.singleton_append] at hmore
      rw [List.mapM_cons, StateT.run_bind, List.map_cons, ← h earlier path]
      show (do let (outcomes, w') ← (paths.mapM fun path =>
                  (do return (path, ← survey.analyzeFile path) : StateM σ _)).run
                    ((survey.analyzeFile path).run (survey.after w earlier)).2
               pure (_ :: outcomes, w') : Id _) = _
      rw [hmore]
      rfl
  exact key []

theorem analyzeFiles_eq (h : survey.Independent w) (paths : List String) :
    ∃ timestamp, ((survey.analyzeFiles paths).run w).1 =
      .of (paths.map fun path => (path, survey.answer w path)) survey.framework timestamp := by
  refine ⟨((MonadWorkspace.timestamp : StateM σ String).run (survey.after w paths)).1, ?_⟩
  rw [analyzeFiles, StateT.run_bind, mapM_analyzeFile h]
  rfl

theorem partitions_analyzeFiles (h : survey.Independent w) (paths : List String) :
    Batch.Partitions paths (survey.answer w) ((survey.analyzeFiles paths).run w).1 := by
  obtain ⟨timestamp, hbatch⟩ := analyzeFiles_eq h paths
  rw [hbatch]
  exact Batch.partitions_of paths (survey.answer w) survey.framework timestamp

/-- **A batch loses nothing and duplicates nothing**, if the answer for a file does not depend on the
files before it. Each occurrence of a path is in one of the two lists of the batch, those that could be
analysed with their analyses and the others with their errors, as the analysis of the file alone gives
them, and both in the order of the paths. The summary is that of the analyses. With the paths in another
order both lists have the same entries in another order, and the summary is the same. If there are
paths, the run of the command fails exactly if none of them could be analysed. -/
theorem analyzeFiles_partitions (h : survey.Independent w) (paths : List String) :
    Batch.Partitions paths (survey.answer w) ((survey.analyzeFiles paths).run w).1 ∧
    ((survey.analyzeFiles paths).run w).1.contracts.length +
      ((survey.analyzeFiles paths).run w).1.failures.length = paths.length ∧
    (∀ paths', paths.Perm paths' →
      ((survey.analyzeFiles paths).run w).1.contracts.Perm
          ((survey.analyzeFiles paths').run w).1.contracts ∧
        ((survey.analyzeFiles paths).run w).1.failures.Perm
          ((survey.analyzeFiles paths').run w).1.failures ∧
        ((survey.analyzeFiles paths).run w).1.summary =
          ((survey.analyzeFiles paths').run w).1.summary) ∧
    (paths ≠ [] → CommandResult.ofBatch ((survey.analyzeFiles paths).run w).1 =
      if ((survey.analyzeFiles paths).run w).1.contracts = [] then
        .failed ("All " ++ Terminal.number paths.length ++ " input file(s) failed to analyze") []
      else .succeeded) := by
  have hpartitions := partitions_analyzeFiles h
  refine ⟨hpartitions paths, (hpartitions paths).length_add, fun paths' hperm => ?_,
    (hpartitions paths).ofBatch_eq⟩
  obtain ⟨timestamp, hbatch⟩ := analyzeFiles_eq h paths
  obtain ⟨timestamp', hbatch'⟩ := analyzeFiles_eq h paths'
  have hcontracts : ((survey.analyzeFiles paths).run w).1.contracts.Perm
      ((survey.analyzeFiles paths').run w).1.contracts := by
    rw [hbatch, hbatch', Batch.contracts_of, Batch.contracts_of]
    exact hperm.filterMap _
  refine ⟨hcontracts, ?_, ?_⟩
  · rw [hbatch, hbatch', Batch.failures_of, Batch.failures_of]
    exact hperm.filterMap _
  · rw [(hpartitions paths).summary, (hpartitions paths').summary]
    exact Summary.of_perm hcontracts

end Runs

/-! ## Surveys whose answers are independent -/

theorem independent_of_readsOnly {σ : Type} [MonadWorkspace (StateM σ)]
    {survey : Survey (StateM σ)} (h : ∀ path, ReadsOnly (survey.analyzeFile path)) (w : σ) :
    survey.Independent w := by
  intro earlier path
  have hafter : survey.after w earlier = w := by
    induction earlier with
    | nil => rfl
    | cons first earlier ih => rw [after, List.foldl_cons, h first w]; exact ih
  rw [hafter]

/-- **A survey with a provider of fixed answers that runs no tool** has independent answers. -/
theorem independent_ofAnalyzer (analyzer : Analyzer) {measurement : Option Measurement}
    (htool : ∀ m, measurement = some m → m.runTool = false) (w : MemoryWorkspace) :
    (ofAnalyzer analyzer measurement : Survey (StateM MemoryWorkspace)).Independent w :=
  independent_of_readsOnly (readsOnly_analyzeFile (fun _ => .pure _) htool) w

/-- A workspace with two sources, a directory and a measured cost. -/
def mixedWorkspace : MemoryWorkspace :=
  MemoryWorkspace.plant ⟨.empty, [], [], [], none, 0, "T"⟩ []
    [("a.sol", Text.encode "contract A \x7b function f() public \x7b\x7d \x7d".toList),
     ("b.sol", Text.encode "no declaration".toList),
     ("d/", []),
     ("foundry.toml", []),
     (".gas-snapshot", Text.encode "ATest:test_f() (gas: 45000)".toList)]

/-- A survey that takes costs from a stored report. -/
def storedSurvey : Survey (StateM MemoryWorkspace) :=
  ofAnalyzer (.ofConfiguration .standard) (some ⟨.foundry, "/", false⟩)

/-- Paths of both kinds, one of them twice. -/
def mixedPaths : List String := ["a.sol", "missing.sol", "b.sol", "d", "a.sol"]

theorem analyzeFiles_partitions_mixed :
    storedSurvey.Independent mixedWorkspace ∧
      mixedPaths ≠ [] ∧ mixedPaths.Perm mixedPaths.reverse ∧
      Batch.Partitions mixedPaths (storedSurvey.answer mixedWorkspace)
        ((storedSurvey.analyzeFiles mixedPaths).run mixedWorkspace).1 ∧
      ((storedSurvey.analyzeFiles mixedPaths).run mixedWorkspace).1.contracts.map (·.file) =
        ["a.sol", "b.sol", "a.sol"] ∧
      ((storedSurvey.analyzeFiles mixedPaths).run mixedWorkspace).1.failures =
        [⟨"missing.sol", "File not found: missing.sol"⟩,
         ⟨"d", "Failed to read d: Is a directory (os error 21)"⟩] ∧
      ((storedSurvey.analyzeFiles mixedPaths).run mixedWorkspace).1.summary =
        ((storedSurvey.analyzeFiles mixedPaths.reverse).run mixedWorkspace).1.summary ∧
      CommandResult.ofBatch ((storedSurvey.analyzeFiles mixedPaths).run mixedWorkspace).1 =
        .succeeded := by
  have hindependent : storedSurvey.Independent mixedWorkspace :=
    independent_ofAnalyzer _ (fun m hm => by rw [← Option.some.inj hm]) mixedWorkspace
  have hne : mixedPaths ≠ [] := by decide
  have hreverse : mixedPaths.Perm mixedPaths.reverse := (List.reverse_perm mixedPaths).symm
  have hfiles : ((storedSurvey.analyzeFiles mixedPaths).run mixedWorkspace).1.contracts.map
      (·.file) = ["a.sol", "b.sol", "a.sol"] := by
    decide +kernel
  have hcontracts : ((storedSurvey.analyzeFiles mixedPaths).run mixedWorkspace).1.contracts ≠ [] :=
    fun h => by rw [h] at hfiles; cases hfiles
  obtain ⟨hpartitions, -, hperm, hend⟩ := analyzeFiles_partitions hindependent mixedPaths
  obtain ⟨-, -, hsummary⟩ := hperm _ hreverse
  have hsucceeded := hend hne
  rw [if_neg hcontracts] at hsucceeded
  exact ⟨hindependent, hne, hreverse, hpartitions, hfiles, by decide +kernel, hsummary, hsucceeded⟩

end Survey

end GasAdvisor
