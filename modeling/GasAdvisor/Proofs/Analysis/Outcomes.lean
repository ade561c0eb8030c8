import GasAdvisor.Analysis.Source
import GasAdvisor.Proofs.Suggestion.Incremental
import Mathlib.Data.List.Forall2

/-!
# What a provider changes in an analysis

The functions of a contract are asked about one after the other, and what comes of each question is
paired with its function by position. So an analysis is one entry for each function
(`Analyzer.functions_analyzeReplied`), told from that function and the reply to its question alone.

* A provider is asked once about each function; where it fails, the function has the findings of the
  rules and is reported, and nothing else changes (`Analyzer.provider_failures_isolated`). What is reported
  tells the error (`Analyzer.providerFailed_inj`).
* The suggestions of a model never displace those of the rules
  (`Analyzer.static_suggestions_undisplaced`).
-/

namespace GasAdvisor

/-- Functions and suggestions told from the same items are attached item by item. -/
theorem attach_map {ι : Type} (costs : Costs) (items : List ι) (f : ι → Function)
    (r : ι → List Suggestion) :
    attach costs (items.map f) (items.map r) =
      items.map fun x => .of (f x) (costs.ofFunction (f x).name) (r x) := by
  induction items with
  | nil => rfl
  | cons x items ih =>
    rw [List.map_cons, List.map_cons, attach, List.head?_cons, List.tail_cons, ih]
    rfl

/-- Where a function on a list gives something, and what it gives there. -/
theorem forall₂_filter_filterMap {α β : Type} (g : α → Option β) (l : List α) :
    List.Forall₂ (fun x y => x ∈ l ∧ g x = some y) (l.filter fun x => (g x).isSome)
      (l.filterMap g) := by
  induction l with
  | nil => exact List.Forall₂.nil
  | cons x l ih =>
    have hmore := ih.imp fun y z h => (⟨List.mem_cons_of_mem x h.1, h.2⟩ : y ∈ x :: l ∧ g y = some z)
    cases hx : g x with
    | none => simpa [hx] using hmore
    | some z =>
      rw [List.filterMap_cons_some hx, List.filter_cons_of_pos (by simp [hx])]
      exact .cons ⟨List.mem_cons_self, hx⟩ hmore

namespace Rule

/-- The rules make suggestions of their own only. -/
theorem origin_of_mem_findings {settings : RuleSettings} {f : Function} {s : Suggestion}
    (h : s ∈ findings settings f) : s.origin = .static := by
  obtain ⟨rule, -, rfl⟩ := List.mem_map.1 h
  rfl

end Rule

/-! ## Errors -/

namespace ProviderError

theorem takeWhile_digits (n : Nat) (rest : List Char) :
    ((toString n).toList ++ ')' :: rest).takeWhile Char.isDigit = (toString n).toList := by
  have hdigits : ∀ c ∈ (toString n).toList, c.isDigit = true := fun c hc =>
    Nat.isDigit_of_mem_toDigits (by decide : 0 < 10) (by decide) (by simpa using hc)
  rw [List.takeWhile_append_of_pos hdigits, List.takeWhile_cons_of_neg (by decide), List.append_nil]

/-- A number ends at the parenthesis. -/
theorem parenthesized_inj {m n : Nat} {s t : String}
    (h : toString m ++ ("): " ++ s) = toString n ++ ("): " ++ t)) : m = n ∧ s = t := by
  have htail : "): ".toList = ')' :: ": ".toList := by decide
  have hchars := congrArg String.toList h
  simp only [String.toList_append, htail, List.cons_append] at hchars
  have hdigits := congrArg (List.takeWhile Char.isDigit) hchars
  rw [takeWhile_digits, takeWhile_digits] at hdigits
  obtain rfl : m = n := Nat.repr_injective (String.toList_inj.1 hdigits)
  rw [String.append_right_inj, String.append_right_inj] at h
  exact ⟨rfl, h⟩

/-- **An error can be told from its text.** -/
theorem message_inj {e e' : ProviderError} : e.message = e'.message ↔ e = e' := by
  refine ⟨fun h => ?_, congrArg message⟩
  unfold message at h
  cases e <;> cases e'
  case api.api =>
    simp only [String.append_assoc, String.append_right_inj] at h
    obtain ⟨rfl, rfl⟩ := parenthesized_inj h
    rfl
  case timeout.timeout => simpa using h
  case invalidResponse.invalidResponse => simpa using h
  case network.network => simpa using h
  case unavailable.unavailable => simpa using h
  -- the texts of different kinds of errors differ in what they start with
  all_goals simp [← String.toList_inj] at h

end ProviderError

namespace Analyzer

/-- **The diagnostic on a function tells what failed.** -/
theorem providerFailed_inj {f : Function} {e e' : ProviderError} :
    providerFailed f e = providerFailed f e' ↔ e = e' := by
  rw [providerFailed, providerFailed, Diagnostic.mk.injEq, String.append_right_inj,
    ProviderError.message_inj]
  exact and_iff_right rfl

variable {ι : Type} (analyzer : Analyzer)

/-! ## Entries -/

/-- What an analysis says of a function, given what the provider said. -/
def entry (costs : Costs) (f : Function) (outcome : Outcome) : AnalyzedFunction :=
  .of f (costs.ofFunction f.name) (analyzer.ranked f outcome)

/-- The diagnostic on a function, if the provider failed. -/
def report? (f : Function) : Outcome → Option Diagnostic
  | .ok _ => none
  | .error e => some (providerFailed f e)

theorem report?_eq_some_iff {f : Function} {outcome : Outcome} {report : Diagnostic} :
    report? f outcome = some report ↔
      ∃ e, outcome = .error e ∧ report = ⟨"llm", f.name ++ ": " ++ e.message⟩ := by
  cases outcome with
  | ok suggestions => simp [report?]
  | error e =>
    rw [report?, Option.some.injEq, eq_comm]
    simp [providerFailed]

theorem isSome_report?_iff {f : Function} {outcome : Outcome} :
    (report? f outcome).isSome = true ↔ ∃ e, outcome = .error e := by
  cases outcome <;> simp [report?]

/-- One report on each function for which a provider failed, in the order of the functions. -/
def ReportsFailures (fs : List Function) (outcome : Nat → Outcome) (reports : List Diagnostic) :
    Prop :=
  ∃ failed : List Nat, failed.Pairwise (· < ·) ∧
    (∀ i, i ∈ failed ↔ i < fs.length ∧ ∃ e, outcome i = .error e) ∧
    List.Forall₂ (fun i report => ∃ f e, fs[i]? = some f ∧ outcome i = .error e ∧
      report = ⟨"llm", f.name ++ ": " ++ e.message⟩) failed reports

theorem reportsFailures_filterMap (fs : List Function) (outcome : Nat → Outcome) :
    ReportsFailures fs outcome (fs.zipIdx.filterMap fun p => report? p.1 (outcome p.2)) := by
  have hplaces : fs.zipIdx.Pairwise fun p q => p.2 < q.2 := by
    rw [← List.pairwise_map, List.zipIdx_map_snd]
    exact List.pairwise_lt_range' 1
  refine ⟨(fs.zipIdx.filter fun p => (report? p.1 (outcome p.2)).isSome).map Prod.snd,
    List.pairwise_map.2 (hplaces.filter _), fun i => ?_, ?_⟩
  · simp only [List.mem_map, List.mem_filter, isSome_report?_iff]
    constructor
    · rintro ⟨⟨f, j⟩, ⟨hmem, herror⟩, rfl⟩
      exact ⟨(List.getElem?_eq_some_iff.1 (List.mem_zipIdx_iff_getElem?.1 hmem)).1, herror⟩
    · rintro ⟨hi, herror⟩
      exact ⟨(_, i), ⟨List.mem_zipIdx_iff_getElem?.2 (List.getElem?_eq_getElem hi), herror⟩, rfl⟩
  · refine List.forall₂_map_left_iff.2 ((forall₂_filter_filterMap _ fs.zipIdx).imp ?_)
    rintro ⟨f, i⟩ report ⟨hmem, hreport⟩
    obtain ⟨e, herror, rfl⟩ := report?_eq_some_iff.1 hreport
    exact ⟨f, e, List.mem_zipIdx_iff_getElem?.1 hmem, herror, rfl⟩

/-- **Outcomes are paired with functions by position**: one entry for each function. -/
theorem functions_analysisOf {contract : Contract} {items : List ι} {f : ι → Function}
    (h : contract.functions = items.map f) (outcome : ι → Outcome) (file : String) (costs : Costs) :
    (analyzer.analysisOf contract (items.map outcome) file costs).functions =
      items.map fun x => analyzer.entry costs (f x) (outcome x) := by
  show attach costs contract.functions ((contract.functions.zip (items.map outcome)).map _) = _
  rw [h, List.zip_map', List.map_map]
  exact attach_map costs items f _

/-- A failure is reported with its function. -/
theorem diagnostics_analysisOf {contract : Contract} {items : List ι} {f : ι → Function}
    (h : contract.functions = items.map f) (outcome : ι → Outcome) (file : String) (costs : Costs) :
    (analyzer.analysisOf contract (items.map outcome) file costs).diagnostics =
      (if contract.isInvalid then [noDeclaration] else []) ++
        items.filterMap fun x => report? (f x) (outcome x) := by
  show diagnostics contract (items.map outcome) = _
  rw [diagnostics, h, List.zip_map', List.filterMap_map]
  rfl

/-- With a provider that answers from a table, the outcome of each question is known beforehand. -/
theorem analyze_eq (source file : String) (costs : Costs) :
    analyzer.analyze source file costs =
      analyzer.analysisOf (Contract.read analyzer.scanning source)
        ((Contract.read analyzer.scanning source).functions.map analyzer.outcome) file costs := by
  rw [analyze, analyzeAsking, List.mapM_pure]
  rfl

/-- Without a provider every function has the findings of the rules. -/
theorem functions_analyze_none (source file : String) (costs : Costs) :
    ((analyzer.withProvider none).analyze source file costs).functions =
      (Contract.read analyzer.scanning source).functions.map fun f =>
        analyzer.entry costs f (.ok []) := by
  rw [analyze_eq]
  exact functions_analysisOf (analyzer.withProvider none) (List.map_id _).symm _ file costs

/-! ## Replies in a row -/

/-- What comes of asking a provider that gives one reply after the other and keeps a record of the
functions that it was asked about. -/
def askRecorded (replies : Nat → Reply) (f : Function) : StateM (List Function) Outcome :=
  modifyGet fun asked => ((replies asked.length).within analyzer.patience, asked ++ [f])

/-- The analysis of a source text with a provider that gives one reply after the other, and the
functions that it was asked about. -/
def analyzeReplied (replies : Nat → Reply) (source file : String) (costs : Costs) :
    ContractAnalysis × List Function :=
  (analyzer.analyzeAsking (analyzer.askRecorded replies) source file costs).run []

/-- **Each question has its reply.** What carries the record over is that the next reply is counted by
the questions before. -/
theorem run_mapM_askRecorded (replies : Nat → Reply) (fs asked : List Function) :
    (fs.mapM (analyzer.askRecorded replies)).run asked =
      ((fs.zipIdx asked.length).map fun p => (replies p.2).within analyzer.patience,
        asked ++ fs) := by
  induction fs generalizing asked with
  | nil => rw [List.append_nil]; rfl
  | cons f fs ih =>
    have hf : (analyzer.askRecorded replies f).run asked =
        ((replies asked.length).within analyzer.patience, asked ++ [f]) := rfl
    have hmore := ih (asked ++ [f])
    rw [List.length_append, List.length_singleton, List.append_assoc] at hmore
    rw [List.mapM_cons, StateT.run_bind, hf]
    show (do let (outcomes, asked) ← (fs.mapM (analyzer.askRecorded replies)).run (asked ++ [f])
             pure (_ :: outcomes, asked) : Id _) = _
    rw [hmore]
    rfl

variable (replies : Nat → Reply) (source file : String) (costs : Costs)

theorem analyzeReplied_eq :
    analyzer.analyzeReplied replies source file costs =
      (analyzer.analysisOf (Contract.read analyzer.scanning source)
        ((Contract.read analyzer.scanning source).functions.zipIdx.map fun p =>
          (replies p.2).within analyzer.patience) file costs,
        (Contract.read analyzer.scanning source).functions) := by
  have hrun := analyzer.run_mapM_askRecorded replies
    (Contract.read analyzer.scanning source).functions []
  rw [analyzeReplied, analyzeAsking, StateT.run_bind, hrun]
  rfl

/-- **One entry for each function**, told from the function and the reply to its question. -/
theorem functions_analyzeReplied :
    (analyzer.analyzeReplied replies source file costs).1.functions =
      (Contract.read analyzer.scanning source).functions.zipIdx.map fun p =>
        analyzer.entry costs p.1 ((replies p.2).within analyzer.patience) := by
  rw [analyzeReplied_eq]
  exact analyzer.functions_analysisOf (List.zipIdx_map_fst 0 _).symm _ file costs

theorem getElem?_functions_analyzeReplied (i : Nat) :
    (analyzer.analyzeReplied replies source file costs).1.functions[i]? =
      (Contract.read analyzer.scanning source).functions[i]?.map fun f =>
        analyzer.entry costs f ((replies i).within analyzer.patience) := by
  rw [functions_analyzeReplied, List.getElem?_map, List.getElem?_zipIdx, Option.map_map]
  simp [Function.comp_def]

/-- The diagnostics are that on a source without declarations and then the reports on failures. -/
theorem diagnostics_analyzeReplied :
    (analyzer.analyzeReplied replies source file costs).1.diagnostics =
      (if (Contract.read analyzer.scanning source).isInvalid then [noDeclaration] else []) ++
        (Contract.read analyzer.scanning source).functions.zipIdx.filterMap fun p =>
          report? p.1 ((replies p.2).within analyzer.patience) := by
  rw [analyzeReplied_eq]
  exact analyzer.diagnostics_analysisOf (List.zipIdx_map_fst 0 _).symm _ file costs

/-- **A provider that answers from a table** replies to the question about each function with what the
table holds for it. -/
theorem analyze_eq_analyzeReplied {provider : Provider} (h : analyzer.provider = some provider) :
    analyzer.analyze source file costs =
      (analyzer.analyzeReplied (fun i =>
        match (Contract.read analyzer.scanning source).functions[i]? with
        | some f => ⟨provider.delay f.name f.sourceCode, provider.answer f.name f.sourceCode⟩
        | none => ⟨0, .ok []⟩) source file costs).1 := by
  rw [analyze_eq, analyzeReplied_eq]
  congr 1
  conv_lhs => rw [← List.zipIdx_map_fst 0 (Contract.read analyzer.scanning source).functions]
  rw [List.map_map]
  refine List.map_congr_left fun p hp => ?_
  rw [List.mem_zipIdx_iff_getElem?.1 hp, Function.comp_apply, outcome, h]
  rfl

/-! ## Failures -/

/-- **Failures of a provider are isolated.** The provider is asked once about each function, and there
is one entry for each function in order. A function for which it fails has the findings of the rules,
as it has without a provider. Another reply to one question changes the entry of no other function. The
diagnostics are that on a source without declarations and then one on each failure, in the order of the
functions. -/
theorem provider_failures_isolated :
    (analyzer.analyzeReplied replies source file costs).2 =
      (Contract.read analyzer.scanning source).functions ∧
    (analyzer.analyzeReplied replies source file costs).1.functions.map (·.function) =
      (Contract.read analyzer.scanning source).functions ∧
    (∀ i f e, (Contract.read analyzer.scanning source).functions[i]? = some f →
      (replies i).within analyzer.patience = .error e →
      (analyzer.analyzeReplied replies source file costs).1.functions[i]? =
          ((analyzer.withProvider none).analyze source file costs).functions[i]? ∧
        (analyzer.analyzeReplied replies source file costs).1.functions[i]?.map (·.suggestions) =
          some (Suggestion.merge analyzer.similarityThreshold
            [Rule.findings analyzer.rules f])) ∧
    (∀ i reply j, j ≠ i →
      (analyzer.analyzeReplied (fun k => if k = i then reply else replies k)
          source file costs).1.functions[j]? =
        (analyzer.analyzeReplied replies source file costs).1.functions[j]?) ∧
    ∃ reports, ReportsFailures (Contract.read analyzer.scanning source).functions
        (fun i => (replies i).within analyzer.patience) reports ∧
      (analyzer.analyzeReplied replies source file costs).1.diagnostics =
        (if (Contract.read analyzer.scanning source).isInvalid then [noDeclaration] else []) ++
          reports := by
  refine ⟨?_, ?_, fun i f e hf he => ⟨?_, ?_⟩, fun i reply j hj => ?_,
    _, reportsFailures_filterMap _ _, analyzer.diagnostics_analyzeReplied replies source file costs⟩
  · rw [analyzeReplied_eq]
  · rw [functions_analyzeReplied, List.map_map]
    exact List.zipIdx_map_fst 0 _
  · rw [functions_analyze_none, List.getElem?_map, getElem?_functions_analyzeReplied, he]
    rfl
  · rw [getElem?_functions_analyzeReplied, he, hf]
    rfl
  · rw [getElem?_functions_analyzeReplied, getElem?_functions_analyzeReplied, if_neg hj]

/-! ## Suggestions of a model -/

/-- **A model does not displace findings of the rules.** -/
theorem filter_static_ranked {f : Function} {outcome : Outcome}
    (h : ∀ suggestions, outcome = .ok suggestions → ∀ s ∈ suggestions, s.origin = .llm) :
    (analyzer.ranked f outcome).filter (·.origin = .static) = analyzer.ranked f (.ok []) := by
  have hfindings : ∀ s ∈ Rule.findings analyzer.rules f, decide (s.origin = .static) = true :=
    fun s hs => by simp [Rule.origin_of_mem_findings hs]
  cases outcome with
  | ok suggestions =>
    exact Suggestion.filter_merge hfindings fun s hs => by simp [h suggestions rfl s hs]
  | error e => exact Suggestion.filter_merge hfindings (by simp)

/-- What a provider says is what one of its answers says, or nothing. -/
theorem origin_of_within {reply : Reply} {patience : Nat}
    (h : ∀ suggestions, reply.answer = .ok suggestions → ∀ s ∈ suggestions, s.origin = .llm) :
    ∀ suggestions, reply.within patience = .ok suggestions →
      ∀ s ∈ suggestions, s.origin = .llm := by
  intro suggestions hwithin
  rw [Reply.within] at hwithin
  split at hwithin
  · exact h suggestions hwithin
  · cases hwithin

/-- **Suggestions of a model never displace those of the rules.** Whatever a provider replies, late or
failed replies included, the static suggestions of each function are, in their order, all that the
function has without a provider. -/
theorem static_suggestions_undisplaced
    (hllm : ∀ i suggestions, (replies i).answer = .ok suggestions →
      ∀ s ∈ suggestions, s.origin = .llm) :
    ((analyzer.analyzeReplied replies source file costs).1.functions.map fun f =>
        (f.function, f.suggestions.filter (·.origin = .static))) =
      ((analyzer.withProvider none).analyze source file costs).functions.map fun f =>
        (f.function, f.suggestions) := by
  have hentry (f : Function) (i : Nat) :
      (analyzer.ranked f ((replies i).within analyzer.patience)).filter (·.origin = .static) =
        analyzer.ranked f (.ok []) :=
    analyzer.filter_static_ranked (origin_of_within (hllm i))
  rw [functions_analyzeReplied, functions_analyze_none, List.map_map, List.map_map]
  conv_rhs => rw [← List.zipIdx_map_fst 0 (Contract.read analyzer.scanning source).functions]
  rw [List.map_map]
  refine List.map_congr_left fun p _ => ?_
  exact congrArg (p.1, ·) (hentry p.1 p.2)

/-- A source with three functions, all of which write. -/
def writersSource : String :=
  "contract C \x7b uint256 v; function f(uint256 a) public \x7b v = a; \x7d " ++
    "function g() public \x7b v = 1; \x7d function h() public \x7b v = 2; \x7d \x7d"

/-- An answer, a failure, and answers that come too late. -/
def mixedReplies : Nat → Reply
  | 0 => ⟨5, .ok [.generated "Skip writes that leave the stored value as it is." 0.9 .high]⟩
  | 1 => ⟨5, .error (.unavailable "no quota")⟩
  | _ => ⟨60000, .ok Provider.cannedDefault⟩

theorem static_suggestions_undisplaced_mixed :
    (Contract.read .text writersSource).functions.length = 3 ∧
      (∀ i suggestions, (mixedReplies i).answer = .ok suggestions →
        ∀ s ∈ suggestions, s.origin = .llm) ∧
      (((ofConfiguration .standard).analyzeReplied mixedReplies writersSource "C.sol"
          .empty).1.functions.map fun f => (f.function, f.suggestions.filter (·.origin = .static))) =
        (((ofConfiguration .standard).withProvider none).analyze writersSource "C.sol"
          .empty).functions.map fun f => (f.function, f.suggestions) := by
  have hllm : ∀ i suggestions, (mixedReplies i).answer = .ok suggestions →
      ∀ s ∈ suggestions, s.origin = .llm := by
    intro i suggestions h s hs
    match i, h with
    | 0, h =>
      obtain rfl := Except.ok.inj h
      rw [List.mem_singleton.1 hs]
      rfl
    | i + 2, h =>
      obtain rfl := Except.ok.inj h
      rw [List.mem_singleton.1 hs]
      rfl
  exact ⟨by decide +kernel, hllm,
    static_suggestions_undisplaced (ofConfiguration .standard) mixedReplies writersSource "C.sol" .empty
      hllm⟩

end Analyzer

end GasAdvisor
