import GasAdvisor.Proofs.Json.Record
import GasAdvisor.Render.View

/-!
# Reports in JSON lose nothing

The text of a batch in JSON holds the batch (`View.parse?_render`): reading the text and decoding the
value gives the batch back, with every keyword, every string and what is absent. The numbers of the
batch have to fit their types (`Batch.Sized`), and its confidences have to be finite. What their texts
are read as is a matter of rounding; that it is the same number is assumed of each.

Every record survives because its fields do. The fields of an analysed function stand among those of its
function, and are found there by their names. A suggestion without a rule has no field for it.
-/

namespace GasAdvisor

open Json

/-! ## Keywords -/

theorem Visibility.survives {isBlank : Json → Bool} (v : Visibility) :
    Survives 0 toJson (ofJson? isBlank) v :=
  survives_keyword (by decide) (by cases v <;> decide)

theorem Mutability.survives {isBlank : Json → Bool} (m : Mutability) :
    Survives 0 toJson (ofJson? isBlank) m :=
  survives_keyword (by decide) (by cases m <;> decide)

theorem PatternKind.survives {isBlank : Json → Bool} (k : PatternKind) :
    Survives 0 toJson (ofJson? isBlank) k :=
  survives_keyword (by decide) (by cases k <;> decide)

theorem SuggestionKind.survives (k : SuggestionKind) : Survives 0 toJson ofJson? k :=
  survives_keyword (by decide) (by cases k <;> decide)

theorem Impact.survives (i : Impact) : Survives 0 toJson ofJson? i :=
  survives_keyword (by decide) (by cases i <;> decide)

theorem Origin.survives (o : Origin) : Survives 0 toJson ofJson? o :=
  survives_keyword (by decide) (by cases o <;> decide)

theorem GasRank.survives (r : GasRank) : Survives 0 toJson ofJson? r :=
  survives_keyword (by decide) (by cases r <;> decide)

theorem Framework.survives (f : Framework) : Survives 0 toJson ofJson? f :=
  survives_keyword (by decide) (by cases f <;> decide)

/-! ## Functions -/

theorem Parameter.survives (p : Parameter) : Survives 1 toJson ofJson? p where
  legible := by
    rw [toJson, Legible]
    simp
  decode_encode := by
    rw [ofJson?, toJson, fields_object]
    · simp
    · rfl
    · decide

/-- The numbers of a pattern have 64 bits. -/
@[mk_iff] structure Pattern.Sized (p : Pattern) : Prop where
  estimatedGas : p.estimatedGas < 2 ^ 64
  occurrences : p.occurrences < 2 ^ 64

instance (p : Pattern) : Decidable p.Sized :=
  decidable_of_iff' _ (Pattern.sized_iff p)

theorem Pattern.survives {isBlank : Json → Bool} {p : Pattern} (h : p.Sized) :
    Survives 1 toJson (ofJson? isBlank) p where
  legible := by
    rw [toJson, Legible]
    simp [PatternKind.toJson, legible_ofNat h.estimatedGas, legible_ofNat h.occurrences]
  decode_encode := by
    rw [ofJson?, toJson, fields_object]
    · simp [(PatternKind.survives p.kind).decode_encode, nat64?_ofNat h.estimatedGas,
        nat64?_ofNat h.occurrences]
    · rfl
    · decide

namespace Function

/-- The numbers of a function fit their types. -/
@[mk_iff] structure Sized (f : Function) : Prop where
  patterns : ∀ p ∈ f.patterns, p.Sized
  startLine : f.startLine < 2 ^ 64
  complexity : f.complexity < 2 ^ 32

instance (f : Function) : Decidable f.Sized :=
  decidable_of_iff' _ (sized_iff f)

variable {f : Function} {isBlank : Json → Bool}

theorem survives_parameters (f : Function) :
    Survives 2 (ofList Parameter.toJson) (list? Parameter.ofJson?) f.parameters :=
  .list fun p _ => p.survives

theorem survives_modifiers (f : Function) :
    Survives 1 (ofList .string) (list? string?) f.modifiers :=
  .list fun modifier _ => survives_string modifier

theorem survives_returns (f : Function) :
    Survives 0 (ofOption .string) (fun json => (Field.given json).optional string?) f.returns :=
  .option survives_string nofun

theorem survives_patterns (h : f.Sized) :
    Survives 2 (ofList Pattern.toJson) (list? (Pattern.ofJson? isBlank)) f.patterns :=
  .list fun p hp => Pattern.survives (h.patterns p hp)

theorem legible_toMembers (h : f.Sized) : ∀ member ∈ f.toMembers, Legible 2 member.2 := by
  have hcomplexity : f.complexity < 2 ^ 64 := lt_trans h.complexity (by decide)
  have hpatterns : Survives 2 (ofList Pattern.toJson) (list? (Pattern.ofJson? isNull)) f.patterns :=
    survives_patterns h
  simp [toMembers, Visibility.toJson, Mutability.toJson, legible_ofNat h.startLine,
    legible_ofNat hcomplexity, f.survives_parameters.legible,
    f.survives_returns.legible.mono (Nat.zero_le 2),
    f.survives_modifiers.legible.mono (show 1 ≤ 2 by decide),
    hpatterns.legible]

theorem ofFields?_toMembers (h : f.Sized) :
    ofFields? isBlank (f.toMembers.map fun member => .given member.2) = some f := by
  have hreturns := f.survives_returns.decode_encode
  simp [toMembers, ofFields?, (Visibility.survives f.visibility).decode_encode,
    (Mutability.survives f.mutability).decode_encode, f.survives_parameters.decode_encode,
    hreturns, f.survives_modifiers.decode_encode, (survives_patterns h).decode_encode,
    nat64?_ofNat h.startLine, nat32?_ofNat h.complexity]

end Function

/-! ## Suggestions -/

/-- A suggestion without a rule is read back from an object that has no field for it. -/
theorem Suggestion.survives {s : Suggestion} (hsaving : s.estimatedSaving < 2 ^ 64)
    (hconfidence : ReadsBack s.confidence) : Survives 1 toJson ofJson? s where
  legible := by
    have hdouble : Legible 0 (.double s.confidence) := hconfidence
    rw [toJson, Legible]
    cases s.rule <;>
      simp [SuggestionKind.toJson, Impact.toJson, Origin.toJson, hdouble, legible_ofNat hsaving]
  decode_encode := by
    obtain ⟨kind, message, confidence, impact, origin, estimatedSaving, rule⟩ := s
    cases rule with
    | none =>
      have hfields : fields fieldNames (.object
          [("type", kind.toJson), ("message", .string message), ("confidence", .double confidence),
            ("impact", impact.toJson), ("source", origin.toJson),
            ("estimated_saving", .ofNat estimatedSaving)]) = _ :=
        objectFields_concat_missing "rule" (by simp) (fun _ hmember => hmember) (by simp)
      rw [ofJson?, toJson, List.append_nil, hfields]
      simp [kind.survives.decode_encode, impact.survives.decode_encode,
        origin.survives.decode_encode, nat64?_ofNat hsaving, Field.optionalOrDefault]
    | some rule =>
      rw [ofJson?, toJson]
      simp only [List.cons_append, List.nil_append]
      rw [fields_object]
      · simp [kind.survives.decode_encode, impact.survives.decode_encode,
          origin.survives.decode_encode, nat64?_ofNat hsaving, Field.optionalOrDefault]
      · rfl
      · decide

/-! ## Analyses -/

namespace AnalyzedFunction

/-- The numbers of an analysed function fit their types. -/
@[mk_iff] structure Sized (f : AnalyzedFunction) : Prop where
  function : f.function.Sized
  gasUsage : f.gasUsage < 2 ^ 64
  suggestions : ∀ s ∈ f.suggestions, s.estimatedSaving < 2 ^ 64
  potentialSavings : f.potentialSavings < 2 ^ 64

instance (f : AnalyzedFunction) : Decidable f.Sized :=
  decidable_of_iff' _ (sized_iff f)

/-- The confidences of the suggestions. -/
def confidences (f : AnalyzedFunction) : List Float :=
  f.suggestions.map (·.confidence)

variable {f : AnalyzedFunction}

theorem survives_suggestions (h : f.Sized) (hconfidences : ∀ x ∈ f.confidences, ReadsBack x) :
    Survives 2 (ofList Suggestion.toJson) (list? Suggestion.ofJson?) f.suggestions :=
  .list fun s hs =>
    s.survives (h.suggestions s hs) (hconfidences s.confidence (List.mem_map_of_mem hs))

/-- The fields of an analysed function are found among those of its function. -/
theorem survives (h : f.Sized) (hconfidences : ∀ x ∈ f.confidences, ReadsBack x) :
    Survives 3 toJson ofJson? f where
  legible := by
    have hsuggestions := (survives_suggestions h hconfidences).legible
    rw [toJson, Legible, List.forall_mem_append]
    refine ⟨Function.legible_toMembers h.function, ?_⟩
    simp [toMembers, GasRank.toJson, legible_ofNat h.gasUsage, legible_ofNat h.potentialSavings,
      hsuggestions]
  decode_encode := by
    have hsuggestions := (survives_suggestions h hconfidences).decode_encode
    have hnames : ((f.function.toMembers ++ f.toMembers).map Prod.fst).Nodup := by
      change (Function.fieldNames ++ fieldNames).Nodup
      decide
    have hfunction : objectFields Function.fieldNames f.toJson =
        some (f.function.toMembers.map fun member => .given member.2) :=
      objectFields_of_mem hnames fun _ => List.mem_append_left _
    have hown : objectFields fieldNames f.toJson =
        some (f.toMembers.map fun member => .given member.2) :=
      objectFields_of_mem hnames fun _ => List.mem_append_right _
    rw [ofJson?, hfunction, hown]
    simp [toMembers, Function.ofFields?_toMembers h.function, f.gasRank.survives.decode_encode,
      nat64?_ofNat h.gasUsage, hsuggestions, nat64?_ofNat h.potentialSavings]

end AnalyzedFunction

theorem Diagnostic.survives (d : Diagnostic) : Survives 1 toJson ofJson? d where
  legible := by
    rw [toJson, Legible]
    simp
  decode_encode := by
    rw [ofJson?, toJson, fields_object]
    · simp
    · rfl
    · decide

/-- The framework is written as its keyword, or as null. -/
theorem Framework.survives_option (held : Option Framework) :
    Survives 0 (ofOption toJson) (fun json => (Field.given json).optional ofJson?) held :=
  .option survives nofun

namespace ContractAnalysis

/-- The numbers of an analysis fit their types. -/
@[mk_iff] structure Sized (a : ContractAnalysis) : Prop where
  functions : ∀ f ∈ a.functions, f.Sized
  totalLines : a.totalLines < 2 ^ 64
  totalGasUsage : a.totalGasUsage < 2 ^ 64
  totalPotentialSavings : a.totalPotentialSavings < 2 ^ 64

instance (a : ContractAnalysis) : Decidable a.Sized :=
  decidable_of_iff' _ (sized_iff a)

/-- The confidences of the suggestions. -/
def confidences (a : ContractAnalysis) : List Float :=
  a.functions.flatMap (·.confidences)

variable {a : ContractAnalysis}

theorem survives_functions (h : a.Sized) (hconfidences : ∀ x ∈ a.confidences, ReadsBack x) :
    Survives 4 (ofList AnalyzedFunction.toJson) (list? AnalyzedFunction.ofJson?) a.functions :=
  .list fun f hf => AnalyzedFunction.survives (h.functions f hf) fun x hx =>
    hconfidences x (List.mem_flatMap.2 ⟨f, hf, hx⟩)

theorem survives_diagnostics (a : ContractAnalysis) :
    Survives 2 (ofList Diagnostic.toJson) (list? Diagnostic.ofJson?) a.diagnostics :=
  .list fun d _ => d.survives

theorem survives_stateVariables (a : ContractAnalysis) :
    Survives 1 (ofList .string) (list? string?) a.stateVariables :=
  .list fun name _ => survives_string name

theorem survives (h : a.Sized) (hconfidences : ∀ x ∈ a.confidences, ReadsBack x) :
    Survives 5 toJson ofJson? a where
  legible := by
    rw [toJson, Legible]
    simp [(survives_functions h hconfidences).legible,
      a.survives_stateVariables.legible.mono (show 1 ≤ 4 by decide), legible_ofNat h.totalLines,
      legible_ofNat h.totalGasUsage, legible_ofNat h.totalPotentialSavings,
      (Framework.survives_option a.framework).legible.mono (Nat.zero_le 4),
      a.survives_diagnostics.legible.mono (show 2 ≤ 4 by decide)]
  decode_encode := by
    have hframework := (Framework.survives_option a.framework).decode_encode
    rw [ofJson?, toJson, fields_object]
    · simp [(survives_functions h hconfidences).decode_encode,
        a.survives_stateVariables.decode_encode, nat64?_ofNat h.totalLines,
        nat64?_ofNat h.totalGasUsage, nat64?_ofNat h.totalPotentialSavings, hframework,
        a.survives_diagnostics.decode_encode]
    · rfl
    · decide

end ContractAnalysis

/-! ## Batches -/

theorem Failure.survives (f : Failure) : Survives 1 toJson ofJson? f where
  legible := by
    rw [toJson, Legible]
    simp
  decode_encode := by
    rw [ofJson?, toJson, fields_object]
    · simp
    · rfl
    · decide

/-- The figures of a summary have 64 bits. -/
@[mk_iff] structure Summary.Sized (s : Summary) : Prop where
  totalContracts : s.totalContracts < 2 ^ 64
  totalFunctions : s.totalFunctions < 2 ^ 64
  totalGasUsage : s.totalGasUsage < 2 ^ 64
  totalPotentialSavings : s.totalPotentialSavings < 2 ^ 64
  contractsWithGasData : s.contractsWithGasData < 2 ^ 64
  gasDataCoverage : s.gasDataCoverage < 2 ^ 64
  averageGasPerFunction : s.averageGasPerFunction < 2 ^ 64
  potentialSavingsPercentage : s.potentialSavingsPercentage < 2 ^ 64

instance (s : Summary) : Decidable s.Sized :=
  decidable_of_iff' _ (Summary.sized_iff s)

theorem Summary.survives {s : Summary} (h : s.Sized) : Survives 1 toJson ofJson? s where
  legible := by
    rw [toJson, Legible]
    simp [legible_ofNat h.totalContracts, legible_ofNat h.totalFunctions,
      legible_ofNat h.totalGasUsage, legible_ofNat h.totalPotentialSavings,
      legible_ofNat h.contractsWithGasData, legible_ofNat h.gasDataCoverage,
      legible_ofNat h.averageGasPerFunction, legible_ofNat h.potentialSavingsPercentage]
  decode_encode := by
    rw [ofJson?, toJson, fields_object]
    · simp [nat64?_ofNat h.totalContracts, nat64?_ofNat h.totalFunctions,
        nat64?_ofNat h.totalGasUsage, nat64?_ofNat h.totalPotentialSavings,
        nat64?_ofNat h.contractsWithGasData, nat64?_ofNat h.gasDataCoverage,
        nat64?_ofNat h.averageGasPerFunction, nat64?_ofNat h.potentialSavingsPercentage]
    · rfl
    · decide

namespace Batch

/-- The numbers of a batch fit their types. -/
@[mk_iff] structure Sized (b : Batch) : Prop where
  contracts : ∀ a ∈ b.contracts, a.Sized
  summary : b.summary.Sized

instance (b : Batch) : Decidable b.Sized :=
  decidable_of_iff' _ (sized_iff b)

/-- The confidences of all suggestions. -/
def confidences (b : Batch) : List Float :=
  b.contracts.flatMap (·.confidences)

variable {b : Batch}

theorem survives_contracts (h : b.Sized) (hconfidences : ∀ x ∈ b.confidences, ReadsBack x) :
    Survives 6 (ofList ContractAnalysis.toJson) (list? ContractAnalysis.ofJson?) b.contracts :=
  .list fun a ha => ContractAnalysis.survives (h.contracts a ha) fun x hx =>
    hconfidences x (List.mem_flatMap.2 ⟨a, ha, hx⟩)

theorem survives_failures (b : Batch) :
    Survives 2 (ofList Failure.toJson) (list? Failure.ofJson?) b.failures :=
  .list fun f _ => f.survives

theorem survives (h : b.Sized) (hconfidences : ∀ x ∈ b.confidences, ReadsBack x) :
    Survives 7 toJson ofJson? b where
  legible := by
    rw [toJson, Legible]
    simp [(survives_contracts h hconfidences).legible,
      b.survives_failures.legible.mono (show 2 ≤ 6 by decide),
      (Summary.survives h.summary).legible.mono (show 1 ≤ 6 by decide),
      (Framework.survives_option b.framework).legible.mono (Nat.zero_le 6)]
  decode_encode := by
    have hframework := (Framework.survives_option b.framework).decode_encode
    rw [ofJson?, toJson, fields_object]
    · simp [(survives_contracts h hconfidences).decode_encode,
        b.survives_failures.decode_encode, (Summary.survives h.summary).decode_encode, hframework]
    · rfl
    · decide

end Batch

namespace View

/-- **A report in JSON holds the batch.** Whatever the look, the text of either view in JSON is read as a
value from which the decoder makes the same batch, if the numbers of the batch fit their types and its
confidences are finite numbers that are read back from their texts. -/
theorem parse?_render {view : View} (hview : view = .json ∨ view = .jsonReport) (look : Look)
    (modelEnabled : Bool) {batch : Batch} (hsized : batch.Sized)
    (hfinite : ∀ x ∈ batch.confidences, x.isFinite = true)
    (hrounds : ∀ x ∈ batch.confidences, x.isFinite = true → ReadsBack x) :
    (parse? (render look modelEnabled batch view).toList).bind Batch.ofJson? = some batch := by
  have hconfidences : ∀ x ∈ batch.confidences, ReadsBack x := fun x hx =>
    hrounds x hx (hfinite x hx)
  have hbatch := Batch.survives hsized hconfidences
  have htext : render look modelEnabled batch view = batchJson batch := by
    rcases hview with rfl | rfl <;> rfl
  have hlegible : Legible maxDepth batch.toJson := hbatch.legible.mono (by decide)
  rw [htext, batchJson, String.toList_ofList, parse?_pretty hlegible, Option.bind_some,
    hbatch.decode_encode]

/-- A batch with a suggestion of a rule and one of a model, a failure, and characters that are
escaped. -/
def escapedBatch : Batch where
  contracts := [{
    name := "Bank"
    file := "src\\Bank.sol"
    functions := [{
      function := {
        name := "pay"
        visibility := .external
        mutability := .payable
        parameters := [⟨"uint256", "amount"⟩]
        returns := some "bool"
        modifiers := ["only(owner)"]
        patterns := [⟨.storageWrite, "Writes", 40000, "Cache it", 2⟩]
        sourceCode := "function pay(uint256 amount) \x7b\n\tx = \"é\";\n\x7d"
        startLine := 7
        complexity := 3 }
      gasUsage := 52000
      gasRank := .medium
      hasGasData := true
      suggestions :=
        [⟨.storage, "Pack them", 0.95, .high, .static, 20000, some "storage-packing"⟩,
         ⟨.aiGenerated, "Try \"this\"", 0.5, .low, .llm, 0, none⟩]
      potentialSavings := 20000 }]
    stateVariables := ["x"]
    totalLines := 12
    totalGasUsage := 52000
    totalPotentialSavings := 20000
    gasDataAvailable := true
    framework := some .foundry
    diagnostics := [⟨"llm", "no\r\x07answer"⟩] }]
  failures := [⟨"Lost.sol", "not found"⟩]
  summary := ⟨1, 1, 52000, 20000, 1, 100, 52000, 38⟩
  framework := none
  timestamp := "2024-01-01T00:00:00+00:00"

theorem parse?_render_escapedBatch :
    escapedBatch.Sized ∧ (∀ x ∈ escapedBatch.confidences, x.isFinite = true ∧ ReadsBack x) ∧
      (parse? (render .boxed true escapedBatch .json).toList).bind Batch.ofJson? =
        some escapedBatch := by
  have hsized : escapedBatch.Sized := by decide
  have hconfidences : ∀ x ∈ escapedBatch.confidences, x.isFinite = true ∧ ReadsBack x := by
    decide +kernel
  exact ⟨hsized, hconfidences, parse?_render (.inl rfl) .boxed true hsized
    (fun x hx => (hconfidences x hx).1) fun x hx _ => (hconfidences x hx).2⟩

end View

end GasAdvisor
