import GasAdvisor.Proofs.Render.Marks
import GasAdvisor.Render.View

/-!
# Views without their looks

The views for the terminal say the same in every look. Each part of a document adds the texts of the batch
that it shows, and a table adds its rules, so deleting the escape sequences of a view leaves the plain
view; and for a table so it is once the box characters of its rules are written in ASCII
(`map_asciiRule_tableLines`).
-/

namespace GasAdvisor

namespace Terminal

variable (mark : Mark)

/-! ## Documents -/

@[simp] theorem lacks_blankLine {c : Char} : blankLine.Lacks c :=
  Line.lacks_nil

@[simp] theorem lacks_styledLine {style : Style} {text : String} {c : Char} :
    (styledLine style text).Lacks c ↔ Lacks c text := by
  simp [styledLine]

@[simp] theorem lacks_bareLine {text : String} {c : Char} :
    (bareLine text).Lacks c ↔ Lacks c text := by
  simp [bareLine]

/-- The lines on the figures of a batch are texts of the program. -/
theorem lacks_summaryLines (summary : Summary) (framework : Option Framework) :
    (summaryLines summary framework).Lacks mark.char := by
  simp (disch := decide) [summaryLines, Mark.lacks_of_absent]

/-- The lines on a function in a list add its name. -/
theorem lacks_functionLines {f : AnalyzedFunction} (h : Lacks mark.char f.function.name) :
    (functionLines f).Lacks mark.char := by
  simp (disch := decide) [functionLines, Mark.lacks_of_absent, h]

/-- The lines on a contract before those on its functions. -/
def contractHead (contract : ContractAnalysis) : Document :=
  [blankLine,
   styledLine .boldCyan ("📄 Contract: " ++ contract.name),
   styledLine .dimmed
    ("Functions: " ++ number contract.functions.length ++ " | Lines: " ++
      number contract.totalLines)] ++
  (if contract.gasDataAvailable then
    [styledLine .green "✅ Real gas data available",
     styledLine .dimmed ("Total gas usage: " ++ grouped contract.totalGasUsage)] ++
    (if 0 < contract.totalPotentialSavings then
      [styledLine .yellow
        ("💰 Potential savings: " ++ grouped contract.totalPotentialSavings ++ " gas")]
    else [])
  else [styledLine .yellow "⚠️  No gas data - static analysis only"])

theorem contractLines_list (look : Look) (contract : ContractAnalysis) :
    contractLines look .list contract =
      contractHead contract ++ contract.functions.flatMap functionLines := rfl

theorem contractLines_table (look : Look) (contract : ContractAnalysis) :
    contractLines look .table contract =
      contractHead contract ++ tableLines look contract.functions := rfl

/-- The lines on a contract before those on its functions add its name. -/
theorem lacks_contractHead {contract : ContractAnalysis} (h : Lacks mark.char contract.name) :
    (contractHead contract).Lacks mark.char := by
  simp (disch := decide) [contractHead, Mark.lacks_of_absent, h]

/-- The lines on the files that failed add their names and what went wrong. -/
theorem lacks_failureLines {failures : List Failure}
    (h : ∀ failure ∈ failures, Lacks mark.char failure.file ∧ Lacks mark.char failure.error) :
    (failureLines failures).Lacks mark.char := by
  have hlines : Document.Lacks mark.char (failures.map fun failure =>
      [.bare ("  " ++ failure.file ++ " "), .styled .dimmed failure.error]) :=
    Document.lacks_map fun failure hfailure => by
      simp (disch := decide) [Mark.lacks_of_absent, h failure hfailure]
  simp (disch := decide) [failureLines, Mark.lacks_of_absent, hlines]

/-- The lines on a suggestion add its message. -/
theorem lacks_suggestionLines {s : Suggestion} (h : Lacks mark.char s.message) :
    (suggestionLines s).Lacks mark.char := by
  simp (disch := decide) [suggestionLines, Mark.lacks_of_absent, h]

/-- The lines on the suggestions for a function add its name and their messages. -/
theorem lacks_adviceLines {f : AnalyzedFunction} (hname : Lacks mark.char f.function.name)
    (h : ∀ s ∈ f.suggestions, Lacks mark.char s.message) : (adviceLines f).Lacks mark.char := by
  have hsuggestions : Document.Lacks mark.char (f.suggestions.flatMap suggestionLines) :=
    Document.lacks_flatMap fun s hs => lacks_suggestionLines mark (h s hs)
  have hkinds : Lacks mark.char (listed (f.function.patterns.map (·.kind.keyword))) := by
    refine lacks_listed mark fun text htext => ?_
    obtain ⟨pattern, -, rfl⟩ := List.mem_map.1 htext
    exact lacks_patternKind mark pattern.kind
  simp (disch := decide) [adviceLines, Mark.lacks_of_absent, hname, hsuggestions, hkinds]

/-! ## Tables -/

theorem lacks_gasCell (f : AnalyzedFunction) : Lacks mark.char (gasCell f) := by
  simp (disch := decide) [gasCell, Mark.lacks_of_absent]

/-- No rule of a table has an escape character. -/
theorem lacks_columnRule (look : Look) : Lacks Mark.escape.char (columnRule look) := by
  cases look
  · exact Mark.lacks_of_absent .escape (by decide)
  all_goals
    show Style.escape ∉ "│".toList
    decide

theorem lacks_headRule (look : Look) (count : Nat) :
    Lacks Mark.escape.char (String.ofList (List.replicate count (headRule look))) := by
  refine lacks_ofList.2 fun hmem => ?_
  have hrule : Mark.escape.char ≠ headRule look := by cases look <;> decide
  exact hrule (List.mem_replicate.1 hmem).2

theorem lacks_tableRow (look : Look) {name gas suggestions savings : String} {rank : Span}
    (hname : Lacks Mark.escape.char name) (hgas : Lacks Mark.escape.char gas)
    (hrank : Lacks Mark.escape.char rank.text) (hsuggestions : Lacks Mark.escape.char suggestions)
    (hsavings : Lacks Mark.escape.char savings) :
    (tableRow look name gas rank suggestions savings).Lacks Mark.escape.char := by
  simp (disch := decide) [tableRow, Mark.lacks_of_absent, lacks_columnRule, hname, hgas, hrank,
    hsuggestions, hsavings]

/-- The head of a table. -/
def tableHead (look : Look) : Line :=
  tableRow look "Function" "Gas Usage" (.bare (alignCenter 8 "Rank")) "Suggestions" "Potential Savings"

/-- The line under the head of a table. -/
def tableRule (look : Look) : Line :=
  styledLine .dimmed (String.ofList (List.replicate 82 (headRule look)))

/-- The row on a function. -/
def functionRow (look : Look) (f : AnalyzedFunction) : Line :=
  tableRow look f.function.name (gasCell f)
    (.styled (rankStyle f.gasRank) (alignCenter 8 f.gasRank.keyword))
    (number f.suggestions.length) (grouped f.potentialSavings)

theorem tableLines_eq (look : Look) (functions : List AnalyzedFunction) :
    tableLines look functions =
      [blankLine, tableHead look, tableRule look] ++ functions.map (functionRow look) := rfl

theorem lacks_tableHead (look : Look) : (tableHead look).Lacks Mark.escape.char := by
  have hfixed {text : String} (ht : Mark.absent text = true) : Lacks Mark.escape.char text :=
    Mark.lacks_of_absent .escape ht
  exact lacks_tableRow look (hfixed (by decide)) (hfixed (by decide))
    ((lacks_alignCenter .escape).2 (hfixed (by decide))) (hfixed (by decide)) (hfixed (by decide))

theorem lacks_functionRow (look : Look) {f : AnalyzedFunction}
    (h : Lacks Mark.escape.char f.function.name) : (functionRow look f).Lacks Mark.escape.char :=
  lacks_tableRow look h (lacks_gasCell .escape f) ((lacks_alignCenter .escape).2 (lacks_rank .escape _))
    (lacks_number .escape _) (lacks_grouped .escape _)

/-- The lines of a table add the names of the functions. -/
theorem lacks_tableLines (look : Look) {functions : List AnalyzedFunction}
    (h : ∀ f ∈ functions, Lacks Mark.escape.char f.function.name) :
    (tableLines look functions).Lacks Mark.escape.char := by
  have hrule : (tableRule look).Lacks Mark.escape.char :=
    lacks_styledLine.2 (lacks_headRule look 82)
  have hrows : Document.Lacks Mark.escape.char (functions.map (functionRow look)) :=
    Document.lacks_map fun f hf => lacks_functionRow look (h f hf)
  simp [tableLines_eq, lacks_tableHead, hrule, hrows]

end Terminal

/-! ## Rules in ASCII -/

namespace Mark

/-- The marks that are box characters. -/
def boxes : List Mark := [.column, .head]

/-- A text without box characters is in ASCII what it is. -/
theorem map_asciiRule {text : List Char} (h : ∀ mark ∈ boxes, mark.char ∉ text) :
    text.map asciiRule = text := by
  have hcolumn : '│' ∉ text := h .column (by decide)
  have hhead : '─' ∉ text := h .head (by decide)
  have hkept : ∀ c ∈ text, asciiRule c = id c := by
    intro c hc
    have hcolumn' : c ≠ '│' := fun heq => hcolumn (heq ▸ hc)
    have hhead' : c ≠ '─' := fun heq => hhead (heq ▸ hc)
    rw [asciiRule, if_neg hcolumn', if_neg hhead', id]
  rw [List.map_congr_left hkept, List.map_id]

end Mark

namespace Document

theorem plain_append (document more : Document) :
    (document ++ more).plain = document.plain ++ more.plain :=
  List.flatMap_append

theorem plain_flatMap {α : Type} (items : List α) (lines : α → Document) :
    Document.plain (items.flatMap lines) = items.flatMap fun item => (lines item).plain :=
  List.flatMap_assoc

theorem not_mem_plain {c : Char} {document : Document} (h : document.Lacks c) (hc : c ≠ '\n') :
    c ∉ document.plain := by
  intro hmem
  obtain ⟨line, hline, hmem⟩ := List.mem_flatMap.1 hmem
  rcases List.mem_append.1 hmem with hspans | hfeed
  · obtain ⟨span, hspan, hmem⟩ := List.mem_flatMap.1 hspans
    exact h line hline span hspan hmem
  · exact hc (List.mem_singleton.1 hfeed)

theorem map_asciiRule_plain {document : Document}
    (h : ∀ mark ∈ Mark.boxes, document.Lacks mark.char) :
    document.plain.map asciiRule = document.plain := by
  refine Mark.map_asciiRule fun mark hmark => not_mem_plain (h mark hmark) ?_
  cases mark <;> decide

end Document

namespace Terminal

theorem map_asciiRule_columnRule (look : Look) :
    (columnRule look).toList.map asciiRule = (columnRule .plain).toList := by
  cases look <;> decide

theorem asciiRule_headRule (look : Look) : asciiRule (headRule look) = headRule .plain := by
  cases look <;> decide

/-- **A row of a table is in ASCII the plain row.** -/
theorem map_asciiRule_tableRow (look : Look) {name gas suggestions savings : String} {rank : Span}
    (hname : ∀ mark ∈ Mark.boxes, Lacks mark.char name)
    (hgas : ∀ mark : Mark, Lacks mark.char gas) (hrank : ∀ mark : Mark, Lacks mark.char rank.text)
    (hsuggestions : ∀ mark : Mark, Lacks mark.char suggestions)
    (hsavings : ∀ mark : Mark, Lacks mark.char savings) :
    (Document.renderLine .plain (tableRow look name gas rank suggestions savings)).map asciiRule =
      Document.renderLine .plain (tableRow .plain name gas rank suggestions savings) := by
  have hnameCell : (alignLeft 20 name).toList.map asciiRule = (alignLeft 20 name).toList :=
    Mark.map_asciiRule fun mark hmark => (lacks_alignLeft mark).2 (hname mark hmark)
  have hgasCell : (alignRight 12 gas).toList.map asciiRule = (alignRight 12 gas).toList :=
    Mark.map_asciiRule fun mark _ => (lacks_alignRight mark).2 (hgas mark)
  have hrankCell : rank.text.toList.map asciiRule = rank.text.toList :=
    Mark.map_asciiRule fun mark _ => hrank mark
  have hsuggestionsCell : (alignCenter 11 suggestions).toList.map asciiRule =
      (alignCenter 11 suggestions).toList :=
    Mark.map_asciiRule fun mark _ => (lacks_alignCenter mark).2 (hsuggestions mark)
  have hsavingsCell : (alignRight 17 savings).toList.map asciiRule =
      (alignRight 17 savings).toList :=
    Mark.map_asciiRule fun mark _ => (lacks_alignRight mark).2 (hsavings mark)
  have hspace : " ".toList.map asciiRule = " ".toList := by decide
  have hfeed : ['\n'].map asciiRule = ['\n'] := by decide
  simp only [tableRow, Document.renderLine, List.flatMap_cons, List.flatMap_nil, Span.render_plain,
    Span.text_bare, String.toList_append, List.map_append, List.map_nil, hnameCell, hgasCell,
    hrankCell, hsuggestionsCell, hsavingsCell, hspace, hfeed, map_asciiRule_columnRule]

theorem map_asciiRule_tableHead (look : Look) :
    (Document.renderLine .plain (tableHead look)).map asciiRule =
      Document.renderLine .plain (tableHead .plain) := by
  have hfixed {text : String} (ht : Mark.absent text = true) (mark : Mark) : Lacks mark.char text :=
    mark.lacks_of_absent ht
  exact map_asciiRule_tableRow look (fun mark _ => hfixed (by decide) mark) (hfixed (by decide))
    (fun mark => (lacks_alignCenter mark).2 (hfixed (by decide) mark)) (hfixed (by decide))
    (hfixed (by decide))

theorem map_asciiRule_tableRule (look : Look) :
    (Document.renderLine .plain (tableRule look)).map asciiRule =
      Document.renderLine .plain (tableRule .plain) := by
  simp only [Document.renderLine, tableRule, styledLine, List.flatMap_cons, List.flatMap_nil,
    List.append_nil, Span.render_plain, Span.text_styled, String.toList_ofList, List.map_append,
    List.map_replicate, asciiRule_headRule]
  rfl

theorem map_asciiRule_functionRow (look : Look) {f : AnalyzedFunction}
    (h : ∀ mark ∈ Mark.boxes, Lacks mark.char f.function.name) :
    (Document.renderLine .plain (functionRow look f)).map asciiRule =
      Document.renderLine .plain (functionRow .plain f) :=
  map_asciiRule_tableRow look h (fun mark => lacks_gasCell mark f)
    (fun mark => (lacks_alignCenter mark).2 (lacks_rank mark _)) (fun mark => lacks_number mark _)
    (fun mark => lacks_grouped mark _)

/-- **A table is in ASCII the plain table.** -/
theorem map_asciiRule_tableLines (look : Look) {functions : List AnalyzedFunction}
    (h : ∀ f ∈ functions, ∀ mark ∈ Mark.boxes, Lacks mark.char f.function.name) :
    (tableLines look functions).plain.map asciiRule = (tableLines .plain functions).plain := by
  have hblank : (Document.renderLine .plain blankLine).map asciiRule =
      Document.renderLine .plain blankLine := by decide
  rw [tableLines_eq, tableLines_eq, Document.plain_append, Document.plain_append, List.map_append]
  refine congrArg₂ (· ++ ·) ?_ ?_
  · simp only [Document.plain, List.flatMap_cons, List.flatMap_nil, List.map_append, List.map_nil,
      hblank, map_asciiRule_tableHead look, map_asciiRule_tableRule look]
  · rw [Document.plain, Document.plain, List.flatMap_map, List.flatMap_map, List.map_flatMap]
    exact List.flatMap_congr fun f hf => map_asciiRule_functionRow look (h f hf)

end Terminal

/-! ## Batches -/

/-- Whether the texts of a batch that a terminal shows do not have a character. -/
structure Batch.Lacks (mark : Char) (batch : Batch) : Prop where
  contract : ∀ contract ∈ batch.contracts,
    GasAdvisor.Lacks mark contract.name ∧ GasAdvisor.Lacks mark contract.file
  function : ∀ contract ∈ batch.contracts, ∀ f ∈ contract.functions,
    GasAdvisor.Lacks mark f.function.name
  message : ∀ contract ∈ batch.contracts, ∀ f ∈ contract.functions, ∀ s ∈ f.suggestions,
    GasAdvisor.Lacks mark s.message
  diagnostic : ∀ contract ∈ batch.contracts, ∀ d ∈ contract.diagnostics,
    GasAdvisor.Lacks mark d.origin ∧ GasAdvisor.Lacks mark d.message
  failure : ∀ failure ∈ batch.failures,
    GasAdvisor.Lacks mark failure.file ∧ GasAdvisor.Lacks mark failure.error

/-- The texts that a terminal shows are among those of the batch. -/
theorem Batch.lacks_of_strings {mark : Char} {batch : Batch}
    (h : ∀ text ∈ batch.strings, mark ∉ text.toList) : batch.Lacks mark := by
  have hcontract : ∀ contract ∈ batch.contracts, ∀ text ∈ contract.strings,
      GasAdvisor.Lacks mark text := fun contract hc text htext =>
    h text (List.mem_cons_of_mem _ (List.mem_append_left _ (List.mem_flatMap.2 ⟨contract, hc, htext⟩)))
  have hfunction : ∀ contract ∈ batch.contracts, ∀ f ∈ contract.functions, ∀ text ∈ f.strings,
      GasAdvisor.Lacks mark text := by
    intro contract hc f hf text htext
    refine hcontract contract hc text ?_
    simp only [ContractAnalysis.strings, List.mem_append, List.mem_flatMap]
    exact .inl (.inr ⟨f, hf, htext⟩)
  have hdiagnostic : ∀ contract ∈ batch.contracts, ∀ d ∈ contract.diagnostics,
      ∀ text ∈ [d.origin, d.message], GasAdvisor.Lacks mark text := by
    intro contract hc d hd text htext
    refine hcontract contract hc text ?_
    simp only [ContractAnalysis.strings, List.mem_append, List.mem_flatMap]
    exact .inr ⟨d, hd, htext⟩
  have hfailure : ∀ failure ∈ batch.failures, ∀ text ∈ [failure.file, failure.error],
      GasAdvisor.Lacks mark text := fun failure hfailure text htext =>
    h text (List.mem_cons_of_mem _ (List.mem_append_right _
      (List.mem_flatMap.2 ⟨failure, hfailure, htext⟩)))
  refine ⟨fun contract hc => ?_, fun contract hc f hf => ?_, fun contract hc f hf s hs => ?_,
    fun contract hc d hd => ?_, fun failure hf => ?_⟩
  · exact ⟨hcontract contract hc _ (by simp [ContractAnalysis.strings]),
      hcontract contract hc _ (by simp [ContractAnalysis.strings])⟩
  · exact hfunction contract hc f hf _ (by simp [AnalyzedFunction.strings, Function.strings])
  · refine hfunction contract hc f hf _ (List.mem_append_right _ ?_)
    exact List.mem_flatMap.2 ⟨s, hs, List.mem_cons_self⟩
  · exact ⟨hdiagnostic contract hc d hd _ (by simp), hdiagnostic contract hc d hd _ (by simp)⟩
  · exact ⟨hfailure failure hf _ (by simp), hfailure failure hf _ (by simp)⟩

namespace Terminal

variable {mark : Mark} {batch : Batch}

/-- The parts of an analysis beside the lines on its contracts add the files that failed. -/
theorem lacks_analysisDocument {look : Look} {layout : Layout} (h : batch.Lacks mark.char)
    (hcontracts : ∀ contract ∈ batch.contracts, (contractLines look layout contract).Lacks mark.char) :
    (analysisDocument look layout batch).Lacks mark.char := by
  rw [analysisDocument, Document.lacks_append, Document.lacks_append]
  exact ⟨⟨lacks_summaryLines mark _ _, Document.lacks_flatMap hcontracts⟩,
    lacks_failureLines mark h.failure⟩

theorem lacks_analysisDocument_list (look : Look) (h : batch.Lacks mark.char) :
    (analysisDocument look .list batch).Lacks mark.char := by
  refine lacks_analysisDocument h fun contract hc => ?_
  rw [contractLines_list, Document.lacks_append]
  exact ⟨lacks_contractHead mark (h.contract contract hc).1,
    Document.lacks_flatMap fun f hf => lacks_functionLines mark (h.function contract hc f hf)⟩

theorem lacks_analysisDocument_table (look : Look) (h : batch.Lacks Mark.escape.char) :
    (analysisDocument look .table batch).Lacks Mark.escape.char := by
  refine lacks_analysisDocument h fun contract hc => ?_
  rw [contractLines_table, Document.lacks_append]
  exact ⟨lacks_contractHead .escape (h.contract contract hc).1,
    lacks_tableLines look (h.function contract hc)⟩

theorem lacks_suggestionsDocument (modelEnabled : Bool) (h : batch.Lacks mark.char) :
    (suggestionsDocument batch modelEnabled).Lacks mark.char := by
  have hcontracts : Document.Lacks mark.char (batch.contracts.flatMap fun contract =>
      blankLine :: styledLine .cyan ("📄 Analyzing: " ++ contract.file) ::
        contract.functions.flatMap adviceLines) := by
    refine Document.lacks_flatMap fun contract hc => ?_
    have hfunctions : Document.Lacks mark.char (contract.functions.flatMap adviceLines) :=
      Document.lacks_flatMap fun f hf =>
        lacks_adviceLines mark (h.function contract hc f hf) (h.message contract hc f hf)
    simp (disch := decide) [Mark.lacks_of_absent, hfunctions, (h.contract contract hc).2]
  simp (disch := decide) [suggestionsDocument, Mark.lacks_of_absent, hcontracts,
    lacks_failureLines mark h.failure]

theorem lacks_diagnosticsDocument (h : batch.Lacks mark.char) :
    (diagnosticsDocument batch).Lacks mark.char := by
  refine Document.lacks_flatMap fun contract hc => Document.lacks_map fun d hd => ?_
  simp (disch := decide) [Mark.lacks_of_absent, h.diagnostic contract hc d hd,
    (h.contract contract hc).2]

/-- **An analysis with tables is in ASCII the plain one.** -/
theorem map_asciiRule_analysisDocument (look : Look)
    (h : ∀ mark ∈ Mark.boxes, batch.Lacks mark.char) :
    (analysisDocument look .table batch).plain.map asciiRule =
      (analysisDocument .plain .table batch).plain := by
  have hsummary := Document.map_asciiRule_plain fun mark _ =>
    lacks_summaryLines mark batch.summary batch.framework
  have hfailures := Document.map_asciiRule_plain fun mark hmark =>
    lacks_failureLines mark (h mark hmark).failure
  have hcontract : ∀ contract ∈ batch.contracts,
      (contractLines look .table contract).plain.map asciiRule =
        (contractLines .plain .table contract).plain := by
    intro contract hc
    have hhead := Document.map_asciiRule_plain fun mark hmark =>
      lacks_contractHead mark ((h mark hmark).contract contract hc).1
    have htable := map_asciiRule_tableLines look fun f hf mark hmark =>
      (h mark hmark).function contract hc f hf
    rw [contractLines_table, contractLines_table, Document.plain_append, Document.plain_append,
      List.map_append, hhead, htable]
  simp only [analysisDocument, Document.plain_append, Document.plain_flatMap, List.map_append, hsummary,
    hfailures, List.map_flatMap]
  rw [List.flatMap_congr hcontract]

end Terminal

namespace View

open Terminal

/-- **Looks are presentation only.** Where no text of a batch has an escape character, deleting the escape
sequences from the list, from the suggestions and from the diagnostics leaves the plain view, whatever
the look; and the same goes for the tables once the box characters of their rules are in ASCII, where no
text of the batch has one of these. -/
theorem looks_are_presentation (look : Look) (modelEnabled : Bool) (batch : Batch)
    (hescape : ∀ text ∈ batch.strings, Style.escape ∉ text.toList) :
    (∀ view ∈ [View.list, .suggestions, .diagnostics],
      Style.erase (view.render look modelEnabled batch).toList =
        (view.render .plain modelEnabled batch).toList) ∧
    ((∀ text ∈ batch.strings, '│' ∉ text.toList ∧ '─' ∉ text.toList) →
      (Style.erase (View.table.render look modelEnabled batch).toList).map asciiRule =
        (View.table.render .plain modelEnabled batch).toList) := by
  have hbatch : batch.Lacks Mark.escape.char := Batch.lacks_of_strings hescape
  refine ⟨fun view hview => ?_, fun hbox => ?_⟩
  · simp only [List.mem_cons, List.not_mem_nil, or_false] at hview
    rcases hview with rfl | rfl | rfl
    · have hlist : analysisDocument look .list batch = analysisDocument .plain .list batch := rfl
      rw [render, render, Document.erase_render look (lacks_analysisDocument_list look hbatch), hlist,
        Document.toList_render_plain]
    · rw [render, render, Document.erase_render look (lacks_suggestionsDocument modelEnabled hbatch),
        Document.toList_render_plain]
    · rw [render, render, Document.erase_render look (lacks_diagnosticsDocument hbatch),
        Document.toList_render_plain]
  · have hboxes : ∀ mark ∈ Mark.boxes, batch.Lacks mark.char := by
      intro mark hmark
      rcases List.mem_pair.1 hmark with rfl | rfl
      · exact Batch.lacks_of_strings fun text htext => (hbox text htext).1
      · exact Batch.lacks_of_strings fun text htext => (hbox text htext).2
    rw [render, render, Document.erase_render look (lacks_analysisDocument_table look hbatch),
      map_asciiRule_analysisDocument look hboxes, Document.toList_render_plain]

/-- A batch of one contract whose function has a suggestion. -/
def sampleBatch : Batch where
  contracts :=
    [{ name := "Vault"
       file := "Vault.sol"
       functions :=
        [{ function :=
            { name := "deposit"
              visibility := .external
              mutability := .payable
              parameters := []
              returns := none
              modifiers := []
              patterns := [⟨.loop, "Loop", 2000, "Bound it", 1⟩]
              sourceCode := "function deposit() external payable \x7b\x7d"
              startLine := 2
              complexity := 3 }
           gasUsage := 43210
           gasRank := .medium
           hasGasData := true
           suggestions := [.generated "Cache the length." 0.8 .medium]
           potentialSavings := 3456 }]
       stateVariables := ["total"]
       totalLines := 4
       totalGasUsage := 43210
       totalPotentialSavings := 3456
       gasDataAvailable := true
       framework := some .foundry
       diagnostics := [⟨"llm", "timed out"⟩] }]
  failures := [⟨"Missing.sol", "not found"⟩]
  summary := ⟨1, 1, 43210, 3456, 1, 100, 43210, 8⟩
  framework := some .foundry
  timestamp := "2024-01-01T00:00:00Z"

/-- The sample in colors. -/
theorem looks_of_sample :
    (∀ view ∈ [View.list, .suggestions, .diagnostics],
      Style.erase (view.render .colored true sampleBatch).toList =
        (view.render .plain true sampleBatch).toList) ∧
    (Style.erase (View.table.render .colored true sampleBatch).toList).map asciiRule =
      (View.table.render .plain true sampleBatch).toList := by
  have hescape : ∀ text ∈ sampleBatch.strings, Style.escape ∉ text.toList := by decide
  have hbox : ∀ text ∈ sampleBatch.strings, '│' ∉ text.toList ∧ '─' ∉ text.toList := by decide
  obtain ⟨hviews, htable⟩ := looks_are_presentation .colored true sampleBatch hescape
  exact ⟨hviews, htable hbox⟩

end View

end GasAdvisor
