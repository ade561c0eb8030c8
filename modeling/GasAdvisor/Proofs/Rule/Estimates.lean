import GasAdvisor.Proofs.Checked
import GasAdvisor.Proofs.Contract.Extents
import GasAdvisor.Proofs.Rule.Inquiry
import GasAdvisor.Proofs.Text.Shapes
import GasAdvisor.Proofs.Text.Slices
import GasAdvisor.Rule.Checked

/-!
# Estimates are exact

Checked arithmetic gives the numbers of patterns and suggestions for every source of fewer than 2 ^ 48
bytes. Two facts carry this: no search has more hits than its text has characters, and a function is found
in a part of the scanned text that has as many bytes as its source (`Contract.exists_scanned`).

* The patterns of a text are found by checked arithmetic (`Pattern.detect?_eq`), with gas that is a product
  (`Pattern.isExact_of_mem_detect`), and amount to nine at most (`Function.complexityOf?_eq`).
* The groups of rules that count something are asked one by one (`Inquiry.askStorage?_eq` and what
  follows), and with them the whole inquiry (`Rule.inquire?_eq`). What a rule saves is the number that it
  would be without bounds (`Rule.saving_eq_exactSaving`).
* `Contract.estimates_exact` puts this together for the functions of a contract.
-/

namespace GasAdvisor

open Text

namespace Checked

/-- **The hits of a search are counted without a loss**, whatever it passes over. -/
theorem count?_hitsFrom {α : Type} {find : Option Char → List Char → Option (α × Nat)}
    {barren : List Char → Nat} {before : Option Char} {index skip : Nat} {text : List Char}
    (h : text.length < 2 ^ 64) :
    count? (hitsFrom find barren before index skip text) =
      some (hitsFrom find barren before index skip text).length :=
  count?_of_lt ((length_hitsFrom_le before index skip text).trans_lt h)

end Checked

open Checked

/-! ## Patterns -/

/-- The gas that is estimated for each place of a kind of pattern. -/
def PatternKind.gas : PatternKind → Nat
  | .loop => Pattern.loopGas
  | .storageWrite => Pattern.storageWriteGas
  | .externalCall => Pattern.externalCallGas
  | .validation => Pattern.validationGas

namespace Pattern

/-- A pattern with no more places than a number, and with the gas of each of them. -/
structure IsExact (most : Nat) (p : Pattern) : Prop where
  occurrences_le : p.occurrences ≤ most
  estimatedGas_eq : p.estimatedGas = p.occurrences * p.kind.gas
  estimatedGas_lt : p.estimatedGas < 2 ^ 64

variable {text : List Char}

theorem storageWrites_le (text : List Char) : storageWrites text ≤ text.length :=
  (List.length_filter_le _ _).trans (length_hitsFrom_le _ _ _ _)

theorem validations_le (text : List Char) : validations text ≤ text.length :=
  length_hitsFrom_le _ _ _ _

/-- Where something is present, there is text. -/
theorem length_pos_of_occurs {shape : Shape} (h : shape.occurs text = true) : 1 ≤ text.length := by
  cases text with
  | nil => cases h
  | cons c text => exact Nat.succ_pos _

theorem isExact_of_mem_detect {p : Pattern} (hp : p ∈ detect text) (htext : text.length < 2 ^ 48) :
    p.IsExact text.length := by
  have hwrites := storageWrites_le text
  have hchecks := validations_le text
  simp only [detect, List.mem_append, List.mem_ite_nil_right, List.mem_singleton] at hp
  rcases hp with ((⟨hloop, rfl⟩ | ⟨-, rfl⟩) | ⟨hcall, rfl⟩) | ⟨-, rfl⟩
  · exact ⟨length_pos_of_occurs hloop, rfl, by decide⟩
  · exact ⟨hwrites, rfl, by simp only [ofStorageWrites, storageWriteGas]; omega⟩
  · exact ⟨length_pos_of_occurs hcall, rfl, by decide⟩
  · exact ⟨hchecks, rfl, by simp only [ofValidations, validationGas]; omega⟩

/-- There is at most one pattern of each kind. -/
theorem length_detect_le (text : List Char) : (detect text).length ≤ 4 := by
  have hone (answer : Prop) [Decidable answer] (p : Pattern) :
      (if answer then [p] else []).length ≤ 1 := by
    split <;> simp
  simp only [detect, List.length_append]
  have hloop := hone (hasLoop text = true) ofLoop
  have hwrites := hone (storageWrites text > 0) (ofStorageWrites (storageWrites text))
  have hcall := hone (hasExternalCall text = true) ofExternalCall
  have hchecks := hone (validations text > 0) (ofValidations (validations text))
  omega

/-- What is found is counted, and its gas is a product. -/
theorem ofFound?_eq {α : Type} (evidence : Nat → Pattern) (gas : Nat) {found : List α}
    (hevidence : ∀ count, (evidence count).estimatedGas = count * gas) (hgas : gas ≤ 2 ^ 15)
    (hfound : found.length < 2 ^ 48) :
    ofFound? evidence gas found =
      some (if found.length > 0 then [evidence found.length] else []) := by
  have hproduct : found.length * gas ≤ 2 ^ 48 * 2 ^ 15 := Nat.mul_le_mul hfound.le hgas
  rw [ofFound?, count?_of_lt (by omega), Option.bind_eq_bind, Option.bind_some]
  split
  · rw [mul?_of_lt (by omega), ← hevidence]
    rfl
  · rfl

/-- **The patterns of a text are found without a loss.** -/
theorem detect?_eq (h : text.length < 2 ^ 48) : detect? text = some (detect text) := by
  have hwrites := ofFound?_eq ofStorageWrites storageWriteGas (fun _ => rfl) (by decide)
    ((storageWrites_le text).trans_lt h)
  have hchecks := ofFound?_eq ofValidations validationGas (fun _ => rfl) (by decide)
    ((validations_le text).trans_lt h)
  rw [detect?, hwrites, hchecks]
  rfl

end Pattern

/-- **Four patterns, or fewer, amount to nine at most**, which fits. -/
theorem Function.complexityOf?_eq {patterns : List Pattern} (h : patterns.length ≤ 4) :
    complexityOf? patterns = some (complexityOf patterns) ∧ complexityOf patterns ≤ 9 := by
  rw [complexityOf?, fit?_of_lt (by omega), Option.bind_eq_bind, Option.bind_some, fit?_of_lt (by omega),
    Option.bind_some, fit?_of_lt (by omega), complexityOf]
  exact ⟨rfl, by omega⟩

/-! ## Evidence -/

namespace Evidence

/-- A word is looked at where it stands in a text. -/
theorem isAloneAt?_append (front : List Char) {word rest : List Char}
    (hsize : byteSize (front ++ (word ++ rest)) < 2 ^ 64) :
    isAloneAt? (front ++ (word ++ rest)) word (byteSize front) =
      some (!front.getLast?.any isSearchWord && !rest.head?.any isSearchWord) := by
  have hbefore : slice? (front ++ (word ++ rest)) ⟨0, byteSize front⟩ = some front :=
    slice?_eq_some_iff.2 ⟨[], word ++ rest, rfl, rfl, rfl⟩
  have hafter : slice? (front ++ (word ++ rest))
      ⟨byteSize front + byteSize word, byteSize (front ++ (word ++ rest))⟩ = some rest :=
    slice?_eq_some_iff.2 ⟨front ++ word, [], by simp, byteSize_append front word, by simp⟩
  rw [byteSize_append, byteSize_append] at hsize
  rw [isAloneAt?, add?_of_lt (by omega)]
  simp only [Option.bind_eq_bind, Option.bind_some, hbefore, hafter]
  rfl

/-- The search for a word looks at each place where the word stands, one after the other. -/
theorem anyM_hitsFrom_literal (front : List Char) {s word : List Char} (skip : Nat)
    (hsize : byteSize (front ++ s) < 2 ^ 64) :
    (hitsFrom (Shape.literal word).find (fun _ => 0) front.getLast? front.length skip s).anyM
        (fun hit => isAloneAt? (front ++ s) word (byteOffset (front ++ s) hit.index)) =
      some (containsWordFrom word front.getLast? skip s) := by
  -- the text stays the same, and the induction is on the part of it that is still to be searched
  induction s generalizing front skip with
  | nil => rfl
  | cons c s ih =>
    have hmore (skip : Nat) := ih (front ++ [c]) skip (by simpa using hsize)
    simp only [List.getLast?_concat, List.length_append, List.length_singleton, List.append_assoc,
      List.singleton_append] at hmore
    cases skip with
    | succ skip => exact hmore skip
    | zero =>
      rw [hitsFrom, containsWordFrom]
      by_cases hword : word.isPrefixOf (c :: s) = true
      · obtain ⟨rest, hrest⟩ := List.isPrefixOf_iff_prefix.1 hword
        have hfind : (Shape.literal word).find front.getLast? (c :: s) =
            some ((word, rest), word.length) := by
          rw [← hrest, Shape.find, Shape.literal_append]
          rfl
        have hdrop : (c :: s).drop word.length = rest := by rw [← hrest, List.drop_left]
        have halone := isAloneAt?_append front (hrest ▸ hsize)
        rw [hrest, ← byteOffset_append front (c :: s)] at halone
        rw [hfind, if_pos hword, hdrop]
        simp only [List.anyM_cons, halone, hmore]
        cases !front.getLast?.any isSearchWord && !rest.head?.any isSearchWord <;> rfl
      · have hfind : (Shape.literal word).find front.getLast? (c :: s) = none := by
          rw [Shape.find, Shape.literal, if_neg hword]
          rfl
        rw [hfind, if_neg hword]
        exact hmore 0

theorem containsWord?_eq {text word : List Char} (hsize : byteSize text < 2 ^ 64) :
    containsWord? text word = some (containsWord text word) :=
  anyM_hitsFrom_literal [] 0 hsize

/-- What follows the assignment of a literal is the end of the text. -/
theorem rest_suffix {before : Option Char} {s : List Char} {found : LiteralAssignment × Nat}
    (h : literalAssignmentAt before s = some found) : found.1.rest <:+ s := by
  have hsign : (Shape.seq [.blanks, .one (· = '='), .blanks]).Yields fun _ => True :=
    ((Shape.yields_many isBlank).andThen
      ((Shape.yields_one (· = '=')).andThen (Shape.yields_many isBlank))).mono fun _ _ => trivial
  simp only [literalAssignmentAt, Option.bind_eq_bind, Option.bind_eq_some_iff] at h
  obtain ⟨edge, hedge, name, hname, sign, hsigned, hvalue⟩ := h
  have hsigned : sign.2 <:+ name.2 := (hsign _ _ _ hsigned).1 ▸ List.suffix_append sign.1 sign.2
  have hnamed : name.2 <:+ edge.2 :=
    (Shape.yields_many1 isWord _ _ _ hname).1 ▸ List.suffix_append name.1 name.2
  have hafter : sign.2 <:+ s := by
    rw [Shape.wordEdge_eq_some hedge] at hnamed
    exact hsigned.trans hnamed
  split at hvalue
  · next c value hsign =>
    split at hvalue
    · split at hvalue
      · next rest hclosed =>
        obtain rfl := Option.some.inj hvalue
        have hvalue : rest <:+ value := (List.suffix_cons ';' rest).trans (hclosed ▸ List.dropWhile_suffix _)
        exact (hvalue.trans (List.suffix_cons c value)).trans (hsign ▸ hafter)
      · cases hvalue
    · cases hvalue
  · cases hvalue

/-- An answer that is always given is given for a list. -/
theorem anyM_of_some {α : Type} {l : List α} {ask? : α → Option Bool} {ask : α → Bool}
    (h : ∀ x ∈ l, ask? x = some (ask x)) : l.anyM ask? = some (l.any ask) := by
  induction l with
  | nil => rfl
  | cons x l ih =>
    obtain ⟨hx, hl⟩ := List.forall_mem_cons.1 h
    rw [List.anyM_cons, hx, ih hl, List.any_cons]
    cases ask x <;> rfl

theorem hasReusedLiteral?_eq {code : List Char} (hsize : byteSize code < 2 ^ 64) :
    hasReusedLiteral? code = some (hasReusedLiteral code) := by
  refine anyM_of_some fun hit hmem => containsWord?_eq ?_
  obtain ⟨before, s, size, rfl, -, -, hfound⟩ := exists_of_mem_hitsFrom hmem
  have hline : hit.value.rest.takeWhile (· != '\n') <:+: before ++ s :=
    ((List.takeWhile_prefix _).isInfix.trans (rest_suffix hfound).isInfix).trans
      (List.suffix_append before s).isInfix
  exact (byteSize_le_byteSize hline).trans_lt hsize

theorem isCalledInternally?_eq {code name : List Char} (hsize : code.length < 2 ^ 64) :
    isCalledInternally? code name = some (isCalledInternally code name) := by
  rw [isCalledInternally?, isCalledInternally, isCalledInternallyBy]
  split
  · next hempty => rw [hempty]; rfl
  · next hname =>
    have hcount : count? (hits (callOf name).find code) = some ((callOf name).count code) :=
      count?_hitsFrom hsize
    rw [hcount, Bool.eq_false_iff.2 hname]
    rfl

end Evidence

/-! ## Inquiries -/

namespace Subject

/-- A function whose text is short, and in whose patterns no more is counted than that. -/
structure IsSmall (s : Subject) : Prop where
  code : byteSize s.code < 2 ^ 48
  patterns : ∀ p ∈ s.function.patterns, p.occurrences < 2 ^ 48

/-- Nothing is counted more than `most` times in the text of a function. -/
structure CountsUpTo (s : Subject) (most : Nat) : Prop where
  writes : s.writes ≤ most
  reads : s.reads ≤ most
  requires : s.requires ≤ most
  elseIfs : s.elseIfs ≤ most
  calls : (Evidence.callOf s.function.name.toList).count s.code ≤ most

variable {s : Subject}

/-- **No count is larger than the text.** -/
theorem countsUpTo (s : Subject) : s.CountsUpTo (byteSize s.code) := by
  have hbytes := length_le_byteSize s.code
  constructor <;> exact (length_hitsFrom_le _ _ _ _).trans hbytes

theorem IsSmall.length_code (h : s.IsSmall) : s.code.length < 2 ^ 48 :=
  (length_le_byteSize s.code).trans_lt h.code

end Subject

theorem Rule.mod_wordSize {n : Nat} (h : n < 2 ^ 64) : n % wordSize = n :=
  Nat.mod_eq_of_lt h

namespace Inquiry

variable {q : Inquiry}

/-- A saving that is a product is computed without a loss, if it fits. -/
theorem make_product {rule : Rule} {m n : Nat} (hfits : m * n < 2 ^ 64)
    (hsaving : rule.saving q.subject = m * n % Rule.wordSize) :
    (do let saving ← mul? m n; return q.make rule saving) = some (q.push rule) := by
  rw [mul?_of_lt hfits, push, Rule.suggestion, hsaving, Rule.mod_wordSize hfits]
  rfl

/-- A suggestion is made where the answer is yes, and else the inquiry stays as it is. -/
theorem ite_eq_pushIf {answer : Prop} [Decidable answer] {rule : Rule} {pushed? : Option Inquiry}
    (h : answer → pushed? = some (q.push rule)) :
    (if answer then pushed? else some q) = some (q.pushIf answer rule) := by
  by_cases hanswer : answer
  · rw [if_pos hanswer, h hanswer, pushIf, if_pos (decide_eq_true hanswer)]
  · rw [if_neg hanswer, pushIf, if_neg (by simpa using hanswer)]

theorem askWrites?_eq (h : q.subject.IsSmall) : q.askWrites? = some q.askWrites := by
  have hlength := h.length_code
  have hwrites : q.subject.writes < 2 ^ 48 := (q.subject.countsUpTo.writes).trans_lt h.code
  have hcount : count? (hitsByWord Evidence.assignment.find q.subject.code) = some q.subject.writes :=
    count?_hitsFrom (by omega)
  rw [askWrites?, askWrites]
  cases hpattern : q.subject.function.pattern? .storageWrite with
  | none => rfl
  | some pattern =>
    have hoccurrences := h.patterns pattern (List.mem_of_find?_eq_some hpattern)
    simp only [hcount, Option.bind_eq_bind, Option.bind_some]
    split
    · exact make_product (by omega) rfl
    · exact make_product (by omega) (by rw [Rule.saving, hpattern]; rfl)

/-- There are accesses where one less is asked for. -/
theorem askReads?_eq (h : q.subject.IsSmall) :
    q.askReads? = some (q.pushIf (2 < q.subject.reads) .cacheReads) := by
  have hlength := h.length_code
  have hreads : q.subject.reads < 2 ^ 48 := (q.subject.countsUpTo.reads).trans_lt h.code
  have hcount : count? (hitsByWord Evidence.indexedAccess.find q.subject.code) = some q.subject.reads :=
    count?_hitsFrom (by omega)
  rw [askReads?, hcount, Option.bind_eq_bind, Option.bind_some]
  refine ite_eq_pushIf fun hmany => ?_
  rw [sub?_of_le (by omega)]
  exact make_product (by omega) rfl

theorem askRequires?_eq (h : q.subject.IsSmall) :
    q.askRequires? = some (q.pushIf (2 < q.subject.requires) .requireCount) := by
  have hlength := h.length_code
  have hrequires : q.subject.requires < 2 ^ 48 := (q.subject.countsUpTo.requires).trans_lt h.code
  have hcount : count? (hits Evidence.requireCall.find q.subject.code) = some q.subject.requires :=
    count?_hitsFrom (by omega)
  rw [askRequires?, hcount, Option.bind_eq_bind, Option.bind_some]
  exact ite_eq_pushIf fun _ => make_product (by omega) rfl

theorem askStorage?_eq (h : q.subject.IsSmall) : q.askStorage? = some q.askStorage := by
  have hsubject : q.askWrites.subject = q.subject := (asks_askWrites q).subject
  have hreads := askReads?_eq (q := q.askWrites) (by rwa [hsubject])
  rw [hsubject] at hreads
  rw [askStorage?, askWrites?_eq h, Option.bind_eq_bind, Option.bind_some, hreads]
  rfl

theorem askVisibility?_eq (h : q.subject.IsSmall) : q.askVisibility? = some q.askVisibility := by
  have hlength := h.length_code
  rw [askVisibility?, Evidence.isCalledInternally?_eq (by omega)]
  rfl

theorem askVariables?_eq (h : q.subject.IsSmall) : q.askVariables? = some q.askVariables := by
  have hcode := h.code
  rw [askVariables?, Evidence.hasReusedLiteral?_eq (by omega)]
  rfl

theorem askControlFlow?_eq (h : q.subject.IsSmall) : q.askControlFlow? = some q.askControlFlow := by
  have hlength := h.length_code
  have hcount : count? (hits Evidence.elseIf.find q.subject.code) = some q.subject.elseIfs :=
    count?_hitsFrom (by omega)
  rw [askControlFlow?, askRequires?_eq h, hcount]
  rfl

end Inquiry

/-- **The suggestions for a small function are made without a loss.** -/
theorem Rule.inquire?_eq (settings : RuleSettings) {f : Function} (h : (Subject.of f).IsSmall) :
    inquire? settings f = some (inquire settings f) := by
  -- every group stays with the function
  have hsmall {q : Inquiry} {rules : List Rule} (hasks : (Inquiry.start settings f).Asks q rules) :
      q.subject.IsSmall := by
    rw [hasks.subject]
    exact h
  have hloops := (Inquiry.asks_askStorage (Inquiry.start settings f)).trans (Inquiry.asks_askLoops _)
  have hoperations := (hloops.trans (Inquiry.asks_askVisibility _)).trans <|
    (Inquiry.asks_askMutability _).trans (Inquiry.asks_askOperations _)
  have hvariables := hoperations.trans (Inquiry.asks_askVariables _)
  have hstorage : (Inquiry.start settings f).askStorage? = _ := Inquiry.askStorage?_eq h
  rw [inquire?, hstorage, Option.bind_eq_bind, Option.bind_some,
    Inquiry.askVisibility?_eq (hsmall hloops), Option.bind_some,
    Inquiry.askVariables?_eq (hsmall hoperations), Option.bind_some,
    Inquiry.askControlFlow?_eq (hsmall hvariables), Option.bind_some]
  rfl

/-! ## Savings -/

namespace Rule

variable {s : Subject} {rule : Rule}

/-- The gas that following a rule saves, as a number without bounds. -/
def exactSaving (s : Subject) : Rule → Int
  | .batchWrites => s.writes * 5000
  | .singleWrite => ((s.function.pattern? .storageWrite).map (·.occurrences)).getD 0 * 2900
  | .cacheReads => (s.reads - 1) * 2100
  | .requireCount => s.requires * 1000
  | rule => rule.saving s

/-- **What a rule saves in a small function that it applies to is exact.** -/
theorem saving_eq_exactSaving (h : s.IsSmall) (happlies : rule.applies s = true) :
    (rule.saving s : Int) = rule.exactSaving s ∧ rule.saving s < 2 ^ 64 := by
  have hcounts := s.countsUpTo
  have hcode := h.code
  cases rule
  case batchWrites =>
    have hwrites := hcounts.writes
    rw [saving, exactSaving, mod_wordSize (by omega)]
    omega
  case singleWrite =>
    have hoccurrences : ((s.function.pattern? .storageWrite).map (·.occurrences)).getD 0 < 2 ^ 48 := by
      cases hpattern : s.function.pattern? .storageWrite with
      | none => decide
      | some pattern => exact h.patterns pattern (List.mem_of_find?_eq_some hpattern)
    rw [saving, exactSaving, mod_wordSize (by omega)]
    omega
  case cacheReads =>
    have hreads := hcounts.reads
    have hmany : 2 < s.reads := of_decide_eq_true happlies
    rw [saving, exactSaving, mod_wordSize (by omega)]
    omega
  case requireCount =>
    have hrequires := hcounts.requires
    rw [saving, exactSaving, mod_wordSize (by omega)]
    omega
  all_goals exact ⟨rfl, by simp [saving]⟩

end Rule

/-! ## Functions of a contract -/

/-- The numbers of a function in a source are exact: its text is no longer than the source, and no count
in it is larger than the text; checked arithmetic finds its patterns in the part of the scanned text where
it stands, and gives its complexity and its suggestions; and what a suggestion saves is the number without
bounds. -/
structure Function.IsExact (scanning : Scanning) (source : List Char) (settings : RuleSettings)
    (f : Function) : Prop where
  size_le : byteSize f.sourceCode.toList ≤ byteSize source
  counts : (Subject.of f).CountsUpTo (byteSize f.sourceCode.toList)
  patterns : ∃ scanned, scanned <:+: scanning.scan source ∧
    byteSize scanned = byteSize f.sourceCode.toList ∧ f.patterns = Pattern.detect scanned ∧
    Pattern.detect? scanned = some f.patterns
  gas : ∀ p ∈ f.patterns, p.IsExact (byteSize f.sourceCode.toList)
  complexity : Function.complexityOf? f.patterns = some f.complexity ∧ f.complexity ≤ 9
  suggestions : Rule.inquire? settings f = some (Rule.inquire settings f)
  savings : ∀ s ∈ Rule.inquire settings f, ∃ rule : Rule, s.rule = some rule.id ∧
    (s.estimatedSaving : Int) = rule.exactSaving (Subject.of f) ∧ s.estimatedSaving < 2 ^ 64

namespace Contract

variable {scanning : Scanning} {source : String} {f : Function}

/-- **A function is found in a part of the scanned text that has as many bytes as its source.** -/
theorem exists_scanned (hf : f ∈ (read scanning source).functions) :
    ∃ scanned, scanned <:+: scanning.scan source.toList ∧
      byteSize scanned = byteSize f.sourceCode.toList ∧ f.patterns = Pattern.detect scanned ∧
      f.complexity = Function.complexityOf f.patterns := by
  rw [functions_read] at hf
  obtain ⟨site, hsite, rfl⟩ := List.mem_map.1 hf
  obtain ⟨before, after, hscan, -⟩ := (liesIn_of_mem_sites hsite).stands
  obtain ⟨-, glyphs, -, -, -, hglyphs⟩ := (liesIn_of_mem_sites hsite).exists_glyphs
  have hscanned : site.scanned (scanning.cells source.toList) = site.text :=
    (liesIn_of_mem_sites hsite).scanned_eq
  refine ⟨site.scanned (scanning.cells source.toList), ?_, ?_, rfl, rfl⟩
  · rw [hscanned]
    exact ⟨before, after, hscan.symm⟩
  · show byteSize (site.scanned _) = byteSize (String.ofList _).toList
    rw [String.toList_ofList, Site.scanned, hglyphs, sourceOf_flatMap_cells, byteSize_flatMap_cells]

/-- **Estimates never wrap.** In a source of fewer than 2 ^ 48 bytes, however it is scanned and whatever
the settings, all numbers that are counted and computed for a function are exact. -/
theorem estimates_exact (scanning : Scanning) (source : String)
    (hsize : byteSize source.toList < 2 ^ 48) (settings : RuleSettings) :
    ∀ f ∈ (read scanning source).functions, f.IsExact scanning source.toList settings := by
  intro f hf
  obtain ⟨scanned, hpart, hbytes, hpatterns, hcomplexity⟩ := exists_scanned hf
  have hle : byteSize f.sourceCode.toList ≤ byteSize source.toList := by
    rw [← hbytes, ← scanning.byteSize_scan source.toList]
    exact byteSize_le_byteSize hpart
  have hlength : scanned.length ≤ byteSize f.sourceCode.toList := hbytes ▸ length_le_byteSize scanned
  have hgas : ∀ p ∈ f.patterns, p.IsExact (byteSize f.sourceCode.toList) := fun p hp => by
    have hexact := Pattern.isExact_of_mem_detect (hpatterns ▸ hp) (by omega)
    exact ⟨hexact.occurrences_le.trans hlength, hexact.estimatedGas_eq, hexact.estimatedGas_lt⟩
  have hsmall : (Subject.of f).IsSmall :=
    ⟨hle.trans_lt hsize, fun p hp => (hgas p hp).occurrences_le.trans_lt (hle.trans_lt hsize)⟩
  refine ⟨hle, (Subject.of f).countsUpTo, ⟨scanned, hpart, hbytes, hpatterns, ?_⟩, hgas, ?_,
    Rule.inquire?_eq settings hsmall, fun s hs => ?_⟩
  · rw [hpatterns]
    exact Pattern.detect?_eq (by omega)
  · rw [hcomplexity, hpatterns]
    exact Function.complexityOf?_eq (Pattern.length_detect_le scanned)
  · rw [Rule.inquire_eq_findings] at hs
    obtain ⟨rule, hrule, rfl⟩ := List.mem_map.1 hs
    obtain ⟨-, hfilter⟩ := List.mem_filter.1 hrule
    have happlies := (Bool.and_eq_true_iff.1 hfilter).2
    exact ⟨rule, rfl, Rule.saving_eq_exactSaving hsmall happlies⟩

/-- A source with a function that checks, writes and reads several times. -/
def ledgerSource : String :=
  "contract C \x7b function f() public \x7b require(a); require(b); require(c);\n" ++
    "x[i] = 1; y[i] = 2; z[i] = 3; w = 4; // v = 5\n\x7d \x7d"

/-- Its estimates are products of what is counted. The comment is hidden from the patterns, but not from
the rules. -/
theorem estimates_exact_ledger :
    byteSize ledgerSource.toList < 2 ^ 48 ∧
      (∀ scanning, ∀ f ∈ (read scanning ledgerSource).functions,
        f.IsExact scanning ledgerSource.toList .standard) ∧
      (read .masking ledgerSource).functions.map (fun f => (f.patterns.map (·.estimatedGas), f.complexity,
        (Rule.inquire .standard f).map (·.estimatedSaving))) =
          [([4 * 20000, 3 * 500], 5, [5 * 5000, 2 * 2100, 1000, 3 * 1000])] := by
  have hsize : byteSize ledgerSource.toList < 2 ^ 48 := by decide +kernel
  exact ⟨hsize, fun scanning => estimates_exact scanning ledgerSource hsize .standard, by decide +kernel⟩

end Contract

end GasAdvisor
