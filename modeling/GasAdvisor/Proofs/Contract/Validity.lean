import GasAdvisor.Proofs.Analysis.Outcomes
import GasAdvisor.Proofs.Contract.Declaration
import GasAdvisor.Proofs.Contract.Spacing
import GasAdvisor.Proofs.Text.Search
import GasAdvisor.Proofs.Text.Shapes

/-!
# Texts without any declaration

A contract carries the name for a text without any declaration in two cases
(`Contract.isInvalid_iff`): no word that starts a declaration stands alone in the masked source, or the
first declaration with a name has that very name. Both are told from the text:

* `Text.StandsAlone`: a word with no character of a word next to it;
* `Declaration.FirstNamed`: the name that the first declaration with a name has.

In the second case the contract is read like any other, functions included, and yet it is reported as
having no declaration (`Contract.declared_reported_undeclared`).
-/

namespace GasAdvisor

open Text

namespace Declaration

/-! ## Words that start a declaration -/

theorem isWhole_keywords : ∀ w ∈ keywords, w ≠ [] ∧ w.all isWord = true := by
  decide

theorem ne_nil_of_mem_keywords {w : List Char} (hw : w ∈ keywords) : w ≠ [] :=
  (isWhole_keywords w hw).1

theorem isWord_of_mem_keywords {w : List Char} (hw : w ∈ keywords) : ∀ c ∈ w, isWord c = true :=
  List.all_eq_true.1 (isWhole_keywords w hw).2

/-- No word that starts a declaration starts with another one. -/
theorem keywords_prefix_free : ∀ w ∈ keywords, ∀ w' ∈ keywords,
    w'.isPrefixOf w = true ∨ w.isPrefixOf w' = true → w' = w := by
  decide

variable {w : List Char} {before : Option Char} {code s name : List Char}

/-- **What follows a word that starts a declaration is looked for after it.** -/
theorem seq_keywords_append (hw : w ∈ keywords) (last : Shape) (before : Option Char)
    (s : List Char) :
    Shape.seq [.wordEdge, .oneOf keywords, last] before (w ++ s) =
      if before.any isWord then none
      else (last w.getLast? s).map fun found => (w ++ found.1, found.2) := by
  have hone (before : Option Char) : Shape.oneOf keywords before (w ++ s) = some (w, s) :=
    Shape.oneOf_append hw (keywords_prefix_free w hw) before s
  have hedge : Shape.wordEdge before (w ++ s) =
      if before.any isWord then none else some ([], w ++ s) := by
    obtain ⟨c, w', rfl⟩ := List.exists_cons_of_ne_nil (ne_nil_of_mem_keywords hw)
    have hc : isWord c = true := isWord_of_mem_keywords hw c List.mem_cons_self
    cases hbefore : before.any isWord <;> simp [Shape.wordEdge, hbefore, hc]
  have hlast (before : Option Char) : w.getLast?.or before = w.getLast? := by
    rw [List.getLast?_eq_some_getLast (ne_nil_of_mem_keywords hw), Option.some_or]
  show Shape.wordEdge.andThen ((Shape.oneOf keywords).andThen last) before (w ++ s) = _
  rw [Shape.andThen_eq_bind, hedge]
  cases before.any isWord with
  | true => rfl
  | false =>
    show ((Shape.oneOf keywords).andThen last _ (w ++ s)).map _ = _
    rw [Shape.andThen_eq_bind, hone, Option.bind_some, hlast, Option.map_map]
    rfl

/-- Nothing else starts a declaration. -/
theorem exists_keyword_of_seq {last : Shape} {found : List Char × List Char}
    (h : Shape.seq [.wordEdge, .oneOf keywords, last] before s = some found) :
    ∃ w ∈ keywords, ∃ rest, s = w ++ rest := by
  change Shape.wordEdge.andThen ((Shape.oneOf keywords).andThen last) before s = some found at h
  rw [Shape.andThen_eq_bind, Option.bind_eq_some_iff] at h
  obtain ⟨edge, hedge, h⟩ := h
  obtain rfl := Shape.wordEdge_eq_some hedge
  obtain ⟨more, hmore, -⟩ := Option.map_eq_some_iff.1 h
  rw [Shape.andThen_eq_bind, Option.bind_eq_some_iff] at hmore
  obtain ⟨found', hone, -⟩ := hmore
  obtain ⟨w, hw, hs⟩ := Shape.exists_of_oneOf hone
  exact ⟨w, hw, _, hs⟩

/-- **A declaration starts where one of the words stands that has no character of a word next to it.** -/
theorem isSome_keyword_iff :
    (keyword before s).isSome = true ↔
      before.any isWord = false ∧ ∃ w ∈ keywords, ∃ after, s = w ++ after ∧ Stops isWord after := by
  have edge {w : List Char} (hw : w ∈ keywords) (after : List Char) :
      (keyword before (w ++ after)).isSome = true ↔
        before.any isWord = false ∧ Stops isWord after := by
    have hend := any_isWord_getLast? (ne_nil_of_mem_keywords hw) (isWord_of_mem_keywords hw)
    rw [keyword, seq_keywords_append hw, stops_iff_head?, Shape.wordEdge, hend]
    cases before.any isWord <;> cases after.head?.any isWord <;> simp
  constructor
  · intro h
    obtain ⟨found, hfound⟩ := Option.isSome_iff_exists.1 h
    obtain ⟨w, hw, after, rfl⟩ := exists_keyword_of_seq hfound
    obtain ⟨hbefore, hafter⟩ := (edge hw after).1 h
    exact ⟨hbefore, w, hw, after, rfl, hafter⟩
  · rintro ⟨hbefore, w, hw, after, rfl, hafter⟩
    exact (edge hw after).2 ⟨hbefore, hafter⟩

/-- **Code declares something exactly if one of the words stands alone in it.** -/
theorem isPresent_iff : isPresent code = true ↔ ∃ w ∈ keywords, StandsAlone w code := by
  rw [isPresent, Shape.occurs, isSome_first?_iff]
  constructor
  · rintro ⟨u, v, rfl, -, hv⟩
    obtain ⟨hbefore, w, hw, after, rfl, hafter⟩ := isSome_keyword_iff.1 hv
    exact ⟨w, hw, u, after, rfl, hbefore, hafter⟩
  · rintro ⟨w, hw, before, after, rfl, hbefore, hafter⟩
    have hne : w ++ after ≠ [] := List.append_ne_nil_of_left_ne_nil (ne_nil_of_mem_keywords hw) _
    exact ⟨before, w ++ after, rfl, hne, isSome_keyword_iff.2 ⟨hbefore, w, hw, after, rfl, hafter⟩⟩

/-! ## Names -/

/-- A text starts with a declaration that has a name: one of the words, white space and the name. -/
def Names (s name : List Char) : Prop :=
  ∃ w ∈ keywords, ∃ gap after, s = w ++ (gap ++ (name ++ after)) ∧
    gap ≠ [] ∧ (∀ c ∈ gap, isBlank c = true) ∧
    name ≠ [] ∧ (∀ c ∈ name, isWord c = true) ∧ Stops isWord after

/-- The first declaration of a text that has a name has this one. -/
def FirstNamed (code name : List Char) : Prop :=
  ∃ before rest, code = before ++ rest ∧ EndsWords before ∧ Names rest name ∧
    ∀ before' rest' name', code = before' ++ rest' → before'.length < before.length →
      EndsWords before' → ¬ Names rest' name'

theorem nameAt_append (hw : w ∈ keywords) (before : Option Char) (s : List Char) :
    nameAt before (w ++ s) =
      if before.any isWord || !s.head?.any isBlank then none
      else if ((s.dropWhile isBlank).takeWhile isWord).isEmpty then none
      else some ((s.dropWhile isBlank).takeWhile isWord) := by
  rw [nameAt, seq_keywords_append hw, Shape.many1_eq]
  cases before.any isWord <;> cases s.head?.any isBlank <;> rfl

/-- **A name is found exactly where a declaration with this name starts.** -/
theorem nameAt_eq_some_iff :
    nameAt before s = some name ↔ before.any isWord = false ∧ Names s name := by
  constructor
  · intro h
    have hseq : ∃ found, Shape.seq [.wordEdge, .oneOf keywords, .many1 isBlank] before s =
        some found := by
      rw [← Option.isSome_iff_exists, ← Option.ne_none_iff_isSome]
      intro hnone
      rw [nameAt, hnone] at h
      cases h
    obtain ⟨found, hfound⟩ := hseq
    obtain ⟨w, hw, rest, rfl⟩ := exists_keyword_of_seq hfound
    rw [nameAt_append hw] at h
    split at h
    · cases h
    · next hstart =>
      obtain ⟨hbefore, hblank⟩ : before.any isWord = false ∧ rest.head?.any isBlank = true := by
        simpa using hstart
      split at h
      · cases h
      · next hname =>
        obtain rfl := Option.some.inj h
        refine ⟨hbefore, w, hw, rest.takeWhile isBlank,
          (rest.dropWhile isBlank).dropWhile isWord, ?_, fun hnil => ?_,
          fun c => of_mem_takeWhile, by simpa using hname, fun c => of_mem_takeWhile,
          stops_dropWhile isWord _⟩
        · rw [List.takeWhile_append_dropWhile, List.takeWhile_append_dropWhile]
        · cases rest with
          | nil => cases hblank
          | cons c rest =>
            have hc : isBlank c = true := hblank
            rw [List.takeWhile_cons_of_pos hc] at hnil
            cases hnil
  · rintro ⟨hbefore, w, hw, gap, after, rfl, hgap, hblank, hname, hword, hafter⟩
    have hstop : Stops isBlank (name ++ after) := stops_isBlank_of_word hname hword
    have hfront : (gap ++ (name ++ after)).head?.any isBlank = true := by
      obtain ⟨c, gap', rfl⟩ := List.exists_cons_of_ne_nil hgap
      exact hblank c List.mem_cons_self
    rw [nameAt_append hw, hbefore, hfront, dropWhile_append_of_stop hblank hstop,
      takeWhile_append_of_stop hword hafter]
    simp [hname]

/-- **The name of a text is that of the first declaration that has one.** -/
theorem first?_nameAt_eq_some_iff : first? nameAt code = some name ↔ FirstNamed code name := by
  rw [first?_eq_some_iff]
  constructor
  · rintro ⟨u, v, hcode, -, hv, hearlier⟩
    obtain ⟨hends, hnames⟩ := nameAt_eq_some_iff.1 hv
    refine ⟨u, v, hcode, hends, hnames, fun u' v' name' hcode' hlt hends' hnames' => ?_⟩
    have hnone := hearlier u' v' hcode' hlt
    rw [nameAt_eq_some_iff.2 ⟨hends', hnames'⟩] at hnone
    cases hnone
  · rintro ⟨u, v, hcode, hends, hnames, hearlier⟩
    refine ⟨u, v, hcode, ?_, nameAt_eq_some_iff.2 ⟨hends, hnames⟩, fun u' v' hcode' hlt => ?_⟩
    · obtain ⟨w, hw, gap, after, rfl, -⟩ := hnames
      exact List.append_ne_nil_of_left_ne_nil (ne_nil_of_mem_keywords hw) _
    · refine Option.eq_none_iff_forall_ne_some.2 fun name' h => ?_
      obtain ⟨hends', hnames'⟩ := nameAt_eq_some_iff.1 h
      exact hearlier u' v' name' hcode' hlt hends' hnames'

/-- The name for a text without any declaration is read off a text like any other name. -/
theorem name_eq_invalidName_iff :
    Declaration.name code = Contract.invalidName ↔ FirstNamed code Contract.invalidName.toList := by
  rw [← first?_nameAt_eq_some_iff, Declaration.name]
  cases first? nameAt code with
  | none => exact iff_of_false (by decide) (by simp)
  | some found =>
    rw [Option.some.injEq]
    exact ⟨fun h => by rw [← h, String.toList_ofList], fun h => by
      subst h
      exact String.ofList_toList⟩

end Declaration

namespace Contract

/-! ## Contracts without any declaration -/

/-- A source that declares nothing: in its masked form none of the words that start a declaration
stands alone. -/
def DeclaresNothing (source : String) : Prop :=
  ∀ w ∈ Declaration.keywords, ¬ StandsAlone w (mask source.toList)

/-- A source whose first declaration with a name has the name that stands for a text without any. -/
def DeclaresInvalid (source : String) : Prop :=
  Declaration.FirstNamed (mask source.toList) invalidName.toList

theorem declaresNothing_iff (source : String) :
    DeclaresNothing source ↔ Declaration.isPresent (mask source.toList) = false := by
  rw [← Bool.not_eq_true, Declaration.isPresent_iff, DeclaresNothing]
  exact ⟨fun h ⟨w, hw, halone⟩ => h w hw halone, fun h w hw halone => h ⟨w, hw, halone⟩⟩

/-- A declaration with a name is a declaration. -/
theorem DeclaresInvalid.not_declaresNothing {source : String} (h : DeclaresInvalid source) :
    ¬ DeclaresNothing source := by
  obtain ⟨before, rest, hsource, hends, ⟨w, hw, gap, after, rfl, hne, hblank, -⟩, -⟩ := h
  exact fun hnothing =>
    hnothing w hw ⟨before, gap ++ _, hsource, hends, stops_isWord_of_blank hne hblank⟩

/-- **The two ways to carry the name for a text without any declaration.** -/
theorem isInvalid_iff (scanning : Scanning) (source : String) :
    (read scanning source).isInvalid = true ↔ DeclaresNothing source ∨ DeclaresInvalid source := by
  rw [isInvalid, decide_eq_true_eq, name_read, declaresNothing_iff]
  by_cases hpresent : Declaration.isPresent (mask source.toList) = true
  · rw [if_pos hpresent, Declaration.name_eq_invalidName_iff, hpresent]
    simp [DeclaresInvalid]
  · rw [if_neg hpresent]
    exact iff_of_true rfl (.inl (Bool.eq_false_iff.2 hpresent))

/-- Where nothing is declared there are no functions. -/
theorem functions_read_of_declaresNothing {source : String} (h : DeclaresNothing source)
    (scanning : Scanning) : (read scanning source).functions = [] := by
  have hdeclares : declares scanning source = false :=
    (declares_eq scanning source).trans ((declaresNothing_iff source).1 h)
  rw [read_of_not_declares hdeclares]
  rfl

end Contract

namespace Analyzer

variable (analyzer : Analyzer) (replies : Nat → Reply) (source file : String) (costs : Costs)

/-- The reading of a source is reported on in one diagnostic or in none. -/
theorem filter_parser_diagnostics :
    (analyzer.analyzeReplied replies source file costs).1.diagnostics.filter
        (·.origin = "parser") =
      if (Contract.read analyzer.scanning source).isInvalid then [noDeclaration] else [] := by
  rw [diagnostics_analyzeReplied, List.filter_append]
  have hreports : ((Contract.read analyzer.scanning source).functions.zipIdx.filterMap fun p =>
      report? p.1 ((replies p.2).within analyzer.patience)).filter (·.origin = "parser") = [] := by
    refine List.filter_eq_nil_iff.2 fun report hreport => ?_
    obtain ⟨p, -, hp⟩ := List.mem_filterMap.1 hreport
    obtain ⟨e, -, rfl⟩ := report?_eq_some_iff.1 hp
    simp
  rw [hreports, List.append_nil]
  split <;> rfl

end Analyzer

namespace Contract

/-- **When a contract carries the name for a text without any declaration.** It does, however its
source is scanned, exactly if the source declares nothing or if its first declaration with a name has
that very name; both cannot be. An analysis, whatever a provider replies, says once that nothing is
declared if the contract carries the name, and not at all otherwise. A contract with functions of
which that is said is one whose declaration has the name. -/
theorem isInvalid_read_iff (source : String) :
    (∀ scanning, (read scanning source).isInvalid = true ↔
      DeclaresNothing source ∨ DeclaresInvalid source) ∧
    ¬ (DeclaresNothing source ∧ DeclaresInvalid source) ∧
    (∀ (analyzer : Analyzer) (replies : Nat → Reply) (file : String) (costs : Costs),
      (analyzer.analyzeReplied replies source file costs).1.diagnostics.filter
          (·.origin = "parser") =
        if (read analyzer.scanning source).isInvalid then
          [⟨"parser", "No contract, interface or library declaration found"⟩]
        else []) ∧
    ∀ scanning, (read scanning source).isInvalid = true →
      (read scanning source).functions ≠ [] → DeclaresInvalid source := by
  refine ⟨fun scanning => isInvalid_iff scanning source,
    fun h => h.2.not_declaresNothing h.1,
    fun analyzer replies file costs => analyzer.filter_parser_diagnostics replies source file costs,
    fun scanning hinvalid hfunctions => ?_⟩
  rcases (isInvalid_iff scanning source).1 hinvalid with hnothing | hnamed
  · exact absurd (functions_read_of_declaresNothing hnothing scanning) hfunctions
  · exact hnamed

/-- A contract that is declared under the name for a text without any declaration. -/
def invalidNameSource : String :=
  "contract InvalidContract \x7b function f() external pure \x7b\x7d \x7d"

/-- **A declared contract may be reported as undeclared**, functions and all. -/
theorem declared_reported_undeclared :
    ¬ DeclaresNothing invalidNameSource ∧
      (read .text invalidNameSource).isInvalid = true ∧
      (read .text invalidNameSource).functions.map (·.name) = ["f"] ∧
      (read .masking invalidNameSource).isInvalid = true ∧
      (read .masking invalidNameSource).functions.map (·.name) = ["f"] ∧
      ((Analyzer.ofConfiguration .standard).analyze invalidNameSource "C.sol" .empty).diagnostics =
        [⟨"parser", "No contract, interface or library declaration found"⟩] := by
  refine ⟨fun h => ?_, by decide +kernel, by decide +kernel, by decide +kernel, by decide +kernel,
    by decide +kernel⟩
  have hmask : mask invalidNameSource.toList =
      [] ++ ("contract".toList ++
        " InvalidContract \x7b function f() external pure \x7b\x7d \x7d".toList) := by
    decide +kernel
  have hafter : Stops isWord " InvalidContract \x7b function f() external pure \x7b\x7d \x7d".toList :=
    stops_iff_head?.2 (by decide +kernel)
  exact h "contract".toList (by decide) ⟨[], _, hmask, rfl, hafter⟩

end Contract

end GasAdvisor
