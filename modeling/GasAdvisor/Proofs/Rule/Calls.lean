import GasAdvisor.Proofs.Contract.Declared
import GasAdvisor.Proofs.Rule.Findings
import GasAdvisor.Proofs.Text.Shapes

/-!
# Calls of a function in its own text

A function is taken to be called internally if its text has two calls or more, as the declaration itself
looks like one. So it is, wherever its body calls it, if the declaration is plain; and then it is not
advised to become external.

* A call is the name as a whole word with a parenthesis behind it, or with white space in between
  (`Evidence.callOf_eq_some_iff`), and the calls of a text are counted apart before and after the brace
  that opens the body (`Evidence.count_append_cons`).
* A plain declaration has that form in the source (`Declared.IsOf.hasCall_head`). One with a comment
  between the name and the parenthesis does not, and one call in the body is then not enough
  (`Contract.commented_declaration_uncounted`).
* `Contract.forall₂_isCalledInternally_iff` says when a function that its body calls is taken to be
  called, for every source.
-/

namespace GasAdvisor

open Text

namespace Evidence

variable {name : List Char} {before : Option Char} {s : List Char}

/-- A name stands in a text as a whole word, with a parenthesis behind it or white space and then a
parenthesis. -/
def HasCall (name text : List Char) : Prop :=
  ∃ before gap after, text = before ++ (name ++ (gap ++ '(' :: after)) ∧ EndsWords before ∧
    ∀ c ∈ gap, isBlank c = true

/-- **What a call matches.** -/
theorem callOf_eq_some_iff (hne : name ≠ []) (hword : ∀ c ∈ name, isWord c = true)
    {found : List Char × List Char} :
    callOf name before s = some found ↔
      before.any isWord = false ∧ ∃ gap, (∀ c ∈ gap, isBlank c = true) ∧
        found.1 = name ++ (gap ++ ['(']) ∧ s = found.1 ++ found.2 := by
  obtain ⟨c, rest, rfl⟩ := List.exists_cons_of_ne_nil hne
  have hc : isWord c = true := hword c List.mem_cons_self
  constructor
  · intro h
    obtain ⟨edge, tail, hedge, htail, rfl⟩ := Shape.andThen_eq_some_iff.1 h
    obtain rfl := Shape.wordEdge_eq_some hedge
    obtain ⟨word, tail', hliteral, htail', rfl⟩ := Shape.andThen_eq_some_iff.1 htail
    obtain ⟨gap, paren, hgap, hparen, rfl⟩ := Shape.andThen_eq_some_iff.1 htail'
    obtain ⟨hs, hname⟩ := Shape.yields_literal _ _ _ _ hliteral
    obtain ⟨hafter, hblank⟩ := Shape.yields_many _ _ _ _ hgap
    obtain ⟨hrest, d, hd, hparen⟩ := Shape.yields_one _ _ _ _ hparen
    obtain rfl : d = '(' := of_decide_eq_true hd
    replace hs : s = word.1 ++ word.2 := hs
    refine ⟨?_, gap.1, hblank, ?_, ?_⟩
    · unfold Shape.wordEdge at hedge
      rw [hs, hname, List.cons_append, List.head?_cons, Option.any_some, hc] at hedge
      split at hedge
      · next hedge' => simpa using hedge'
      · cases hedge
    · rw [hname, hparen, List.nil_append]
    · rw [hs, hafter, hrest, List.nil_append]
      simp only [List.append_assoc]
  · rintro ⟨hbefore, gap, hgap, hfound, hs⟩
    obtain ⟨matched, after⟩ := found
    obtain rfl : matched = (c :: rest) ++ (gap ++ ['(']) := hfound
    obtain rfl : s = (c :: rest) ++ (gap ++ '(' :: after) := by simpa using hs
    have hedge : Shape.wordEdge before ((c :: rest) ++ (gap ++ '(' :: after)) =
        some ([], (c :: rest) ++ (gap ++ '(' :: after)) := by
      rw [Shape.wordEdge, hbefore, List.cons_append, List.head?_cons, Option.any_some, hc]
      rfl
    have hstop : Stops isBlank ('(' :: after) := stops_cons.2 (by decide)
    rw [← List.nil_append ((c :: rest) ++ (gap ++ ['(']))]
    refine Shape.andThen_of_some hedge fun before => ?_
    refine Shape.andThen_of_some (Shape.literal_append _ before _) fun before => ?_
    exact Shape.andThen_of_some (Shape.many_append hgap hstop before) fun before =>
      Shape.one_cons (by decide) before after

theorem count_pos_iff (hne : name ≠ []) (hword : ∀ c ∈ name, isWord c = true) {text : List Char} :
    0 < (callOf name).count text ↔ HasCall name text := by
  rw [Shape.count, List.length_pos_iff, hits_ne_nil_iff]
  constructor
  · rintro ⟨before, rest, rfl, -, hfound⟩
    rw [Shape.find, Option.isSome_map] at hfound
    obtain ⟨found, hfound⟩ := Option.isSome_iff_exists.1 hfound
    obtain ⟨hbefore, gap, hgap, hmatched, rfl⟩ := (callOf_eq_some_iff hne hword).1 hfound
    refine ⟨before, gap, found.2, ?_, hbefore, hgap⟩
    rw [hmatched]
    simp only [List.append_assoc, List.cons_append, List.nil_append]
  · rintro ⟨before, gap, after, rfl, hbefore, hgap⟩
    have hfound : callOf name before.getLast? (name ++ (gap ++ '(' :: after)) =
        some (name ++ (gap ++ ['(']), after) :=
      (callOf_eq_some_iff hne hword).2 ⟨hbefore, gap, hgap, rfl, by simp⟩
    refine ⟨before, _, rfl, by simp, ?_⟩
    rw [Shape.find, hfound]
    rfl

/-- What is matched of a text stands before a character that no call holds. -/
theorem size_callOf_append_cons (hne : name ≠ []) (hword : ∀ c ∈ name, isWord c = true) {c : Char}
    (hc : isWord c = false) (hblank : isBlank c = false) (hparen : c ≠ '(') {a : List Char}
    (ha : a ≠ []) (b : List Char) :
    ((callOf name).find before (a ++ c :: b)).map Prod.snd =
      ((callOf name).find before a).map Prod.snd := by
  ext size
  simp only [Shape.find, Option.map_map, Option.map_eq_some_iff, callOf_eq_some_iff hne hword]
  constructor
  · rintro ⟨⟨matched, rest⟩, ⟨hbefore, gap, hgap, hmatched, hsplit⟩, rfl⟩
    obtain rfl : matched = name ++ (gap ++ ['(']) := hmatched
    have hfree : c ∉ name ++ (gap ++ ['(']) := by
      simp only [List.mem_append, List.mem_singleton, not_or]
      refine ⟨fun hmem => ?_, fun hmem => ?_, hparen⟩
      · rw [hword c hmem] at hc
        cases hc
      · rw [hgap c hmem] at hblank
        cases hblank
    rcases List.append_eq_append_iff.1 hsplit with ⟨more, hmore, hrest⟩ | ⟨more, rfl, -⟩
    · cases more with
      | nil =>
        rw [List.append_nil] at hmore
        exact ⟨⟨_, []⟩, ⟨hbefore, gap, hgap, rfl, by rw [hmore, List.append_nil]⟩, rfl⟩
      | cons d more =>
        obtain rfl : c = d := (List.cons.inj hrest).1
        change name ++ (gap ++ ['(']) = a ++ c :: more at hmore
        rw [hmore] at hfree
        exact absurd (List.mem_append_right a List.mem_cons_self) hfree
    · exact ⟨⟨_, more⟩, ⟨hbefore, gap, hgap, rfl, rfl⟩, rfl⟩
  · rintro ⟨⟨matched, rest⟩, ⟨hbefore, gap, hgap, hmatched, rfl⟩, rfl⟩
    exact ⟨⟨matched, rest ++ c :: b⟩, ⟨hbefore, gap, hgap, hmatched, by simp⟩, rfl⟩

/-- **Calls are counted apart before and after a character that no call holds.** -/
theorem count_append_cons (hne : name ≠ []) (hword : ∀ c ∈ name, isWord c = true) {c : Char}
    (hc : isWord c = false) (hblank : isBlank c = false) (hparen : c ≠ '(') (a b : List Char) :
    (callOf name).count (a ++ c :: b) = (callOf name).count a + (callOf name).count (c :: b) := by
  refine length_hits_append_cons (fun before s => ?_)
    (fun before a b ha => size_callOf_append_cons hne hword hc hblank hparen ha b)
    (fun before a found hfound => ?_) a b
  · rw [Shape.find, Option.map_eq_none_iff, Option.eq_none_iff_forall_ne_some]
    intro found hfound
    obtain ⟨-, gap, -, hmatched, hsplit⟩ := (callOf_eq_some_iff hne hword).1 hfound
    obtain ⟨d, name, rfl⟩ := List.exists_cons_of_ne_nil hne
    rw [hmatched] at hsplit
    obtain rfl : c = d := (List.cons.inj hsplit).1
    rw [hword c List.mem_cons_self] at hc
    cases hc
  · obtain ⟨matched, hmatched, rfl⟩ := Option.map_eq_some_iff.1 hfound
    obtain ⟨-, -, -, -, rfl⟩ := (callOf_eq_some_iff hne hword).1 hmatched
    rw [List.length_append]
    exact Nat.le_add_right _ _

/-- **A call in the body needs one call more**, in the header or in the body. -/
theorem isCalledInternally_iff (hne : name ≠ []) (hword : ∀ c ∈ name, isWord c = true)
    {head body : List Char} (hbody : HasCall name ('{' :: body)) :
    isCalledInternally (head ++ '{' :: body) name = true ↔
      HasCall name head ∨ 1 < (callOf name).count ('{' :: body) := by
  have hempty : name.isEmpty = false := by simpa using hne
  have hbrace : isWord '{' = false := by decide
  have hcount := count_append_cons hne hword hbrace (by decide) (by decide) head body
  rw [← count_pos_iff hne hword] at hbody ⊢
  rw [isCalledInternally, isCalledInternallyBy, hempty, hcount, Bool.not_false, Bool.true_and,
    Bool.true_and, decide_eq_true_eq]
  omega

/-- **A name that cannot be searched for counts as not called**, and any other one as it does when every
name can be. -/
theorem isCalledInternallyBy_eq (searchable : List Char → Bool) (code name : List Char) :
    isCalledInternallyBy searchable code name = (searchable name && isCalledInternally code name) := by
  rw [isCalledInternally, isCalledInternallyBy, isCalledInternallyBy, Bool.and_true, Bool.and_assoc,
    Bool.and_left_comm]

end Evidence

open Evidence

/-- **When a public function is advised to become external.** -/
theorem Rule.external_suggested_iff {settings : RuleSettings} {f : Function} :
    some Rule.external.id ∈ (inquire settings f).map (·.rule) ↔
      settings.isDisabled Rule.external.id = false ∧ f.visibility = .public ∧
        isCalledInternally f.sourceCode.toList f.name.toList = false := by
  rw [mem_rules_inquire_iff]
  refine and_congr_right fun _ => ?_
  show (decide (f.visibility = .public) && !isCalledInternally _ _) = true ↔ _
  rw [Bool.and_eq_true, decide_eq_true_iff, Bool.not_eq_true']
  rfl

/-- **A plain declaration looks like a call.** -/
theorem Declared.IsOf.hasCall_head {d : Declared} {site : Site} {scanning : Scanning}
    {source : List Char} (h : d.IsOf site) (hheader : site.header.WellFormed)
    (hin : d.whole <:+: scanning.glyphs source) (hplain : d.IsPlain) : HasCall d.name d.head :=
  ⟨d.lead.map Glyph.char, d.gap.map Glyph.char, d.rest.map Glyph.char, rfl,
    h.endsWords hheader hin, hplain⟩

namespace Contract

/-- **When a function that its body calls is taken to be called.** The text of a function is set apart at
its name, its first parenthesis and the brace that opens its body. If there is a call in the body, the
function is taken to be called exactly if its header has one as well or the body has two. A plain
declaration is one in the header, and it is plain exactly if nothing is hidden between the name and the
parenthesis, as always in a text that is scanned as it stands. A public function is advised to become
external, unless that rule is switched off, exactly if it is not taken to be called.

All this is so when every name can be searched for. Where only some names can be, a function of such a name
is taken to be called in the same cases, and any other function is not. -/
theorem forall₂_isCalledInternally_iff (scanning : Scanning) (source : String) :
    List.Forall₂ (fun (site : Site) (f : Function) =>
        ∃ d : Declared, d.IsOf site ∧ d.whole <:+: scanning.glyphs source.toList ∧
          f.name.toList = d.name ∧ f.sourceCode.toList = d.head ++ d.block ∧
          (HasCall d.name d.block →
            (isCalledInternally f.sourceCode.toList f.name.toList = true ↔
              HasCall d.name d.head ∨ 1 < (callOf d.name).count d.block)) ∧
          (d.IsPlain → HasCall d.name d.head) ∧
          (d.IsPlain ↔ ∀ g ∈ d.gap, g.visible = true) ∧
          (scanning = .text → d.IsPlain) ∧
          (∀ searchable : List Char → Bool,
            isCalledInternallyBy searchable f.sourceCode.toList f.name.toList =
              (searchable d.name && isCalledInternally f.sourceCode.toList f.name.toList)) ∧
          ∀ settings, some Rule.external.id ∈ (Rule.inquire settings f).map (·.rule) ↔
            settings.isDisabled Rule.external.id = false ∧ f.visibility = .public ∧
              isCalledInternally f.sourceCode.toList f.name.toList = false)
      (sites scanning source) (read scanning source).functions := by
  rw [functions_read, List.forall₂_map_right_iff, List.forall₂_same]
  intro site hsite
  have h := liesIn_of_mem_sites hsite
  obtain ⟨d, hof, hin, hsource⟩ := h.exists_declared
  have hne : d.name ≠ [] := hof.name ▸ h.header.name_ne
  have hword : ∀ c ∈ d.name, isWord c = true := hof.name ▸ h.header.name
  have hname : (site.function (scanning.cells source.toList)
      (Site.lineAt (scanning.cells source.toList) site.start)).name.toList = d.name := by
    rw [Site.function, String.toList_ofList, hof.name]
  have hcode : (site.function (scanning.cells source.toList)
      (Site.lineAt (scanning.cells source.toList) site.start)).sourceCode.toList =
        d.head ++ d.block := by
    rw [Site.function, String.toList_ofList]
    exact hsource
  refine ⟨d, hof, hin, hname, hcode, fun hcall => ?_, hof.hasCall_head h.header hin,
    hof.isPlain_iff h.header hin, ?_, fun searchable => ?_, fun settings => Rule.external_suggested_iff⟩
  · rw [hcode, hname]
    exact isCalledInternally_iff hne hword hcall
  · rintro rfl
    exact hof.isPlain_of_text h.header hin
  · rw [isCalledInternallyBy_eq, hname]

/-- A source with a comment between the name of a function and its parenthesis. -/
def commentedDeclarationSource : String :=
  "contract C \x7b function f/**/() public \x7b f(); \x7d \x7d"

/-- **A declaration with a comment after the name is not counted**: the body calls the function, which is
taken not to be called all the same, and advised to become external. -/
theorem commented_declaration_uncounted :
    ∃ f ∈ (read .masking commentedDeclarationSource).functions,
      f.name = "f" ∧ f.sourceCode = "function f/**/() public \x7b f(); \x7d" ∧
      HasCall "f".toList "\x7b f(); \x7d".toList ∧
      isCalledInternally f.sourceCode.toList f.name.toList = false ∧
      some Rule.external.id ∈ (Rule.inquire .standard f).map (·.rule) := by
  have key : (read .masking commentedDeclarationSource).functions.map
      (fun f => (f.name, f.visibility, f.sourceCode)) =
        [("f", .public, "function f/**/() public \x7b f(); \x7d")] := by
    decide +kernel
  obtain ⟨f, hf, hparts⟩ : ∃ f ∈ (read .masking commentedDeclarationSource).functions,
      (f.name, f.visibility, f.sourceCode) =
        ("f", .public, "function f/**/() public \x7b f(); \x7d") := by
    rw [← List.mem_map, key]
    exact List.mem_singleton_self _
  obtain ⟨hname, hparts⟩ := Prod.mk.inj hparts
  obtain ⟨hvisibility, hcode⟩ := Prod.mk.inj hparts
  have hcalled : isCalledInternally f.sourceCode.toList f.name.toList = false := by
    rw [hname, hcode]
    decide +kernel
  exact ⟨f, hf, hname, hcode, ⟨"\x7b ".toList, [], "); \x7d".toList, rfl, rfl, nofun⟩, hcalled,
    Rule.external_suggested_iff.2 ⟨rfl, hvisibility, hcalled⟩⟩

end Contract

end GasAdvisor
