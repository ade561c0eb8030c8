import GasAdvisor.Contract.Qualification
import GasAdvisor.Proofs.Contract.PrintedHeader
import GasAdvisor.Proofs.Contract.Slicing
import GasAdvisor.Proofs.Text.Expression
import GasAdvisor.Proofs.Text.Spaced
import Mathlib.Data.List.Forall2

/-!
# What qualifiers declare

What is read in a part of a text comes from the qualifiers that are found there, one after the other
(`Qualification.read?_eq`). In items with white space between them, one qualifier is found for each item
(`QualifierForm.forall₂_values`), so what is read is what the items declare. White space after an item
is taken with it if it has no parentheses, and is passed over otherwise.

The qualifiers of any text are those that a search for `Qualifier.expression` finds
(`Qualifier.occurrences_eq`).
-/

namespace GasAdvisor

open Text

/-- What is picked from two lists is the same if it is the same of any two partners. -/
theorem filterMap_eq_of_forall₂ {α β γ : Type} {R : α → β → Prop} {xs : List α} {ys : List β}
    (h : List.Forall₂ R xs ys) {f : α → Option γ} {g : β → Option γ}
    (hR : ∀ x y, R x y → g y = f x) : ys.filterMap g = xs.filterMap f := by
  induction h with
  | nil => rfl
  | cons hxy _ ih => rw [List.filterMap_cons, List.filterMap_cons, hR _ _ hxy, ih]

/-! ## Qualifiers found in a text -/

/-- The qualifiers that are found in a text. -/
def Qualifier.found (list : List Char) : List (Hit Qualifier) :=
  hits (fun _ s => FoundQualifier.find s) list

theorem FoundQualifier.all_eq (list : List Char) :
    all list = (Qualifier.found list).map fun hit => place list hit.index hit.value := rfl

/-- A qualifier that is found stands at the front of the text, without white space before it. -/
theorem FoundQualifier.find_eq_some {s : List Char} {q : Qualifier} {size : Nat}
    (h : find s = some (q, size)) : q.WellFormed ∧ ∃ rest, s = q.body ++ rest := by
  unfold find at h
  split at h
  · cases h
  · next q' rest hread =>
    split at h
    · next hlead =>
      obtain ⟨rfl, -⟩ := Prod.mk.inj (Option.some.inj h)
      obtain ⟨hq, rfl⟩ := Qualifier.read?_eq_some hread
      exact ⟨hq, rest, by rw [Qualifier.text, List.isEmpty_iff.1 hlead, List.nil_append]⟩
    · cases h

theorem Qualifier.exists_of_mem_found {list : List Char} {hit : Hit Qualifier}
    (h : hit ∈ found list) :
    ∃ u v, list = u ++ (hit.value.body ++ v) ∧ hit.index = u.length := by
  obtain ⟨u, v, size, rfl, hindex, -, hfind⟩ := exists_of_mem_hitsFrom h
  obtain ⟨-, rest, rfl⟩ := FoundQualifier.find_eq_some hfind
  exact ⟨u, rest, rfl, by omega⟩

/-! ## What is read of them -/

namespace Qualification

/-- What qualifiers declare. -/
def ofQualifiers (qs : List Qualifier) : Qualification where
  visibility := (qs.filterMap Qualifier.visibility?).head?.getD .public
  mutability := (qs.filterMap Qualifier.mutability?).head?.getD .nonpayable
  returns := (qs.filterMap Qualifier.returns?).getLast?.map fun r => String.ofList (trim r)
  modifiers := qs.filterMap Qualifier.modifier?

variable (before list after : List Char)

/-- A part of a text is sliced where it stands in the text. -/
theorem slice?_shift {list part : List Char} {span : Text.Span} (h : slice? list span = some part) :
    slice? (before ++ (list ++ after)) (span.shift (byteSize before)) = some part := by
  obtain ⟨u, v, rfl, hstart, hstop⟩ := slice?_eq_some_iff.1 h
  refine slice?_eq_some_iff.2 ⟨before ++ u, v ++ after, by simp, ?_, ?_⟩
  · rw [byteSize_append, hstart]
    rfl
  · rw [List.append_assoc, byteSize_append, hstop]
    rfl

variable {hit : Hit Qualifier}

/-- **A qualifier that is found is sliced out of the text.** -/
theorem slice?_whole (h : hit ∈ Qualifier.found list) :
    slice? (before ++ (list ++ after))
        ((FoundQualifier.place list hit.index hit.value).whole.shift (byteSize before)) =
      some hit.value.body := by
  obtain ⟨u, v, hlist, hindex⟩ := Qualifier.exists_of_mem_found h
  refine slice?_shift before after ?_
  rw [FoundQualifier.place, slice?_spanAt, stretch_middle hlist hindex]

/-- **What stands between its parentheses is sliced out of the text.** -/
theorem slice?_arguments (h : hit ∈ Qualifier.found list) :
    (FoundQualifier.place list hit.index hit.value).arguments.map
        (fun span => slice? (before ++ (list ++ after)) (span.shift (byteSize before))) =
      hit.value.arguments.map some := by
  obtain ⟨u, v, hlist, hindex⟩ := Qualifier.exists_of_mem_found h
  cases ha : hit.value.arguments with
  | none => simp [FoundQualifier.place, ha]
  | some arguments =>
    have hsplit : list = (u ++ (hit.value.word ++ hit.value.gap ++ ['('])) ++
        (arguments ++ (')' :: v)) := by
      rw [hlist, Qualifier.body, Qualifier.argumentsText, ha]
      simp
    have hslice : slice? list (spanAt list
        (hit.index + (hit.value.word.length + hit.value.gap.length + 1)) arguments.length) =
          some arguments := by
      rw [slice?_spanAt, stretch_middle hsplit]
      rw [hindex]
      simp only [List.length_append, List.length_cons, List.length_nil]
    simp only [FoundQualifier.place, ha, Option.map_some, slice?_shift before after hslice]

/-- What the returns clauses among them have between parentheses is sliced out of the text. -/
theorem mapM_returns :
    (((FoundQualifier.all list).filter (·.word = "returns")).filterMap (·.arguments)).mapM
        (fun span => slice? (before ++ (list ++ after)) (span.shift (byteSize before))) =
      some ((Qualifier.found list).filterMap (·.value.returns?)) := by
  rw [List.filterMap_filter, FoundQualifier.all_eq, List.filterMap_map]
  refine mapM_filterMap fun hit h => ?_
  show Option.map _ (if decide (hit.value.string = "returns") = true then _ else none) = _
  rw [Qualifier.returns?]
  by_cases hword : hit.value.string = "returns"
  · rw [if_pos (decide_eq_true hword), if_pos hword]
    exact slice?_arguments before list after h
  · rw [if_neg (by simpa using hword), if_neg hword]
    rfl

/-- The modifiers among them are sliced out of the text. -/
theorem mapM_modifiers :
    (((FoundQualifier.all list).filter (·.isModifier)).map (·.whole)).mapM
        (fun span => slice? (before ++ (list ++ after)) (span.shift (byteSize before))) =
      some ((Qualifier.found list).filterMap fun hit =>
        if PlacedQualifier.isModifier ⟨hit.index, hit.value⟩ then some hit.value.body else none) := by
  rw [← List.filterMap_eq_map, List.filterMap_filter, FoundQualifier.all_eq, List.filterMap_map]
  refine mapM_filterMap fun hit h => ?_
  show Option.map _
    (if PlacedQualifier.isModifier ⟨hit.index, hit.value⟩ = true then _ else none) = _
  split
  · exact congrArg some (slice?_whole before list after h)
  · rfl

/-- **What is read in a part of a text is what the qualifiers declare that are found there.** -/
theorem read?_eq :
    read? (before ++ (list ++ after)) (before ++ (list ++ after))
        ⟨byteSize before, byteSize before + byteSize list⟩ =
      some (ofQualifiers ((Qualifier.found list).map (·.value))) := by
  have hlist : slice? (before ++ (list ++ after))
      ⟨byteSize before, byteSize before + byteSize list⟩ = some list :=
    slice?_eq_some_iff.2 ⟨before, after, by simp, rfl, byteSize_append before list⟩
  have hbody (q : Qualifier) (index : Nat) :
      (if PlacedQualifier.isModifier ⟨index, q⟩ then some q.body else none).map
        (fun modifier => String.ofList (trim modifier)) = q.modifier? := by
    simp only [PlacedQualifier.isModifier_iff, Qualifier.modifier?]
    split <;> rfl
  rw [read?, hlist]
  simp only [Option.bind_eq_bind, Option.bind_some, mapM_returns, mapM_modifiers]
  simp only [FoundQualifier.all_eq, List.map_filterMap, hbody, ofQualifiers, List.filterMap_map,
    List.findSome?_map, List.head?_filterMap]
  rfl

/-- **Reading a function reads its qualification.** -/
theorem read?_of_function? {source scan : List Char} {line stop : Nat} {header : PlacedHeader}
    {f : Function} (h : header.function? source scan line stop = some f) :
    read? source scan header.qualifiers = some f.qualification := by
  unfold PlacedHeader.function? at h
  obtain ⟨list, hlist, h⟩ := Option.bind_eq_some_iff.1 h
  obtain ⟨returns, hreturns, h⟩ := Option.bind_eq_some_iff.1 h
  obtain ⟨modifiers, hmodifiers, h⟩ := Option.bind_eq_some_iff.1 h
  obtain ⟨_, -, h⟩ := Option.bind_eq_some_iff.1 h
  obtain ⟨_, -, h⟩ := Option.bind_eq_some_iff.1 h
  obtain ⟨_, -, h⟩ := Option.bind_eq_some_iff.1 h
  obtain rfl := Option.some.inj h
  unfold read?
  simp only [hlist, hreturns, hmodifiers, Option.bind_eq_bind, Option.bind_some]
  rfl

/-- The span of a part of a text. -/
theorem spanAt_middle (before list after : List Char) :
    spanAt (before ++ (list ++ after)) before.length list.length =
      ⟨byteSize before, byteSize before + byteSize list⟩ := by
  rw [spanAt, byteOffset_append, byteOffset_append_right, byteOffset_append]

/-- The qualification of a function comes from the text of its qualifiers alone. -/
theorem of_foundIn {site : Site} {source before rest : List Char}
    (h : site.FoundIn source before rest) (line : Nat) :
    (site.function (Cell.ofText source) line).qualification =
      ofQualifiers ((Qualifier.found site.header.qualifiersText).map (·.value)) := by
  have hscan : Scanning.text.scan source = source := Cell.map_char_ofText source
  have hplace := @PlacedHeader.function?_place site .text source before rest (hscan.symm ▸ h) line
  rw [hscan] at hplace
  -- the qualifiers of the header are a part of the source
  obtain ⟨front, hsource, hfront⟩ := h.exists_splits_qualifiers
  have hspan : (PlacedHeader.place source site.start site.header).qualifiers =
      ⟨byteSize front, byteSize front + byteSize (Qualifier.textOf site.header.qualifiers)⟩ := by
    show spanAt source site.qualifiersStart (Qualifier.textOf site.header.qualifiers).length = _
    rw [← hfront, hsource, spanAt_middle]
  have hpart := read?_eq front (Qualifier.textOf site.header.qualifiers)
    (site.header.bodyGap ++ '{' :: rest)
  rw [← hsource, ← hspan, read?_of_function? hplace] at hpart
  exact Option.some.inj hpart

end Qualification

/-! ## Items -/

namespace QualifierForm

variable {form : QualifierForm} {gap : List Char}

/-- The qualifier that is found for an item with white space after it. -/
def qualifier (form : QualifierForm) (gap : List Char) : Qualifier :=
  match form.arguments with
  | none => ⟨[], form.word.text, gap, none⟩
  | some (before, inner) => ⟨[], form.word.text, before, some inner⟩

/-- The white space after an item that is not taken with it. -/
def left (form : QualifierForm) (gap : List Char) : List Char :=
  if form.arguments.isSome then gap else []

theorem body_append_left (form : QualifierForm) (gap : List Char) :
    (form.qualifier gap).body ++ form.left gap = form.text ++ gap := by
  rw [qualifier, left, text]
  cases form.arguments <;> simp [Qualifier.body, Qualifier.argumentsText]

theorem wellFormed_qualifier (hgap : ∀ c ∈ gap, isBlank c = true) :
    (form.qualifier gap).WellFormed := by
  rw [qualifier]
  split
  · exact ⟨nofun, form.word.ne_nil, form.word.word, hgap, nofun⟩
  · next before inner h =>
    exact ⟨nofun, form.word.ne_nil, form.word.word, form.blank _ h,
      fun _ hinner => Option.some.inj hinner ▸ form.unclosed _ h⟩

theorem bare_qualifier (form : QualifierForm) (gap : List Char) :
    (form.qualifier gap).bare = form.qualifier gap := by
  rw [qualifier]
  split <;> rfl

/-- What follows an item belongs to another one. -/
theorem ends_qualifier {rest : List Char} (hrest : ∀ c ∈ rest.head?, isWord c = true)
    (hsep : rest ≠ [] → gap ≠ []) : (form.qualifier gap).Ends (form.left gap ++ rest) := by
  rw [qualifier]
  split
  · next harguments =>
    have hleft : form.left gap = [] := by rw [left, harguments]; rfl
    rw [hleft, List.nil_append]
    cases rest with
    | nil => exact fun _ => ⟨stops_nil, nofun, fun _ => stops_nil⟩
    | cons c rest =>
      have hc : isWord c = true := hrest c rfl
      refine fun _ => ⟨stops_cons.2 (isBlank_eq_false_of_isWord hc), ?_, fun hgap => ?_⟩
      · rintro h
        obtain rfl : c = '(' := Option.some.inj h
        exact absurd hc (by decide)
      · exact absurd hgap (hsep (by simp))
  · exact nofun

/-- A row of items starts with a character of the first word. -/
theorem isWord_of_head?_inRow {forms : List QualifierForm} {row : List Char}
    (h : InRow (forms.map text) row) : ∀ c ∈ row.head?, isWord c = true := by
  cases forms with
  | nil => rw [h.eq_nil]; nofun
  | cons form forms =>
    rw [List.map_cons] at h
    cases h with
    | @cons _ gap rest _ _ _ _ =>
      obtain ⟨d, word, hword⟩ := List.exists_cons_of_ne_nil form.word.ne_nil
      intro c hc
      obtain rfl : d = c := by simpa [text, hword] using hc
      exact form.word.word d (by simp [hword])

/-- A qualifier found in a text is the one of an item. -/
def IsFound (form : QualifierForm) (q : Qualifier) : Prop :=
  ∃ gap : List Char, (∀ c ∈ gap, isBlank c = true) ∧ q = form.qualifier gap

/-- **One qualifier is found for each item**, one after the other. -/
theorem forall₂_hitsFrom {forms : List QualifierForm} {row : List Char}
    (h : InRow (forms.map text) row) (before : Option Char) (index : Nat) :
    List.Forall₂ (fun form hit => form.IsFound hit.value) forms
      (hitsFrom (fun _ s => FoundQualifier.find s) (fun _ => 0) before index 0 row) := by
  generalize hparts : forms.map text = parts at h
  induction h generalizing forms before index with
  | nil =>
    obtain rfl : forms = [] := List.map_eq_nil_iff.1 hparts
    exact .nil
  | @cons part gap rest parts hgap hsep h ih =>
    obtain ⟨form, forms, rfl, rfl, rfl⟩ := List.map_eq_cons_iff.1 hparts
    have hq : (form.qualifier gap).WellFormed := wellFormed_qualifier hgap
    have hend : (form.qualifier gap).Ends (form.left gap ++ rest) := by
      refine ends_qualifier (isWord_of_head?_inRow h) fun hne => hsep fun hnil => hne ?_
      exact InRow.eq_nil (hnil ▸ h)
    have hsplit : form.text ++ (gap ++ rest) =
        (form.qualifier gap).body ++ (form.left gap ++ rest) := by
      rw [← List.append_assoc, ← body_append_left, List.append_assoc]
    have hleft : ∀ c ∈ form.left gap, isBlank c = true := by
      rw [left]
      split
      · exact hgap
      · nofun
    rw [hsplit, hitsFrom_append_of_some hq.body_ne_nil (FoundQualifier.find_body_append hq hend),
      FoundQualifier.hitsFrom_blank_append hleft, bare_qualifier]
    exact .cons ⟨gap, hgap, rfl⟩ (ih _ _ rfl)

theorem forall₂_values {forms : List QualifierForm} {list : List Char}
    (h : Spaced (forms.map text) list) :
    List.Forall₂ IsFound forms ((Qualifier.found list).map (·.value)) := by
  obtain ⟨lead, row, hlead, hrow, rfl⟩ := h
  rw [List.forall₂_map_right_iff, Qualifier.found, hits, FoundQualifier.hitsFrom_blank_append hlead]
  exact forall₂_hitsFrom hrow _ _

/-! ## What items declare -/

/-- An item has no white space at its ends. -/
theorem trim_text_append (form : QualifierForm) (hgap : ∀ c ∈ gap, isBlank c = true) :
    trim (form.text ++ gap) = form.text := by
  refine trim_append_of_stops ?_ ?_ hgap
  · rw [text, List.append_assoc]
    exact stops_isBlank_of_word form.word.ne_nil form.word.word
  · rw [text]
    cases form.arguments with
    | none => simpa using form.word.isWhole.reverse.stops []
    | some arguments => simp; decide

theorem IsFound.string_eq {q : Qualifier} (h : form.IsFound q) : q.string = form.word.string := by
  obtain ⟨gap, -, rfl⟩ := h
  rw [qualifier]
  split <;> rfl

theorem IsFound.arguments_eq {q : Qualifier} (h : form.IsFound q) :
    q.arguments = form.arguments.map Prod.snd := by
  obtain ⟨gap, -, rfl⟩ := h
  rw [qualifier]
  cases form.arguments <;> rfl

theorem IsFound.trim_body {q : Qualifier} (h : form.IsFound q) : trim q.body = form.text := by
  obtain ⟨gap, hgap, rfl⟩ := h
  have hbody := form.body_append_left gap
  rw [left] at hbody
  split at hbody
  · rw [List.append_cancel_right hbody, ← List.append_nil form.text,
      form.trim_text_append (by simp), List.append_nil]
  · rw [List.append_nil] at hbody
    rw [hbody, form.trim_text_append hgap]

theorem group_eq_returns_iff : form.group = .returns ↔ form.word.string = "returns" := by
  rw [group]
  split
  · next h => simp [h]
  · next h =>
    split
    · simp [h]
    · split <;> simp [h]

theorem group_eq_modifier_iff : form.group = .modifier ↔ form.word.isModifier = true := by
  rw [FunctionForm.isModifier_iff, group, ← Option.not_isSome_iff_eq_none,
    ← Option.not_isSome_iff_eq_none]
  split
  · next h => simp [h]
  · next hreturns =>
    split
    · next h => simp [h]
    · next hvisibility =>
      split
      · next h => simp [h]
      · next h => simp [hreturns, hvisibility, h]

theorem group_of_visibility {v : Visibility}
    (h : Visibility.ofKeyword? form.word.string = some v) : form.group = .visibility := by
  have hword : v.keyword = form.word.string := by simpa using List.find?_some h
  obtain ⟨-, -, hreturns, -⟩ := FunctionForm.ofKeyword?_keyword_visibility v
  rw [hword] at hreturns
  rw [group, if_neg hreturns, h, if_pos Option.isSome_some]

theorem group_of_mutability {m : Mutability}
    (h : Mutability.ofKeyword? form.word.string = some m) : form.group = .mutability := by
  have hword : m.keyword = form.word.string := by simpa using List.find?_some h
  obtain ⟨hvisibility, -, hreturns, -⟩ := FunctionForm.ofKeyword?_keyword_mutability m
  rw [hword] at hvisibility hreturns
  rw [group, if_neg hreturns, hvisibility, if_neg (by simp), h, if_pos Option.isSome_some]

/-- **The qualifiers found for items declare what the items declare.** -/
theorem ofQualifiers_eq_ofForms {forms : List QualifierForm} {qs : List Qualifier}
    (h : List.Forall₂ IsFound forms qs) :
    Qualification.ofQualifiers qs = Qualification.ofForms forms := by
  have hvisibility : qs.filterMap Qualifier.visibility? =
      (inGroup .visibility forms).filterMap fun form =>
        Visibility.ofKeyword? form.word.string := by
    rw [inGroup, List.filterMap_filter]
    refine filterMap_eq_of_forall₂ h fun form q hq => ?_
    rw [Qualifier.visibility?, hq.string_eq]
    cases hword : Visibility.ofKeyword? form.word.string with
    | none => rw [ite_self]
    | some v => rw [if_pos (decide_eq_true (group_of_visibility hword))]
  have hmutability : qs.filterMap Qualifier.mutability? =
      (inGroup .mutability forms).filterMap fun form =>
        Mutability.ofKeyword? form.word.string := by
    rw [inGroup, List.filterMap_filter]
    refine filterMap_eq_of_forall₂ h fun form q hq => ?_
    rw [Qualifier.mutability?, hq.string_eq]
    cases hword : Mutability.ofKeyword? form.word.string with
    | none => rw [ite_self]
    | some m => rw [if_pos (decide_eq_true (group_of_mutability hword))]
  have hreturns : qs.filterMap Qualifier.returns? =
      ((inGroup .returns forms).filterMap (·.arguments)).map Prod.snd := by
    rw [inGroup, List.filterMap_filter, List.map_filterMap]
    refine filterMap_eq_of_forall₂ h fun form q hq => ?_
    simp only [Qualifier.returns?, hq.string_eq, hq.arguments_eq, decide_eq_true_eq,
      group_eq_returns_iff]
    split <;> rfl
  have hmodifiers : qs.filterMap Qualifier.modifier? =
      (inGroup .modifier forms).map fun form => String.ofList form.text := by
    rw [inGroup, ← List.filterMap_eq_map, List.filterMap_filter]
    refine filterMap_eq_of_forall₂ h fun form q hq => ?_
    simp only [Qualifier.modifier?, Qualifier.visibility?, Qualifier.mutability?, hq.string_eq,
      hq.trim_body, decide_eq_true_eq, group_eq_modifier_iff, FunctionForm.isModifier_iff]
    rfl
  rw [Qualification.ofQualifiers, hvisibility, hmutability, hreturns, hmodifiers,
    List.getLast?_map, Option.map_map]
  rfl

end QualifierForm

/-! ## By the expression -/

namespace Qualifier

/-- The text between parentheses, if they stand at the front of a text. -/
def parenthesised? (s : List Char) : Option (List Char × List Char) :=
  match s with
  | '(' :: inner => upToParen inner
  | _ => none

theorem parenthesised?_eq_some_iff {s arguments rest : List Char} :
    parenthesised? s = some (arguments, rest) ↔
      s = '(' :: (arguments ++ ')' :: rest) ∧ ')' ∉ arguments := by
  unfold parenthesised?
  constructor
  · intro h
    split at h
    · obtain ⟨rfl, hfree⟩ := upToParen_eq_some h
      exact ⟨rfl, hfree⟩
    · cases h
  · rintro ⟨rfl, hfree⟩
    exact upToParen_append hfree rest

/-- The expression of parentheses. -/
def parentheses : Expression :=
  .row [.one (· = '('), .group 2 (.many (.one (· != ')'))), .one (· = ')')]

theorem front?_parentheses (s : List Char) :
    parentheses.front? s = (parenthesised? s).map fun found =>
      ⟨'(' :: (found.1 ++ [')']), [(2, found.1)], found.2⟩ := by
  cases h : parenthesised? s with
  | none =>
    rw [Option.map_none, Expression.front?_eq_none_iff]
    rintro t g rest rfl hfits
    obtain ⟨_, _, ⟨c, hc, rfl⟩, h₁, rfl⟩ := (Expression.takes_one _).followed_iff.1 hfits
    obtain ⟨arguments, _, _, hfree, h₂, rfl, -⟩ :=
      ((Expression.takes_span _).kept_followed_iff 2).1 h₁
    obtain ⟨⟨d, hd, rfl⟩, -⟩ := (Expression.takes_one _ _ _).1 h₂
    have hfound : parenthesised? ([c] ++ (arguments ++ [d]) ++ rest) = some (arguments, rest) := by
      refine parenthesised?_eq_some_iff.2 ⟨?_, fun hmem => by simpa using hfree _ hmem⟩
      rw [of_decide_eq_true hc, of_decide_eq_true hd]
      simp
    rw [h] at hfound
    cases hfound
  | some found =>
    obtain ⟨arguments, rest⟩ := found
    obtain ⟨rfl, hfree⟩ := parenthesised?_eq_some_iff.1 h
    have hall : ∀ c ∈ arguments, (c != ')') = true := fun c hc => by
      simpa using fun (e : c = ')') => hfree (e ▸ hc)
    have hstop : Stops (· != ')') (')' :: rest) := by simp
    have hinner : (Expression.group 2 (.many (.one (· != ')')))).front? (arguments ++ ')' :: rest) =
        some ⟨arguments, [(2, arguments)], ')' :: rest⟩ := by
      rw [Expression.front?_group, Expression.front?_span, takeWhile_append_of_stop hall hstop,
        dropWhile_append_of_stop hall hstop]
      rfl
    have hclose := Expression.front?_andThen hinner
      (Expression.front?_one_cons (p := (· = ')')) (by simp) rest)
    exact Expression.front?_andThen (Expression.front?_one_cons (by simp) _) hclose

/-- No qualifier is found where no word starts. -/
theorem find_of_stops {s : List Char} (h : Stops isWord s) : FoundQualifier.find s = none := by
  cases hfind : FoundQualifier.find s with
  | none => rfl
  | some found =>
    obtain ⟨q, size⟩ := found
    obtain ⟨hq, rest, rfl⟩ := FoundQualifier.find_eq_some hfind
    obtain ⟨c, word, hword⟩ := List.exists_cons_of_ne_nil hq.word_ne
    have hc : isWord c = true := hq.word c (by simp [hword])
    rw [body, hword, List.cons_append, List.cons_append, List.cons_append, stops_cons, hc] at h
    cases h

/-- The qualifier of the word at the front of a text: the word, the white space after it, and
parentheses if they follow. -/
def atWord (s : List Char) : Qualifier where
  lead := []
  word := s.takeWhile isWord
  gap := (s.dropWhile isWord).takeWhile isBlank
  arguments := (parenthesised? ((s.dropWhile isWord).dropWhile isBlank)).map Prod.fst

theorem find_of_word {s : List Char} (h : ¬ Stops isWord s) :
    FoundQualifier.find s = some (atWord s, (atWord s).body.length) := by
  obtain ⟨c, rest, rfl, hc⟩ : ∃ c rest, s = c :: rest ∧ isWord c = true := by
    cases s with
    | nil => exact absurd stops_nil h
    | cons c rest => exact ⟨c, rest, rfl, by simpa using h⟩
  have hblank : ¬ isBlank c = true := by simp [isBlank_eq_false_of_isWord hc]
  have hread : ∃ after, read? (c :: rest) = some (atWord (c :: rest), after) := by
    have hne : ((c :: rest).takeWhile isWord).isEmpty = false := by simp [hc]
    simp only [read?, atWord, List.takeWhile_cons_of_neg hblank, List.dropWhile_cons_of_neg hblank,
      hne, Bool.false_eq_true, if_false]
    generalize ((c :: rest).dropWhile isWord).dropWhile isBlank = after
    rcases after with _ | ⟨d, inner⟩
    · exact ⟨_, rfl⟩
    · by_cases hd : d = '('
      · subst hd
        simp only [parenthesised?]
        cases upToParen inner with
        | none => exact ⟨_, rfl⟩
        | some found => exact ⟨_, rfl⟩
      · exact ⟨d :: inner, by simp [parenthesised?, hd]⟩
  obtain ⟨after, hread⟩ := hread
  rw [FoundQualifier.find, hread]
  rfl

/-- The text of a way and its two groups. -/
def itemOf (way : Way) : List Char × Option (List Char) × Option (List Char) :=
  (way.taken, way.group? 1, way.group? 2)

/-- What the expression takes of a qualifier, and its groups. -/
def matched (q : Qualifier) : List Char × Option (List Char) × Option (List Char) :=
  (q.body, some q.word, q.arguments)

/-- **At each place of a text the expression takes the qualifier that is found there.** -/
theorem front?_expression (s : List Char) :
    (expression.front? s).map (fun way => (itemOf way, way.taken.length)) =
      (FoundQualifier.find s).map fun (q, size) => (q.matched, size) := by
  by_cases hstop : Stops isWord s
  · have hword : (Expression.group 1 (.many1 isWord)).front? s = none := by
      rw [Expression.front?_group, Expression.front?_many1_of_stops hstop]
      rfl
    have hnone : expression.front? s = none := Expression.front?_andThen_eq_none hword
    rw [hnone, find_of_stops hstop]
    rfl
  · have hword : (Expression.group 1 (.many1 isWord)).front? s =
        some ⟨s.takeWhile isWord, [(1, s.takeWhile isWord)], s.dropWhile isWord⟩ := by
      rw [Expression.front?_group, Expression.front?_many1 hstop]
      rfl
    have hgap := Expression.front?_span isBlank (s.dropWhile isWord)
    have hoptional := Expression.front?_optional parentheses
      ((s.dropWhile isWord).dropWhile isBlank)
    have hway : expression.front? s = _ :=
      Expression.front?_andThen hword (Expression.front?_andThen hgap hoptional)
    rw [hway, front?_parentheses, find_of_word hstop, atWord]
    cases parenthesised? ((s.dropWhile isWord).dropWhile isBlank) with
    | none => simp [Way.followedBy, Way.group?, itemOf, matched, body, argumentsText, Way.still]
    | some found =>
      simp [Way.followedBy, Way.group?, itemOf, matched, body, argumentsText, List.lookup_cons]

/-- **A search for the expression finds the qualifiers of a text.** -/
theorem occurrences_eq (list : List Char) :
    (expression.occurrences list).map (fun hit => (hit.index, itemOf hit.value)) =
      (found list).map fun hit => (hit.index, hit.value.matched) := by
  -- both searches find what is left when all but the text and the groups is forgotten
  let search (_ : Option Char) (s : List Char) :=
    (expression.front? s).map fun way => (itemOf way, way.taken.length)
  have hways := @hitsFrom_map _ (fun _ s => (expression.front? s).map fun way =>
      (way, way.taken.length)) (fun _ => 0) _ search itemOf
    (fun _ s => by simp only [search, Option.map_map]; rfl) none 0 0 list
  have hqualifiers := @hitsFrom_map _ (fun _ s => FoundQualifier.find s) (fun _ => 0) _ search
    matched (fun _ s => front?_expression s) none 0 0 list
  have heq := congrArg (List.map fun hit => (hit.index, hit.value)) (hways.symm.trans hqualifiers)
  simp only [List.map_map] at heq
  exact heq

end Qualifier

/-! ## Classification -/

namespace Qualification

/-- **Items in a part of a text declare what their forms say**, whatever stands around the part. -/
theorem read?_of_spaced {list : List Char} {forms : List QualifierForm}
    (h : Spaced (forms.map QualifierForm.text) list) (before after : List Char) :
    read? (before ++ (list ++ after)) (before ++ (list ++ after))
        ⟨byteSize before, byteSize before + byteSize list⟩ = some (ofForms forms) := by
  rw [read?_eq, QualifierForm.ofQualifiers_eq_ofForms (QualifierForm.forall₂_values h)]

/-- **Only the order within each group of items matters.** -/
theorem ofForms_congr {forms forms' : List QualifierForm}
    (h : ∀ group, QualifierForm.inGroup group forms = QualifierForm.inGroup group forms') :
    ofForms forms = ofForms forms' := by
  simp only [ofForms, h]

/-- **Qualifiers are classified by their words.** In a part of a text that consists of items with white
space between them, the first visibility, the first mutability, the last returns clause with
parentheses and all modifiers are what is read there, so items may change places as long as the order
within each group stays. This is what a function declares, and the qualifiers are those that a search
for the regular expression finds. -/
theorem classifies :
    (∀ (before list after : List Char) (forms : List QualifierForm),
      Spaced (forms.map QualifierForm.text) list →
        read? (before ++ (list ++ after)) (before ++ (list ++ after))
          ⟨byteSize before, byteSize before + byteSize list⟩ = some (ofForms forms)) ∧
    (∀ (list list' : List Char) (forms forms' : List QualifierForm),
      Spaced (forms.map QualifierForm.text) list → Spaced (forms'.map QualifierForm.text) list' →
      (∀ group, QualifierForm.inGroup group forms = QualifierForm.inGroup group forms') →
        read? list list ⟨0, byteSize list⟩ = read? list' list' ⟨0, byteSize list'⟩) ∧
    (∀ (source scan : List Char) (line stop : Nat) (header : PlacedHeader) (f : Function),
      header.function? source scan line stop = some f →
        read? source scan header.qualifiers = some f.qualification) ∧
    (∀ (site : Site) (source before rest : List Char) (line : Nat) (forms : List QualifierForm),
      site.FoundIn source before rest →
      Spaced (forms.map QualifierForm.text) site.header.qualifiersText →
        (site.function (Cell.ofText source) line).qualification = ofForms forms) ∧
    ∀ list : List Char,
      (Qualifier.expression.occurrences list).map
          (fun hit => (hit.index, hit.value.taken, hit.value.group? 1, hit.value.group? 2)) =
        (hits (fun _ s => FoundQualifier.find s) list).map fun hit =>
          (hit.index, hit.value.body, some hit.value.word, hit.value.arguments) := by
  refine ⟨fun before list after forms h => read?_of_spaced h before after,
    fun list list' forms forms' h h' hgroups => ?_,
    fun source scan line stop header f h => read?_of_function? h,
    fun site source before rest line forms hfound h => ?_, Qualifier.occurrences_eq⟩
  · have hread := read?_of_spaced h [] []
    have hread' := read?_of_spaced h' [] []
    rw [List.append_nil, List.nil_append, byteSize, Nat.zero_add] at hread hread'
    rw [hread, hread', ofForms_congr hgroups]
  · rw [of_foundIn hfound line,
      QualifierForm.ofQualifiers_eq_ofForms (QualifierForm.forall₂_values h)]

/-- A mutability, a modifier with an argument, and a returns clause. -/
def sampleForms : List QualifierForm :=
  [⟨⟨"view".toList, by simp, List.all_eq_true.1 (by decide)⟩, none, nofun, nofun⟩,
    ⟨⟨"only".toList, by simp, List.all_eq_true.1 (by decide)⟩, some ([' '], ['a']),
      by rintro _ ⟨⟩; exact isBlank_of_mem_space, by rintro _ ⟨⟩; decide⟩,
    ⟨⟨"returns".toList, by simp, List.all_eq_true.1 (by decide)⟩, some ([], ['b']),
      by rintro _ ⟨⟩; simp, by rintro _ ⟨⟩; decide⟩]

/-- The site of a function with these qualifiers. -/
def sampleSite : Site where
  start := 0
  header :=
    { gap := [' ']
      name := ['f']
      nameGap := []
      parameters := []
      qualifiers := [⟨[' '], "view".toList, [' '], none⟩, ⟨[], "only".toList, [' '], some ['a']⟩,
        ⟨[' '], "returns".toList, [], some ['b']⟩]
      bodyGap := [' '] }
  body := "\x7b\x7d".toList

/-- The same items are read in two orders, and as the qualifiers of a function. -/
theorem classifies_sample :
    read? " view only (a) returns(b)".toList " view only (a) returns(b)".toList ⟨0, 25⟩ =
      some ⟨.public, .view, some "b", ["only (a)"]⟩ ∧
    read? "returns(b) only (a) view".toList "returns(b) only (a) view".toList ⟨0, 24⟩ =
      some ⟨.public, .view, some "b", ["only (a)"]⟩ ∧
    (sampleSite.function
      (Cell.ofText "function f() view only (a) returns(b) \x7b\x7d".toList) 1).qualification =
        ⟨.public, .view, some "b", ["only (a)"]⟩ := by
  have hspaced : Spaced (sampleForms.map QualifierForm.text) " view only (a) returns(b)".toList :=
    ⟨[' '], _, isBlank_of_mem_space, .cons isBlank_of_mem_space (by simp)
      (.cons isBlank_of_mem_space (by simp) (@InRow.cons _ [] _ _ (by simp) (by simp) .nil)), rfl⟩
  have hreversed : Spaced (sampleForms.reverse.map QualifierForm.text)
      "returns(b) only (a) view".toList :=
    ⟨[], _, by simp, .cons isBlank_of_mem_space (by simp)
      (.cons isBlank_of_mem_space (by simp) (@InRow.cons _ [] _ _ (by simp) (by simp) .nil)), rfl⟩
  have hgroups : ∀ group, QualifierForm.inGroup group sampleForms =
      QualifierForm.inGroup group sampleForms.reverse := by
    intro group
    cases group <;> rfl
  have hfound : sampleSite.FoundIn "function f() view only (a) returns(b) \x7b\x7d".toList [] ['}'] :=
    ⟨rfl, rfl, by decide, by decide⟩
  obtain ⟨hread, hreorder, -, hfunction, -⟩ := classifies
  have hfirst := hread [] _ [] _ hspaced
  refine ⟨hfirst, ?_, ?_⟩
  · exact (hreorder _ _ _ _ hspaced hreversed hgroups).symm.trans hfirst
  · exact hfunction _ _ _ _ 1 _ hfound hspaced

end Qualification

end GasAdvisor
