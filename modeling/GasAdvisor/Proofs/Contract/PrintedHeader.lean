import GasAdvisor.Proofs.Contract.Extraction
import GasAdvisor.Proofs.Contract.Parameters
import Mathlib.Data.List.Basic

/-!
# The header of a printed function

A reader cuts the header of a printed function into words, each with the space after it; the space
before the first word is its own, and where no word or clause follows, the space belongs to the body
(`FunctionForm.qualifiersAfter`, `FunctionForm.gapAfter`). Cut this way, the header is the text that
was printed (`FunctionForm.front_header`) and the one that is read (`FunctionForm.read?_header`).

What its qualifiers contribute is what the form holds: its visibility, mutability, returns clause and
modifiers (`FunctionForm.filterMap_visibility?` and the three like it).
-/

namespace GasAdvisor

open Text

namespace FunctionForm

/-! ## The qualifiers of printed words -/

/-- A word as a qualifier that takes the space after it. -/
def wordQualifier (lead w : List Char) : Qualifier :=
  ⟨lead, w, [' '], none⟩

/-- A returns clause as a qualifier. -/
def returnsQualifier (lead r : List Char) : Qualifier :=
  ⟨lead, "returns".toList, [' '], some r⟩

/-- The qualifiers that a reader finds in printed words and a returns clause; `lead` is the white
space before the first one. -/
def qualifiersAfter : (lead : List Char) → List (List Char) → Option (List Char) → List Qualifier
  | _, [], none => []
  | lead, [], some r => [returnsQualifier lead r]
  | lead, w :: ws, returns => wordQualifier lead w :: qualifiersAfter [] ws returns

/-- The white space that is left for the body. -/
def gapAfter : (lead : List Char) → List (List Char) → Option (List Char) → List Char
  | lead, [], none => lead
  | _, [], some _ => [' ']
  | _, _ :: ws, returns => gapAfter [] ws returns

theorem text_wordQualifier (lead w : List Char) :
    (wordQualifier lead w).text = lead ++ (w ++ [' ']) := by
  simp [wordQualifier, Qualifier.text, Qualifier.body, Qualifier.argumentsText]

theorem text_returnsQualifier (lead r : List Char) :
    (returnsQualifier lead r).text = lead ++ ("returns".toList ++ ' ' :: '(' :: (r ++ [')'])) := by
  simp [returnsQualifier, Qualifier.text, Qualifier.body, Qualifier.argumentsText]

variable {ws : List (List Char)} {returns : Option (List Char)}

theorem textOf_qualifiersAfter_lead (lead : List Char) :
    Qualifier.textOf (qualifiersAfter lead ws returns) ++ gapAfter lead ws returns =
      lead ++ (Qualifier.textOf (qualifiersAfter [] ws returns) ++ gapAfter [] ws returns) := by
  cases ws with
  | nil =>
    cases returns with
    | none => simp [qualifiersAfter, gapAfter, Qualifier.textOf]
    | some r => simp [qualifiersAfter, gapAfter, Qualifier.textOf, text_returnsQualifier]
  | cons w ws => simp [qualifiersAfter, gapAfter, Qualifier.textOf, text_wordQualifier]

/-- **The words as printed are the qualifiers as read**: what is printed before each word and before
the body is read after each word. -/
theorem printed_eq_textOf (ws : List (List Char)) (returns : Option (List Char)) :
    ws.flatMap (' ' :: ·) ++ returnsText returns ++ [' '] =
      Qualifier.textOf (qualifiersAfter [' '] ws returns) ++ gapAfter [' '] ws returns := by
  rw [textOf_qualifiersAfter_lead]
  induction ws with
  | nil =>
    cases returns with
    | none => simp [returnsText, qualifiersAfter, gapAfter, Qualifier.textOf]
    | some r =>
      simp [returnsText, qualifiersAfter, gapAfter, Qualifier.textOf, text_returnsQualifier]
  | cons w ws ih =>
    rw [List.append_assoc] at ih
    rw [List.flatMap_cons, List.append_assoc, List.append_assoc, ih]
    simp [qualifiersAfter, gapAfter, Qualifier.textOf, text_wordQualifier]

/-! ## Reading the qualifiers -/

/-- No qualifier stands before the opening brace. -/
theorem read?_brace {gap : List Char} (hgap : ∀ c ∈ gap, isBlank c = true) (rest : List Char) :
    Qualifier.read? (gap ++ '{' :: rest) = none := by
  have hblank : Stops isBlank ('{' :: rest) := stops_cons.2 (by decide)
  have hword : isWord '{' = false := by decide
  simp [Qualifier.read?, dropWhile_append_of_stop hgap hblank, hword]

theorem wellFormed_word {lead w : List Char} (hlead : ∀ c ∈ lead, isBlank c = true) (hne : w ≠ [])
    (hw : ∀ c ∈ w, isWord c = true) : (wordQualifier lead w).WellFormed :=
  ⟨hlead, hne, hw, isBlank_of_mem_space, by simp [wordQualifier]⟩

theorem wellFormed_returns {lead r : List Char} (hlead : ∀ c ∈ lead, isBlank c = true)
    (hr : ')' ∉ r) : (returnsQualifier lead r).WellFormed :=
  have hword : "returns".toList ≠ [] ∧ "returns".toList.all isWord = true := by decide
  ⟨hlead, hword.1, List.all_eq_true.1 hword.2, isBlank_of_mem_space,
    by simpa [returnsQualifier] using hr⟩

/-- After a word and its space the text goes on with another word or with the brace. -/
theorem exists_next (hws : ∀ w ∈ ws, w ≠ [] ∧ ∀ c ∈ w, isWord c = true) (rest : List Char) :
    ∃ c t, Qualifier.textOf (qualifiersAfter [] ws returns) ++
      (gapAfter [] ws returns ++ '{' :: rest) = c :: t ∧ (isWord c = true ∨ c = '{') := by
  cases ws with
  | nil =>
    cases returns with
    | none => exact ⟨'{', rest, rfl, .inr rfl⟩
    | some r => exact ⟨'r', _, rfl, .inl (by decide)⟩
  | cons w ws =>
    obtain ⟨hne, hall⟩ := hws w (by simp)
    cases w with
    | nil => exact absurd rfl hne
    | cons c w => exact ⟨c, _, rfl, .inl (hall c (by simp))⟩

/-- **Printed words are read one by one.** -/
theorem separated_qualifiersAfter {lead : List Char} (hlead : ∀ c ∈ lead, isBlank c = true)
    (hws : ∀ w ∈ ws, w ≠ [] ∧ ∀ c ∈ w, isWord c = true) (hreturns : ∀ r ∈ returns, ')' ∉ r)
    (rest : List Char) :
    Qualifier.Separated (qualifiersAfter lead ws returns)
      (gapAfter lead ws returns ++ '{' :: rest) := by
  induction ws generalizing lead with
  | nil =>
    cases returns with
    | none => exact read?_brace hlead rest
    | some r =>
      exact ⟨wellFormed_returns hlead (hreturns r rfl), nofun, read?_brace isBlank_of_mem_space rest⟩
  | cons w ws ih =>
    obtain ⟨hne, hall⟩ := hws w (by simp)
    have hmore := fun v hv => hws v (List.mem_cons_of_mem w hv)
    refine ⟨wellFormed_word hlead hne hall, fun _ => ?_, ih (by simp) hmore⟩
    obtain ⟨c, t, he, hc⟩ := @exists_next ws returns hmore rest
    have hblank : isBlank c = false := by
      rcases hc with hc | rfl
      · exact isBlank_eq_false_of_isWord hc
      · decide
    have hparen : c ≠ '(' := by
      rcases hc with hc | rfl
      · rintro rfl
        exact absurd hc (by decide)
      · decide
    rw [gapAfter, he]
    exact ⟨stops_cons.2 hblank, by simpa using hparen, fun h => by cases h⟩

theorem wellFormed_of_mem_qualifiersAfter {lead : List Char}
    (hlead : ∀ c ∈ lead, isBlank c = true) (hws : ∀ w ∈ ws, w ≠ [] ∧ ∀ c ∈ w, isWord c = true)
    (hreturns : ∀ r ∈ returns, ')' ∉ r) :
    ∀ q ∈ qualifiersAfter lead ws returns, q.WellFormed := by
  induction ws generalizing lead with
  | nil =>
    cases returns with
    | none => simp [qualifiersAfter]
    | some r => simpa [qualifiersAfter] using wellFormed_returns hlead (hreturns r rfl)
  | cons w ws ih =>
    obtain ⟨hne, hall⟩ := hws w (by simp)
    have hmore := @ih [] (by simp) fun v hv => hws v (List.mem_cons_of_mem w hv)
    intro q hq
    rcases List.mem_cons.1 hq with rfl | hq
    · exact wellFormed_word hlead hne hall
    · exact hmore q hq

theorem isBlank_of_mem_gapAfter {lead : List Char} (hlead : ∀ c ∈ lead, isBlank c = true) :
    ∀ c ∈ gapAfter lead ws returns, isBlank c = true := by
  induction ws generalizing lead with
  | nil =>
    cases returns with
    | none => exact hlead
    | some r => exact isBlank_of_mem_space
  | cons w ws ih => exact ih (by simp)

/-! ## What qualifiers contribute -/

/-- A word that has no other meaning among the qualifiers. -/
def modifierWord? (w : String) : Option String :=
  if w ≠ "returns" ∧ Visibility.ofKeyword? w = none ∧ Mutability.ofKeyword? w = none then some w
  else none

/-- What depends on the words of qualifiers alone. -/
theorem filterMap_string_qualifiersAfter {β : Type} (k : String → Option β) (lead : List Char)
    (hk : k "returns" = none) :
    (qualifiersAfter lead ws returns).filterMap (fun q => k q.string) =
      (ws.map String.ofList).filterMap k := by
  induction ws generalizing lead with
  | nil =>
    cases returns with
    | none => rfl
    | some r =>
      have hword : (returnsQualifier lead r).string = "returns" := rfl
      simp [qualifiersAfter, hword, hk]
  | cons w ws ih =>
    rw [qualifiersAfter, List.filterMap_cons, List.map_cons, List.filterMap_cons, ih]
    rfl

theorem filterMap_returns?_qualifiersAfter (hws : ∀ w ∈ ws, String.ofList w ≠ "returns")
    (lead : List Char) :
    (qualifiersAfter lead ws returns).filterMap Qualifier.returns? = returns.toList := by
  induction ws generalizing lead with
  | nil =>
    cases returns with
    | none => rfl
    | some r =>
      have hone : (returnsQualifier lead r).returns? = some r := if_pos rfl
      simp [qualifiersAfter, hone]
  | cons w ws ih =>
    have hnone : (wordQualifier lead w).returns? = none := ite_self none
    rw [qualifiersAfter, List.filterMap_cons, hnone]
    exact ih (fun v hv => hws v (List.mem_cons_of_mem w hv)) []

theorem filterMap_modifier?_qualifiersAfter (hws : ∀ w ∈ ws, IsWhole w) (lead : List Char) :
    (qualifiersAfter lead ws returns).filterMap Qualifier.modifier? =
      (ws.map String.ofList).filterMap modifierWord? := by
  induction ws generalizing lead with
  | nil =>
    cases returns with
    | none => rfl
    | some r =>
      have hnone : (returnsQualifier lead r).modifier? = none := if_neg fun h => h.1 rfl
      simp [qualifiersAfter, hnone]
  | cons w ws ih =>
    have hmore := ih (fun v hv => hws v (List.mem_cons_of_mem w hv)) []
    have hbody : trim (wordQualifier lead w).body = w := by
      have := trim_append_blank (hws w (by simp)) isBlank_of_mem_space
      simpa [wordQualifier, Qualifier.body, Qualifier.argumentsText] using this
    have hone : (wordQualifier lead w).modifier? = modifierWord? (String.ofList w) := by
      rw [Qualifier.modifier?, hbody]
      rfl
    rw [qualifiersAfter, List.filterMap_cons, hone, hmore, List.map_cons, List.filterMap_cons]

/-! ## The header of a form -/

variable (f : FunctionForm)

/-- The header of a printed function, cut as a reader cuts it. -/
def header : Header where
  gap := [' ']
  name := f.name.text
  nameGap := []
  parameters := ParameterForm.listText f.parameters
  qualifiers := qualifiersAfter [' '] f.qualifierWords f.returns
  bodyGap := gapAfter [' '] f.qualifierWords f.returns

/-- **The header is the text before the body.** -/
theorem front_header_append_bodyText : f.header.front ++ f.bodyText = f.text := by
  have hspace : ' ' :: f.bodyText = [' '] ++ f.bodyText := rfl
  have hprinted := printed_eq_textOf f.qualifierWords f.returns
  rw [Qualifier.textOf] at hprinted
  have hfront : f.header.front = Header.keyword ++ [' '] ++ f.name.text ++ ['('] ++
      ParameterForm.listText f.parameters ++ [')'] ++
      (f.qualifierWords.flatMap (' ' :: ·) ++ returnsText f.returns ++ [' ']) := by
    rw [hprinted]
    simp only [header, Header.front, Header.nameText, Header.qualifiersText,
      List.append_assoc, List.append_nil]
  rw [hfront, text, hspace]
  simp only [List.append_assoc]

theorem ofKeyword?_keyword_visibility (v : Visibility) :
    Visibility.ofKeyword? v.keyword = some v ∧ Mutability.ofKeyword? v.keyword = none ∧
      v.keyword ≠ "returns" ∧ v.keyword.toList ≠ [] ∧ v.keyword.toList.all isWord = true := by
  cases v <;> decide

theorem ofKeyword?_keyword_mutability (m : Mutability) :
    Visibility.ofKeyword? m.keyword = none ∧ Mutability.ofKeyword? m.keyword = some m ∧
      m.keyword ≠ "returns" ∧ m.keyword.toList ≠ [] ∧ m.keyword.toList.all isWord = true := by
  cases m <;> decide

theorem isModifier_iff (x : Identifier) :
    x.isModifier = true ↔ x.string ≠ "returns" ∧ Visibility.ofKeyword? x.string = none ∧
      Mutability.ofKeyword? x.string = none := by
  simp only [Identifier.isModifier, Bool.and_eq_true, decide_eq_true_eq, Option.isNone_iff_eq_none,
    and_assoc]

/-- What holds of all keywords and of all modifiers holds of all words of a header. -/
theorem forall_mem_qualifierWords {P : List Char → Prop}
    (hv : ∀ v : Visibility, P v.keyword.toList) (hm : ∀ m : Mutability, P m.keyword.toList)
    (hx : ∀ x ∈ f.modifiers, P x.text) : ∀ w ∈ f.qualifierWords, P w := by
  intro w hw
  rw [qualifierWords, List.mem_append, List.mem_append, List.mem_map, List.mem_map,
    List.mem_map] at hw
  rcases hw with (⟨v, -, rfl⟩ | ⟨m, -, rfl⟩) | ⟨x, hx', rfl⟩
  · exact hv v
  · exact hm m
  · exact hx x hx'

theorem isWord_of_mem_qualifierWords :
    ∀ w ∈ f.qualifierWords, w ≠ [] ∧ ∀ c ∈ w, isWord c = true := by
  refine f.forall_mem_qualifierWords (fun v => ?_) (fun m => ?_) fun x _ => ⟨x.ne_nil, x.word⟩
  · obtain ⟨-, -, -, hne, hall⟩ := ofKeyword?_keyword_visibility v
    exact ⟨hne, List.all_eq_true.1 hall⟩
  · obtain ⟨-, -, -, hne, hall⟩ := ofKeyword?_keyword_mutability m
    exact ⟨hne, List.all_eq_true.1 hall⟩

theorem wellFormed_header : f.header.WellFormed where
  gap_ne := by simp [header]
  gap := isBlank_of_mem_space
  name_ne := f.name.ne_nil
  name := f.name.word
  nameGap := by simp [header]
  parameters := ParameterForm.not_mem_listText f.parameters
  qualifiers := wellFormed_of_mem_qualifiersAfter isBlank_of_mem_space
    f.isWord_of_mem_qualifierWords f.unclosed
  bodyGap := isBlank_of_mem_gapAfter isBlank_of_mem_space

/-- **The header of a printed function is read back.** -/
theorem read?_header (rest : List Char) :
    Header.read? (f.header.text ++ rest) = some (f.header, rest) :=
  Header.read?_text_append f.wellFormed_header
    (separated_qualifiersAfter isBlank_of_mem_space f.isWord_of_mem_qualifierWords f.unclosed rest)

/-! ## What the header declares -/

/-- What the words of a header contribute, keywords and modifiers apart. -/
theorem filterMap_qualifierWords {β : Type} (k : String → Option β) :
    (f.qualifierWords.map String.ofList).filterMap k =
      f.visibility.toList.filterMap (fun v => k v.keyword) ++
        f.mutability.toList.filterMap (fun m => k m.keyword) ++
        f.modifiers.filterMap (fun x => k x.string) := by
  simp only [qualifierWords, List.map_append, List.map_map, List.filterMap_append,
    List.filterMap_map, Function.comp_def, String.ofList_toList, Identifier.string]

theorem filterMap_modifiers_eq_nil {β : Type} {k : String → Option β}
    (hk : ∀ x ∈ f.modifiers, k x.string = none) :
    f.modifiers.filterMap (fun x => k x.string) = [] :=
  List.filterMap_eq_nil_iff.2 hk

theorem filterMap_visibility? :
    f.header.qualifiers.filterMap Qualifier.visibility? = f.visibility.toList := by
  have hkeep : f.visibility.toList.filterMap (fun v => Visibility.ofKeyword? v.keyword) =
      f.visibility.toList := by
    simp only [ofKeyword?_keyword_visibility, List.filterMap_some]
  have hdrop : f.mutability.toList.filterMap (fun m => Visibility.ofKeyword? m.keyword) = [] :=
    List.filterMap_eq_nil_iff.2 fun m _ => (ofKeyword?_keyword_mutability m).1
  have hplain := f.filterMap_modifiers_eq_nil (k := Visibility.ofKeyword?)
    fun x hx => ((isModifier_iff x).1 (f.plain x hx)).2.1
  show (qualifiersAfter _ _ _).filterMap (fun q => Visibility.ofKeyword? q.string) = _
  rw [filterMap_string_qualifiersAfter _ _ rfl, filterMap_qualifierWords, hkeep, hdrop, hplain,
    List.append_nil, List.append_nil]

theorem filterMap_mutability? :
    f.header.qualifiers.filterMap Qualifier.mutability? = f.mutability.toList := by
  have hdrop : f.visibility.toList.filterMap (fun v => Mutability.ofKeyword? v.keyword) = [] :=
    List.filterMap_eq_nil_iff.2 fun v _ => (ofKeyword?_keyword_visibility v).2.1
  have hkeep : f.mutability.toList.filterMap (fun m => Mutability.ofKeyword? m.keyword) =
      f.mutability.toList := by
    simp only [ofKeyword?_keyword_mutability, List.filterMap_some]
  have hplain := f.filterMap_modifiers_eq_nil (k := Mutability.ofKeyword?)
    fun x hx => ((isModifier_iff x).1 (f.plain x hx)).2.2
  show (qualifiersAfter _ _ _).filterMap (fun q => Mutability.ofKeyword? q.string) = _
  rw [filterMap_string_qualifiersAfter _ _ rfl, filterMap_qualifierWords, hkeep, hdrop, hplain,
    List.append_nil, List.nil_append]

theorem filterMap_returns? :
    f.header.qualifiers.filterMap Qualifier.returns? = f.returns.toList := by
  refine filterMap_returns?_qualifiersAfter (f.forall_mem_qualifierWords ?_ ?_ ?_) _
  · intro v
    rw [String.ofList_toList]
    exact (ofKeyword?_keyword_visibility v).2.2.1
  · intro m
    rw [String.ofList_toList]
    exact (ofKeyword?_keyword_mutability m).2.2.1
  · exact fun x hx => ((isModifier_iff x).1 (f.plain x hx)).1

theorem filterMap_modifier? :
    f.header.qualifiers.filterMap Qualifier.modifier? = f.modifiers.map Identifier.string := by
  have hv : f.visibility.toList.filterMap (fun v => modifierWord? v.keyword) = [] :=
    List.filterMap_eq_nil_iff.2 fun v _ => if_neg fun h => by
      simp [(ofKeyword?_keyword_visibility v).1] at h
  have hm : f.mutability.toList.filterMap (fun m => modifierWord? m.keyword) = [] :=
    List.filterMap_eq_nil_iff.2 fun m _ => if_neg fun h => by
      simp [(ofKeyword?_keyword_mutability m).2.1] at h
  have hx : f.modifiers.filterMap (fun x => modifierWord? x.string) =
      f.modifiers.map Identifier.string := by
    rw [← List.filterMap_eq_map]
    refine List.filterMap_congr fun x hx => ?_
    exact if_pos ((isModifier_iff x).1 (f.plain x hx))
  have hwhole : ∀ w ∈ f.qualifierWords, IsWhole w := fun w hw =>
    ⟨(f.isWord_of_mem_qualifierWords w hw).1, fun c hc =>
      isBlank_eq_false_of_isWord ((f.isWord_of_mem_qualifierWords w hw).2 c hc)⟩
  show (qualifiersAfter _ _ _).filterMap Qualifier.modifier? = _
  rw [filterMap_modifier?_qualifiersAfter hwhole, filterMap_qualifierWords, hv, hm, hx,
    List.nil_append, List.nil_append]

end FunctionForm

end GasAdvisor
