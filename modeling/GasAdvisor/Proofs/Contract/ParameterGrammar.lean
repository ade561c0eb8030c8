import GasAdvisor.Contract.ParameterGrammar
import GasAdvisor.Proofs.Contract.Parameters
import GasAdvisor.Proofs.Text.Expression
import GasAdvisor.Proofs.Text.Spaced

/-!
# The grammar of parameter lists is the one that is read

The expression of an entry takes exactly the entries whose words are a type, words for the location and
a name, and then its groups are the type and the name (`Parameter.fits_expression_iff`). There are texts
that it takes in several ways, but the words of a text are given, so all ways have the same groups.

So the three accounts of an entry agree: by its words, by the expression (`Parameter.matched?_eq`) and by
the grammar (`Parameter.ofEntry?_eq_some_iff`).
-/

namespace GasAdvisor.Parameter

open Text

/-! ## The words of an entry -/

/-- What the words of an entry have to be: a type, words for the location, and a name. -/
structure AreWords (type : List Char) (places : List (List Char)) (name : List Char) : Prop where
  type : isType type = true
  places : ∀ place ∈ places, String.ofList place ∈ locations
  name : isName name = true

namespace AreWords

variable {entry type name : List Char} {places : List (List Char)}

theorem isWhole (h : AreWords type places name) : ∀ w ∈ type :: (places ++ [name]), IsWhole w := by
  intro w hw
  simp only [List.mem_cons, List.mem_append, List.not_mem_nil, or_false] at hw
  rcases hw with rfl | hw | rfl
  · exact isWhole_of_isType h.type
  · have := isWhole_of_mem_locations (h.places w hw)
    rwa [String.toList_ofList] at this
  · obtain ⟨x, rfl⟩ := isName_iff.1 h.name
    exact x.isWhole

/-- An entry of such words is given by where its words stand. -/
theorem words_eq_iff (h : AreWords type places name) :
    words entry = type :: (places ++ [name]) ↔ Spaced (type :: (places ++ [name])) entry :=
  Text.words_eq_iff.trans (and_iff_left h.isWhole)

/-- **Such words are the parts of a form**, unless the name is reserved. -/
theorem exists_form (h : AreWords type places name) (hname : String.ofList name ∉ reserved) :
    ∃ form : ParameterForm, form.parts = type :: (places ++ [name]) ∧
      form.parameter = ⟨String.ofList type, String.ofList name⟩ := by
  obtain ⟨base, sizes, hsizes, rfl⟩ := isType_iff.1 h.type
  obtain ⟨x, rfl⟩ := isName_iff.1 h.name
  refine ⟨⟨base, sizes, places.map String.ofList, x, hsizes, ?_, hname⟩, ?_, rfl⟩
  · exact List.forall_mem_map.2 h.places
  · simp [ParameterForm.parts, ParameterForm.typeText]

/-- What an entry of such words declares. -/
theorem ofEntry?_eq (h : AreWords type places name)
    (hwords : words entry = type :: (places ++ [name])) :
    ofEntry? entry =
      if reserved.contains (String.ofList name) then none
      else some ⟨String.ofList type, String.ofList name⟩ := by
  have hplaces : places.all (fun word => locations.contains (String.ofList word)) = true :=
    List.all_eq_true.2 fun place hplace => List.contains_iff_mem.2 (h.places place hplace)
  rw [ofEntry?_of_words hwords, h.type, h.name, hplaces]
  cases reserved.contains (String.ofList name) <;> rfl

end AreWords

/-- An entry that declares something has such words. -/
theorem exists_areWords_of_ofEntry? {entry : List Char} {p : Parameter}
    (h : ofEntry? entry = some p) :
    ∃ type places name, AreWords type places name ∧ words entry = type :: (places ++ [name]) ∧
      String.ofList name ∉ reserved ∧ p = ⟨String.ofList type, String.ofList name⟩ := by
  unfold ofEntry? at h
  split at h
  · cases h
  · next type more hwords =>
    split at h
    · cases h
    · next name hname =>
      split at h
      · next hcheck =>
        obtain ⟨places, rfl⟩ := List.getLast?_eq_some_iff.1 hname
        simp only [Bool.and_eq_true, Bool.not_eq_true', List.dropLast_concat, List.all_eq_true,
          List.contains_iff_mem] at hcheck
        obtain ⟨⟨⟨htype, hname⟩, hplaces⟩, hfree⟩ := hcheck
        refine ⟨type, places, name, ⟨htype, hplaces, hname⟩, hwords, ?_, (Option.some.inj h).symm⟩
        simpa using hfree
      · cases h

/-! ## By the grammar -/

/-- **An entry declares what the grammar says it declares.** -/
theorem ofEntry?_eq_some_iff {entry : List Char} {p : Parameter} :
    ofEntry? entry = some p ↔ p.DeclaredBy entry := by
  constructor
  · intro h
    obtain ⟨type, places, name, hwords, heq, hfree, rfl⟩ := exists_areWords_of_ofEntry? h
    obtain ⟨form, hparts, hform⟩ := hwords.exists_form hfree
    exact ⟨form, hparts ▸ hwords.words_eq_iff.1 heq, hform⟩
  · rintro ⟨form, hspaced, rfl⟩
    exact form.ofEntry?_of_parts (words_eq_iff.2 ⟨hspaced, fun _ => form.isWhole_of_mem_parts⟩)

/-- **The entries declare what is read of them.** -/
theorem entriesDeclare_iff {entries : List (List Char)} {ps : List Parameter} :
    EntriesDeclare entries ps ↔ entries.filterMap ofEntry? = ps := by
  constructor
  · intro h
    induction h with
    | nil => rfl
    | declared h _ ih => rw [List.filterMap_cons_some (ofEntry?_eq_some_iff.2 h), ih]
    | @other entry _ _ h _ ih =>
      have hnone : ofEntry? entry = none :=
        Option.eq_none_iff_forall_ne_some.2 fun p hp => h p (ofEntry?_eq_some_iff.1 hp)
      rw [List.filterMap_cons_none hnone, ih]
  · rintro rfl
    induction entries with
    | nil => exact .nil
    | cons entry entries ih =>
      cases hentry : ofEntry? entry with
      | none =>
        rw [List.filterMap_cons_none hentry]
        refine .other (fun p hp => ?_) ih
        rw [ofEntry?_eq_some_iff.2 hp] at hentry
        cases hentry
      | some p =>
        rw [List.filterMap_cons_some hentry]
        exact .declared (ofEntry?_eq_some_iff.1 hentry) ih

/-! ## By the expression -/

theorem takes_suffixes : suffixes.Takes fun s =>
    ∃ sizes : List (List Char), (∀ size ∈ sizes, ∀ c ∈ size, isDecimalDigit c = true) ∧
      s = sizes.flatMap fun size => '[' :: size ++ [']'] := by
  have hturn : Expression.Takes (.row [.one (· = '['), .many (.one isDecimalDigit), .one (· = ']')])
      fun s => ∃ size : List Char, (∀ c ∈ size, isDecimalDigit c = true) ∧
        s = '[' :: size ++ [']'] := by
    refine ((Expression.takes_one _).andThen
      ((Expression.takes_span _).andThen (Expression.takes_one _))).congr fun s => ?_
    constructor
    · rintro ⟨_, _, ⟨c, hc, rfl⟩, ⟨size, _, hsize, ⟨d, hd, rfl⟩, rfl⟩, rfl⟩
      rw [of_decide_eq_true hc, of_decide_eq_true hd]
      exact ⟨size, hsize, rfl⟩
    · rintro ⟨size, hsize, rfl⟩
      exact ⟨['['], size ++ [']'], ⟨'[', by simp, rfl⟩, ⟨size, [']'], hsize, ⟨']', by simp, rfl⟩,
        rfl⟩, rfl⟩
  exact hturn.many fun _ _ => by simp

theorem takes_type : Expression.Takes (.row [.many1 isWord, suffixes]) (isType · = true) := by
  refine ((Expression.takes_many1 _).andThen takes_suffixes).congr fun s => ?_
  rw [isType_iff]
  constructor
  · rintro ⟨base, _, ⟨hne, hword⟩, ⟨sizes, hsizes, rfl⟩, rfl⟩
    exact ⟨⟨base, hne, hword⟩, sizes, hsizes, rfl⟩
  · rintro ⟨base, sizes, hsizes, rfl⟩
    exact ⟨base.text, _, ⟨base.ne_nil, base.word⟩, ⟨sizes, hsizes, rfl⟩, rfl⟩

theorem takes_places : places.Takes fun s =>
    ∃ ended : List (List Char × List Char),
      (∀ place ∈ ended, String.ofList place.1 ∈ locations ∧ place.2 ≠ [] ∧
        ∀ c ∈ place.2, isBlank c = true) ∧
      s = ended.flatMap fun place => place.1 ++ place.2 := by
  have hword : Expression.Takes (.choice (locations.map fun word => .literal word.toList))
      fun s => String.ofList s ∈ locations := by
    have hmap : locations.map (fun word => Expression.literal word.toList) =
        (locations.map String.toList).map Expression.literal := by rw [List.map_map]; rfl
    rw [hmap]
    refine (Expression.takes_choice _).congr fun s => ?_
    rw [List.mem_map]
    constructor
    · rintro ⟨word, hword, rfl⟩
      rwa [String.ofList_toList]
    · intro h
      exact ⟨_, h, String.toList_ofList⟩
  have hturn : Expression.Takes
      (.row [.choice (locations.map fun word => .literal word.toList), .many1 isBlank]) fun s =>
        ∃ place : List Char × List Char, (String.ofList place.1 ∈ locations ∧ place.2 ≠ [] ∧
          ∀ c ∈ place.2, isBlank c = true) ∧ s = place.1 ++ place.2 := by
    refine (hword.andThen (Expression.takes_many1 _)).congr fun s => ?_
    constructor
    · rintro ⟨place, gap, hplace, hgap, rfl⟩
      exact ⟨(place, gap), ⟨hplace, hgap⟩, rfl⟩
    · rintro ⟨place, ⟨hplace, hgap⟩, rfl⟩
      exact ⟨_, _, hplace, hgap, rfl⟩
  refine hturn.many fun place ⟨_, hgap, _⟩ h => hgap (List.append_eq_nil_iff.1 h).2

/-- **The expression takes the entries of such words**, with the type and the name as groups. -/
theorem fits_expression_iff {entry : List Char} {groups : List (Nat × List Char)} :
    expression.Fits entry groups ↔
      ∃ type places name, AreWords type places name ∧ words entry = type :: (places ++ [name]) ∧
        groups = [(1, type), (2, name)] := by
  constructor
  · intro h
    obtain ⟨lead, _, hlead, h₁, rfl⟩ := (Expression.takes_span isBlank).followed_iff.1 h
    obtain ⟨type, _, _, htype, h₂, rfl, rfl⟩ := (takes_type.kept_followed_iff 1).1 h₁
    obtain ⟨gap, _, ⟨hne, hgap⟩, h₃, rfl⟩ := (Expression.takes_many1 isBlank).followed_iff.1 h₂
    obtain ⟨_, _, ⟨ended, hended, rfl⟩, h₄, rfl⟩ := takes_places.followed_iff.1 h₃
    obtain ⟨name, tail, _, hname, h₅, rfl, rfl⟩ :=
      ((Expression.takes_many1 isWord).kept_followed_iff 2).1 h₄
    obtain ⟨htail, rfl⟩ := (Expression.takes_span isBlank _ _).1 h₅
    have hwords : AreWords type (ended.map Prod.fst) name :=
      ⟨htype, List.forall_mem_map.2 fun place hplace => (hended place hplace).1,
        isName_iff.2 ⟨⟨name, hname.1, hname.2⟩, rfl⟩⟩
    refine ⟨type, _, name, hwords, hwords.words_eq_iff.2 ⟨lead, _, hlead, ?_, rfl⟩, rfl⟩
    rw [← List.cons_append]
    refine inRow_concat_iff.2 ⟨(type, gap) :: ended, tail, rfl, ?_, htail, by simp⟩
    exact List.forall_mem_cons.2 ⟨⟨hne, hgap⟩, fun place hplace => (hended place hplace).2⟩
  · rintro ⟨type, places, name, hwords, heq, rfl⟩
    obtain ⟨lead, row, hlead, hrow, rfl⟩ := hwords.words_eq_iff.1 heq
    rw [← List.cons_append] at hrow
    obtain ⟨ended, tail, hparts, hended, htail, rfl⟩ := inRow_concat_iff.1 hrow
    obtain ⟨⟨_, gap⟩, ended, rfl, rfl, rfl⟩ := List.map_eq_cons_iff.1 hparts
    obtain ⟨⟨hne, hgap⟩, hended⟩ := List.forall_mem_cons.1 hended
    obtain ⟨x, rfl⟩ := isName_iff.1 hwords.name
    have hplaces : ∀ place ∈ ended, String.ofList place.1 ∈ locations ∧ place.2 ≠ [] ∧
        ∀ c ∈ place.2, isBlank c = true :=
      fun place hplace => ⟨hwords.places _ (List.mem_map_of_mem hplace), hended place hplace⟩
    -- the expression is put together from the back
    have h₅ := (Expression.takes_span isBlank _ _).2 ⟨htail, rfl⟩
    have h₄ := ((Expression.takes_many1 isWord).kept_followed_iff 2).2
      ⟨x.text, tail, [], ⟨x.ne_nil, x.word⟩, h₅, rfl, rfl⟩
    have h₃ := takes_places.followed_iff.2 ⟨_, _, ⟨ended, hplaces, rfl⟩, h₄, rfl⟩
    have h₂ := (Expression.takes_many1 isBlank).followed_iff.2 ⟨gap, _, ⟨hne, hgap⟩, h₃, rfl⟩
    have h₁ := (takes_type.kept_followed_iff 1).2 ⟨_, _, _, hwords.type, h₂, rfl, rfl⟩
    refine (Expression.takes_span isBlank).followed_iff.2 ⟨lead, _, hlead, h₁, ?_⟩
    simp

/-- **An entry is read as the expression takes it.** -/
theorem matched?_eq (entry : List Char) : matched? entry = ofEntry? entry := by
  rw [matched?]
  cases hwhole : expression.whole? entry with
  | none =>
    symm
    rw [Option.bind_eq_bind, Option.bind_none, Option.eq_none_iff_forall_ne_some]
    intro p hp
    obtain ⟨type, places, name, hwords, heq, -, -⟩ := exists_areWords_of_ofEntry? hp
    exact Expression.whole?_eq_none_iff.1 hwhole _ (fits_expression_iff.2 ⟨_, _, _, hwords, heq, rfl⟩)
  | some way =>
    obtain ⟨-, hfits⟩ := Expression.fits_of_whole? hwhole
    obtain ⟨type, places, name, hwords, heq, hgroups⟩ := fits_expression_iff.1 hfits
    have htype : way.group? 1 = some type := by rw [Way.group?, hgroups]; rfl
    have hname : way.group? 2 = some name := by rw [Way.group?, hgroups]; rfl
    rw [hwords.ofEntry?_eq heq]
    simp only [Option.bind_eq_bind, Option.bind_some, htype, hname]

/-! ## Lists -/

theorem not_mem_of_spaced {form : ParameterForm} {entry : List Char}
    (h : Spaced form.parts entry) : ',' ∉ entry := by
  intro hc
  rcases h.mem _ hc with hblank | ⟨part, hpart, hc⟩
  · exact absurd hblank (by decide)
  · exact absurd (form.isPart_of_mem_parts hpart hc) (by decide)

/-- Entries in the form of parameters declare these, and no comma stands in them. -/
theorem entriesDeclare_of_spaced {forms : List ParameterForm} {entries : List (List Char)}
    (h : List.Forall₂ (fun form entry => Spaced form.parts entry) forms entries) :
    EntriesDeclare entries (forms.map ParameterForm.parameter) ∧ ∀ entry ∈ entries, ',' ∉ entry := by
  induction h with
  | nil => exact ⟨.nil, by simp⟩
  | cons hentry _ ih =>
    obtain ⟨hdeclare, hfree⟩ := ih
    exact ⟨.declared ⟨_, hentry, rfl⟩ hdeclare,
      List.forall_mem_cons.2 ⟨not_mem_of_spaced hentry, hfree⟩⟩

/-- **A parameter list is read by its grammar.** Its entries are the texts between commas, and each
entry that consists of the parts of a form declares one parameter, while all others declare nothing;
matching the entries with the regular expression gives the same. So what is written in the form of
parameters, with any words for the location and any white space, is read back. -/
theorem ofList_grammar :
    (∀ (list : List Char) (ps : List Parameter), ofList list = ps ↔
      ∃ entries : List (List Char), entries ≠ [] ∧ (∀ entry ∈ entries, ',' ∉ entry) ∧
        join [','] entries = list ∧ EntriesDeclare entries ps) ∧
    (∀ list : List Char, (pieces ',' list).filterMap matched? = ofList list) ∧
    ∀ (forms : List ParameterForm) (entries : List (List Char)),
      List.Forall₂ (fun form entry => Spaced form.parts entry) forms entries →
        ofList (join [','] entries) = forms.map ParameterForm.parameter := by
  refine ⟨fun list ps => ?_, fun list => ?_, fun forms entries h => ?_⟩
  · constructor
    · intro h
      obtain ⟨hne, hfree, hjoin⟩ := pieces_eq_iff.1 (rfl : pieces ',' list = _)
      exact ⟨_, hne, hfree, hjoin, entriesDeclare_iff.2 h⟩
    · rintro ⟨entries, hne, hfree, hjoin, h⟩
      rw [ofList, pieces_eq_iff.2 ⟨hne, hfree, hjoin⟩, entriesDeclare_iff.1 h]
  · rw [ofList, funext matched?_eq]
  · obtain ⟨hdeclare, hfree⟩ := entriesDeclare_of_spaced h
    rw [← entriesDeclare_iff.1 hdeclare]
    cases entries with
    | nil => decide
    | cons entry entries => rw [ofList, pieces_eq_iff.2 ⟨by simp, hfree, rfl⟩]

/-- Two parameters. The type of the second one is a word for the location in the first one. -/
def locatedForms : List ParameterForm :=
  [{ base := ⟨"address".toList, by simp, List.all_eq_true.1 (by decide)⟩
     sizes := [[], ['3']]
     locations := ["memory", "payable"]
     name := ⟨"to".toList, by simp, List.all_eq_true.1 (by decide)⟩
     digits := by simp; decide
     located := by decide
     unreserved := by decide },
   { base := ⟨"payable".toList, by simp, List.all_eq_true.1 (by decide)⟩
     sizes := []
     locations := ["indexed"]
     name := ⟨"x".toList, by simp, List.all_eq_true.1 (by decide)⟩
     digits := by simp
     located := by decide
     unreserved := by decide }]

/-- Both are read back, with white space of several kinds between their words. -/
theorem ofList_grammar_located :
    ofList "\taddress[][3]  memory\npayable to ,payable indexed\t\tx".toList =
      [⟨"address[][3]", "to"⟩, ⟨"payable", "x"⟩] := by
  have hfirst : Spaced ["address[][3]".toList, "memory".toList, "payable".toList, "to".toList]
      "\taddress[][3]  memory\npayable to ".toList := (words_eq_iff.1 (by decide)).1
  have hsecond : Spaced ["payable".toList, "indexed".toList, "x".toList]
      "payable indexed\t\tx".toList := (words_eq_iff.1 (by decide)).1
  exact ofList_grammar.2.2 locatedForms _ (.cons hfirst (.cons hsecond .nil))

/-- A type alone, and a word for the location in the place of the name, declare nothing. -/
example : ofList "uint256, bytes memory, memory payable to".toList = [⟨"memory", "to"⟩] := by
  decide

end GasAdvisor.Parameter
