import GasAdvisor.Contract.Printing
import GasAdvisor.Proofs.Text.Words

/-!
# Parameter lists, printed and read

A printed parameter list is read back (`ParameterForm.ofList_listText`): each entry splits into its
type, its locations and its name (`ParameterForm.words_text`), and no entry holds a comma or a
closing parenthesis (`ParameterForm.not_mem_text`), so neither the list nor the header around it is
cut at a wrong place.
-/

namespace GasAdvisor

open Text

theorem Identifier.isWhole (x : Identifier) : IsWhole x.text :=
  ⟨x.ne_nil, fun c hc => isBlank_eq_false_of_isWord (x.word c hc)⟩

namespace Parameter

theorem isWord_of_mem_locations :
    ∀ word ∈ locations, word.toList ≠ [] ∧ word.toList.all isWord = true := by
  decide

/-- Digits between brackets are an array suffix. -/
theorem isArraySuffix_append {size : List Char} (h : ∀ c ∈ size, isDecimalDigit c = true)
    (rest : List Char) : isArraySuffix true (size ++ ']' :: rest) = isArraySuffix false rest := by
  induction size with
  | nil => simp [isArraySuffix]
  | cons c size ih =>
    have hc : isDecimalDigit c = true := h c (by simp)
    have hne : c ≠ ']' := by
      rintro rfl
      exact absurd hc (by decide)
    rw [List.cons_append, isArraySuffix, if_neg hne, hc, Bool.true_and]
    exact ih fun d hd => h d (List.mem_cons_of_mem c hd)

theorem isArraySuffix_flatMap {sizes : List (List Char)}
    (h : ∀ size ∈ sizes, ∀ c ∈ size, isDecimalDigit c = true) :
    isArraySuffix false (sizes.flatMap fun size => '[' :: size ++ [']']) = true := by
  induction sizes with
  | nil => rfl
  | cons size sizes ih =>
    have hsize := isArraySuffix_append (h size (by simp))
      (sizes.flatMap fun size => '[' :: size ++ [']'])
    have hrest := ih fun size' h' => h size' (List.mem_cons_of_mem size h')
    rw [List.flatMap_cons, List.append_assoc, List.cons_append, isArraySuffix,
      List.singleton_append, hsize, hrest]
    rfl

/-- A row of array suffixes, each with the digits of its size. -/
theorem exists_sizes_of_isArraySuffix (s : List Char) :
    (isArraySuffix false s = true → ∃ sizes : List (List Char),
      (∀ size ∈ sizes, ∀ c ∈ size, isDecimalDigit c = true) ∧
        s = sizes.flatMap fun size => '[' :: size ++ [']']) ∧
    (isArraySuffix true s = true → ∃ (size : List Char) (sizes : List (List Char)),
      (∀ digits ∈ size :: sizes, ∀ c ∈ digits, isDecimalDigit c = true) ∧
        s = size ++ ']' :: sizes.flatMap fun size => '[' :: size ++ [']']) := by
  induction s with
  | nil => exact ⟨fun _ => ⟨[], by simp, rfl⟩, nofun⟩
  | cons c s ih =>
    obtain ⟨ihOutside, ihInside⟩ := ih
    constructor
    · intro h
      rw [isArraySuffix, Bool.and_eq_true, decide_eq_true_eq] at h
      obtain ⟨rfl, h⟩ := h
      obtain ⟨size, sizes, hsizes, rfl⟩ := ihInside h
      exact ⟨size :: sizes, hsizes, by simp⟩
    · intro h
      rw [isArraySuffix] at h
      split at h
      · next hc =>
        obtain ⟨sizes, hsizes, rfl⟩ := ihOutside h
        exact ⟨[], sizes, List.forall_mem_cons.2 ⟨by simp, hsizes⟩, by rw [hc]; rfl⟩
      · obtain ⟨hc, h⟩ := Bool.and_eq_true_iff.1 h
        obtain ⟨size, sizes, hsizes, rfl⟩ := ihInside h
        obtain ⟨hsize, hmore⟩ := List.forall_mem_cons.1 hsizes
        exact ⟨c :: size, sizes,
          List.forall_mem_cons.2 ⟨List.forall_mem_cons.2 ⟨hc, hsize⟩, hmore⟩, rfl⟩

/-- **A type is a word with array suffixes.** -/
theorem isType_iff {type : List Char} :
    isType type = true ↔ ∃ (base : Identifier) (sizes : List (List Char)),
      (∀ size ∈ sizes, ∀ c ∈ size, isDecimalDigit c = true) ∧
        type = base.text ++ sizes.flatMap fun size => '[' :: size ++ [']'] := by
  rw [isType, Bool.and_eq_true]
  constructor
  · rintro ⟨hhead, hsuffix⟩
    obtain ⟨sizes, hsizes, hrest⟩ := (exists_sizes_of_isArraySuffix _).1 hsuffix
    have hbase : type.takeWhile isWord ≠ [] := by
      cases type with
      | nil => simp at hhead
      | cons c type => simpa using hhead
    exact ⟨⟨type.takeWhile isWord, hbase, fun _ => of_mem_takeWhile⟩, sizes, hsizes,
      by rw [← hrest, List.takeWhile_append_dropWhile]⟩
  · rintro ⟨base, sizes, hsizes, rfl⟩
    have hstop : Stops isWord (sizes.flatMap fun size => '[' :: size ++ [']']) := by
      cases sizes with
      | nil => exact stops_nil
      | cons size sizes => simp; decide
    refine ⟨?_, ?_⟩
    · obtain ⟨c, rest, hc⟩ := List.exists_cons_of_ne_nil base.ne_nil
      have hword : isWord c = true := base.word c (by simp [hc])
      simp [hc, hword]
    · rw [dropWhile_append_of_stop base.word hstop]
      exact isArraySuffix_flatMap hsizes

/-- The characters of a type. -/
theorem mem_of_isType {type : List Char} (h : isType type = true) {c : Char} (hc : c ∈ type) :
    isWord c = true ∨ isDecimalDigit c = true ∨ c = '[' ∨ c = ']' := by
  obtain ⟨base, sizes, hsizes, rfl⟩ := isType_iff.1 h
  simp only [List.mem_append, List.mem_flatMap, List.mem_cons, List.not_mem_nil, or_false] at hc
  rcases hc with hc | ⟨size, hsize, (hc | hc) | hc⟩
  · exact .inl (base.word c hc)
  · exact .inr (.inr (.inl hc))
  · exact .inr (.inl (hsizes size hsize c hc))
  · exact .inr (.inr (.inr hc))

theorem isWhole_of_isType {type : List Char} (h : isType type = true) : IsWhole type := by
  refine ⟨by rintro rfl; simp [isType] at h, fun c hc => ?_⟩
  rcases mem_of_isType h hc with h | h | rfl | rfl
  · exact isBlank_eq_false_of_isWord h
  · exact isBlank_eq_false_of_isDecimalDigit h
  · decide
  · decide

/-- A name is one word. -/
theorem isName_iff {name : List Char} : isName name = true ↔ ∃ x : Identifier, x.text = name := by
  constructor
  · intro h
    obtain ⟨hne, hall⟩ := Bool.and_eq_true_iff.1 h
    exact ⟨⟨name, by simpa using hne, by simpa using hall⟩, rfl⟩
  · rintro ⟨x, rfl⟩
    have hne := x.ne_nil
    have hword := x.word
    simpa [isName, hne] using hword

/-- A word for the location holds no white space. -/
theorem isWhole_of_mem_locations {word : String} (h : word ∈ locations) : IsWhole word.toList := by
  obtain ⟨hne, hall⟩ := isWord_of_mem_locations word h
  exact ⟨hne, fun c hc => isBlank_eq_false_of_isWord (List.all_eq_true.1 hall c hc)⟩

/-- What an entry of at least two words declares. -/
theorem ofEntry?_of_words {entry type name : List Char} {places : List (List Char)}
    (h : words entry = type :: (places ++ [name])) :
    ofEntry? entry =
      if isType type && isName name &&
          places.all (fun word => locations.contains (String.ofList word)) &&
          !reserved.contains (String.ofList name) then
        some ⟨String.ofList type, String.ofList name⟩
      else none := by
  unfold ofEntry?
  rw [h]
  simp only [List.getLast?_concat, List.dropLast_concat]

end Parameter

namespace ParameterForm

variable (p : ParameterForm)

/-! ## The parts of an entry -/

/-- The characters of a parameter: those of words, brackets, digits and spaces. -/
def isPart (c : Char) : Bool :=
  isWord c || isDecimalDigit c || ['[', ']', ' '].contains c

/-- **A printed type is a type.** -/
theorem isType_typeText : Parameter.isType p.typeText = true :=
  Parameter.isType_iff.2 ⟨p.base, p.sizes, p.digits, rfl⟩

theorem isWhole_of_mem_parts {w : List Char} (h : w ∈ p.parts) : IsWhole w := by
  simp only [parts, List.mem_cons, List.mem_append, List.mem_map, List.not_mem_nil,
    or_false] at h
  rcases h with rfl | ⟨word, hword, rfl⟩ | rfl
  · exact Parameter.isWhole_of_isType p.isType_typeText
  · exact Parameter.isWhole_of_mem_locations (p.located word hword)
  · exact p.name.isWhole

/-- **An entry splits into its parts.** -/
theorem words_text : words p.text = p.parts :=
  words_join fun _ => p.isWhole_of_mem_parts

/-- **An entry of the parts of a form declares its parameter.** -/
theorem ofEntry?_of_parts {entry : List Char} (h : words entry = p.parts) :
    Parameter.ofEntry? entry = some p.parameter := by
  have hlocated : ∀ w ∈ p.locations.map String.toList,
      Parameter.locations.contains (String.ofList w) = true := by
    intro w hw
    obtain ⟨word, hword, rfl⟩ := List.mem_map.1 hw
    rw [String.ofList_toList]
    exact List.contains_iff_mem.2 (p.located word hword)
  have hname : Parameter.isName p.name.text = true := Parameter.isName_iff.2 ⟨p.name, rfl⟩
  have hfree : reserved.contains (String.ofList p.name.text) = false := by
    have hnot : p.name.string ∉ reserved := p.unreserved
    rw [Identifier.string] at hnot
    simpa using hnot
  rw [Parameter.ofEntry?_of_words h]
  simp only [List.all_eq_true.2 hlocated, p.isType_typeText, hname, hfree, Bool.and_self,
    Bool.not_false, if_true]
  rfl

/-- **A printed entry is read back**, also with a space before it. -/
theorem ofEntry?_text : Parameter.ofEntry? p.text = some p.parameter :=
  p.ofEntry?_of_parts p.words_text

theorem ofEntry?_space_text : Parameter.ofEntry? (' ' :: p.text) = some p.parameter := by
  have hspace : words (' ' :: p.text) = words p.text := words_cons_blank (by decide) p.text
  exact p.ofEntry?_of_parts (hspace.trans p.words_text)

/-! ## Lists -/

theorem isPart_of_mem_parts {w : List Char} (hw : w ∈ p.parts) {c : Char} (hc : c ∈ w) :
    isPart c = true := by
  simp only [parts, List.mem_cons, List.mem_append, List.mem_map, List.not_mem_nil,
    or_false] at hw
  rcases hw with rfl | ⟨word, hword, rfl⟩ | rfl
  · rcases Parameter.mem_of_isType p.isType_typeText hc with h | h | rfl | rfl
    · simp [isPart, h]
    · simp [isPart, h]
    · decide
    · decide
  · have := (Parameter.isWord_of_mem_locations word (p.located word hword)).2
    simp [isPart, List.all_eq_true.1 this c hc]
  · simp [isPart, p.name.word c hc]

/-- Every character of an entry belongs to one of its parts. -/
theorem isPart_of_mem_text {c : Char} (h : c ∈ p.text) : isPart c = true := by
  rcases mem_join h with h | ⟨w, hw, hc⟩
  · obtain rfl : c = ' ' := by simpa using h
    decide
  · exact p.isPart_of_mem_parts hw hc

/-- **No entry holds a comma or a closing parenthesis.** -/
theorem not_mem_text {c : Char} (hc : isPart c = false) : c ∉ p.text := fun h => by
  rw [p.isPart_of_mem_text h] at hc
  cases hc

theorem not_mem_listText (ps : List ParameterForm) : ')' ∉ listText ps := by
  intro h
  rcases mem_join h with h | ⟨x, hx, hc⟩
  · exact absurd h (by decide)
  · obtain ⟨p, -, rfl⟩ := List.mem_map.1 hx
    exact p.not_mem_text (by decide) hc

theorem filterMap_space_text (ps : List ParameterForm) :
    ((ps.map text).map ([' '] ++ ·)).filterMap Parameter.ofEntry? =
      ps.map ParameterForm.parameter := by
  induction ps with
  | nil => rfl
  | cons p ps ih =>
    simp only [List.map_cons, List.singleton_append, List.filterMap_cons, p.ofEntry?_space_text]
    exact congrArg (p.parameter :: ·) ih

/-- **A printed parameter list is read back.** -/
theorem ofList_listText (ps : List ParameterForm) :
    Parameter.ofList (listText ps) = ps.map ParameterForm.parameter := by
  cases ps with
  | nil => decide
  | cons p ps =>
    have hfree (x : List Char) (hx : x ∈ (p :: ps).map text) : ',' ∉ x := by
      obtain ⟨q, -, rfl⟩ := List.mem_map.1 hx
      exact q.not_mem_text (by decide)
    have hpieces : pieces ',' (listText (p :: ps)) = p.text :: (ps.map text).map ([' '] ++ ·) :=
      pieces_join (by decide) (hfree _ (by simp)) fun y hy => hfree y (List.mem_cons_of_mem _ hy)
    rw [Parameter.ofList, hpieces, List.filterMap_cons, p.ofEntry?_text]
    simp only [filterMap_space_text, List.map_cons]

end ParameterForm

end GasAdvisor
