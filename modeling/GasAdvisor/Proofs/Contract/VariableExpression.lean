import GasAdvisor.Contract.VariableSearch
import GasAdvisor.Proofs.Text.Backtracking
import GasAdvisor.Proofs.Text.Search

/-!
# Declarations by the expression

The reader of state variables and their regular expression find the same declarations in every text
(`StateVariable.declared_eq`). The reader decides as it goes: it takes digits and white space whole and
never tries a second type. The expression may take its decisions back, and there are two places where it
has to: a qualifying word may itself be the name (`nameUpTo_eq`), and a mapping may end before the last
parenthesis of the statement (`firstAfter_closing`).
-/

namespace GasAdvisor.StateVariable

open Text Expression

variable {before : Option Char} {s : List Char}

/-! ## Names -/

theorem capture?_name : (group 1 (many1 isWord)).capture? 1 = Shape.word? := by
  funext s
  rw [capture?_group, Shape.word?, Shape.many1_eq]
  by_cases hstop : Stops isWord s
  · rw [front?_many1_of_stops hstop, stops_iff_head?.1 hstop]
    rfl
  · have hword : s.head?.any isWord = true := by
      rw [stops_iff_head?, Bool.not_eq_false] at hstop
      exact hstop
    rw [front?_many1 hstop, hword]
    rfl

theorem qualifiers_apart : qualifiers.Pairwise Apart := by
  decide

/-- No qualifying word starts with white space. -/
theorem oneOf_qualifiers_of_blank {c : Char} (hc : isBlank c = true) (s : List Char) :
    Shape.oneOf qualifiers before (c :: s) = none := by
  refine Option.eq_none_iff_forall_ne_some.2 fun found hfound => ?_
  obtain ⟨w, hw, hs⟩ := Shape.exists_of_oneOf hfound
  have hblank : ∀ w ∈ qualifiers, (w.head?.any fun c => !isBlank c) = true := by decide
  have hstart := hblank w hw
  cases w with
  | nil => cases hstart
  | cons d w =>
    obtain ⟨rfl, -⟩ := List.cons.inj hs
    simp [hc] at hstart

/-- The name after qualifying words, found by backtracking. -/
def qualifiedName? : List Char → Option (List Char × List Char) :=
  firstAfter (many qualifierExpression) Shape.word?

theorem not_fits_qualifierExpression_nil (g : List (Nat × List Char)) :
    ¬ qualifierExpression.Fits [] g := by
  intro h
  obtain ⟨t, u, gt, gu, -, hu, hnil, -⟩ := fits_andThen_iff.1 h
  exact ((takes_many1 isBlank _ _).1 hu).1.1 (List.append_eq_nil_iff.1 hnil.symm).2

theorem qualifiedName?_of_blank {c : Char} (hc : isBlank c = true) (s : List Char) :
    qualifiedName? (c :: s) = none := by
  have hturn : firstAfter qualifierExpression qualifiedName? (c :: s) = none := by
    rw [qualifierExpression, firstAfter_row_cons, followedAs_oneOf qualifiers_apart _ none,
      oneOf_qualifiers_of_blank hc]
    rfl
  have hname : Shape.word? (c :: s) = none := by
    rw [Shape.word?, Shape.many1, isWord_eq_false_of_isBlank hc]
    rfl
  rw [qualifiedName?, firstAfter_many not_fits_qualifierExpression_nil]
  exact Option.or_eq_none_iff.2 ⟨hturn, hname⟩

/-- **After a qualifying word comes the name, or else the word itself is the name.** -/
theorem qualifiedName?_eq (s : List Char) :
    qualifiedName? s =
      ((qualifier none s).bind fun found => qualifiedName? found.2).or (Shape.word? s) := by
  have hqualifier : qualifierExpression.FollowedAs qualifier qualifiedName? :=
    (followedAs_oneOf qualifiers_apart _).andThen
      (followedAs_many1 fun _ s hc => qualifiedName?_of_blank hc s)
  rw [← hqualifier none s, qualifiedName?, firstAfter_many not_fits_qualifierExpression_nil]

/-- The reader allows for more qualifying words than there can be. -/
theorem nameUpTo_eq {limit : Nat} (h : s.length < limit) : nameUpTo limit s = qualifiedName? s := by
  induction limit generalizing s with
  | zero => exact absurd h (Nat.not_lt_zero _)
  | succ limit ih =>
    have hitself : (if (s.takeWhile isWord).isEmpty then none
        else some (s.takeWhile isWord, s.dropWhile isWord)) = Shape.word? s := by
      rw [Shape.word?, Shape.many1_eq]
      cases s with
      | nil => rfl
      | cons c s => by_cases hc : isWord c = true <;> simp [hc]
    rw [nameUpTo, hitself, qualifiedName?_eq]
    cases hfound : qualifier none s with
    | none => rfl
    | some found =>
      -- a qualifying word takes a character at least
      obtain ⟨word, gap, hword, hgap, hboth⟩ := Shape.andThen_eq_some_iff.1 hfound
      obtain ⟨w, hw, hs⟩ := Shape.exists_of_oneOf hword
      obtain ⟨hrest, hne, -⟩ := Shape.yields_many1 _ _ _ _ hgap
      have hlength := congrArg List.length hs
      have hlength' := congrArg List.length hrest
      have hpos := List.length_pos_of_ne_nil hne
      rw [List.length_append] at hlength hlength'
      have hless : found.2.length < limit := by
        rw [hboth]
        show gap.2.length < limit
        omega
      exact congrArg (Option.or · _) (ih hless)

theorem afterType_of_not_blank {c : Char} (hc : isBlank c = false) (s : List Char) :
    afterType (c :: s) = none := by
  rw [afterType, hc]
  rfl

/-- White space is taken whole, as no name starts within it. -/
theorem firstAfter_blanks : firstAfter (many1 isBlank) qualifiedName? = afterType := by
  funext s
  rw [firstAfter_many1 fun _ s hc => qualifiedName?_of_blank hc s]
  cases s with
  | nil => rfl
  | cons c s =>
    rw [afterType]
    by_cases hc : isBlank c = true
    · have hless : (s.dropWhile isBlank).length < s.length + 1 :=
        Nat.lt_succ_of_le (List.dropWhile_sublist _).length_le
      rw [nameUpTo_eq hless, if_pos hc]
      simp [hc]
    · simp [hc]

/-! ## Types -/

/-- The rest of a mapping. -/
def closing : Expression :=
  row [many (one inMapping), one (· = ')')]

/-- **A mapping ends at the last closing parenthesis that a name follows**, of those before the next
statement. -/
theorem firstAfter_closing : firstAfter closing afterType = afterMapping := by
  funext s
  rw [closing, firstAfter_row_cons, firstAfter_row_singleton]
  induction s with
  | nil =>
    rw [firstAfter_many_one_nil]
    rfl
  | cons c s ih =>
    rw [firstAfter_many_one_cons, ih, firstAfter_one_cons, afterMapping]
    by_cases hin : inMapping c = true
    · rw [if_pos hin, if_pos hin]
      cases afterMapping s <;> simp
    · have hc : c ≠ ')' := by
        rintro rfl
        exact hin (by decide)
      simp [hin, hc]

/-- The elementary types, as expressions and as shapes. -/
def elementaryBranches : List Branch :=
  [⟨"uint".toList, row [literal "uint".toList, many (one isDecimalDigit)],
      .seq [.literal "uint".toList, .many isDecimalDigit]⟩,
   ⟨"int".toList, row [literal "int".toList, many (one isDecimalDigit)],
      .seq [.literal "int".toList, .many isDecimalDigit]⟩,
   ⟨"address".toList, literal "address".toList, .literal "address".toList⟩,
   ⟨"bool".toList, literal "bool".toList, .literal "bool".toList⟩,
   ⟨"string".toList, literal "string".toList, .literal "string".toList⟩,
   ⟨"bytes".toList, row [literal "bytes".toList, many (one isDecimalDigit)],
      .seq [.literal "bytes".toList, .many isDecimalDigit]⟩]

theorem elementaryBranches_apart :
    elementaryBranches.Pairwise fun branch branch' => Apart branch.start branch'.start := by
  decide

theorem agrees_elementaryBranches :
    ∀ branch ∈ elementaryBranches, branch.Agrees afterType := by
  have hword (w : List Char) : (⟨w, literal w, .literal w⟩ : Branch).Agrees afterType :=
    ⟨followedAs_literal w _, (Shape.yields_literal w).mono fun _ h => h ▸ List.prefix_refl w⟩
  have hdigits (w : List Char) : (⟨w, row [literal w, many (one isDecimalDigit)],
      .seq [.literal w, .many isDecimalDigit]⟩ : Branch).Agrees afterType := by
    constructor
    · exact (followedAs_literal w _).andThen (followedAs_span fun _ s hc =>
        afterType_of_not_blank (isBlank_eq_false_of_isDecimalDigit hc) s)
    · refine ((Shape.yields_literal w).andThen (Shape.yields_many isDecimalDigit)).mono ?_
      rintro _ ⟨_, digits, rfl, -, rfl⟩
      exact List.prefix_append _ _
  simp only [elementaryBranches, List.forall_mem_cons, List.not_mem_nil, false_imp_iff,
    implies_true, and_true]
  exact ⟨hdigits _, hdigits _, hword _, hword _, hword _, hdigits _⟩

/-- Among the elementary types, a `u` before `int` makes two of one. -/
theorem firstAfter_int (next : List Char → Option (List Char × List Char)) (s : List Char) :
    firstAfter (row [optional (literal "u".toList), literal "int".toList,
        many (one isDecimalDigit)]) next s =
      (firstAfter (row [literal "uint".toList, many (one isDecimalDigit)]) next s).or
        (firstAfter (row [literal "int".toList, many (one isDecimalDigit)]) next s) := by
  have huint : "uint".toList = "u".toList ++ "int".toList := by decide
  rw [firstAfter_row_cons, firstAfter_optional, huint, firstAfter_row_cons _ _ [],
    firstAfter_row_cons, firstAfter_literal_append]

/-- **After a type the name is looked for once**, or for a mapping, at each of its ends. -/
theorem firstAfter_typeExpression (s : List Char) :
    firstAfter typeExpression afterType s =
      ((elementary none s).bind fun found => afterType found.2).or
        ((mappingHead none s).bind fun found => afterMapping found.2) := by
  have helementary := followedAs_choice agrees_elementaryBranches elementaryBranches_apart none s
  rw [firstAfter_choice] at helementary
  have hmapping : firstAfter (row [literal "mapping".toList, many (one isBlank), one (· = '('),
      many (one inMapping), one (· = ')')]) afterType s =
        (mappingHead none s).bind fun found => afterMapping found.2 := by
    have hhead : (row [literal "mapping".toList, many (one isBlank), one (· = '(')]).FollowedAs
        mappingHead afterMapping := by
      refine (followedAs_literal _ _).andThen ((followedAs_span fun c s hc => ?_).andThen
        (followedAs_one _ _))
      have hne : c ≠ '(' := by
        rintro rfl
        exact absurd hc (by decide)
      rw [firstAfter_row_singleton, firstAfter_one_cons]
      simp [hne]
    rw [← hhead none s, ← firstAfter_closing, closing]
    simp only [firstAfter_row_cons, firstAfter_row_singleton]
  rw [typeExpression, firstAfter_choice]
  simp only [findSome?_cons_or, List.findSome?_nil, elementaryBranches, List.map_cons, List.map_nil,
    Option.or_none, firstAfter_int, hmapping] at helementary ⊢
  have hsame : ((elementary none s).bind fun found => afterType found.2) = _ := helementary.symm
  rw [hsame]
  simp only [Option.or_assoc]

/-! ## Declarations -/

theorem keeps_name : (group 1 (many1 isWord)).Keeps 1 := keeps_group 1 _

/-- **The name that the expression captures is found by looking on after the type.** -/
theorem capture?_expression (s : List Char) :
    expression.capture? 1 s = firstAfter typeExpression afterType s := by
  have hqualified : (row [many qualifierExpression, group 1 (many1 isWord)]).capture? 1 =
      qualifiedName? := by
    funext s
    exact (capture?_andThen keeps_name _ s).trans (by rw [capture?_name]; rfl)
  have hafter : (row [many1 isBlank, many qualifierExpression, group 1 (many1 isWord)]).capture? 1 =
      afterType := by
    funext s
    refine (capture?_andThen (keeps_name.andThen _) _ s).trans ?_
    exact (congrArg (fun next => firstAfter (many1 isBlank) next s) hqualified).trans
      (congrFun firstAfter_blanks s)
  exact (capture?_andThen ((keeps_name.andThen _).andThen _) _ s).trans
    (congrArg (fun next => firstAfter typeExpression next s) hafter)

/-- A text that starts with an elementary type starts with no mapping. -/
theorem mappingHead_of_elementary {found : List Char × List Char}
    (h : elementary none s = some found) : mappingHead none s = none := by
  obtain ⟨shape, hshape, hfound⟩ := Shape.exists_of_choice h
  obtain ⟨branch, hbranch, rfl⟩ :
      ∃ branch ∈ elementaryBranches, branch.shape = shape := List.mem_map.1 hshape
  have hapart : ∀ branch ∈ elementaryBranches, Apart branch.start "mapping".toList := by decide
  have hmapping : mappingHead.Yields ("mapping".toList <+: ·) := by
    refine ((Shape.yields_literal _).andThen ((Shape.yields_many _).andThen
      (Shape.yields_one _))).mono ?_
    rintro _ ⟨_, more, rfl, -, rfl⟩
    exact List.prefix_append _ _
  exact (hapart branch hbranch).eq_none (agrees_elementaryBranches branch hbranch).starts hmapping
    hfound

/-- **What is declared at a place is what the expression captures there.** -/
theorem declaredAt_eq (before : Option Char) (s : List Char) :
    declaredAt before s = (Shape.wordEdge before s).bind fun _ => expression.capture? 1 s := by
  rw [declaredAt, capture?_expression, firstAfter_typeExpression]
  cases hedge : Shape.wordEdge before s with
  | none => rfl
  | some edge =>
    obtain rfl := Shape.wordEdge_eq_some hedge
    simp only [Option.bind_eq_bind, Option.bind_some]
    cases helementary : elementary none s with
    | none => rfl
    | some found =>
      rw [mappingHead_of_elementary helementary]
      exact (Option.or_none).symm

/-- **The matches of the expression are the declarations of a text.** -/
theorem declared_eq (scan : List Char) :
    declared scan = (hits wayAt scan).map fun hit => ⟨hit.index, captured hit.value⟩ := by
  refine hitsFrom_map captured (fun before s => ?_) none 0 0 scan
  rw [declaredAt_eq, wayAt]
  cases hedge : Shape.wordEdge before s with
  | none => rfl
  | some edge =>
    obtain rfl := Shape.wordEdge_eq_some hedge
    rw [capture?]
    cases hway : expression.front? s with
    | none => simp [hway]
    | some way =>
      obtain ⟨more, hmore⟩ := List.head?_eq_some_iff.1 hway
      obtain ⟨hsplit, hfits⟩ := mem_ways_iff.1 (hmore ▸ List.mem_cons_self)
      obtain ⟨name, hname⟩ := Option.isSome_iff_exists.1
        (((keeps_name.andThen _).andThen _).andThen _ _ _ hfits)
      have hgroup : way.group? 1 = some name := hname
      have hsize := congrArg List.length hsplit
      rw [List.length_append] at hsize
      simp [hway, captured, hgroup]
      omega

end GasAdvisor.StateVariable
