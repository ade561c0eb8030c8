import GasAdvisor.Contract.Pattern
import GasAdvisor.Proofs.Text.Search
import GasAdvisor.Proofs.Text.Shapes
import GasAdvisor.Rule.Basic

/-!
# Comparisons and assignments

Three shapes look for assignments: one for writes to storage, one that the rules count, and one among
the changes of the state. Where every equals sign of a text belongs to a comparison (`OnlyCompares`),
an equals sign behind a name, a bracket or white space is the first one of `==`
(`OnlyCompares.head?_eq`).

* A write to storage is dropped if it goes on with an equals sign, so none is left
  (`storageWrites_eq_zero`).
* An assignment to a name goes on with a character that continues no comparison, so none is found
  (`plainAssignment_eq_none`).
* An assignment to a place with an index goes on with anything. It is found wherever such a place is
  compared by `==` (`IndexCompared`), and this is the only way in which comparisons are taken for
  assignments (`assignments_reported_iff`).
-/

namespace GasAdvisor

open Text

/-! ## Texts that only compare -/

/-- The comparisons that are written with an equals sign. -/
def comparisonOperators : List (List Char) :=
  [['=', '='], ['!', '='], ['<', '='], ['>', '=']]

/-- Every equals sign of a text belongs to a comparison. -/
def OnlyCompares (text : List Char) : Prop :=
  ∀ i < text.length, text[i]? = some '=' →
    ∃ op ∈ comparisonOperators, ∃ j ≤ i, i < j + op.length ∧ op <+: text.drop j

instance (text : List Char) : Decidable (OnlyCompares text) :=
  inferInstanceAs (Decidable (∀ i < text.length, _))

/-- A place with an index is compared by `==` somewhere in a text. -/
def IndexCompared (text : List Char) : Prop :=
  ∃ before name index gap after,
    text = before ++ (name ++ '[' :: (index ++ ']' :: (gap ++ '=' :: '=' :: after))) ∧
      name ≠ [] ∧ (∀ c ∈ name, isWord c = true) ∧ (∀ c ∈ index, isWord c = true) ∧
      ∀ c ∈ gap, isBlank c = true

/-- The words without which nothing but an assignment changes the state. -/
def effectWords : List String :=
  ["emit", "delete", "transfer", "call", "send", "selfdestruct", "require", "assert", "revert",
    "push", "pop"]

/-- A text in which one of these words occurs. -/
def MentionsEffect (text : List Char) : Prop :=
  ∃ w ∈ effectWords, mentions w.toList text = true

instance (text : List Char) : Decidable (MentionsEffect text) :=
  inferInstanceAs (Decidable (∃ w ∈ effectWords, _))

variable {text u v s rest : List Char}

theorem MentionsEffect.mono (h : MentionsEffect s) (hpart : s <:+: text) :
    MentionsEffect text := by
  obtain ⟨w, hw, hs⟩ := h
  exact ⟨w, hw, mentions_iff.2 ((mentions_iff.1 hs).trans hpart)⟩

theorem exists_of_mem_comparisonOperators :
    ∀ op ∈ comparisonOperators, ∃ a ∈ ['=', '!', '<', '>'], op = [a, '='] := by
  simp [comparisonOperators]

/-- **An equals sign behind a character that begins no comparison is the first one of two.** -/
theorem OnlyCompares.head?_eq {c : Char} (h : OnlyCompares (u ++ c :: '=' :: rest))
    (hc : c ∉ ['=', '!', '<', '>']) : rest.head? = some '=' := by
  have hsplit : u ++ c :: '=' :: rest = (u ++ [c]) ++ '=' :: rest := by simp
  have hlength : (u ++ [c]).length = u.length + 1 := by simp
  have hplace : (u ++ c :: '=' :: rest)[u.length + 1]? = some '=' := by
    rw [hsplit, List.getElem?_append_right (by simp)]
    simp
  obtain ⟨op, hop, j, hle, hlt, hstart⟩ := h (u.length + 1) (by simp) hplace
  obtain ⟨a, ha, rfl⟩ := exists_of_mem_comparisonOperators op hop
  have hj : j = u.length ∨ j = u.length + 1 := by
    rw [List.length_cons, List.length_singleton] at hlt
    omega
  rcases hj with rfl | rfl
  · -- the operator would begin with the character before the sign
    rw [List.drop_left, List.cons_prefix_cons] at hstart
    exact absurd (hstart.1 ▸ ha) hc
  · rw [hsplit, ← hlength, List.drop_left, List.cons_prefix_cons] at hstart
    obtain ⟨-, t, rfl⟩ := hstart
    rfl

/-! ## Where assignments end -/

/-- A text that ends in a name or in a closing bracket. -/
def EndsPlace (s : List Char) : Prop :=
  ∃ c, s.getLast? = some c ∧ (isWord c = true ∨ c = ']')

/-- A text that ends in an equals sign, with at most white space between a place and the sign. -/
def EndsInSign (s : List Char) : Prop :=
  ∃ place gap, EndsPlace place ∧ (∀ c ∈ gap, isBlank c = true) ∧ s = place ++ (gap ++ ['='])

theorem endsPlace_of_word (hne : s ≠ []) (hs : ∀ c ∈ s, isWord c = true) : EndsPlace s :=
  ⟨s.getLast hne, List.getLast?_eq_some_getLast hne, .inl (hs _ (List.getLast_mem hne))⟩

theorem EndsPlace.append_left (h : EndsPlace s) (u : List Char) : EndsPlace (u ++ s) := by
  obtain ⟨c, hlast, hc⟩ := h
  exact ⟨c, by rw [List.getLast?_append, hlast, Option.some_or], hc⟩

theorem EndsInSign.append_left (h : EndsInSign s) (u : List Char) : EndsInSign (u ++ s) := by
  obtain ⟨place, gap, hplace, hgap, rfl⟩ := h
  exact ⟨u ++ place, gap, hplace.append_left u, hgap, (List.append_assoc ..).symm⟩

/-- The character before such a sign begins no comparison. -/
theorem EndsInSign.exists_before (h : EndsInSign s) :
    ∃ t c, s = t ++ [c, '='] ∧ c ∉ ['=', '!', '<', '>'] := by
  obtain ⟨place, gap, ⟨d, hlast, hd⟩, hgap, rfl⟩ := h
  have hclass : ∀ c ∈ ['=', '!', '<', '>'], (!isWord c && !isBlank c && c != ']') = true :=
    List.all_eq_true.1 (by decide)
  rcases List.eq_nil_or_concat gap with rfl | ⟨gap, b, rfl⟩
  · obtain ⟨place, rfl⟩ := List.getLast?_eq_some_iff.1 hlast
    refine ⟨place, d, by simp, fun hmem => ?_⟩
    have hd' := hclass d hmem
    rcases hd with hd | rfl
    · simp [hd] at hd'
    · simp at hd'
  · refine ⟨place ++ gap, b, by simp, fun hmem => ?_⟩
    have hb := hclass b hmem
    simp [hgap b (by simp)] at hb

/-- **In a text that only compares, such a sign goes on with another one.** -/
theorem OnlyCompares.head?_of_endsInSign (h : OnlyCompares (u ++ (s ++ rest)))
    (hs : EndsInSign s) : rest.head? = some '=' := by
  obtain ⟨t, c, rfl, hc⟩ := hs.exists_before
  have hsplit : u ++ (t ++ [c, '='] ++ rest) = (u ++ t) ++ c :: '=' :: rest := by simp
  exact (hsplit ▸ h).head?_eq hc

/-- White space and an equals sign after a place. -/
theorem yields_endsInSign {place : Shape} (hplace : place.Yields EndsPlace) :
    (place.andThen (Shape.blanks.andThen (.one (· = '=')))).Yields EndsInSign := by
  refine (hplace.andThen ((Shape.yields_many _).andThen (Shape.yields_one _))).mono ?_
  rintro _ ⟨t, _, ht, ⟨gap, _, hgap, ⟨c, hc, rfl⟩, rfl⟩, rfl⟩
  rw [of_decide_eq_true hc]
  exact ⟨t, gap, ht, hgap, rfl⟩

/-- Whatever stands before the place. -/
theorem yields_andThen_endsInSign {first second : Shape} {kind : List Char → Prop}
    (hfirst : first.Yields kind) (hsecond : second.Yields EndsInSign) :
    (first.andThen second).Yields EndsInSign := by
  refine (hfirst.andThen hsecond).mono ?_
  rintro _ ⟨t, s, -, hs, rfl⟩
  exact hs.append_left t

theorem yields_word : (Shape.many1 isWord).Yields EndsPlace :=
  (Shape.yields_many1 _).mono fun _ h => endsPlace_of_word h.1 h.2

/-! ## Places that have an index -/

/-- A text that begins with a place that has an index, and with an equals sign after it. -/
def AssignsIndexed (s : List Char) : Prop :=
  ∃ name index gap after, s = name ++ '[' :: (index ++ ']' :: (gap ++ '=' :: after)) ∧
    name ≠ [] ∧ (∀ c ∈ name, isWord c = true) ∧ (∀ c ∈ index, isWord c = true) ∧
    ∀ c ∈ gap, isBlank c = true

/-- In a text that only compares, an equals sign after such a place begins a comparison. -/
theorem AssignsIndexed.indexCompared (hv : AssignsIndexed v) (h : OnlyCompares (u ++ v)) :
    IndexCompared (u ++ v) := by
  obtain ⟨name, index, gap, after, rfl, hne, hname, hindex, hgap⟩ := hv
  have hplace : EndsPlace ((name ++ '[' :: index) ++ [']']) :=
    EndsPlace.append_left ⟨']', rfl, .inr rfl⟩ _
  have hsplit : u ++ (name ++ '[' :: (index ++ ']' :: (gap ++ '=' :: after))) =
      u ++ ((name ++ '[' :: index) ++ [']'] ++ (gap ++ ['=']) ++ after) := by simp
  have hhead : after.head? = some '=' :=
    (hsplit ▸ h).head?_of_endsInSign ⟨_, gap, hplace, hgap, rfl⟩
  obtain ⟨after, rfl⟩ := List.head?_eq_some_iff.1 hhead
  exact ⟨u, name, index, gap, after, rfl, hne, hname, hindex, hgap⟩

/-- A comparison of a place that has an index can be found from the start of a word. -/
theorem IndexCompared.exists_assignsIndexed (h : IndexCompared text) :
    ∃ u v, text = u ++ v ∧ EndsWords u ∧ AssignsIndexed v := by
  obtain ⟨u, name, index, gap, after, rfl, hne, hname, hindex, hgap⟩ := h
  -- what of a word stands before the name belongs to it
  obtain ⟨u, w, rfl, hends, hw⟩ := exists_endsWords_append u
  refine ⟨u, (w ++ name) ++ '[' :: (index ++ ']' :: (gap ++ '=' :: ('=' :: after))), by simp, hends,
    w ++ name, index, gap, '=' :: after, rfl, by simp [hne], ?_, hindex, hgap⟩
  intro c hc
  rcases List.mem_append.1 hc with hc | hc
  · exact hw c hc
  · exact hname c hc

theorem AssignsIndexed.any_head? (h : AssignsIndexed v) : v.head?.any isWord = true := by
  obtain ⟨name, index, gap, after, rfl, hne, hname, -⟩ := h
  obtain ⟨c, name, rfl⟩ := List.exists_cons_of_ne_nil hne
  exact hname c List.mem_cons_self

theorem AssignsIndexed.ne_nil (h : AssignsIndexed v) : v ≠ [] := by
  rintro rfl
  cases h.any_head?

/-! ## Writes to storage -/

namespace Pattern

/-- Subscripts end in a bracket, unless there are none. -/
theorem subscripts_eq_some {depth : Nat} {found : List Char × List Char}
    (h : subscripts depth s = some found) :
    s = found.1 ++ found.2 ∧ (0 < depth ∨ found.1 ≠ [] → found.1.getLast? = some ']') := by
  induction s generalizing depth found with
  | nil =>
    cases depth with
    | zero =>
      obtain rfl := Option.some.inj h
      simp
    | succ depth => cases h
  | cons c s ih =>
    -- one more character before what is taken of the rest
    have later {depth' : Nat} (hend : 0 < depth' ∨ c = ']')
        (h' : (subscripts depth' s).map (fun found' => (c :: found'.1, found'.2)) = some found) :
        c :: s = found.1 ++ found.2 ∧ (0 < depth ∨ found.1 ≠ [] → found.1.getLast? = some ']') := by
      obtain ⟨found', hfound', rfl⟩ := Option.map_eq_some_iff.1 h'
      obtain ⟨rfl, hlast⟩ := ih hfound'
      refine ⟨rfl, fun _ => ?_⟩
      rw [List.getLast?_cons]
      by_cases hnil : found'.1 = []
      · rcases hend with hpos | rfl
        · simp [hlast (.inl hpos)]
        · simp [hnil]
      · simp [hlast (.inr hnil)]
    cases depth with
    | zero =>
      rw [subscripts] at h
      split at h
      · exact later (.inl Nat.one_pos) h
      · obtain rfl := Option.some.inj h
        simp
    | succ depth =>
      rw [subscripts] at h
      split at h
      · cases h
      · split at h
        · split at h
          · exact later (.inl (Nat.succ_pos _)) h
          · cases h
        · split at h
          · next hclose => exact later (.inr hclose) h
          · exact later (.inl (Nat.succ_pos _)) h

theorem yields_subscriptRow : subscriptRow.Yields EndsPlace := by
  intro before s found h
  unfold subscriptRow at h
  split at h
  · next rest =>
    obtain ⟨hsplit, hlast⟩ := subscripts_eq_some h
    have hne : found.1 ≠ [] := by
      rw [subscripts, if_pos rfl] at h
      obtain ⟨found', -, rfl⟩ := Option.map_eq_some_iff.1 h
      simp
    exact ⟨hsplit, ']', hlast (.inr hne), .inr rfl⟩
  · cases h

/-- **Every write to storage ends in an equals sign after a place.** -/
theorem yields_assignment : assignment.Yields EndsInSign := by
  have hname := yields_endsInSign yields_word
  have hindexed := yields_andThen_endsInSign (Shape.yields_many1 isWord)
    (yields_endsInSign yields_subscriptRow)
  have hline := yields_andThen_endsInSign Shape.yields_lineStart
    (yields_andThen_endsInSign (Shape.yields_many isBlank) hname)
  have hstatement := yields_andThen_endsInSign
    (Shape.yields_one fun c => c = ';' || c = '{' || c = '}')
    (yields_andThen_endsInSign (Shape.yields_many isBlank) hname)
  refine Shape.Yields.choice ?_
  simp only [List.forall_mem_cons]
  exact ⟨hindexed, hline, hstatement, by simp⟩

/-- **A text that only compares writes nothing.** -/
theorem storageWrites_eq_zero (h : OnlyCompares text) : storageWrites text = 0 := by
  rw [storageWrites, List.length_eq_zero_iff, List.filter_eq_nil_iff]
  intro hit hhit
  obtain ⟨u, v, size, rfl, -, -, hfind⟩ := exists_of_mem_hitsFrom hhit
  obtain ⟨found, hfound, hvalue⟩ := Option.map_eq_some_iff.1 hfind
  obtain ⟨rfl, hsign⟩ := yields_assignment _ _ _ hfound
  obtain ⟨rfl, -⟩ := Prod.mk.inj hvalue
  simp [h.head?_of_endsInSign hsign]

end Pattern

/-! ## Assignments among the evidence -/

namespace Evidence

/-- An equals sign that goes on with another one assigns nothing. -/
theorem assigned_eq_none (h : s.head? = some '=') (before : Option Char) :
    assigned before s = none := by
  cases s with
  | nil => cases h
  | cons c s =>
    obtain rfl : c = '=' := Option.some.inj h
    rfl

/-- **A text that only compares assigns nothing to a name.** -/
theorem plainAssignment_eq_none (h : OnlyCompares (u ++ v)) (before : Option Char) :
    plainAssignment before v = none := by
  refine Option.eq_none_iff_forall_ne_some.2 fun found hfound => ?_
  obtain ⟨name, more, hname, hmore, -⟩ := Shape.andThen_eq_some_iff.1 hfound
  obtain ⟨gap, last, hgap, hlast, -⟩ := Shape.andThen_eq_some_iff.1 hmore
  obtain ⟨sign, value, hsign, hvalue, -⟩ := Shape.andThen_eq_some_iff.1 hlast
  obtain ⟨hv, hplace⟩ := yields_word _ _ _ hname
  obtain ⟨hrest, hblank⟩ := Shape.yields_many isBlank _ _ _ hgap
  obtain ⟨hrest', c, hc, hs⟩ := Shape.yields_one _ _ _ _ hsign
  have hends : EndsInSign (name.1 ++ (gap.1 ++ ['='])) := ⟨_, _, hplace, hblank, rfl⟩
  have hsplit : v = (name.1 ++ (gap.1 ++ ['='])) ++ sign.2 := by
    rw [hv, hrest, hrest', hs, of_decide_eq_true hc]
    simp
  rw [hsplit] at h
  change assigned _ sign.2 = some value at hvalue
  rw [assigned_eq_none (h.head?_of_endsInSign hends)] at hvalue
  cases hvalue

theorem yields_indexedPlace : indexedPlace.Yields fun m => ∃ name index : List Char,
    m = name ++ '[' :: (index ++ [']']) ∧ (name ≠ [] ∧ ∀ c ∈ name, isWord c = true) ∧
      ∀ c ∈ index, isWord c = true := by
  refine ((Shape.yields_many1 _).andThen ((Shape.yields_one _).andThen
    ((Shape.yields_many _).andThen (Shape.yields_one _)))).mono ?_
  rintro _ ⟨name, _, hname, ⟨_, _, ⟨c, hc, rfl⟩, ⟨index, _, hindex, ⟨d, hd, rfl⟩, rfl⟩, rfl⟩, rfl⟩
  rw [of_decide_eq_true hc, of_decide_eq_true hd]
  exact ⟨name, index, rfl, hname, hindex⟩

theorem isSome_indexedAssignment_iff {before : Option Char} :
    (indexedAssignment before s).isSome = true ↔ AssignsIndexed s := by
  constructor
  · intro h
    obtain ⟨found, hfound⟩ := Option.isSome_iff_exists.1 h
    obtain ⟨rfl, _, _, ⟨name, index, rfl, ⟨hne, hname⟩, hindex⟩, ⟨gap, _, hgap, ⟨c, hc, rfl⟩, rfl⟩,
      hmatched⟩ := (yields_indexedPlace.andThen
        ((Shape.yields_many _).andThen (Shape.yields_one _))) _ _ _ hfound
    rw [hmatched, of_decide_eq_true hc]
    exact ⟨name, index, gap, found.2, by simp, hne, hname, hindex, hgap⟩
  · rintro ⟨name, index, gap, after, rfl, hne, hname, hindex, hgap⟩
    -- the parts are taken one after the other, each up to the character that ends it
    have hopening : Stops isWord ('[' :: (index ++ ']' :: (gap ++ '=' :: after))) :=
      stops_cons.2 (by decide)
    have hclosing : Stops isWord (']' :: (gap ++ '=' :: after)) := stops_cons.2 (by decide)
    have hsign : Stops isBlank ('=' :: after) := stops_cons.2 (by decide)
    have hplace : indexedPlace before (name ++ '[' :: (index ++ ']' :: (gap ++ '=' :: after))) =
        some (name ++ (['['] ++ (index ++ [']'])), gap ++ '=' :: after) :=
      Shape.andThen_of_some (Shape.many1_append hne hname hopening _) fun _ =>
        Shape.andThen_of_some (Shape.one_cons (by simp) _ _) fun _ =>
          Shape.andThen_of_some (Shape.many_append hindex hclosing _) fun _ =>
            Shape.one_cons (by simp) _ _
    have hassigned : indexedAssignment before
        (name ++ '[' :: (index ++ ']' :: (gap ++ '=' :: after))) =
          some (name ++ (['['] ++ (index ++ [']'])) ++ (gap ++ ['=']), after) :=
      Shape.andThen_of_some hplace fun _ =>
        Shape.andThen_of_some (Shape.many_append hgap hsign _) fun _ => Shape.one_cons (by simp) _ _
    exact Option.isSome_iff_exists.2 ⟨_, hassigned⟩

/-- **In a text that only compares, an assignment is a comparison of a place that has an index.** -/
theorem isSome_assignment_iff (h : OnlyCompares (u ++ v)) {before : Option Char} :
    (assignment before v).isSome = true ↔ AssignsIndexed v := by
  rw [assignment, Shape.choice_cons, plainAssignment_eq_none h, Option.none_or, Shape.choice_cons,
    ← @isSome_indexedAssignment_iff v before]
  simp [Shape.choice]

/-- **Assignments are counted in a text that only compares exactly if a place that has an index is
compared by `==`.** -/
theorem countByWord_assignment_eq_zero_iff (h : OnlyCompares text) :
    assignment.countByWord text = 0 ↔ ¬ IndexCompared text := by
  rw [Shape.countByWord, List.length_eq_zero_iff]
  constructor
  · intro hnone hcompared
    obtain ⟨u, v, rfl, hends, hv⟩ := hcompared.exists_assignsIndexed
    refine hitsByWord_ne_nil hv.ne_nil hends ?_ hnone
    rw [Shape.find, Option.isSome_map]
    exact (isSome_assignment_iff h).2 hv
  · intro hnot
    refine List.eq_nil_iff_forall_not_mem.2 fun hit hhit => hnot ?_
    obtain ⟨u, v, size, rfl, -, -, hfind⟩ := exists_of_mem_hitsFrom hhit
    have hsome : (assignment (u.getLast?.or none) v).isSome = true := by
      rw [← Option.isSome_map, ← Shape.find, hfind]
      rfl
    exact ((isSome_assignment_iff h).1 hsome).indexCompared h

/-! ## Changes of the state -/

/-- A fixed text in which such a word occurs. -/
theorem yields_literal_effect {w : List Char} (hw : MentionsEffect w) :
    (Shape.literal w).Yields MentionsEffect :=
  (Shape.yields_literal w).mono fun _ h => h ▸ hw

/-- Such a word, white space and a name. -/
theorem yields_statement_effect {w : List Char} (hw : MentionsEffect w) :
    (Shape.seq [.literal w, .many1 isBlank, .many1 isWord]).Yields MentionsEffect := by
  refine ((yields_literal_effect hw).andThen
    ((Shape.yields_many1 _).andThen (Shape.yields_many1 _))).mono ?_
  rintro _ ⟨s, t, hs, -, rfl⟩
  exact hs.mono (List.infix_append' [] s t)

/-- **Without such a word, only an assignment changes the state.** -/
theorem stateChange_eq (h : ¬ MentionsEffect (u ++ v)) (before : Option Char) :
    stateChange before v = (Shape.seq [.wordEdge, assignment]) before v := by
  rw [stateChange, Shape.choice_cons, Option.or_eq_left_of_none]
  refine Option.eq_none_iff_forall_ne_some.2 fun found hfound => h ?_
  have hyields := fun heffects => @Shape.Yields.choice MentionsEffect _ heffects before v found hfound
  simp only [List.forall_mem_cons] at hyields
  have hliteral {w : List Char} (hw : MentionsEffect w) := yields_literal_effect hw
  obtain ⟨rfl, heffect⟩ := hyields ⟨yields_statement_effect (by decide), hliteral (by decide),
    hliteral (by decide), hliteral (by decide), hliteral (by decide), hliteral (by decide),
    hliteral (by decide), hliteral (by decide), hliteral (by decide),
    yields_statement_effect (by decide), hliteral (by decide), hliteral (by decide), by simp⟩
  exact heffect.mono (List.infix_append' u found.1 found.2)

/-- **Without such a word, a text that only compares is taken to change the state exactly if a place
that has an index is compared by `==`.** -/
theorem changesState_eq_false_iff (h : OnlyCompares text) (hquiet : ¬ MentionsEffect text) :
    changesState text = false ↔ ¬ IndexCompared text := by
  rw [← Bool.not_eq_true, not_iff_not, changesState, Shape.occurs, isSome_first?_iff]
  constructor
  · rintro ⟨u, v, rfl, -, hchange⟩
    obtain ⟨found, hfound⟩ := Option.isSome_iff_exists.1 hchange
    rw [stateChange_eq hquiet] at hfound
    obtain ⟨edge, hit, hedge, hhit, -⟩ := Shape.andThen_eq_some_iff.1 hfound
    obtain rfl := Shape.wordEdge_eq_some hedge
    exact ((isSome_assignment_iff h).1 (Option.isSome_iff_exists.2 ⟨_, hhit⟩)).indexCompared h
  · intro hcompared
    obtain ⟨u, v, rfl, hends, hv⟩ := hcompared.exists_assignsIndexed
    refine ⟨u, v, rfl, hv.ne_nil, ?_⟩
    have hedge : Shape.wordEdge u.getLast? v = some ([], v) := by
      rw [Shape.wordEdge, if_pos]
      rw [hv.any_head?, show u.getLast?.any isWord = false from hends]
      rfl
    obtain ⟨found, hfound⟩ := Option.isSome_iff_exists.1 ((isSome_assignment_iff h).2 hv)
    rw [stateChange_eq hquiet]
    exact Option.isSome_iff_exists.2
      ⟨_, Shape.andThen_eq_some_iff.2 ⟨_, _, hedge, hfound, rfl⟩⟩

end Evidence

/-! ## Reports -/

/-- **Which comparisons are reported as assignments.** In a text in which every equals sign belongs
to a comparison, no write to storage is found, but an assignment is counted exactly if a place with
an index is compared by `==`, and exactly then the text is taken to change the state if no word in it
says so. -/
theorem assignments_reported_iff (s : Subject) (h : OnlyCompares s.code) :
    Pattern.storageWrites s.code = 0 ∧ (s.writes = 0 ↔ ¬ IndexCompared s.code) ∧
      (¬ MentionsEffect s.code →
        (Evidence.changesState s.code = false ↔ ¬ IndexCompared s.code)) :=
  ⟨Pattern.storageWrites_eq_zero h, Evidence.countByWord_assignment_eq_zero_iff h,
    Evidence.changesState_eq_false_iff h⟩

/-- A function that compares a balance and writes nothing. -/
def lacksBalance : Function where
  name := "f"
  visibility := .public
  mutability := .view
  parameters := [⟨"uint256", "i"⟩]
  returns := some "bool"
  modifiers := []
  patterns := []
  sourceCode :=
    "function f(uint256 i) public view returns (bool) \x7b return balances[i] == 0; \x7d"
  startLine := 1
  complexity := 1

theorem onlyCompares_lacksBalance : OnlyCompares (Subject.of lacksBalance).code := by
  decide +kernel

/-- It has one comparison and nothing else, but an assignment and a change of the state are found. -/
theorem index_comparison_reported :
    let s := Subject.of lacksBalance
    OnlyCompares s.code ∧ ¬ MentionsEffect s.code ∧ Pattern.storageWrites s.code = 0 ∧
      s.writes = 1 ∧ Evidence.changesState s.code = true :=
  ⟨onlyCompares_lacksBalance, by decide +kernel, by decide +kernel, by decide +kernel,
    by decide +kernel⟩

theorem assignments_reported_iff_lacksBalance :
    let s := Subject.of lacksBalance
    OnlyCompares s.code ∧ Pattern.storageWrites s.code = 0 ∧ (s.writes = 0 ↔ ¬ IndexCompared s.code) ∧
      (¬ MentionsEffect s.code →
        (Evidence.changesState s.code = false ↔ ¬ IndexCompared s.code)) :=
  ⟨onlyCompares_lacksBalance,
    assignments_reported_iff (Subject.of lacksBalance) onlyCompares_lacksBalance⟩

end GasAdvisor
