import GasAdvisor.Proofs.Text.Expression
import GasAdvisor.Proofs.Text.Shapes

/-!
# What follows an expression

Where the rest of a text has to fit as well, the ways of an expression are tried in their order of
preference until it does. `Expression.firstAfter` is what a search for the rest finds in this way, with
one equation for each kind of expression; so the ways themselves are not looked at any more. It is also
how the preferred way of a row is found, for an expression whose last part keeps a group
(`Expression.capture?_andThen`).

* A span at which the rest fits nowhere but at its end is taken whole (`Expression.firstAfter_span`).
* An expression that never has to take a decision back finds what a shape does
  (`Expression.FollowedAs`).
-/

namespace GasAdvisor.Text.Expression

variable {β : Type} {p : Char → Bool} {first second turn inner e : Expression}
  {next : List Char → Option β} {s : List Char}

/-- What a search for the rest finds first after a way of an expression. -/
def firstAfter (e : Expression) (next : List Char → Option β) (s : List Char) : Option β :=
  (e.ways s).findSome? fun way => next way.rest

theorem findSome?_cons_or {α : Type} (f : α → Option β) (a : α) (l : List α) :
    (a :: l).findSome? f = (f a).or (l.findSome? f) := by
  rw [List.findSome?_cons]
  cases f a <;> rfl

/-! ## One equation for each expression -/

theorem firstAfter_empty (next : List Char → Option β) (s : List Char) :
    firstAfter .empty next s = next s := by
  rw [firstAfter, ways, findSome?_cons_or, List.findSome?_nil, Option.or_none]
  rfl

theorem firstAfter_one_nil (p : Char → Bool) (next : List Char → Option β) :
    firstAfter (.one p) next [] = none := rfl

theorem firstAfter_one_cons (p : Char → Bool) (next : List Char → Option β) (c : Char)
    (s : List Char) : firstAfter (.one p) next (c :: s) = if p c then next s else none := by
  rw [firstAfter, ways]
  split
  · rw [findSome?_cons_or, List.findSome?_nil, Option.or_none]
  · rfl

/-- After a row comes what comes after its second expression, after the first one. -/
theorem firstAfter_andThen (first second : Expression) (next : List Char → Option β) :
    firstAfter (.andThen first second) next = firstAfter first (firstAfter second next) := by
  funext s
  rw [firstAfter, firstAfter, ways]
  induction first.ways s with
  | nil => rfl
  | cons way ways ih =>
    rw [List.flatMap_cons, List.findSome?_append, ih, List.findSome?_map, findSome?_cons_or]
    rfl

theorem firstAfter_row_cons (e e' : Expression) (es : List Expression)
    (next : List Char → Option β) :
    firstAfter (row (e :: e' :: es)) next = firstAfter e (firstAfter (row (e' :: es)) next) :=
  firstAfter_andThen e _ next

theorem firstAfter_row_singleton (e : Expression) (next : List Char → Option β) :
    firstAfter (row [e]) next = firstAfter e next := rfl

theorem firstAfter_orElse (first second : Expression) (next : List Char → Option β)
    (s : List Char) :
    firstAfter (.orElse first second) next s =
      (firstAfter first next s).or (firstAfter second next s) := by
  rw [firstAfter, ways, List.findSome?_append]
  rfl

theorem firstAfter_optional (e : Expression) (next : List Char → Option β) (s : List Char) :
    firstAfter (optional e) next s = (firstAfter e next s).or (next s) := by
  rw [← firstAfter_empty next s]
  exact firstAfter_orElse e .empty next s

theorem firstAfter_choice (es : List Expression) (next : List Char → Option β) (s : List Char) :
    firstAfter (choice es) next s = es.findSome? fun e => firstAfter e next s := by
  induction es with
  | nil => cases s <;> rfl
  | cons e es ih =>
    have hcons : choice (e :: es) = .orElse e (choice es) := rfl
    rw [hcons, firstAfter_orElse, ih, findSome?_cons_or]

/-- A fixed text is skipped. -/
theorem firstAfter_literal (w : List Char) (next : List Char → Option β) (s : List Char) :
    firstAfter (literal w) next s = if w.isPrefixOf s then next (s.drop w.length) else none := by
  induction w generalizing s with
  | nil => simp [literal, firstAfter_empty]
  | cons c w ih =>
    rw [literal, firstAfter_andThen]
    cases s with
    | nil => simp [firstAfter_one_nil]
    | cons d s =>
      rw [firstAfter_one_cons, ih, List.isPrefixOf_cons_cons]
      by_cases hc : d = c
      · simp [hc]
      · simp [hc, Ne.symm hc]

theorem firstAfter_literal_append (a b : List Char) (next : List Char → Option β) :
    firstAfter (literal (a ++ b)) next = firstAfter (literal a) (firstAfter (literal b) next) := by
  induction a with
  | nil => exact (funext (firstAfter_empty _)).symm
  | cons c a ih =>
    have hcons (text : List Char) : literal (c :: text) = .andThen (one (· = c)) (literal text) := rfl
    rw [List.cons_append, hcons, hcons, firstAfter_andThen, firstAfter_andThen, ih]

/-! ## Repetitions -/

theorem repeated_nil (turn : Expression) (limit : Nat) :
    repeated turn.ways limit [] = [.still []] := by
  cases limit with
  | zero => rfl
  | succ limit =>
    have hnone : (turn.ways []).filter (!·.taken.isEmpty) = [] := by
      refine List.filter_eq_nil_iff.2 fun way hway => ?_
      simp [(List.append_eq_nil_iff.1 (mem_ways_iff.1 hway).1.symm).1]
    rw [repeated, hnone, List.flatMap_nil, List.nil_append]

/-- To allow for more turns than a text has characters gives no more ways. -/
theorem repeated_congr {n m : Nat} (hn : s.length ≤ n) (hm : s.length ≤ m) :
    repeated turn.ways n s = repeated turn.ways m s := by
  induction n generalizing m s with
  | zero =>
    obtain rfl : s = [] := List.length_eq_zero_iff.1 (Nat.le_zero.1 hn)
    rw [repeated_nil, repeated_nil]
  | succ n ih =>
    cases m with
    | zero =>
      obtain rfl : s = [] := List.length_eq_zero_iff.1 (Nat.le_zero.1 hm)
      rw [repeated_nil, repeated_nil]
    | succ m =>
      rw [repeated, repeated]
      refine congrArg (· ++ _) (List.flatMap_congr fun way hway => congrArg _ ?_)
      -- a turn takes a character at least
      obtain ⟨hway, hne⟩ := List.mem_filter.1 hway
      have hsplit := congrArg List.length (mem_ways_iff.1 hway).1
      have hpos : 0 < way.taken.length := List.length_pos_of_ne_nil (by simpa using hne)
      rw [List.length_append] at hsplit
      exact ih (by omega) (by omega)

/-- The ways of a repetition are those of one turn and the repetition, and then the one that takes
nothing. -/
theorem ways_many (hturn : ∀ g, ¬ turn.Fits [] g) (s : List Char) :
    (many turn).ways s = (andThen turn (many turn)).ways s ++ [.still s] := by
  have hall : (turn.ways s).filter (!·.taken.isEmpty) = turn.ways s := by
    refine List.filter_eq_self.2 fun way hway => ?_
    have hne : way.taken ≠ [] := fun hnil => hturn _ (hnil ▸ (mem_ways_iff.1 hway).2)
    simpa using hne
  have hlimit : (many turn).ways s = repeated turn.ways (s.length + 1) s :=
    repeated_congr (Nat.le_refl _) (Nat.le_succ _)
  rw [hlimit, repeated, hall, ways]
  refine congrArg (· ++ _) (List.flatMap_congr fun way hway => congrArg _ ?_)
  have hsplit := congrArg List.length (mem_ways_iff.1 hway).1
  rw [List.length_append] at hsplit
  exact repeated_congr (by omega) (Nat.le_refl _)

/-- **A repetition goes on if it can**, and otherwise the rest comes next. -/
theorem firstAfter_many (hturn : ∀ g, ¬ turn.Fits [] g) (next : List Char → Option β)
    (s : List Char) :
    firstAfter (.many turn) next s =
      (firstAfter turn (firstAfter (.many turn) next) s).or (next s) := by
  rw [← firstAfter_andThen, firstAfter, ways_many hturn, List.findSome?_append, findSome?_cons_or,
    List.findSome?_nil, Option.or_none]
  rfl

theorem firstAfter_many_one_nil (p : Char → Bool) (next : List Char → Option β) :
    firstAfter (.many (.one p)) next [] = next [] := by
  rw [firstAfter_many (fun g h => by simpa using (fits_one_iff.1 h).1), firstAfter_one_nil,
    Option.none_or]

theorem firstAfter_many_one_cons (p : Char → Bool) (next : List Char → Option β) (c : Char)
    (s : List Char) :
    firstAfter (.many (.one p)) next (c :: s) =
      if p c then (firstAfter (.many (.one p)) next s).or (next (c :: s)) else next (c :: s) := by
  rw [firstAfter_many (fun g h => by simpa using (fits_one_iff.1 h).1), firstAfter_one_cons]
  split <;> simp

/-! ## Where no decision is taken back -/

/-- **A span is taken whole** if the rest does not start within it. -/
theorem firstAfter_span (hnext : ∀ c s, p c = true → next (c :: s) = none) (s : List Char) :
    firstAfter (.many (.one p)) next s = next (s.dropWhile p) := by
  induction s with
  | nil => exact firstAfter_many_one_nil p next
  | cons c s ih =>
    rw [firstAfter_many_one_cons]
    by_cases hc : p c = true
    · rw [if_pos hc, ih, hnext c s hc, Option.or_none, List.dropWhile_cons_of_pos hc]
    · rw [if_neg hc, List.dropWhile_cons_of_neg hc]

theorem firstAfter_many1 (hnext : ∀ c s, p c = true → next (c :: s) = none) (s : List Char) :
    firstAfter (many1 p) next s = if s.head?.any p then next (s.dropWhile p) else none := by
  rw [many1, firstAfter_andThen]
  cases s with
  | nil => rfl
  | cons c s =>
    rw [firstAfter_one_cons, firstAfter_span hnext]
    by_cases hc : p c = true <;> simp [hc]

/-- A search for the rest comes after an expression to the same as after a shape. -/
def FollowedAs (e : Expression) (shape : Shape) (next : List Char → Option β) : Prop :=
  ∀ before s, e.firstAfter next s = (shape before s).bind fun found => next found.2

theorem followedAs_literal (w : List Char) (next : List Char → Option β) :
    (literal w).FollowedAs (.literal w) next := by
  intro before s
  rw [firstAfter_literal, Shape.literal]
  split <;> rfl

theorem followedAs_one (p : Char → Bool) (next : List Char → Option β) :
    (one p).FollowedAs (.one p) next := by
  intro before s
  cases s with
  | nil => rfl
  | cons c s =>
    rw [firstAfter_one_cons, Shape.one]
    split <;> rfl

theorem followedAs_span (hnext : ∀ c s, p c = true → next (c :: s) = none) :
    (many (.one p)).FollowedAs (.many p) next := fun _ s => firstAfter_span hnext s

theorem followedAs_many1 (hnext : ∀ c s, p c = true → next (c :: s) = none) :
    (many1 p).FollowedAs (.many1 p) next := by
  intro before s
  rw [firstAfter_many1 hnext, Shape.many1_eq]
  split <;> rfl

theorem FollowedAs.andThen {firstShape secondShape : Shape}
    (hfirst : first.FollowedAs firstShape (second.firstAfter next))
    (hsecond : second.FollowedAs secondShape next) :
    (andThen first second).FollowedAs (firstShape.andThen secondShape) next := by
  intro before s
  rw [firstAfter_andThen, hfirst before s, Shape.andThen_eq_bind, Option.bind_assoc]
  refine Option.bind_congr fun found _ => ?_
  rw [hsecond (found.1.getLast?.or before) found.2, Option.bind_map]
  rfl

/-! ## Branches that start differently -/

/-- A branch of a choice, as an expression and as a shape, and a text that it starts with. -/
structure Branch where
  start : List Char
  expression : Expression
  shape : Shape

/-- The two accounts of a branch agree where a search goes on with `next`. -/
structure Branch.Agrees (branch : Branch) (next : List Char → Option β) : Prop where
  followed : branch.expression.FollowedAs branch.shape next
  starts : branch.shape.Yields (branch.start <+: ·)

/-- Neither of two texts starts with the other one. -/
def Apart (w w' : List Char) : Prop :=
  w.isPrefixOf w' = false ∧ w'.isPrefixOf w = false

instance (w w' : List Char) : Decidable (Apart w w') :=
  inferInstanceAs (Decidable (_ ∧ _))

theorem Apart.not_prefix {w w' : List Char} (h : Apart w w') (hw : w <+: s) : ¬ w' <+: s := by
  intro hw'
  rcases List.prefix_or_prefix_of_prefix hw hw' with hle | hle
  · exact absurd (List.isPrefixOf_iff_prefix.2 hle) (by simp [h.1])
  · exact absurd (List.isPrefixOf_iff_prefix.2 hle) (by simp [h.2])

/-- Shapes that start with such texts do not fit at the same place. -/
theorem Apart.eq_none {w w' : List Char} {shape shape' : Shape} (h : Apart w w')
    (hshape : shape.Yields (w <+: ·)) (hshape' : shape'.Yields (w' <+: ·))
    {before before' : Option Char} {found : List Char × List Char}
    (hfound : shape before s = some found) : shape' before' s = none := by
  refine Option.eq_none_iff_forall_ne_some.2 fun found' hfound' => ?_
  obtain ⟨hs, hw⟩ := hshape _ _ _ hfound
  obtain ⟨hs', hw'⟩ := hshape' _ _ _ hfound'
  exact h.not_prefix (hs ▸ hw.trans (List.prefix_append _ _))
    (hs' ▸ hw'.trans (List.prefix_append _ _))

/-- **Of branches that start differently, the first one that fits is not reconsidered.** -/
theorem followedAs_choice {branches : List Branch} (h : ∀ branch ∈ branches, branch.Agrees next)
    (hapart : branches.Pairwise fun branch branch' => Apart branch.start branch'.start) :
    (choice (branches.map (·.expression))).FollowedAs (.choice (branches.map (·.shape))) next := by
  intro before s
  rw [firstAfter_choice]
  induction branches with
  | nil => rfl
  | cons branch branches ih =>
    obtain ⟨hbranch, hbranches⟩ := List.forall_mem_cons.1 h
    obtain ⟨hfirst, hmore⟩ := List.pairwise_cons.1 hapart
    rw [List.map_cons, List.map_cons, findSome?_cons_or, Shape.choice_cons,
      hbranch.followed before s, ih hbranches hmore]
    cases hfound : branch.shape before s with
    | none => rfl
    | some found =>
      have hnone : Shape.choice (branches.map (·.shape)) before s = none := by
        refine Option.eq_none_iff_forall_ne_some.2 fun found' hfound' => ?_
        obtain ⟨shape, hshape, hother⟩ := Shape.exists_of_choice hfound'
        obtain ⟨branch', hmem, rfl⟩ := List.mem_map.1 hshape
        rw [(hfirst branch' hmem).eq_none hbranch.starts (hbranches branch' hmem).starts hfound]
          at hother
        cases hother
      rw [hnone]
      exact Option.or_none

/-- One of several fixed texts. -/
theorem followedAs_oneOf {texts : List (List Char)} (hapart : texts.Pairwise Apart)
    (next : List Char → Option β) :
    (choice (texts.map literal)).FollowedAs (.oneOf texts) next := by
  have hbranches := @followedAs_choice β next (texts.map fun w => ⟨w, literal w, .literal w⟩)
    (List.forall_mem_map.2 fun w _ => ⟨followedAs_literal w next,
      (Shape.yields_literal w).mono fun m h => h ▸ List.prefix_refl w⟩)
    (List.pairwise_map.2 hapart)
  rw [List.map_map, List.map_map] at hbranches
  exact hbranches

/-! ## What a group takes -/

/-- What a group takes of the preferred way at the front of a text, and the rest. -/
def capture? (e : Expression) (number : Nat) (s : List Char) : Option (List Char × List Char) :=
  (e.front? s).bind fun way => (way.group? number).map fun kept => (kept, way.rest)

/-- A group takes a part of every text of an expression. -/
def Keeps (e : Expression) (number : Nat) : Prop :=
  ∀ s g, e.Fits s g → (g.reverse.lookup number).isSome = true

theorem keeps_group (number : Nat) (inner : Expression) : (group number inner).Keeps number := by
  intro s g h
  obtain ⟨h, -, rfl⟩ := fits_group_iff.1 h
  simp

theorem Keeps.andThen {number : Nat} (h : second.Keeps number) (first : Expression) :
    (andThen first second).Keeps number := by
  intro s g hfits
  obtain ⟨t, u, gt, gu, -, hu, -, rfl⟩ := fits_andThen_iff.1 hfits
  rw [List.reverse_append, List.lookup_append, Option.isSome_or, h u gu hu, Bool.true_or]

theorem capture?_group (number : Nat) (inner : Expression) (s : List Char) :
    (group number inner).capture? number s =
      (inner.front? s).map fun way => (way.taken, way.rest) := by
  rw [capture?, front?_group, Option.bind_map]
  cases inner.front? s with
  | none => rfl
  | some way => simp [Way.kept, Way.group?]

/-- **What a group of the second expression takes is found after the first one.** -/
theorem capture?_andThen {number : Nat} (h : second.Keeps number) (first : Expression)
    (s : List Char) :
    (andThen first second).capture? number s = first.firstAfter (second.capture? number) s := by
  rw [capture?, front?, ways, List.head?_flatMap, firstAfter]
  induction first.ways s with
  | nil => rfl
  | cons way ways ih =>
    rw [findSome?_cons_or, findSome?_cons_or, ← ih, List.head?_map, capture?, front?]
    cases hnext : (second.ways way.rest).head? with
    | none => rfl
    | some next =>
      -- the group of the second expression is the last one to be kept
      obtain ⟨more, hmore⟩ := List.head?_eq_some_iff.1 hnext
      have hmem : next ∈ second.ways way.rest := hmore ▸ List.mem_cons_self
      obtain ⟨kept, hkept⟩ := Option.isSome_iff_exists.1 (h _ _ (mem_ways_iff.1 hmem).2)
      have hgroup : next.group? number = some kept := hkept
      have hfollowed : (way.followedBy next).group? number = some kept := by
        rw [Way.group?, Way.followedBy, List.reverse_append, List.lookup_append, hkept,
          Option.some_or]
      simp only [Option.map_some, Option.some_or, Option.bind_some, hgroup, hfollowed]
      rfl

end GasAdvisor.Text.Expression
