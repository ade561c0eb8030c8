import GasAdvisor.Text.Expression
import GasAdvisor.Proofs.Text.Spans

/-!
# What expressions take

The ways of an expression at the front of a text are exactly the texts of the expression that stand
there (`Expression.mem_ways_iff`): backtracking misses none of them. So an expression that is bound to a
whole text takes it if any way does (`Expression.whole?_eq_none_iff`).

* `Expression.Takes` says which texts an expression without groups takes; each combination has a lemma
  for it.
* The preferred way of a combination is made of preferred ways, as long as no decision has to be taken
  back (`Expression.front?_andThen`). So a span takes all that it can (`Expression.front?_span`).
-/

namespace GasAdvisor.Text.Expression

variable {p : Char → Bool} {first second turn inner e : Expression} {s t : List Char}
  {g : List (Nat × List Char)} {way : Way}

/-! ## Texts of combinations -/

theorem fits_empty_iff : Fits .empty s g ↔ s = [] ∧ g = [] := by
  constructor
  · rintro ⟨⟩
    exact ⟨rfl, rfl⟩
  · rintro ⟨rfl, rfl⟩
    exact .empty

theorem fits_one_iff : Fits (.one p) s g ↔ (∃ c, p c = true ∧ s = [c]) ∧ g = [] := by
  constructor
  · rintro (_ | h)
    exact ⟨⟨_, h, rfl⟩, rfl⟩
  · rintro ⟨⟨c, h, rfl⟩, rfl⟩
    exact .one h

theorem fits_andThen_iff :
    Fits (.andThen first second) s g ↔
      ∃ t u gt gu, Fits first t gt ∧ Fits second u gu ∧ s = t ++ u ∧ g = gt ++ gu := by
  constructor
  · intro h
    cases h with
    | andThen ht hu => exact ⟨_, _, _, _, ht, hu, rfl, rfl⟩
  · rintro ⟨t, u, gt, gu, ht, hu, rfl, rfl⟩
    exact .andThen ht hu

theorem fits_orElse_iff : Fits (.orElse first second) s g ↔ Fits first s g ∨ Fits second s g := by
  constructor
  · intro h
    cases h with
    | first h => exact .inl h
    | second h => exact .inr h
  · rintro (h | h)
    · exact .first h
    · exact .second h

theorem fits_group_iff {number : Nat} :
    Fits (.group number inner) s g ↔ ∃ h, Fits inner s h ∧ g = h ++ [(number, s)] := by
  constructor
  · intro h
    cases h with
    | group h => exact ⟨_, h, rfl⟩
  · rintro ⟨h, hs, rfl⟩
    exact .group hs

/-- A repetition takes nothing, or it takes one turn and then goes on. -/
theorem fits_many_iff :
    Fits (.many turn) s g ↔ (s = [] ∧ g = []) ∨
      ∃ t u gt gu, t ≠ [] ∧ Fits turn t gt ∧ Fits (.many turn) u gu ∧ s = t ++ u ∧ g = gt ++ gu := by
  constructor
  · intro h
    cases h with
    | done => exact .inl ⟨rfl, rfl⟩
    | again hne ht hu => exact .inr ⟨_, _, _, _, hne, ht, hu, rfl, rfl⟩
  · rintro (⟨rfl, rfl⟩ | ⟨t, u, gt, gu, hne, ht, hu, rfl, rfl⟩)
    · exact .done
    · exact .again hne ht hu

/-! ## Ways and texts -/

/-- A way at the front of a text that takes a text of an expression. -/
def IsWay (e : Expression) (s : List Char) (way : Way) : Prop :=
  s = way.taken ++ way.rest ∧ e.Fits way.taken way.groups

theorem isWay_empty_iff : IsWay .empty s way ↔ way = .still s := by
  obtain ⟨taken, groups, rest⟩ := way
  simp only [IsWay, fits_empty_iff, Way.still, Way.mk.injEq]
  constructor
  · rintro ⟨rfl, rfl, rfl⟩
    exact ⟨rfl, rfl, rfl⟩
  · rintro ⟨rfl, rfl, rfl⟩
    exact ⟨rfl, rfl, rfl⟩

theorem isWay_one_iff :
    IsWay (.one p) s way ↔ ∃ c rest, (s = c :: rest ∧ p c = true) ∧ way = ⟨[c], [], rest⟩ := by
  obtain ⟨taken, groups, rest⟩ := way
  simp only [IsWay, fits_one_iff, Way.mk.injEq]
  constructor
  · rintro ⟨rfl, ⟨c, hc, rfl⟩, rfl⟩
    exact ⟨c, rest, ⟨rfl, hc⟩, rfl, rfl, rfl⟩
  · rintro ⟨c, rest, ⟨rfl, hc⟩, rfl, rfl, rfl⟩
    exact ⟨rfl, ⟨c, hc, rfl⟩, rfl⟩

theorem isWay_group_iff {number : Nat} :
    IsWay (.group number inner) s way ↔ ∃ v, IsWay inner s v ∧ v.kept number = way := by
  constructor
  · obtain ⟨taken, groups, rest⟩ := way
    rintro ⟨rfl, hfits⟩
    obtain ⟨h, hinner, hgroups⟩ := fits_group_iff.1 hfits
    exact ⟨⟨taken, h, rest⟩, ⟨rfl, hinner⟩, by rw [Way.kept, ← hgroups]⟩
  · rintro ⟨v, ⟨rfl, hv⟩, rfl⟩
    exact ⟨rfl, .group hv⟩

/-- A way of two expressions in a row is a way of the first one and then one of the second one. -/
theorem isWay_andThen_iff :
    IsWay (.andThen first second) s way ↔
      ∃ v, IsWay first s v ∧ ∃ w, IsWay second v.rest w ∧ v.followedBy w = way := by
  constructor
  · obtain ⟨taken, groups, rest⟩ := way
    rintro ⟨rfl, hfits⟩
    obtain ⟨t, u, gt, gu, ht, hu, rfl, rfl⟩ := fits_andThen_iff.1 hfits
    exact ⟨⟨t, gt, u ++ rest⟩, ⟨List.append_assoc t u rest, ht⟩, ⟨u, gu, rest⟩, ⟨rfl, hu⟩, rfl⟩
  · rintro ⟨v, ⟨rfl, hv⟩, w, ⟨hrest, hw⟩, rfl⟩
    exact ⟨by rw [hrest]; exact (List.append_assoc ..).symm, .andThen hv hw⟩

/-- A way of a repetition takes nothing, or it is a way of one turn and then one of the repetition. -/
theorem isWay_many_iff :
    IsWay (.many turn) s way ↔ way = .still s ∨
      ∃ v, (IsWay turn s v ∧ v.taken ≠ []) ∧
        ∃ w, IsWay (.many turn) v.rest w ∧ v.followedBy w = way := by
  constructor
  · obtain ⟨taken, groups, rest⟩ := way
    rintro ⟨rfl, hfits⟩
    rcases fits_many_iff.1 hfits with ⟨rfl, rfl⟩ | ⟨t, u, gt, gu, hne, ht, hu, rfl, rfl⟩
    · exact .inl rfl
    · exact .inr ⟨⟨t, gt, u ++ rest⟩, ⟨⟨List.append_assoc t u rest, ht⟩, hne⟩, ⟨u, gu, rest⟩,
        ⟨rfl, hu⟩, rfl⟩
  · rintro (rfl | ⟨v, ⟨⟨rfl, hv⟩, hne⟩, w, ⟨hrest, hw⟩, rfl⟩)
    · exact ⟨rfl, .done⟩
    · exact ⟨by rw [hrest]; exact (List.append_assoc ..).symm, .again hne hv hw⟩

/-- The ways of a repetition take no more turns than the text has characters. -/
theorem mem_repeated_iff {ways : List Char → List Way}
    (hways : ∀ s way, way ∈ ways s ↔ IsWay turn s way) {limit : Nat} (hlimit : s.length ≤ limit) :
    way ∈ repeated ways limit s ↔ IsWay (.many turn) s way := by
  induction limit generalizing s way with
  | zero =>
    obtain rfl : s = [] := List.length_eq_zero_iff.1 (Nat.le_zero.1 hlimit)
    rw [repeated, List.mem_singleton, isWay_many_iff]
    refine (or_iff_left ?_).symm
    rintro ⟨v, ⟨⟨hsplit, -⟩, hne⟩, -⟩
    exact hne (List.append_eq_nil_iff.1 hsplit.symm).1
  | succ limit ih =>
    have hmore (v : Way) (hv : IsWay turn s v ∧ v.taken ≠ []) (w : Way) :
        w ∈ repeated ways limit v.rest ↔ IsWay (.many turn) v.rest w := by
      refine ih ?_
      have := List.length_pos_of_ne_nil hv.2
      rw [hv.1.1, List.length_append] at hlimit
      omega
    rw [repeated, List.mem_append, List.mem_singleton, or_comm, isWay_many_iff]
    refine or_congr_right ?_
    simp only [List.mem_flatMap, List.mem_filter, List.mem_map, hways, Bool.not_eq_true',
      List.isEmpty_eq_false_iff]
    exact exists_congr fun v => and_congr_right fun hv => exists_congr fun w =>
      and_congr_left fun _ => hmore v hv w

/-- **The ways of an expression are the texts of the expression at the front of a text.** -/
theorem mem_ways_iff : way ∈ e.ways s ↔ IsWay e s way := by
  induction e generalizing s way with
  | empty => rw [ways, List.mem_singleton, isWay_empty_iff]
  | one p =>
    rw [isWay_one_iff]
    cases s with
    | nil => simp [ways]
    | cons c s => by_cases hc : p c = true <;> simp [ways, hc]
  | andThen first second ih₁ ih₂ =>
    rw [ways, isWay_andThen_iff]
    simp only [List.mem_flatMap, List.mem_map, ih₁, ih₂]
  | orElse first second ih₁ ih₂ =>
    rw [ways, List.mem_append, ih₁, ih₂, IsWay, IsWay, IsWay, fits_orElse_iff, and_or_left]
  | many turn ih => exact mem_repeated_iff (fun _ _ => ih) (Nat.le_refl _)
  | group number inner ih => simp only [ways, isWay_group_iff, List.mem_map, ih]

/-! ## Whole texts -/

/-- **An expression takes a whole text if it can**, and then in one of the possible ways. -/
theorem whole?_eq_none_iff : e.whole? s = none ↔ ∀ g, ¬ e.Fits s g := by
  rw [whole?, List.find?_eq_none]
  constructor
  · intro h g hfits
    exact h ⟨s, g, []⟩ (mem_ways_iff.2 ⟨(List.append_nil s).symm, hfits⟩) rfl
  · intro h way hway hrest
    obtain ⟨hsplit, hfits⟩ := mem_ways_iff.1 hway
    rw [List.isEmpty_iff.1 hrest, List.append_nil] at hsplit
    exact h _ (hsplit ▸ hfits)

theorem fits_of_whole? (h : e.whole? s = some way) : way.taken = s ∧ e.Fits s way.groups := by
  have hrest : way.rest = [] := by simpa using List.find?_some h
  obtain ⟨hsplit, hfits⟩ := mem_ways_iff.1 (List.mem_of_find?_eq_some h)
  rw [hrest, List.append_nil] at hsplit
  exact ⟨hsplit.symm, hsplit ▸ hfits⟩

/-! ## Expressions without groups -/

/-- An expression without groups takes exactly the texts of a kind. -/
def Takes (e : Expression) (kind : List Char → Prop) : Prop :=
  ∀ s g, e.Fits s g ↔ kind s ∧ g = []

section Takes

variable {firstKind secondKind kind kind' : List Char → Prop}

theorem Takes.congr (h : e.Takes kind) (hkind : ∀ s, kind s ↔ kind' s) : e.Takes kind' :=
  fun s g => by rw [h s g, hkind]

theorem takes_empty : Takes .empty (· = []) :=
  fun _ _ => fits_empty_iff

theorem takes_one (p : Char → Bool) : Takes (.one p) fun s => ∃ c, p c = true ∧ s = [c] :=
  fun _ _ => fits_one_iff

/-- What follows an expression without groups has all the groups. -/
theorem Takes.followed_iff (hfirst : first.Takes firstKind) :
    Fits (.andThen first second) s g ↔ ∃ t u, firstKind t ∧ Fits second u g ∧ s = t ++ u := by
  simp only [fits_andThen_iff, hfirst _ _]
  constructor
  · rintro ⟨t, u, gt, gu, ⟨ht, rfl⟩, hu, rfl, rfl⟩
    exact ⟨t, u, ht, hu, rfl⟩
  · rintro ⟨t, u, ht, hu, rfl⟩
    exact ⟨t, u, [], g, ⟨ht, rfl⟩, hu, rfl, rfl⟩

theorem Takes.andThen (hfirst : first.Takes firstKind) (hsecond : second.Takes secondKind) :
    Takes (.andThen first second) fun s => ∃ t u, firstKind t ∧ secondKind u ∧ s = t ++ u := by
  intro s g
  simp only [hfirst.followed_iff, hsecond _ _]
  constructor
  · rintro ⟨t, u, ht, ⟨hu, rfl⟩, rfl⟩
    exact ⟨⟨t, u, ht, hu, rfl⟩, rfl⟩
  · rintro ⟨⟨t, u, ht, hu, rfl⟩, rfl⟩
    exact ⟨t, u, ht, ⟨hu, rfl⟩, rfl⟩

/-- What follows a group has the groups after it. -/
theorem Takes.kept_followed_iff (hfirst : first.Takes firstKind) (number : Nat) :
    Fits (.andThen (.group number first) second) s g ↔
      ∃ t u gu, firstKind t ∧ Fits second u gu ∧ s = t ++ u ∧ g = (number, t) :: gu := by
  simp only [fits_andThen_iff, fits_group_iff, hfirst _ _]
  constructor
  · rintro ⟨t, u, gt, gu, ⟨h, ⟨ht, rfl⟩, rfl⟩, hu, rfl, rfl⟩
    exact ⟨t, u, gu, ht, hu, rfl, rfl⟩
  · rintro ⟨t, u, gu, ht, hu, rfl, rfl⟩
    exact ⟨t, u, [(number, t)], gu, ⟨[], ⟨ht, rfl⟩, rfl⟩, hu, rfl, rfl⟩

/-- A repetition takes any number of texts in a row, where the text of one turn is `f a` for some `a`
with a property. -/
theorem Takes.many {α : Type} {f : α → List Char} {P : α → Prop}
    (hturn : turn.Takes fun s => ∃ a, P a ∧ s = f a) (hne : ∀ a, P a → f a ≠ []) :
    Takes (.many turn) fun s => ∃ items : List α, (∀ a ∈ items, P a) ∧ s = items.flatMap f := by
  intro s g
  constructor
  · intro h
    generalize he : Expression.many turn = e at h
    induction h with
    | done => exact ⟨⟨[], by simp, rfl⟩, rfl⟩
    | again _ ht _ _ ih =>
      cases he
      obtain ⟨⟨a, ha, rfl⟩, rfl⟩ := (hturn _ _).1 ht
      obtain ⟨⟨items, hitems, rfl⟩, rfl⟩ := ih rfl
      exact ⟨⟨a :: items, List.forall_mem_cons.2 ⟨ha, hitems⟩, rfl⟩, rfl⟩
    | _ => cases he
  · rintro ⟨⟨items, hitems, rfl⟩, rfl⟩
    induction items with
    | nil => exact .done
    | cons a items ih =>
      obtain ⟨ha, hmore⟩ := List.forall_mem_cons.1 hitems
      exact .again (hne a ha) ((hturn _ _).2 ⟨⟨a, ha, rfl⟩, rfl⟩) (ih hmore)

theorem takes_span (p : Char → Bool) : Takes (.many (.one p)) fun s => ∀ c ∈ s, p c = true := by
  refine ((takes_one p).many fun c _ => by simp).congr fun s => ⟨?_, fun h => ?_⟩
  · rintro ⟨items, hitems, rfl⟩
    rwa [List.flatMap_singleton']
  · exact ⟨s, h, (List.flatMap_singleton' s).symm⟩

theorem takes_many1 (p : Char → Bool) :
    Takes (many1 p) fun s => s ≠ [] ∧ ∀ c ∈ s, p c = true := by
  refine ((takes_one p).andThen (takes_span p)).congr fun s => ⟨?_, fun ⟨hne, h⟩ => ?_⟩
  · rintro ⟨_, u, ⟨c, hc, rfl⟩, hu, rfl⟩
    exact ⟨by simp, List.forall_mem_cons.2 ⟨hc, hu⟩⟩
  · obtain ⟨c, s, rfl⟩ := List.exists_cons_of_ne_nil hne
    obtain ⟨hc, hs⟩ := List.forall_mem_cons.1 h
    exact ⟨[c], s, ⟨c, hc, rfl⟩, hs, rfl⟩

theorem takes_literal (text : List Char) : Takes (literal text) (· = text) := by
  induction text with
  | nil => exact takes_empty
  | cons c text ih =>
    refine ((takes_one (· = c)).andThen ih).congr fun s => ⟨?_, fun h => ?_⟩
    · rintro ⟨_, _, ⟨d, hd, rfl⟩, rfl, rfl⟩
      rw [of_decide_eq_true hd]
      rfl
    · exact ⟨[c], text, ⟨c, decide_eq_true rfl, rfl⟩, rfl, h⟩

/-- A choice of fixed texts takes each of them. -/
theorem takes_choice (texts : List (List Char)) :
    Takes (choice (texts.map literal)) (· ∈ texts) := by
  induction texts with
  | nil => exact (takes_one _).congr fun s => by simp
  | cons text texts ih =>
    intro s g
    have hsplit : Fits (choice ((text :: texts).map literal)) s g ↔
        Fits (literal text) s g ∨ Fits (choice (texts.map literal)) s g := fits_orElse_iff
    rw [hsplit, takes_literal text s g, ih s g, ← or_and_right]
    exact and_congr_left fun _ => List.mem_cons.symm

end Takes

/-! ## Preferred ways -/

theorem front?_one_cons {c : Char} (hc : p c = true) (s : List Char) :
    front? (.one p) (c :: s) = some ⟨[c], [], s⟩ := by
  rw [front?, ways, if_pos hc]
  rfl

theorem front?_one_of_stops (hs : Stops p s) : front? (.one p) s = none := by
  cases s with
  | nil => rfl
  | cons c s =>
    rw [front?, ways, if_neg (by simp [stops_cons.1 hs])]
    rfl

/-- **No decision is taken back** where the second expression fits after the preferred way of the first
one. -/
theorem front?_andThen {next : Way} (hfirst : first.front? s = some way)
    (hsecond : second.front? way.rest = some next) :
    front? (.andThen first second) s = some (way.followedBy next) := by
  obtain ⟨more, hmore⟩ := List.head?_eq_some_iff.1 hfirst
  obtain ⟨more', hmore'⟩ := List.head?_eq_some_iff.1 hsecond
  rw [front?, ways, hmore, List.flatMap_cons, hmore']
  rfl

theorem front?_andThen_eq_none (hfirst : first.front? s = none) :
    front? (.andThen first second) s = none := by
  rw [front?, ways, List.head?_eq_none_iff.1 hfirst]
  rfl

theorem front?_orElse (first second : Expression) (s : List Char) :
    front? (.orElse first second) s = (first.front? s).or (second.front? s) := by
  rw [front?, ways, List.head?_append]
  rfl

/-- An optional expression always has a preferred way. -/
theorem front?_optional (e : Expression) (s : List Char) :
    front? (optional e) s = some ((e.front? s).getD (.still s)) := by
  rw [optional, front?_orElse]
  cases e.front? s <;> rfl

theorem front?_group (number : Nat) (inner : Expression) (s : List Char) :
    front? (.group number inner) s = (inner.front? s).map (.kept number) := by
  rw [front?, ways, List.head?_map]
  rfl

/-- **An expression has no preferred way exactly if no text of it stands at the front.** -/
theorem front?_eq_none_iff : e.front? s = none ↔ ∀ t g rest, s = t ++ rest → ¬ e.Fits t g := by
  rw [front?, List.head?_eq_none_iff, List.eq_nil_iff_forall_not_mem]
  constructor
  · intro h t g rest hs hfits
    exact h ⟨t, g, rest⟩ (mem_ways_iff.2 ⟨hs, hfits⟩)
  · intro h way hway
    obtain ⟨hs, hfits⟩ := mem_ways_iff.1 hway
    exact h _ _ _ hs hfits

/-- The preferred way of a span takes all of it. -/
theorem front?_span (p : Char → Bool) (s : List Char) :
    front? (.many (.one p)) s = some ⟨s.takeWhile p, [], s.dropWhile p⟩ := by
  have hrepeated (limit : Nat) (s : List Char) (hlimit : s.length ≤ limit) :
      (repeated (ways (.one p)) limit s).head? = some ⟨s.takeWhile p, [], s.dropWhile p⟩ := by
    induction limit generalizing s with
    | zero =>
      obtain rfl : s = [] := List.length_eq_zero_iff.1 (Nat.le_zero.1 hlimit)
      rfl
    | succ limit ih =>
      cases s with
      | nil => rfl
      | cons c s =>
        by_cases hc : p c = true
        · have hmore := ih s (Nat.le_of_succ_le_succ hlimit)
          obtain ⟨more, hmore⟩ := List.head?_eq_some_iff.1 hmore
          simp [repeated, ways, hc, hmore, Way.followedBy]
        · simp [repeated, ways, hc, Way.still]
  exact hrepeated s.length s (Nat.le_refl _)

theorem front?_many1_of_stops (hs : Stops p s) : front? (many1 p) s = none :=
  front?_andThen_eq_none (front?_one_of_stops hs)

theorem front?_many1 (hs : ¬ Stops p s) :
    front? (many1 p) s = some ⟨s.takeWhile p, [], s.dropWhile p⟩ := by
  cases s with
  | nil => exact absurd stops_nil hs
  | cons c s =>
    have hc : p c = true := by simpa using hs
    rw [many1, front?_andThen (front?_one_cons hc s) (front?_span p s),
      List.takeWhile_cons_of_pos hc, List.dropWhile_cons_of_pos hc]
    rfl

end GasAdvisor.Text.Expression
