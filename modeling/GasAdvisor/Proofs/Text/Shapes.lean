import GasAdvisor.Proofs.Text.Spans

/-!
# What shapes match

Equations for the shapes that searches are made of: a row of two (`Shape.andThen_eq_bind`), a fixed
text (`Shape.literal_append`), one of several (`Shape.oneOf_append`) and a span (`Shape.many1_eq`). One
of several texts is found whatever follows it if none of them starts with another.

`Shape.Yields` says what kind of text a shape matches, with one lemma for each combination.
-/

namespace GasAdvisor.Text.Shape

/-- A span of at least one character is the longest one at the front of a text. -/
theorem many1_eq (p : Char → Bool) (before : Option Char) (s : List Char) :
    many1 p before s =
      if s.head?.any p then some (s.takeWhile p, s.dropWhile p) else none := by
  cases s with
  | nil => rfl
  | cons c s => by_cases hc : p c = true <;> simp [many1, hc]

theorem literal_append (w : List Char) (before : Option Char) (s : List Char) :
    literal w before (w ++ s) = some (w, s) := by
  have hprefix : w.isPrefixOf (w ++ s) = true :=
    List.isPrefixOf_iff_prefix.2 (List.prefix_append w s)
  rw [literal, if_pos hprefix, List.drop_left]

/-- The second of two shapes in a row starts where the first one ends. -/
theorem andThen_eq_bind (first second : Shape) (before : Option Char) (s : List Char) :
    first.andThen second before s = (first before s).bind fun found =>
      (second (found.1.getLast?.or before) found.2).map fun more =>
        (found.1 ++ more.1, more.2) := by
  rw [andThen]
  cases first before s with
  | none => rfl
  | some found =>
    obtain ⟨matched, rest⟩ := found
    rw [Option.bind_some]
    cases hsecond : second (matched.getLast?.or before) rest <;> simp only [hsecond] <;> rfl

theorem choice_cons (shape : Shape) (shapes : List Shape) (before : Option Char) (s : List Char) :
    choice (shape :: shapes) before s = (shape before s).or (choice shapes before s) := by
  rw [choice]
  dsimp only
  cases shape before s <;> rfl

theorem oneOf_cons (w : List Char) (texts : List (List Char)) (before : Option Char)
    (s : List Char) :
    oneOf (w :: texts) before s = (literal w before s).or (oneOf texts before s) :=
  choice_cons _ _ before s

/-- Of texts none of which starts with another one, the one at the front is found. -/
theorem oneOf_append {texts : List (List Char)} {w : List Char} (hw : w ∈ texts)
    (hfree : ∀ w' ∈ texts, w'.isPrefixOf w = true ∨ w.isPrefixOf w' = true → w' = w)
    (before : Option Char) (s : List Char) : oneOf texts before (w ++ s) = some (w, s) := by
  induction texts with
  | nil => cases hw
  | cons w' texts ih =>
    rw [oneOf_cons]
    by_cases hprefix : w' <+: w ++ s
    · have hcomparable := List.prefix_or_prefix_of_prefix hprefix (List.prefix_append w s)
      rw [← List.isPrefixOf_iff_prefix, ← List.isPrefixOf_iff_prefix] at hcomparable
      rw [hfree w' List.mem_cons_self hcomparable, literal_append, Option.some_or]
    · have hliteral : literal w' before (w ++ s) = none :=
        if_neg fun h => hprefix (List.isPrefixOf_iff_prefix.1 h)
      have hne : w ≠ w' := fun h => hprefix (h ▸ List.prefix_append w s)
      rw [hliteral, Option.none_or]
      exact ih ((List.mem_cons.1 hw).resolve_left hne) fun w'' h =>
        hfree w'' (List.mem_cons_of_mem w' h)

theorem andThen_of_some {first second : Shape} {before : Option Char} {s a b rest rest' : List Char}
    (hfirst : first before s = some (a, rest))
    (hsecond : ∀ before, second before rest = some (b, rest')) :
    first.andThen second before s = some (a ++ b, rest') := by
  rw [andThen_eq_bind, hfirst, Option.bind_some, hsecond]
  rfl

theorem one_cons {p : Char → Bool} {c : Char} (hc : p c = true) (before : Option Char)
    (s : List Char) : one p before (c :: s) = some ([c], s) :=
  if_pos hc

section Spans

variable {p : Char → Bool} {a b : List Char}

/-- A span ends where the class does. -/
theorem many_append (ha : ∀ c ∈ a, p c = true) (hb : Stops p b) (before : Option Char) :
    many p before (a ++ b) = some (a, b) := by
  rw [many, takeWhile_append_of_stop ha hb, dropWhile_append_of_stop ha hb]

theorem many1_append (hne : a ≠ []) (ha : ∀ c ∈ a, p c = true) (hb : Stops p b)
    (before : Option Char) : many1 p before (a ++ b) = some (a, b) := by
  rw [many1_eq, takeWhile_append_of_stop ha hb, dropWhile_append_of_stop ha hb, if_pos]
  obtain ⟨c, a, rfl⟩ := List.exists_cons_of_ne_nil hne
  simp [ha c]

end Spans

/-! ## Passing over -/

theorem skip_of_some {shape : Shape} {s a rest : List Char} (h : shape none s = some (a, rest)) :
    skip shape s = some rest := by
  rw [skip, h]
  rfl

theorem skip_one {c : Char} (s : List Char) : skip (one (· = c)) (c :: s) = some s :=
  skip_of_some (one_cons (decide_eq_true rfl) none s)

theorem skip_literal (w s : List Char) : skip (literal w) (w ++ s) = some s :=
  skip_of_some (literal_append w none s)

theorem word?_append {a b : List Char} (hne : a ≠ []) (ha : ∀ c ∈ a, isWord c = true)
    (hb : Stops isWord b) : word? (a ++ b) = some (a, b) :=
  many1_append hne ha hb none

theorem digits?_append {a b : List Char} (hne : a ≠ []) (ha : ∀ c ∈ a, isDecimalDigit c = true)
    (hb : Stops isDecimalDigit b) : digits? (a ++ b) = some (a, b) :=
  many1_append hne ha hb none

/-! ## Matched texts -/

/-- A shape splits a text into a part of a kind and the rest. -/
def Yields (shape : Shape) (kind : List Char → Prop) : Prop :=
  ∀ before s found, shape before s = some found → s = found.1 ++ found.2 ∧ kind found.1

variable {first second shape : Shape} {kind kind' firstKind secondKind : List Char → Prop}
  {before : Option Char} {s : List Char} {found : List Char × List Char}

theorem Yields.mono (h : shape.Yields kind) (hkind : ∀ m, kind m → kind' m) : shape.Yields kind' := by
  intro before s found hfound
  obtain ⟨hsplit, hmatched⟩ := h before s found hfound
  exact ⟨hsplit, hkind _ hmatched⟩

theorem yields_one (p : Char → Bool) : (one p).Yields fun m => ∃ c, p c = true ∧ m = [c] := by
  intro before s found h
  unfold one at h
  split at h
  · cases h
  · next c rest =>
    split at h
    · next hc =>
      obtain rfl := Option.some.inj h
      exact ⟨rfl, c, hc, rfl⟩
    · cases h

theorem yields_many (p : Char → Bool) : (many p).Yields fun m => ∀ c ∈ m, p c = true := by
  intro before s found h
  obtain rfl := Option.some.inj h
  exact ⟨List.takeWhile_append_dropWhile.symm, fun c => of_mem_takeWhile⟩

theorem yields_many1 (p : Char → Bool) :
    (many1 p).Yields fun m => m ≠ [] ∧ ∀ c ∈ m, p c = true := by
  intro before s found h
  rw [many1_eq] at h
  split at h
  · next hp =>
    obtain rfl := Option.some.inj h
    refine ⟨List.takeWhile_append_dropWhile.symm, ?_, fun c => of_mem_takeWhile⟩
    cases s with
    | nil => simp at hp
    | cons c s => simp_all
  · cases h

theorem yields_literal (w : List Char) : (literal w).Yields fun m => m = w := by
  intro before s found h
  unfold literal at h
  split at h
  · next hprefix =>
    obtain ⟨rest, rfl⟩ := List.isPrefixOf_iff_prefix.1 hprefix
    obtain rfl := Option.some.inj h
    simp
  · cases h

theorem literal_eq_some {w : List Char} (h : literal w before s = some found) :
    s = w ++ found.2 := by
  obtain ⟨hs, hw⟩ := yields_literal w _ _ _ h
  rwa [hw] at hs

/-- The first of some texts that fits is one of them, at the front. -/
theorem exists_of_oneOf {texts : List (List Char)} (h : oneOf texts before s = some found) :
    ∃ w ∈ texts, s = w ++ found.2 := by
  induction texts with
  | nil => cases h
  | cons w texts ih =>
    rw [oneOf_cons, Option.or_eq_some_iff] at h
    rcases h with hliteral | ⟨-, hrest⟩
    · exact ⟨w, List.mem_cons_self, literal_eq_some hliteral⟩
    · obtain ⟨w', hw', hs⟩ := ih hrest
      exact ⟨w', List.mem_cons_of_mem w hw', hs⟩

/-- The edge of a word takes nothing. -/
theorem wordEdge_eq_some (h : wordEdge before s = some found) : found = ([], s) := by
  unfold wordEdge at h
  split at h
  · exact (Option.some.inj h).symm
  · cases h

theorem yields_lineStart : lineStart.Yields fun m => m = [] := by
  intro before s found h
  unfold lineStart at h
  split at h
  · obtain rfl := Option.some.inj h
    exact ⟨rfl, rfl⟩
  · cases h

theorem andThen_eq_some_iff :
    first.andThen second before s = some found ↔
      ∃ a b, first before s = some a ∧ second (a.1.getLast?.or before) a.2 = some b ∧
        found = (a.1 ++ b.1, b.2) := by
  rw [andThen_eq_bind]
  simp only [Option.bind_eq_some_iff, Option.map_eq_some_iff, @eq_comm _ found]
  simp only [← exists_and_left]

theorem Yields.andThen (hfirst : first.Yields firstKind) (hsecond : second.Yields secondKind) :
    (first.andThen second).Yields fun m => ∃ t u, firstKind t ∧ secondKind u ∧ m = t ++ u := by
  intro before s found h
  obtain ⟨a, b, ha, hb, rfl⟩ := andThen_eq_some_iff.1 h
  obtain ⟨hs, hkind⟩ := hfirst _ _ _ ha
  obtain ⟨hrest, hkind'⟩ := hsecond _ _ _ hb
  refine ⟨?_, a.1, b.1, hkind, hkind', rfl⟩
  rw [hs, hrest, List.append_assoc]

/-- A choice fits where one of its branches does. -/
theorem exists_of_choice {shapes : List Shape} (h : choice shapes before s = some found) :
    ∃ shape ∈ shapes, shape before s = some found := by
  induction shapes with
  | nil => cases h
  | cons shape shapes ih =>
    rw [choice_cons, Option.or_eq_some_iff] at h
    rcases h with hshape | ⟨-, hmore⟩
    · exact ⟨shape, List.mem_cons_self, hshape⟩
    · obtain ⟨shape', hmem, hshape'⟩ := ih hmore
      exact ⟨shape', List.mem_cons_of_mem _ hmem, hshape'⟩

theorem Yields.choice {shapes : List Shape} (h : ∀ shape ∈ shapes, shape.Yields kind) :
    (choice shapes).Yields kind := by
  intro before s found hfound
  obtain ⟨shape, hmem, hshape⟩ := exists_of_choice hfound
  exact h shape hmem before s found hshape

end GasAdvisor.Text.Shape
