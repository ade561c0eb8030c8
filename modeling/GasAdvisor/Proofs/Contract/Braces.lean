import GasAdvisor.Contract.Braces
import GasAdvisor.Contract.Header
import Mathlib.Tactic.ByContra

/-!
# Matching braces

* Whether a text is balanced can be read off character by character, from any depth
  (`balancedFrom_cons`), and only its braces matter (`balanced_filter_isBrace`).
* `closing?` finds the shortest part of a text that brings a depth down to zero: this is what
  `Closes` says, and `closing?_eq_some_iff` that it is found exactly when there is one.
* A block is a balanced text between an opening brace and the closing brace that matches it
  (`block?_eq_some_iff`), so a text before it is balanced exactly if both are together
  (`balanced_append_iff`).
-/

namespace GasAdvisor

/-! ## Depth -/

/-- What one character adds to the depth. -/
def braceStep (c : Char) : Int :=
  if c = '{' then 1 else if c = '}' then -1 else 0

@[simp] theorem braceDepth_nil : braceDepth [] = 0 := rfl

/-- A character lowers the depth by one at most, and only a closing brace does. -/
theorem braceStep_cases (c : Char) : c = '}' ∧ braceStep c = -1 ∨ 0 ≤ braceStep c := by
  by_cases h : c = '}'
  · exact .inl ⟨h, by subst h; rfl⟩
  · refine .inr ?_
    simp only [braceStep, h, if_false]
    split <;> decide

theorem braceDepth_cons (c : Char) (t : List Char) :
    braceDepth (c :: t) = braceStep c + braceDepth t := by
  by_cases h1 : c = '{'
  · subst h1; simp [braceDepth, braceStep]; omega
  · by_cases h2 : c = '}'
    · subst h2; simp [braceDepth, braceStep]; omega
    · simp [braceDepth, braceStep, h1, h2]

theorem braceDepth_append (a b : List Char) :
    braceDepth (a ++ b) = braceDepth a + braceDepth b := by
  simp only [braceDepth, List.count_append]
  omega

/-! ## Balance from a depth on -/

/-- A text whose running depth from `depth` on is never negative and ends at zero. -/
def BalancedFrom (depth : Int) (t : List Char) : Prop :=
  (∀ front, front <+: t → 0 ≤ depth + braceDepth front) ∧ depth + braceDepth t = 0

theorem balanced_iff {t : List Char} : Balanced t ↔ BalancedFrom 0 t := by
  simp only [BalancedFrom, Int.zero_add]
  exact ⟨fun h => ⟨h.nonneg, h.closed⟩, fun h => ⟨h.1, h.2⟩⟩

@[simp] theorem balancedFrom_nil {depth : Int} : BalancedFrom depth [] ↔ depth = 0 := by
  simp only [BalancedFrom, List.prefix_nil, forall_eq, braceDepth_nil]
  omega

theorem balancedFrom_cons {depth : Int} {c : Char} {t : List Char} :
    BalancedFrom depth (c :: t) ↔ 0 ≤ depth ∧ BalancedFrom (depth + braceStep c) t := by
  have hsplit : depth + braceDepth (c :: t) = depth + braceStep c + braceDepth t := by
    rw [braceDepth_cons]; omega
  constructor
  · rintro ⟨hfront, hend⟩
    refine ⟨by simpa using hfront [] (by simp), fun front h => ?_, hsplit ▸ hend⟩
    have := hfront (c :: front) ((List.cons_prefix_cons).2 ⟨rfl, h⟩)
    rw [braceDepth_cons] at this
    omega
  · rintro ⟨h0, hfront, hend⟩
    refine ⟨fun front h => ?_, hsplit.trans hend⟩
    cases front with
    | nil => simpa using h0
    | cons d front =>
      obtain ⟨rfl, hp⟩ := List.cons_prefix_cons.1 h
      have := hfront front hp
      rw [braceDepth_cons]
      omega

/-- Whether a character is a brace. -/
def isBrace (c : Char) : Bool := c = '{' || c = '}'

theorem braceStep_of_not_isBrace {c : Char} (h : isBrace c = false) : braceStep c = 0 := by
  simp only [isBrace, Bool.or_eq_false_iff, decide_eq_false_iff_not] at h
  simp [braceStep, h.1, h.2]

theorem balancedFrom_filter_isBrace {depth : Int} {t : List Char} :
    BalancedFrom depth (t.filter isBrace) ↔ BalancedFrom depth t := by
  induction t generalizing depth with
  | nil => simp
  | cons c t ih =>
    rw [List.filter_cons]
    split
    · rw [balancedFrom_cons, balancedFrom_cons, ih]
    · next h =>
      rw [balancedFrom_cons, braceStep_of_not_isBrace (by simpa using h), Int.add_zero, ih]
      exact ⟨fun hb => ⟨by simpa using hb.1 [] (by simp), hb⟩, fun hb => hb.2⟩

/-- **Only the braces of a text decide whether it is balanced.** -/
theorem balanced_filter_isBrace {t : List Char} :
    Balanced (t.filter isBrace) ↔ Balanced t := by
  rw [balanced_iff, balanced_iff, balancedFrom_filter_isBrace]

/-- A balanced text at the end does not decide whether the whole is balanced. -/
theorem balanced_append_iff {a b : List Char} (hb : Balanced b) :
    Balanced (a ++ b) ↔ Balanced a := by
  constructor
  · intro h
    refine ⟨fun front hf => h.nonneg front (hf.trans (List.prefix_append a b)), ?_⟩
    have := h.closed
    rwa [braceDepth_append, hb.closed, Int.add_zero] at this
  · intro ha
    refine ⟨fun front hf => ?_, by rw [braceDepth_append, ha.closed, hb.closed]; rfl⟩
    rcases List.prefix_or_prefix_of_prefix hf (List.prefix_append a b) with h | ⟨p, rfl⟩
    · exact ha.nonneg front h
    · have hp := hb.nonneg p ((List.prefix_append_right_inj a).1 hf)
      rw [braceDepth_append, ha.closed]
      omega

/-! ## Closing braces -/

/-- A text that brings `depth` down to zero with its last character and not before. -/
def Closes (depth : Int) (t : List Char) : Prop :=
  depth + braceDepth t = 0 ∧ ∀ front, front <+: t → front ≠ t → 0 < depth + braceDepth front

@[simp] theorem closes_nil {depth : Int} : Closes depth [] ↔ depth = 0 := by
  simp only [Closes, List.prefix_nil, forall_eq, braceDepth_nil]
  simp

theorem closes_cons {depth : Int} (hd : 0 < depth) {c : Char} {t : List Char} :
    Closes depth (c :: t) ↔ Closes (depth + braceStep c) t := by
  have hsplit (u : List Char) :
      depth + braceDepth (c :: u) = depth + braceStep c + braceDepth u := by
    rw [braceDepth_cons]; omega
  constructor
  · rintro ⟨hend, hfront⟩
    refine ⟨hsplit t ▸ hend, fun front h hne => ?_⟩
    have := hfront (c :: front) (List.cons_prefix_cons.2 ⟨rfl, h⟩) (by simpa using hne)
    rwa [hsplit] at this
  · rintro ⟨hend, hfront⟩
    refine ⟨hsplit t ▸ hend, fun front h hne => ?_⟩
    cases front with
    | nil => simpa using hd
    | cons d front =>
      obtain ⟨rfl, hp⟩ := List.cons_prefix_cons.1 h
      rw [hsplit]
      exact hfront front hp (by simpa using hne)

theorem closes_zero {t : List Char} : Closes 0 t ↔ t = [] := by
  constructor
  · intro h
    by_contra hne
    have := h.2 [] (List.nil_prefix) (Ne.symm hne)
    simp at this
  · rintro rfl
    simp

/-- What closes a depth ends with a closing brace. -/
theorem Closes.getLast? {depth : Int} {t : List Char} (hd : 0 < depth) (h : Closes depth t) :
    t.getLast? = some '}' := by
  induction t generalizing depth with
  | nil => simp at h; omega
  | cons c t ih =>
    rw [closes_cons hd] at h
    by_cases h0 : 0 < depth + braceStep c
    · have hne : t ≠ [] := by
        rintro rfl
        simp at h
        omega
      rw [List.getLast?_cons, ih h0 h]
      rfl
    · -- only a closing brace brings the depth down
      rcases braceStep_cases c with ⟨rfl, hs⟩ | hs
      · have hz : depth + braceStep '}' = 0 := by omega
        rw [hz, closes_zero] at h
        rw [h]
        rfl
      · omega

/-- One step of the walk to the closing brace. -/
theorem closing?_cons (depth : Nat) (hd : 0 < depth) (c : Char) (s : List Char) :
    closing? depth (c :: s) =
      if (depth : Int) + braceStep c = 0 then some [c]
      else (closing? ((depth : Int) + braceStep c).toNat s).map (c :: ·) := by
  by_cases h1 : c = '{'
  · subst h1
    have : ((depth : Int) + 1).toNat = depth + 1 := by omega
    simp only [closing?, braceStep, if_true, this]
    rw [if_neg (by omega)]
  · by_cases h2 : c = '}'
    · subst h2
      have : ((depth : Int) + -1).toNat = depth - 1 := by omega
      simp only [closing?, braceStep, Char.reduceEq, if_false, if_true, this]
      by_cases h3 : depth ≤ 1
      · rw [if_pos h3, if_pos (by omega)]
      · rw [if_neg h3, if_neg (by omega)]
    · simp only [closing?, braceStep, h1, h2, if_false, Int.add_zero, Int.toNat_natCast]
      rw [if_neg (by omega)]

/-- **The closing brace is found exactly where the depth first comes down to zero.** -/
theorem closing?_eq_some_iff {depth : Nat} (hd : 0 < depth) {s t : List Char} :
    closing? depth s = some t ↔ t <+: s ∧ Closes depth t := by
  induction s generalizing depth t with
  | nil =>
    simp only [closing?, List.prefix_nil, reduceCtorEq, false_iff, not_and]
    rintro rfl
    simp; omega
  | cons c s ih =>
    have hdi : (0 : Int) < depth := by omega
    rw [closing?_cons depth hd]
    cases t with
    | nil =>
      simp only [List.nil_prefix, closes_nil, true_and]
      split <;> simp <;> omega
    | cons d t =>
      rw [List.cons_prefix_cons, closes_cons hdi]
      split
      · next h0 =>
        constructor
        · intro h
          obtain ⟨rfl, rfl⟩ : c = d ∧ [] = t := by simpa using h
          exact ⟨⟨rfl, List.nil_prefix⟩, by rw [h0]; simp⟩
        · rintro ⟨⟨rfl, -⟩, h⟩
          rw [h0, closes_zero] at h
          rw [h]
      · next h0 =>
        have hpos : (0 : Int) < depth + braceStep c := by
          rcases braceStep_cases c with ⟨-, hs⟩ | hs <;> omega
        have ih' := @ih ((depth : Int) + braceStep c).toNat (by omega) t
        rw [Int.toNat_of_nonneg (Int.le_of_lt hpos)] at ih'
        constructor
        · intro h
          obtain ⟨u, hu, he⟩ := Option.map_eq_some_iff.1 h
          obtain ⟨rfl, rfl⟩ : c = d ∧ u = t := by simpa using he
          obtain ⟨hp, hc⟩ := ih'.1 hu
          exact ⟨⟨rfl, hp⟩, hc⟩
        · rintro ⟨⟨rfl, hp⟩, hc⟩
          rw [ih'.2 ⟨hp, hc⟩]
          rfl

/-! ## Blocks -/

/-- **A block runs to the brace that closes its first one.** -/
theorem block?_eq_some_iff {s b : List Char} :
    block? s = some b ↔ b <+: s ∧ ∃ t, b = '{' :: t ∧ Closes 1 t := by
  have h1 {s t : List Char} := @closing?_eq_some_iff 1 Nat.one_pos s t
  constructor
  · intro h
    unfold block? at h
    split at h
    · next rest =>
      obtain ⟨t, ht, rfl⟩ := Option.map_eq_some_iff.1 h
      obtain ⟨hp, hc⟩ := h1.1 ht
      exact ⟨List.cons_prefix_cons.2 ⟨rfl, hp⟩, t, rfl, hc⟩
    · cases h
  · rintro ⟨hp, t, rfl, hc⟩
    cases s with
    | nil => simp at hp
    | cons c s =>
      obtain ⟨rfl, htail⟩ := List.cons_prefix_cons.1 hp
      show (closing? 1 s).map _ = _
      rw [h1.2 ⟨htail, hc⟩]
      rfl

/-- A block is balanced. -/
theorem Closes.balanced {t : List Char} (h : Closes 1 t) : Balanced ('{' :: t) := by
  rw [balanced_iff, balancedFrom_cons]
  refine ⟨Int.le_refl 0, fun front hf => ?_, h.1⟩
  by_cases he : front = t
  · subst he
    exact Int.le_of_eq h.1.symm
  · exact Int.le_of_lt (h.2 front hf he)

/-- A balanced text and a closing brace close a depth of one. -/
theorem Balanced.closes {t : List Char} (h : Balanced t) : Closes 1 (t ++ ['}']) := by
  refine ⟨?_, fun front hf hne => ?_⟩
  · rw [braceDepth_append, h.closed]; rfl
  · have hp : front <+: t := by
      rcases List.prefix_concat_iff.1 (by simpa using hf) with h | h
      · exact absurd h (by simpa using hne)
      · exact h
    have := h.nonneg front hp
    omega

end GasAdvisor
