import Mathlib.Data.List.Forall2
import GasAdvisor.Proofs.Text.Search

/-!
# Phrases in any letter case

Where a phrase stands in a text, whatever the case of its letters. The search for it finds its first
place (`first?_caseless_eq_some_iff`): the one such that the text up to it, with all of the phrase but
its last letter, does not hold the phrase. So what follows the place does not matter, and what stands
before it is split at characters that the phrase does not have (`Holds.of_append_cons`).
-/

namespace GasAdvisor.Text

/-- Whether a text spells a phrase that is given in lower case, letter by letter. -/
def Spells (phrase found : List Char) : Prop :=
  List.Forall₂ (fun letter c => Shape.isFormOf letter c = true) phrase found

/-- Whether a text holds a phrase in any letter case. -/
def Holds (phrase text : List Char) : Prop :=
  ∃ before found after, text = before ++ (found ++ after) ∧ Spells phrase found

variable {phrase text : List Char}

/-! ## The phrase at one place -/

theorem Spells.length_eq {found : List Char} (h : Spells phrase found) :
    found.length = phrase.length :=
  (List.Forall₂.length_eq h).symm

/-- Every character that spells a phrase is a form of one of its letters. -/
theorem Spells.exists_letter {found : List Char} (h : Spells phrase found) {c : Char}
    (hc : c ∈ found) : ∃ letter ∈ phrase, Shape.isFormOf letter c = true := by
  induction h with
  | nil => cases hc
  | cons hform _ ih =>
    rcases List.mem_cons.1 hc with rfl | hc
    · exact ⟨_, List.mem_cons_self, hform⟩
    · obtain ⟨letter, hletter, hform⟩ := ih hc
      exact ⟨letter, List.mem_cons_of_mem _ hletter, hform⟩

/-- Every letter of a phrase has a form in what spells it. -/
theorem Spells.exists_form {found : List Char} (h : Spells phrase found) {letter : Char}
    (hletter : letter ∈ phrase) : ∃ c ∈ found, Shape.isFormOf letter c = true := by
  induction h with
  | nil => cases hletter
  | cons hform _ ih =>
    rcases List.mem_cons.1 hletter with rfl | hletter
    · exact ⟨_, List.mem_cons_self, hform⟩
    · obtain ⟨c, hc, hform⟩ := ih hletter
      exact ⟨c, List.mem_cons_of_mem _ hc, hform⟩

/-- **A caseless text fits exactly where it is spelled.** -/
theorem Shape.caseless_eq_some_iff {before : Option Char} {found rest : List Char} :
    Shape.caseless phrase before text = some (found, rest) ↔
      text = found ++ rest ∧ Spells phrase found := by
  induction phrase generalizing text found with
  | nil =>
    rw [Shape.caseless, Option.some.injEq, Prod.mk.injEq]
    constructor
    · rintro ⟨rfl, rfl⟩
      exact ⟨rfl, List.Forall₂.nil⟩
    · rintro ⟨rfl, ⟨⟩⟩
      exact ⟨rfl, rfl⟩
  | cons letter phrase ih =>
    cases text with
    | nil =>
      constructor
      · intro h
        cases h
      · rintro ⟨htext, hspells⟩
        cases hspells with
        | cons => cases htext
    | cons c text =>
      rw [Shape.caseless]
      split
      · next hform =>
        rw [Option.map_eq_some_iff]
        constructor
        · rintro ⟨⟨found', rest'⟩, hfound, hpair⟩
          obtain ⟨rfl, rfl⟩ := Prod.mk.inj hpair
          obtain ⟨rfl, hspells⟩ := ih.1 hfound
          exact ⟨rfl, List.Forall₂.cons hform hspells⟩
        · rintro ⟨htext, hspells⟩
          cases hspells with
          | @cons _ c' _ found' _ hspells =>
            obtain ⟨rfl, rfl⟩ := List.cons.inj htext
            exact ⟨(found', rest), ih.2 ⟨rfl, hspells⟩, rfl⟩
      · next hform =>
        constructor
        · intro h
          cases h
        · rintro ⟨htext, hspells⟩
          cases hspells with
          | cons hform' => exact absurd (by rwa [(List.cons.inj htext).1]) hform

/-! ## Texts that hold a phrase -/

theorem Holds.mono {front : List Char} (h : Holds phrase front) (hfront : front <+: text) :
    Holds phrase text := by
  obtain ⟨u, found, v, rfl, hspells⟩ := h
  obtain ⟨rest, rfl⟩ := hfront
  exact ⟨u, found, v ++ rest, by simp only [List.append_assoc], hspells⟩

/-- A phrase stands in no text without a form of its last letter. -/
theorem not_holds_of_form (letter : Char) (hletter : phrase.getLast? = some letter)
    (h : ∀ c ∈ text, Shape.isFormOf letter c = false) : ¬ Holds phrase text := by
  rintro ⟨before, found, after, rfl, hspells⟩
  obtain ⟨c, hc, hform⟩ := hspells.exists_form (List.mem_of_getLast? hletter)
  rw [h c (by simp [hc])] at hform
  cases hform

/-- **A phrase does not stand across a character that it does not have.** -/
theorem Holds.of_append_cons {a b : List Char} {c : Char} (h : Holds phrase (a ++ c :: b))
    (hc : (phrase.any (Shape.isFormOf · c)) = false) : Holds phrase a ∨ Holds phrase b := by
  obtain ⟨before, found, after, htext, hspells⟩ := h
  have hfree : c ∉ found := by
    intro hmem
    obtain ⟨letter, hletter, hform⟩ := hspells.exists_letter hmem
    rw [List.any_eq_true.2 ⟨letter, hletter, hform⟩] at hc
    cases hc
  rcases List.append_eq_append_iff.1 htext with ⟨k, rfl, hk⟩ | ⟨k, rfl, hk⟩
  · -- the phrase starts behind the character, or with it
    cases k with
    | nil =>
      cases found with
      | nil => exact .inr ⟨[], [], b, rfl, hspells⟩
      | cons d found => exact absurd (by rw [(List.cons.inj hk).1]; exact List.mem_cons_self) hfree
    | cons d k =>
      obtain ⟨-, rfl⟩ := List.cons.inj hk
      exact .inr ⟨k, found, after, rfl, hspells⟩
  · rcases List.append_eq_append_iff.1 hk with ⟨k', rfl, hk'⟩ | ⟨k', rfl, hk'⟩
    · exact .inl ⟨before, found, k', rfl, hspells⟩
    · cases k' with
      | nil => exact .inl ⟨before, k, [], by simp, by simpa using hspells⟩
      | cons d k' =>
        obtain ⟨rfl, -⟩ := List.cons.inj hk'
        exact absurd (by simp) hfree

/-- A phrase does not start among characters that are no forms of its first letter. -/
theorem Holds.of_append {letter : Char} {a b : List Char} (h : Holds phrase (a ++ b))
    (hletter : phrase.head? = some letter) (ha : a.any (Shape.isFormOf letter) = false) :
    Holds phrase b := by
  induction a with
  | nil => exact h
  | cons c a ih =>
    rw [List.any_cons, Bool.or_eq_false_iff] at ha
    refine ih ?_ ha.2
    obtain ⟨before, found, after, htext, hspells⟩ := h
    cases before with
    | nil =>
      cases hspells with
      | nil => cases hletter
      | cons hform =>
        obtain rfl := Option.some.inj hletter
        rw [← (List.cons.inj htext).1, ha.1] at hform
        cases hform
    | cons d before =>
      obtain ⟨-, hrest⟩ := List.cons.inj htext
      exact ⟨before, found, after, hrest, hspells⟩

/-! ## The first place -/

/-- **The search for a phrase finds its first place.** -/
theorem first?_caseless_eq_some_iff (hne : phrase ≠ []) {found rest : List Char} :
    first? (Shape.caseless phrase) text = some (found, rest) ↔
      ∃ before, text = before ++ (found ++ rest) ∧ Spells phrase found ∧
        ¬ Holds phrase (before ++ found.dropLast) := by
  have hlength : 0 < phrase.length := List.length_pos_iff.2 hne
  rw [first?_eq_some_iff]
  constructor
  · rintro ⟨before, place, rfl, -, hplace, hearlier⟩
    obtain ⟨rfl, hspells⟩ := Shape.caseless_eq_some_iff.1 hplace
    refine ⟨before, rfl, hspells, ?_⟩
    rintro ⟨u, found', v, htext, hspells'⟩
    have hshorter : u.length < before.length := by
      have h := congrArg List.length htext
      simp only [List.length_append, List.length_dropLast] at h
      have := hspells.length_eq
      have := hspells'.length_eq
      omega
    obtain ⟨last, hlast⟩ : ∃ last, found = found.dropLast ++ [last] := by
      have hfound : found ≠ [] := by
        rintro rfl
        rw [← hspells.length_eq] at hlength
        exact absurd hlength (Nat.lt_irrefl 0)
      exact ⟨found.getLast hfound, (List.dropLast_append_getLast hfound).symm⟩
    have hnone := hearlier u (found' ++ (v ++ [last] ++ rest))
      (by rw [hlast, List.append_assoc, ← List.append_assoc before, htext]; simp) hshorter
    rw [Shape.caseless_eq_some_iff.2 ⟨rfl, hspells'⟩] at hnone
    cases hnone
  · rintro ⟨before, rfl, hspells, hfirst⟩
    refine ⟨before, found ++ rest, rfl, ?_, Shape.caseless_eq_some_iff.2 ⟨rfl, hspells⟩, ?_⟩
    · intro hnil
      rw [← hspells.length_eq, (List.append_eq_nil_iff.1 hnil).1] at hlength
      exact absurd hlength (Nat.lt_irrefl 0)
    · intro u place htext hshorter
      rw [Option.eq_none_iff_forall_ne_some]
      rintro ⟨found', rest'⟩ hplace
      obtain ⟨rfl, hspells'⟩ := Shape.caseless_eq_some_iff.1 hplace
      -- an earlier place of the phrase ends before the last letter of this one
      have hearlier : Holds phrase (u ++ found') := ⟨u, found', [], by simp, hspells'⟩
      have hplace : u ++ found' <+: before ++ (found ++ rest) := by
        rw [htext, ← List.append_assoc]
        exact List.prefix_append _ _
      have hbefore : before ++ found.dropLast <+: before ++ (found ++ rest) := by
        rw [← List.append_assoc]
        exact ((List.prefix_append_right_inj before).2 (List.dropLast_prefix found)).trans
          (List.prefix_append _ _)
      refine hfirst (hearlier.mono (List.prefix_of_prefix_length_le hplace hbefore ?_))
      simp only [List.length_append, List.length_dropLast]
      have := hspells.length_eq
      have := hspells'.length_eq
      omega

/-- **A phrase is found exactly in the texts that hold it.** -/
theorem isSome_first?_caseless_iff (hne : phrase ≠ []) :
    (first? (Shape.caseless phrase) text).isSome = true ↔ Holds phrase text := by
  rw [isSome_first?_iff]
  constructor
  · rintro ⟨u, v, rfl, -, hv⟩
    obtain ⟨⟨found, rest⟩, hfound⟩ := Option.isSome_iff_exists.1 hv
    obtain ⟨rfl, hspells⟩ := Shape.caseless_eq_some_iff.1 hfound
    exact ⟨u, found, rest, rfl, hspells⟩
  · rintro ⟨u, found, rest, rfl, hspells⟩
    refine ⟨u, found ++ rest, rfl, ?_, ?_⟩
    · intro hnil
      have hlength := hspells.length_eq
      rw [(List.append_eq_nil_iff.1 hnil).1] at hlength
      exact hne (List.length_eq_zero_iff.1 hlength.symm)
    · rw [Shape.caseless_eq_some_iff.2 ⟨rfl, hspells⟩]
      rfl

end GasAdvisor.Text
