import GasAdvisor.Decimal.Text
import GasAdvisor.Proofs.Cost.Amounts
import GasAdvisor.Proofs.Text.Words

/-!
# Digits in groups

Groups of digits stand in threes if the first one has one to three digits and each other one has three
(`InThrees`). Digits are put into such groups in one way only (`InThrees.unique`), and the commas of a
grouped text stand between the groups of its digits (`inThrees_pieces_groupDigits`). So a grouped number
is the one text that is cut at its commas into groups in threes and has the digits of the number
(`grouped_eq_iff`), from which `grouped_lossless` follows.
-/

namespace GasAdvisor.Decimal

open Text

/-! ## Groups in threes -/

/-- The first group has one to three digits, and all others have three. -/
def InThrees : List (List Char) → Prop
  | [] => False
  | first :: others => 1 ≤ first.length ∧ first.length ≤ 3 ∧ ∀ group ∈ others, group.length = 3

variable {ds : List Char} {groups groups' : List (List Char)}

theorem length_flatten_of_threes (h : ∀ group ∈ groups, group.length = 3) :
    groups.flatten.length = 3 * groups.length := by
  rw [List.length_flatten, List.map_eq_replicate_iff.2 h, List.sum_replicate, smul_eq_mul,
    Nat.mul_comm]

/-- The number of digits tells how many groups there are and how long the first one is. -/
theorem InThrees.map_length (h : InThrees groups) (h' : InThrees groups')
    (hflatten : groups.flatten = groups'.flatten) :
    groups.map List.length = groups'.map List.length := by
  cases groups with
  | nil => exact h.elim
  | cons first others =>
    cases groups' with
    | nil => exact h'.elim
    | cons first' others' =>
      obtain ⟨hpos, hle, hothers⟩ := h
      obtain ⟨hpos', hle', hothers'⟩ := h'
      have hlength := congrArg List.length hflatten
      rw [List.flatten_cons, List.flatten_cons, List.length_append, List.length_append,
        length_flatten_of_threes hothers, length_flatten_of_threes hothers'] at hlength
      have hfirst : first.length = first'.length := by omega
      have hnumber : others.length = others'.length := by omega
      rw [List.map_cons, List.map_cons, hfirst, List.map_eq_replicate_iff.2 hothers,
        List.map_eq_replicate_iff.2 hothers', hnumber]

/-- **Digits are put into groups in one way.** -/
theorem InThrees.unique (h : InThrees groups) (h' : InThrees groups')
    (hflatten : groups.flatten = groups'.flatten) : groups = groups' :=
  List.eq_iff_flatten_eq.2 ⟨hflatten, h.map_length h' hflatten⟩

/-- No group is empty. -/
theorem InThrees.not_mem_nil (h : InThrees groups) : [] ∉ groups := by
  cases groups with
  | nil => exact h.elim
  | cons first others =>
    obtain ⟨hpos, -, hothers⟩ := h
    rw [List.mem_cons, not_or]
    refine ⟨fun hfirst => ?_, fun hmem => ?_⟩
    · rw [← hfirst] at hpos
      exact absurd hpos (by decide)
    · exact absurd (hothers [] hmem) (by decide)

/-- The first of the groups in threes has as many digits as are left over from all others. -/
theorem InThrees.exists_first (h : InThrees groups) :
    ∃ first others, groups = first :: others ∧ 1 ≤ first.length ∧ first.length ≤ 3 ∧
      (∀ group ∈ others, group.length = 3) ∧ first.length % 3 = groups.flatten.length % 3 := by
  cases groups with
  | nil => exact h.elim
  | cons first others =>
    obtain ⟨hpos, hle, hothers⟩ := h
    refine ⟨first, others, rfl, hpos, hle, hothers, ?_⟩
    rw [List.flatten_cons, List.length_append, length_flatten_of_threes hothers,
      Nat.add_mul_mod_self_left]

/-! ## Grouped texts -/

/-- A text without its separators is the text of its pieces. -/
theorem flatten_pieces (separator : Char) (text : List Char) :
    (pieces separator text).flatten = text.filter (· ≠ separator) := by
  induction text with
  | nil => rfl
  | cons c text ih =>
    rw [pieces]
    split
    · next hc => rw [List.flatten_cons, List.nil_append, ih, List.filter_cons_of_neg (by simp [hc])]
    · next hc =>
      rw [List.filter_cons_of_pos (by simp [hc]), ← ih]
      split <;> simp_all

/-- **No digit is lost or added.** -/
theorem filter_groupDigits (h : ',' ∉ ds) : (groupDigits ds).filter (· ≠ ',') = ds := by
  fun_induction groupDigits ds with
  | case1 => rfl
  | case2 d =>
    have hd : ¬ ',' = d := by simpa using h
    rw [List.filter_cons_of_pos (by simp [Ne.symm hd]), List.filter_nil]
  | case3 d rest hne hgroup ih =>
    obtain ⟨hd, hrest⟩ : ¬ ',' = d ∧ ',' ∉ rest := by simpa using h
    rw [List.filter_cons_of_pos (by simp [Ne.symm hd]), List.filter_cons_of_neg (by simp), ih hrest]
  | case4 d rest hne hgroup ih =>
    obtain ⟨hd, hrest⟩ : ¬ ',' = d ∧ ',' ∉ rest := by simpa using h
    rw [List.filter_cons_of_pos (by simp [Ne.symm hd]), ih hrest]

/-- **The commas cut the digits into groups in threes.** A comma is due where a multiple of three digits
follows, and then the groups of those begin with a whole one. -/
theorem inThrees_pieces_groupDigits (hne : ds ≠ []) (h : ',' ∉ ds) :
    InThrees (pieces ',' (groupDigits ds)) := by
  fun_induction groupDigits ds with
  | case1 => exact absurd rfl hne
  | case2 d =>
    rw [pieces_of_not_mem h]
    exact ⟨Nat.le_refl 1, by simp, nofun⟩
  | case3 d rest hmore hwhole ih =>
    obtain ⟨hd, hrest⟩ : ¬ ',' = d ∧ ',' ∉ rest := by simpa using h
    obtain ⟨first, others, hpieces, hpos, hle, hothers, hleft⟩ := (ih hmore hrest).exists_first
    rw [flatten_pieces, filter_groupDigits hrest, hwhole] at hleft
    have hfirst : first.length = 3 := by omega
    have hcut : pieces ',' (d :: ',' :: groupDigits rest) = [d] :: pieces ',' (groupDigits rest) :=
      pieces_append_cons (a := [d]) (by simpa using hd) _
    rw [hcut, hpieces]
    exact ⟨Nat.le_refl 1, by simp, List.forall_mem_cons.2 ⟨hfirst, hothers⟩⟩
  | case4 d rest hmore hwhole ih =>
    obtain ⟨hd, hrest⟩ : ¬ ',' = d ∧ ',' ∉ rest := by simpa using h
    obtain ⟨first, others, hpieces, hpos, hle, hothers, hleft⟩ := (ih hmore hrest).exists_first
    rw [flatten_pieces, filter_groupDigits hrest] at hleft
    have hfirst : first.length + 1 ≤ 3 := by omega
    rw [pieces, if_neg (Ne.symm hd), hpieces]
    exact ⟨Nat.le_add_left 1 _, hfirst, hothers⟩

/-! ## Numbers -/

theorem comma_not_mem_digits (n : Nat) : ',' ∉ digits n :=
  not_mem_digits (by decide)

/-- **A number is grouped in one way**: no other text has its digits and is cut at its commas into groups
in threes. -/
theorem grouped_eq_iff {n : Nat} {text : List Char} :
    grouped n = text ↔ text.filter (· ≠ ',') = digits n ∧ InThrees (pieces ',' text) := by
  have hown : InThrees (pieces ',' (grouped n)) :=
    inThrees_pieces_groupDigits Nat.toDigits_ne_nil (comma_not_mem_digits n)
  have hdigits : (grouped n).filter (· ≠ ',') = digits n := filter_groupDigits (comma_not_mem_digits n)
  constructor
  · rintro rfl
    exact ⟨hdigits, hown⟩
  · rintro ⟨htext, hthrees⟩
    have hpieces : pieces ',' (grouped n) = pieces ',' text :=
      hown.unique hthrees (by rw [flatten_pieces, flatten_pieces, hdigits, htext])
    exact (pieces_eq_iff.1 hpieces).2.2.symm.trans (pieces_eq_iff.1 rfl).2.2

/-- A text that is cut into groups has no comma at its ends. -/
theorem InThrees.no_comma_at_ends {text : List Char} (h : InThrees (pieces ',' text)) :
    text.head? ≠ some ',' ∧ text.getLast? ≠ some ',' := by
  constructor
  · intro hhead
    obtain ⟨rest, rfl⟩ := List.head?_eq_some_iff.1 hhead
    refine h.not_mem_nil ?_
    rw [pieces, if_pos rfl]
    exact List.mem_cons_self
  · intro hlast
    obtain ⟨front, rfl⟩ := List.getLast?_eq_some_iff.1 hlast
    refine h.not_mem_nil ?_
    rw [pieces_append_separator]
    exact List.mem_append_right _ (List.mem_singleton_self [])

/-- **Grouping digits is lossless and canonical.** A grouped number without its commas is the decimal text
of the number. Cut at its commas, it falls into a first group of one to three digits and further groups of
three; it neither starts nor ends with a comma, and it is the only text of this kind with these digits. So
no two numbers are grouped alike. -/
theorem grouped_lossless :
    (∀ n : Nat,
      (grouped n).filter (· ≠ ',') = (toString n).toList ∧
      (∃ first others, pieces ',' (grouped n) = first :: others ∧ 1 ≤ first.length ∧
        first.length ≤ 3 ∧ ∀ group ∈ others, group.length = 3) ∧
      (grouped n).head? ≠ some ',' ∧ (grouped n).getLast? ≠ some ',' ∧
      ∀ text, grouped n = text ↔
        text.filter (· ≠ ',') = (toString n).toList ∧ InThrees (pieces ',' text)) ∧
    Function.Injective grouped := by
  have hdigits (n : Nat) : (grouped n).filter (· ≠ ',') = digits n := (grouped_eq_iff.1 rfl).1
  refine ⟨fun n => ?_, fun n m hnm => ?_⟩
  · have hthrees : InThrees (pieces ',' (grouped n)) := (grouped_eq_iff.1 rfl).2
    obtain ⟨first, others, hpieces, hpos, hle, hothers, -⟩ := hthrees.exists_first
    obtain ⟨hhead, hlast⟩ := hthrees.no_comma_at_ends
    rw [toList_toString]
    exact ⟨hdigits n, ⟨first, others, hpieces, hpos, hle, hothers⟩, hhead, hlast,
      fun _ => grouped_eq_iff⟩
  · calc n = Nat.ofDigitChars 10 (digits n) 0 := Nat.ofDigitChars_ten_toDigits.symm
      _ = Nat.ofDigitChars 10 (digits m) 0 := by rw [← hdigits n, ← hdigits m, hnm]
      _ = m := Nat.ofDigitChars_ten_toDigits

example : grouped 1234567 = "1,234,567".toList := by decide

end GasAdvisor.Decimal
