import GasAdvisor.Proofs.Lookup
import GasAdvisor.Proofs.Text.Caseless
import GasAdvisor.Proofs.Text.Identifiers

/-!
# Plain words in the lower case of a text

Where a plain word, one in lower-case letters of ASCII, stands in the lower case of a text. The one
rule that looks at neighbours decides between two letters that no plain word has, so the lower case may
be taken character by character (`infix_lower_iff`). A plain word does not reach into characters whose
lower case has no letter of ASCII, and blanks and digits of all scripts are such characters; so what is
read of a text from its front can be taken off (`IsPlain.infix_of_bare_append`). Beyond ASCII only two
characters have such a letter (`isBare_of_wide`), and both are their own upper case.
-/

namespace GasAdvisor.Text

/-- A word in lower-case letters of ASCII. -/
structure IsPlain (word : List Char) : Prop where
  ne_nil : word ≠ []
  isLower : ∀ c ∈ word, c.isLower = true

theorem isPlain_iff {word : List Char} :
    IsPlain word ↔ (!word.isEmpty && word.all Char.isLower) = true := by
  rw [Bool.and_eq_true, Bool.not_eq_true', List.isEmpty_eq_false_iff, List.all_eq_true]
  exact ⟨fun h => ⟨h.ne_nil, h.isLower⟩, fun h => ⟨h.1, h.2⟩⟩

instance (word : List Char) : Decidable (IsPlain word) :=
  decidable_of_iff' _ isPlain_iff

/-- The lower case of a text, character by character. -/
def lowerEach (text : List Char) : List Char :=
  text.flatMap lowerChar

/-- A character whose lower case has no letter of ASCII. -/
def IsBare (c : Char) : Prop :=
  ∀ d ∈ lowerChar c, d.isLower = false

variable {word : List Char}

theorem lowerEach_append (a b : List Char) : lowerEach (a ++ b) = lowerEach a ++ lowerEach b :=
  List.flatMap_append

theorem lowerEach_ne_nil {a : List Char} (h : a ≠ []) : lowerEach a ≠ [] := by
  obtain ⟨c, rest, rfl⟩ := List.exists_cons_of_ne_nil h
  have himage : lowerChar c ≠ [] := by
    unfold lowerChar
    split_ifs <;> exact List.cons_ne_nil _ _
  exact List.append_ne_nil_of_left_ne_nil himage _

/-! ## Places of a plain word -/

/-- A text has the lower-case letters of ASCII that another one has, where that one has them. -/
def KeepsLetters (s t : List Char) : Prop :=
  List.Forall₂ (fun x y => x.isLower = true → y = x) s t

theorem KeepsLetters.at_front {s t : List Char} (h : KeepsLetters s t)
    (hword : ∀ c ∈ word, c.isLower = true) (hfront : word <+: s) : word <+: t := by
  induction h generalizing word with
  | nil => exact hfront
  | cons hchar _ ih =>
    cases word with
    | nil => exact List.nil_prefix
    | cons c word =>
      obtain ⟨rfl, hrest⟩ := List.cons_prefix_cons.1 hfront
      obtain ⟨hc, hword⟩ := List.forall_mem_cons.1 hword
      exact List.cons_prefix_cons.2 ⟨(hchar hc).symm, ih hword hrest⟩

/-- **A plain word stands where its letters are kept.** -/
theorem KeepsLetters.stands {s t : List Char} (h : KeepsLetters s t) (hword : IsPlain word)
    (hplace : word <:+: s) : word <:+: t := by
  induction h with
  | nil => exact hplace
  | cons hchar hrest ih =>
    rcases List.infix_cons_iff.1 hplace with hfront | hplace
    · exact (KeepsLetters.at_front (.cons hchar hrest) hword.isLower hfront).isInfix
    · exact (ih hplace).trans (List.suffix_cons _ _).isInfix

theorem keepsLetters_refl (s : List Char) : KeepsLetters s s :=
  List.forall₂_same.2 fun _ _ _ => rfl

theorem KeepsLetters.append {s t s' t' : List Char} (h : KeepsLetters s t) (h' : KeepsLetters s' t') :
    KeepsLetters (s ++ s') (t ++ t') :=
  List.rel_append h h'

/-- A capital sigma has no letter of ASCII, whichever its lower case is. -/
theorem keepsLetters_lowerAfter (before text : List Char) :
    KeepsLetters (lowerAfter before text) (lowerEach text) ∧
      KeepsLetters (lowerEach text) (lowerAfter before text) := by
  induction text generalizing before with
  | nil => exact ⟨.nil, .nil⟩
  | cons c text ih =>
    obtain ⟨hthere, hback⟩ := ih (c :: before)
    rw [lowerAfter, lowerEach, List.flatMap_cons]
    by_cases hsigma : c.toNat = 0x3a3
    · obtain rfl : c = Char.ofNat 0x3a3 := by rw [← hsigma, Char.ofNat_toNat]
      have himage : lowerChar (Char.ofNat 0x3a3) = [Char.ofNat 0x3c3] := by decide +kernel
      have hkeeps {x y : Nat} (hx : (Char.ofNat x).isLower = false) :
          KeepsLetters [Char.ofNat x] [Char.ofNat y] :=
        .cons (fun h => absurd (hx.symm.trans h) Bool.false_ne_true) .nil
      rw [if_pos hsigma, himage]
      split
      · exact ⟨(hkeeps (by decide)).append hthere, (hkeeps (by decide)).append hback⟩
      · exact ⟨(hkeeps (by decide)).append hthere, (hkeeps (by decide)).append hback⟩
    · rw [if_neg hsigma]
      exact ⟨(keepsLetters_refl _).append hthere, (keepsLetters_refl _).append hback⟩

/-- **A plain word stands in the lower case of a text where it stands in that of its characters.** -/
theorem infix_lower_iff (hword : IsPlain word) {text : List Char} :
    word <:+: lower text ↔ word <:+: lowerEach text :=
  have h := keepsLetters_lowerAfter [] text
  ⟨h.1.stands hword, h.2.stands hword⟩

/-! ## Characters that no plain word reaches into -/

/-- A plain word stands on one side of a character that is no lower-case letter of ASCII. -/
theorem IsPlain.infix_of_append_cons (hword : IsPlain word) {a b : List Char} {c : Char}
    (hc : c.isLower = false) (h : word <:+: a ++ c :: b) : word <:+: a ∨ word <:+: b := by
  have hnot : c ∉ word := fun hmem => absurd (hc.symm.trans (hword.isLower c hmem)) Bool.false_ne_true
  rcases List.infix_append_iff.1 h with ha | hcb | ⟨u, v, rfl, hu, hv⟩
  · exact .inl ha
  · rcases List.infix_cons_iff.1 hcb with hfront | hb
    · rcases List.prefix_cons_iff.1 hfront with rfl | ⟨rest, rfl, -⟩
      · exact absurd rfl hword.ne_nil
      · exact absurd List.mem_cons_self hnot
    · exact .inr hb
  · rcases List.prefix_cons_iff.1 hv with rfl | ⟨rest, rfl, -⟩
    · exact .inl (by rw [List.append_nil]; exact hu.isInfix)
    · exact absurd (List.mem_append_right u List.mem_cons_self) hnot

/-- **Characters whose lower case has no letter of ASCII are passed over.** -/
theorem IsPlain.infix_of_append (hword : IsPlain word) {a b : List Char}
    (ha : ∀ c ∈ a, c.isLower = false) (h : word <:+: a ++ b) : word <:+: b := by
  induction a with
  | nil => exact h
  | cons c a ih =>
    obtain ⟨hc, ha⟩ := List.forall_mem_cons.1 ha
    rcases hword.infix_of_append_cons (a := []) hc h with hnil | hrest
    · exact absurd (List.infix_nil.1 hnil) hword.ne_nil
    · exact ih ha hrest

theorem IsPlain.infix_of_append_left (hword : IsPlain word) {a b : List Char}
    (hb : ∀ c ∈ b, c.isLower = false) (h : word <:+: a ++ b) : word <:+: a := by
  cases b with
  | nil => rwa [List.append_nil] at h
  | cons c b =>
    obtain ⟨hc, hb⟩ := List.forall_mem_cons.1 hb
    rcases hword.infix_of_append_cons hc h with ha | hrest
    · exact ha
    · have hnil := hword.infix_of_append hb ((List.append_nil b).symm ▸ hrest)
      exact absurd (List.infix_nil.1 hnil) hword.ne_nil

theorem isLower_of_mem_lowerEach {a : List Char} (ha : ∀ c ∈ a, IsBare c) {d : Char}
    (h : d ∈ lowerEach a) : d.isLower = false := by
  obtain ⟨c, hc, hd⟩ := List.mem_flatMap.1 h
  exact ha c hc d hd

/-- **What stands before a plain word may be taken off** if its lower case has no letter of ASCII. -/
theorem IsPlain.infix_of_bare_append (hword : IsPlain word) {a b : List Char} (ha : ∀ c ∈ a, IsBare c)
    (h : word <:+: lowerEach (a ++ b)) : word <:+: lowerEach b := by
  rw [lowerEach_append] at h
  exact hword.infix_of_append (fun d => isLower_of_mem_lowerEach ha) h

theorem IsPlain.infix_of_append_bare (hword : IsPlain word) {a b : List Char} (hb : ∀ c ∈ b, IsBare c)
    (h : word <:+: lowerEach (a ++ b)) : word <:+: lowerEach a := by
  rw [lowerEach_append] at h
  exact hword.infix_of_append_left (fun d => isLower_of_mem_lowerEach hb) h

/-! ## Lower and upper case of characters -/

/-- A character is its own image, or a run that it lies in has its image. -/
theorem mapCase_eq_or (runs : List (Nat × Nat × Nat × Nat)) (n : Nat) :
    mapCase runs n = n ∨ ∃ run ∈ runs, run.1 ≤ n ∧ n ≤ run.2.1 ∧
      mapCase runs n = run.2.2.2 + (n - run.1) := by
  induction runs with
  | nil => exact .inl rfl
  | cons run runs ih =>
    rw [mapCase]
    split
    · next hrun =>
      simp only [Bool.and_eq_true, decide_eq_true_eq] at hrun
      exact .inr ⟨run, List.mem_cons_self, hrun.1.1, hrun.1.2, rfl⟩
    · rcases ih with hself | ⟨run', hmem, hrest⟩
      · exact .inl hself
      · exact .inr ⟨run', List.mem_cons_of_mem run hmem, hrest⟩

theorem toNat_ofNat_eq_or (n : Nat) : (Char.ofNat n).toNat = n ∨ (Char.ofNat n).toNat = 0 := by
  rw [Char.toNat_ofNat]
  split
  · exact .inl rfl
  · exact .inr rfl

theorem toNat_of_isLower {c : Char} (h : c.isLower = true) : 97 ≤ c.toNat ∧ c.toNat < 128 := by
  simp only [Char.isLower, Bool.and_eq_true, decide_eq_true_eq, UInt32.le_iff_toNat_le, ge_iff_le] at h
  exact ⟨h.1, Nat.lt_of_le_of_lt h.2 (by decide)⟩

/-- **Beyond ASCII two characters have a letter of ASCII in lower case**: the dotted capital I and the
sign for kelvin. -/
theorem isBare_of_wide {c : Char} (hwide : ¬ c.toNat < 128) (hdotted : c.toNat ≠ 0x130)
    (hkelvin : c.toNat ≠ 0x212a) : IsBare c := by
  have hruns : CaseMap.lowerRuns.all (fun run =>
      128 ≤ run.2.2.2 || (run.1 = 0x212a && run.2.1 = 0x212a)) = true := by decide +kernel
  have himage : 128 ≤ mapCase CaseMap.lowerRuns c.toNat := by
    rcases mapCase_eq_or CaseMap.lowerRuns c.toNat with hself | ⟨run, hmem, hfirst, hlast, hmap⟩
    · omega
    · have hrun := List.all_eq_true.1 hruns run hmem
      simp only [Bool.or_eq_true, Bool.and_eq_true, decide_eq_true_eq] at hrun
      omega
  intro d hd
  rw [lowerChar, if_neg hwide, if_neg hdotted] at hd
  obtain rfl := List.mem_singleton.1 hd
  refine Bool.eq_false_iff.2 fun hlower => ?_
  have hbounds := toNat_of_isLower hlower
  rcases toNat_ofNat_eq_or (mapCase CaseMap.lowerRuns c.toNat) with hcode | hcode <;> omega

theorem isBare_of_ascii {c : Char} (hc : c.toNat < 128) (h : c.toLower.isLower = false) : IsBare c := by
  intro d hd
  rw [lowerChar, if_pos hc] at hd
  obtain rfl := List.mem_singleton.1 hd
  exact h

theorem isBare_of_isBlank {c : Char} (h : isBlank c = true) : IsBare c := by
  by_cases hc : c.toNat < 128
  · refine isBare_of_ascii hc ?_
    exact forall_ascii (p := fun c => isBlank c = true → c.toLower.isLower = false) (by decide) hc h
  · have hmem := toNat_mem_wideBlanks hc h
    refine isBare_of_wide hc ?_ ?_
    · rintro hcode
      exact absurd (hcode ▸ hmem) (by decide)
    · rintro hcode
      exact absurd (hcode ▸ hmem) (by decide)

theorem isBare_of_isDecimalDigit {c : Char} (h : isDecimalDigit c = true) : IsBare c := by
  by_cases hc : c.toNat < 128
  · refine isBare_of_ascii hc ?_
    exact forall_ascii (p := fun c => isDecimalDigit c = true → c.toLower.isLower = false)
      (by decide) hc h
  · rw [isDecimalDigit, if_neg hc] at h
    refine isBare_of_wide hc ?_ ?_
    · rintro hcode
      exact absurd (hcode ▸ h) (by decide +kernel)
    · rintro hcode
      exact absurd (hcode ▸ h) (by decide +kernel)

/-- **Upper case keeps the letters of ASCII that a character has in lower case.** -/
theorem isBare_or_lowerEach_upperChar (c : Char) :
    IsBare c ∨ lowerEach (upperChar c) = lowerChar c := by
  by_cases hc : c.toNat < 128
  · exact .inr (forall_ascii (p := fun c => lowerEach (upperChar c) = lowerChar c) (by decide) hc)
  · by_cases hself : c.toNat = 0x130 ∨ c.toNat = 0x212a
    · -- both characters are their own upper case
      rcases hself with hcode | hcode <;> rw [← Char.ofNat_toNat c, hcode]
      · exact .inr (by decide +kernel)
      · exact .inr (by decide +kernel)
    · exact .inl (isBare_of_wide hc (fun h => hself (.inl h)) fun h => hself (.inr h))

/-- The upper case of a character has no line feed. -/
theorem line_feed_not_mem_upperChar {c : Char} (hc : c ≠ '\n') : '\n' ∉ upperChar c := by
  have hruns : CaseMap.upperRuns.all (fun run => 11 ≤ run.2.2.2) = true := by decide +kernel
  have hcodes : CaseMap.upperExpansions.all (fun entry =>
      entry.2.all (Char.ofNat · != '\n')) = true := by decide +kernel
  rw [upperChar]
  split
  · next hascii =>
    exact forall_ascii (p := fun c => c ≠ '\n' → '\n' ∉ [c.toUpper]) (by decide) hascii hc
  · next hwide =>
    split
    · next codes hlookup =>
      intro hmem
      obtain ⟨code, hcode, hfeed⟩ := List.mem_map.1 hmem
      have hentry := List.all_eq_true.1 hcodes (c.toNat, codes) (mem_of_lookup_eq_some hlookup)
      exact absurd hfeed (by simpa using List.all_eq_true.1 hentry code hcode)
    · intro hmem
      have hfeed : (Char.ofNat (mapCase CaseMap.upperRuns c.toNat)).toNat = 10 :=
        (congrArg Char.toNat (List.mem_singleton.1 hmem)).symm
      have himage : 11 ≤ mapCase CaseMap.upperRuns c.toNat := by
        rcases mapCase_eq_or CaseMap.upperRuns c.toNat with hself | ⟨run, hmem, -, -, hmap⟩
        · omega
        · have hrun := List.all_eq_true.1 hruns run hmem
          simp only [decide_eq_true_eq] at hrun
          omega
      rcases toNat_ofNat_eq_or (mapCase CaseMap.upperRuns c.toNat) with hcode | hcode <;> omega

/-- **No upper case has a lower-case letter of ASCII.** -/
theorem isLower_of_mem_upperChar {c d : Char} (h : d ∈ upperChar c) : d.isLower = false := by
  have hruns : CaseMap.upperRuns.all (fun run =>
      128 ≤ run.2.2.2 || (run.1 = run.2.1 && run.2.2.2 < 97)) = true := by decide +kernel
  have hcodes : CaseMap.upperExpansions.all (fun entry =>
      entry.2.all fun code => !(Char.ofNat code).isLower) = true := by decide +kernel
  rw [upperChar] at h
  split at h
  · next hascii =>
    rw [List.mem_singleton.1 h]
    exact forall_ascii (p := fun c => c.toUpper.isLower = false) (by decide) hascii
  · next hwide =>
    split at h
    · next codes hlookup =>
      obtain ⟨code, hcode, rfl⟩ := List.mem_map.1 h
      have hentry := List.all_eq_true.1 hcodes (c.toNat, codes) (mem_of_lookup_eq_some hlookup)
      simpa using List.all_eq_true.1 hentry code hcode
    · rw [List.mem_singleton.1 h]
      refine Bool.eq_false_iff.2 fun hlower => ?_
      have hbounds := toNat_of_isLower hlower
      have hcode := toNat_ofNat_eq_or (mapCase CaseMap.upperRuns c.toNat)
      rcases mapCase_eq_or CaseMap.upperRuns c.toNat with hself | ⟨run, hmem, hfirst, hlast, hmap⟩
      · omega
      · have hrun := List.all_eq_true.1 hruns run hmem
        simp only [Bool.or_eq_true, Bool.and_eq_true, decide_eq_true_eq] at hrun
        omega

/-- **A phrase of lower-case letters has its letters in the lower case of what spells it.** -/
theorem Spells.keepsLetters {phrase found : List Char} (h : Spells phrase found)
    (hphrase : ∀ c ∈ phrase, c.isLower = true) : KeepsLetters (lowerEach found) phrase := by
  induction h with
  | nil => exact .nil
  | @cons letter c phrase found hform _ ih =>
    obtain ⟨hletter, hphrase⟩ := List.forall_mem_cons.1 hphrase
    rw [lowerEach, List.flatMap_cons]
    refine KeepsLetters.append (t := [letter]) ?_ (ih hphrase)
    have hlong : lowerChar (Char.ofNat 0x17f) = [Char.ofNat 0x17f] := by decide +kernel
    have hkelvin : lowerChar (Char.ofNat 0x212a) = ['k'] := by decide +kernel
    simp only [Shape.isFormOf, Bool.or_eq_true, Bool.and_eq_true, decide_eq_true_eq] at hform
    rcases hform with (rfl | ⟨rfl, hcode⟩) | ⟨rfl, hcode⟩
    · by_cases hc : c.toNat < 128
      · rw [lowerChar, if_pos hc]
        exact keepsLetters_refl _
      · rw [toLower_of_not_ascii hc] at hletter
        exact absurd (toNat_of_isLower hletter).2 hc
    · rw [← Char.ofNat_toNat c, hcode, hlong]
      exact .cons (fun hlower => absurd hlower (by decide)) .nil
    · rw [← Char.ofNat_toNat c, hcode, hkelvin]
      exact keepsLetters_refl _

end GasAdvisor.Text
