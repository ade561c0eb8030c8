import GasAdvisor.Json.Number
import GasAdvisor.Json.Writer
import GasAdvisor.Proofs.Text.Spans

/-!
# Numbers read back

A number that is read from a whole text is read from the front of a longer one, whatever follows it, if
what follows does not go on with the number (`readNumber_append`). So it is enough to tell what the text
of a number is read as.

* The text of an integer of 64 bits is read as that integer (`readNumber_writeInteger`).
* Whether the text of a double is read as that double is a matter of rounding. `ReadsBack` says so of
  one double.
-/

namespace GasAdvisor.Json

open Text

variable {negative isInteger : Bool} {s rest more : List Char} {value : Json} {significand : Nat}
  {start dropped : Int}

/-- The characters that a number may go on with after its first digit. -/
def continuesNumber (c : Char) : Bool :=
  c.isDigit || c = '.' || c = 'e' || c = 'E'

/-! ## Numbers in front of a text -/

theorem stops_isDigit (h : Stops continuesNumber more) : Stops Char.isDigit more := by
  intro c hc
  have hstop := h c hc
  simp only [continuesNumber, Bool.or_eq_false_iff] at hstop
  exact hstop.1.1.1

theorem takeDigits_append (h : Stops Char.isDigit more) :
    takeDigits (s ++ more) = ((takeDigits s).1, (takeDigits s).2 ++ more) := by
  induction s with
  | nil =>
    have htake := takeWhile_append_of_stop (a := []) (by simp) h
    have hdrop := dropWhile_append_of_stop (a := []) (by simp) h
    simp only [List.nil_append] at htake hdrop
    simp [takeDigits, htake, hdrop]
  | cons c s ih =>
    simp only [takeDigits, Prod.mk.injEq] at ih
    by_cases hc : c.isDigit = true
    · simp [takeDigits, hc, ih.1, ih.2]
    · simp [takeDigits, hc]

theorem takeSign_append (hne : s ≠ []) :
    takeSign (s ++ more) = ((takeSign s).1, (takeSign s).2 ++ more) := by
  cases s with
  | nil => exact absurd rfl hne
  | cons c s =>
    rw [List.cons_append]
    unfold takeSign
    split <;> simp_all

theorem takeExponent_append {expNegative : Bool} {ds : List Char} (h : Stops Char.isDigit more)
    (hs : takeExponent s = some (expNegative, ds, rest)) :
    takeExponent (s ++ more) = some (expNegative, ds, rest ++ more) := by
  have hne : s ≠ [] := by
    rintro rfl
    simp [takeExponent, takeSign, takeDigits] at hs
  unfold takeExponent at hs ⊢
  rw [takeSign_append hne]
  dsimp only at hs ⊢
  rw [takeDigits_append h]
  split_ifs at hs ⊢ with hempty
  cases hs
  rfl

/-- A number that ends is the same number whatever the text after it. -/
theorem close_eq_map (negative : Bool) (significand : Nat) (start : Int) (rest : List Char)
    (isInteger : Bool) :
    readUnsigned.close negative significand start rest isInteger =
      (readUnsigned.close negative significand start [] isInteger).map fun found =>
        (found.1, rest) := by
  simp only [readUnsigned.close]
  split_ifs <;> simp [Function.comp_def]

theorem close_append
    (h : readUnsigned.close negative significand start s isInteger = some (value, rest)) :
    readUnsigned.close negative significand start (s ++ more) isInteger =
      some (value, rest ++ more) := by
  rw [close_eq_map] at h ⊢
  obtain ⟨found, hfound, heq⟩ := Option.map_eq_some_iff.1 h
  cases heq
  rw [hfound, Option.map_some]

theorem finish_of_stops (h : Stops continuesNumber more) :
    readUnsigned.finish negative significand start more isInteger =
      readUnsigned.close negative significand start more isInteger := by
  cases more with
  | nil => rfl
  | cons c more =>
    have hstop := stops_cons.1 h
    simp only [continuesNumber, Bool.or_eq_false_iff, decide_eq_false_iff_not] at hstop
    rw [readUnsigned.finish, if_neg (by simp [hstop])]

theorem finish_append (h : Stops continuesNumber more)
    (hs : readUnsigned.finish negative significand start s isInteger = some (value, rest)) :
    readUnsigned.finish negative significand start (s ++ more) isInteger =
      some (value, rest ++ more) := by
  cases s with
  | nil =>
    rw [List.nil_append, finish_of_stops h]
    exact close_append hs
  | cons c s =>
    rw [readUnsigned.finish] at hs
    rw [List.cons_append, readUnsigned.finish]
    split_ifs at hs ⊢ with hc
    · obtain ⟨⟨expNegative, ds, after⟩, htake, hs⟩ := Option.bind_eq_some_iff.1 hs
      obtain ⟨number, hnumber, heq⟩ := Option.bind_eq_some_iff.1 hs
      cases heq
      rw [takeExponent_append (stops_isDigit h) htake]
      simp [hnumber]
    · rw [← List.cons_append]
      exact close_append hs

theorem afterWhole_append (h : Stops continuesNumber more)
    (hs : readUnsigned.afterWhole negative significand dropped s = some (value, rest)) :
    readUnsigned.afterWhole negative significand dropped (s ++ more) =
      some (value, rest ++ more) := by
  by_cases hpoint : ∃ after, s = '.' :: after
  · obtain ⟨after, rfl⟩ := hpoint
    rw [List.cons_append]
    simp only [readUnsigned.afterWhole, takeDigits_append (stops_isDigit h)] at hs ⊢
    split_ifs at hs ⊢ with hempty
    exact finish_append h hs
  · have hplain {s : List Char} (hs : ¬∃ after, s = '.' :: after) :
        readUnsigned.afterWhole negative significand dropped s =
          readUnsigned.finish negative significand dropped s (dropped = 0) := by
      unfold readUnsigned.afterWhole
      split
      · next after => exact absurd ⟨after, rfl⟩ hs
      · rfl
    have hmore : ¬∃ after, s ++ more = '.' :: after := by
      rintro ⟨after, heq⟩
      cases s with
      | nil =>
        rw [List.nil_append] at heq
        exact absurd (stops_cons.1 (heq ▸ h)) (by decide)
      | cons c s => exact hpoint ⟨s, by rw [(List.cons.inj heq).1]⟩
    rw [hplain hpoint] at hs
    rw [hplain hmore]
    exact finish_append h hs

theorem readUnsigned_append (h : Stops continuesNumber more)
    (hs : readUnsigned negative s = some (value, rest)) :
    readUnsigned negative (s ++ more) = some (value, rest ++ more) := by
  unfold readUnsigned at hs ⊢
  rw [takeDigits_append (stops_isDigit h)]
  dsimp only at hs ⊢
  split at hs
  · cases hs
  · cases hs
  · exact afterWhole_append h hs

theorem readNumber_cons_of_ne {c : Char} (hc : c ≠ '-') :
    readNumber (c :: s) = readUnsigned false (c :: s) := by
  unfold readNumber
  split
  · next heq => exact absurd (List.cons.inj heq).1 hc
  · rfl

/-- **A number is read in front of any text that does not go on with it.** -/
theorem readNumber_append (h : Stops continuesNumber more)
    (hs : readNumber s = some (value, rest)) :
    readNumber (s ++ more) = some (value, rest ++ more) := by
  cases s with
  | nil => cases hs
  | cons c s =>
    by_cases hc : c = '-'
    · subst hc
      exact readUnsigned_append h hs
    · rw [readNumber_cons_of_ne hc] at hs
      rw [List.cons_append, readNumber_cons_of_ne hc, ← List.cons_append]
      exact readUnsigned_append h hs

/-! ## Integers -/

/-- The numbers of 64 bits, with a sign or without. -/
def IsInteger64 (n : Int) : Prop := -2 ^ 63 ≤ n ∧ n < 2 ^ 64

theorem le_ofDigitChars (ds : List Char) (init : Nat) : init ≤ Nat.ofDigitChars 10 ds init := by
  induction ds generalizing init with
  | nil => simp
  | cons d ds ih =>
    rw [Nat.ofDigitChars_cons]
    have hnext := ih (10 * init + (d.toNat - '0'.toNat))
    omega

/-- Digits of a number in 64 bits are all appended. -/
theorem absorb_eq {ds : List Char} (h : Nat.ofDigitChars 10 ds significand ≤ maxSignificand) :
    absorb significand ds = (Nat.ofDigitChars 10 ds significand, ds.length) := by
  induction ds generalizing significand with
  | nil => simp [absorb]
  | cons d ds ih =>
    have hnext : significand * 10 + digitValue d = 10 * significand + (d.toNat - '0'.toNat) := by
      rw [digitValue, Nat.mul_comm]
    rw [Nat.ofDigitChars_cons, ← hnext] at h ⊢
    have hfits := (le_ofDigitChars ds (significand * 10 + digitValue d)).trans h
    simp [absorb, hfits, ih h]

/-- Only zero is written with a zero before its other digits, of which there are none. -/
theorem head?_digits_ne_zero {n : Nat} (h : 0 < n) : (Decimal.digits n).head? ≠ some '0' := by
  rw [Decimal.digits]
  induction n using Nat.strongRecOn with
  | ind n ih =>
    by_cases hsmall : n < 10
    · rw [Nat.toDigits_of_lt_base hsmall]
      simp
      omega
    · rw [Nat.toDigits_of_base_le (by decide) (by omega)]
      rw [List.head?_append_of_ne_nil _ Nat.toDigits_ne_nil]
      exact ih (n / 10) (by omega) (by omega)

theorem isDigit_of_mem_digits {n : Nat} {c : Char} (h : c ∈ Decimal.digits n) :
    c.isDigit = true :=
  Nat.isDigit_of_mem_toDigits (by decide) (by decide) h

/-- A text that starts with the digits of a number is read from after them on. -/
theorem readUnsigned_digits {n : Nat} (h : n ≤ maxSignificand) (hmore : Stops continuesNumber more) :
    readUnsigned negative (Decimal.digits n ++ more) =
      readUnsigned.close negative n 0 more true := by
  have htake : takeDigits (Decimal.digits n ++ more) = (Decimal.digits n, more) := by
    rw [takeDigits, takeWhile_append_of_stop (fun _ => isDigit_of_mem_digits) (stops_isDigit hmore),
      dropWhile_append_of_stop (fun _ => isDigit_of_mem_digits) (stops_isDigit hmore)]
  have hvalue : Nat.ofDigitChars 10 (Decimal.digits n) 0 = n := Nat.ofDigitChars_ten_toDigits
  have habsorb : absorb 0 (Decimal.digits n) = (n, (Decimal.digits n).length) := by
    rw [absorb_eq (by rw [hvalue]; exact h), hvalue]
  have hplain : readUnsigned.afterWhole negative n 0 more =
      readUnsigned.close negative n 0 more true := by
    unfold readUnsigned.afterWhole
    split
    · exact absurd (stops_cons.1 hmore) (by decide)
    · exact finish_of_stops hmore
  unfold readUnsigned
  rw [htake]
  dsimp only
  split
  · next hnil => exact absurd hnil Nat.toDigits_ne_nil
  · next second ds hzero =>
    have hpos : 0 < n := by
      by_contra hn
      have hnil : n = 0 := by omega
      rw [hnil] at hzero
      simp [Decimal.digits] at hzero
    exact absurd (by rw [hzero]; rfl) (head?_digits_ne_zero hpos)
  · rw [habsorb]
    simpa using hplain

/-- **The text of an integer of 64 bits is read as that integer.** -/
theorem readNumber_writeInteger {n : Int} (h : IsInteger64 n)
    (hmore : Stops continuesNumber more) :
    readNumber (writeInteger n ++ more) = some (.integer n, more) := by
  obtain ⟨hlow, hhigh⟩ := h
  cases n with
  | ofNat n =>
    obtain ⟨d, ds, hds⟩ := List.exists_cons_of_ne_nil (Nat.toDigits_ne_nil (n := n) (b := 10))
    have hd : d ≠ '-' := by
      rintro rfl
      have hminus : '-' ∈ Decimal.digits n := by simp [Decimal.digits, hds]
      exact absurd (isDigit_of_mem_digits hminus) (by decide)
    have hfits : n ≤ maxSignificand := by
      have : maxSignificand = 2 ^ 64 - 1 := by decide
      simp only [Int.ofNat_eq_natCast] at hhigh
      omega
    rw [writeInteger, Decimal.digits, hds, List.cons_append, readNumber_cons_of_ne hd,
      ← List.cons_append, ← hds]
    exact readUnsigned_digits hfits hmore
  | negSucc n =>
    have hfits : n + 1 ≤ 1 <<< 63 := by
      have : (1 <<< 63 : Nat) = 2 ^ 63 := by decide
      omega
    have hmax : (1 <<< 63 : Nat) ≤ maxSignificand := by decide
    rw [writeInteger, List.cons_append]
    change readUnsigned true (Decimal.digits (n + 1) ++ more) = _
    rw [readUnsigned_digits (hfits.trans hmax) hmore]
    rw [readUnsigned.close, if_pos rfl, if_neg (by simp), if_pos ⟨by omega, hfits⟩, Int.negSucc_eq,
      Int.natCast_add, Int.natCast_one]

/-! ## Doubles -/

/-- A double is what its text is read as. -/
def ReadsBack (x : Float) : Prop := readNumber (writeDouble x) = some (.double x, [])

/-- Whether a value is a certain double. -/
def isDouble (x : Float) : Json → Bool
  | .double y => y = x
  | _ => false

theorem isDouble_iff {x : Float} : value.isDouble x = true ↔ value = .double x := by
  cases value <;> simp [isDouble]

theorem readsBack_iff {x : Float} :
    (readNumber (writeDouble x)).any (fun found => found.1.isDouble x && found.2.isEmpty) = true ↔
      ReadsBack x := by
  rw [ReadsBack]
  cases readNumber (writeDouble x) with
  | none => simp
  | some found => simp [isDouble_iff, Prod.ext_iff]

instance (x : Float) : Decidable (ReadsBack x) :=
  decidable_of_iff _ readsBack_iff

theorem ReadsBack.readNumber_append {x : Float} (h : ReadsBack x)
    (hmore : Stops continuesNumber more) :
    readNumber (writeDouble x ++ more) = some (.double x, more) :=
  Json.readNumber_append hmore h

end GasAdvisor.Json
