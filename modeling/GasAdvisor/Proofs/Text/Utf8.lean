import GasAdvisor.Text.Utf8

/-!
# Encoded text

The bytes of a text decode to the text (`decode?_encode`). A character is decoded from its lead byte,
which announces how many bytes follow and bounds the first of them (`leadByte_two` and what follows), and
from the six bits that each of these brings; that no character is a surrogate keeps the second byte of
three within its bounds. A byte of an ASCII character stands for that character only
(`exists_eq_cons_of_encode`), as all bytes of others lie above (`high_of_mem_encodeChar`).
-/

namespace GasAdvisor.Text

/-! ## Lead bytes -/

theorem leadByte_one {b : Nat} (h : b < 0x80) : leadByte b = some (0, b, 0x80, 0xbf) := by
  rw [leadByte, if_pos h]

/-- Two bytes do not write what one could. -/
theorem leadByte_two : ∀ k < 30, leadByte (0xc2 + k) = some (1, 2 + k, 0x80, 0xbf) := by
  decide

/-- Three bytes do not write what two could, and no surrogate. -/
theorem leadByte_three : ∀ k < 16, leadByte (0xe0 + k) =
    some (2, k, if k = 0 then 0xa0 else 0x80, if k = 0xd then 0x9f else 0xbf) := by
  decide

/-- Four bytes do not write what three could, and nothing beyond the last character. -/
theorem leadByte_four : ∀ k < 5, leadByte (0xf0 + k) =
    some (3, k, if k = 0 then 0x90 else 0x80, if k = 4 then 0x8f else 0xbf) := by
  decide

/-! ## Bytes after the lead byte -/

theorem decodeFrom_lead {b missing bits low high : Nat}
    (h : leadByte b = some (missing + 1, bits, low, high)) (rest : List Nat) :
    decodeFrom none (b :: rest) = decodeFrom (some ⟨missing + 1, bits, low, high⟩) rest := by
  rw [decodeFrom, h]
  simp

theorem decodeFrom_last {bits low high b : Nat} (hlow : low ≤ b) (hhigh : b ≤ high)
    (rest : List Nat) :
    decodeFrom (some ⟨1, bits, low, high⟩) (b :: rest) =
      some (Char.ofNat (bits * 0x40 + (b - 0x80))) :: decodeFrom none rest := by
  rw [decodeFrom]
  simp [hlow, hhigh]

theorem decodeFrom_next {missing bits low high b : Nat} (hlow : low ≤ b) (hhigh : b ≤ high)
    (rest : List Nat) :
    decodeFrom (some ⟨missing + 2, bits, low, high⟩) (b :: rest) =
      decodeFrom (some ⟨missing + 1, bits * 0x40 + (b - 0x80), 0x80, 0xbf⟩) rest := by
  rw [decodeFrom]
  simp [hlow, hhigh]

/-! ## Characters and texts -/

/-- **The bytes of a character decode to the character**, whatever follows them. -/
theorem decodeFrom_encodeChar_append (c : Char) (rest : List Nat) :
    decodeFrom none (encodeChar c ++ rest) = some c :: decodeFrom none rest := by
  have hvalid : c.toNat < 0xd800 ∨ (0xdfff < c.toNat ∧ c.toNat < 0x110000) := c.valid
  have hc (n : Nat) (hn : n = c.toNat) : some (Char.ofNat n) = some c := by
    rw [hn, Char.ofNat_toNat]
  rw [encodeChar]
  split
  · next h1 =>
    rw [List.singleton_append, decodeFrom, leadByte_one h1]
    exact congrArg (· :: _) (hc _ rfl)
  split
  · next h1 h2 =>
    have hlead := leadByte_two (c.toNat / 0x40 - 2) (by omega)
    rw [show 0xc2 + (c.toNat / 0x40 - 2) = 0xc0 + c.toNat / 0x40 by omega,
      show 2 + (c.toNat / 0x40 - 2) = c.toNat / 0x40 by omega] at hlead
    show decodeFrom none ((0xc0 + c.toNat / 0x40) :: (0x80 + c.toNat % 0x40) :: rest) = _
    rw [decodeFrom_lead hlead, decodeFrom_last (by omega) (by omega)]
    exact congrArg (· :: _) (hc _ (by omega))
  split
  · next h1 h2 h3 =>
    have hlead := leadByte_three (c.toNat / 0x1000) (by omega)
    show decodeFrom none ((0xe0 + c.toNat / 0x1000) :: (0x80 + c.toNat / 0x40 % 0x40) ::
      (0x80 + c.toNat % 0x40) :: rest) = _
    rw [decodeFrom_lead hlead, decodeFrom_next (by split <;> omega) (by split <;> omega),
      decodeFrom_last (by omega) (by omega)]
    exact congrArg (· :: _) (hc _ (by omega))
  · next h1 h2 h3 =>
    have hlead := leadByte_four (c.toNat / 0x40000) (by omega)
    show decodeFrom none ((0xf0 + c.toNat / 0x40000) :: (0x80 + c.toNat / 0x1000 % 0x40) ::
      (0x80 + c.toNat / 0x40 % 0x40) :: (0x80 + c.toNat % 0x40) :: rest) = _
    rw [decodeFrom_lead hlead, decodeFrom_next (by split <;> omega) (by split <;> omega),
      decodeFrom_next (by omega) (by omega), decodeFrom_last (by omega) (by omega)]
    exact congrArg (· :: _) (hc _ (by omega))

theorem decodeFrom_encode (text : List Char) : decodeFrom none (encode text) = text.map some := by
  induction text with
  | nil => rfl
  | cons c text ih =>
    have hcons : encode (c :: text) = encodeChar c ++ encode text := rfl
    rw [hcons, decodeFrom_encodeChar_append, ih, List.map_cons]

/-- **The bytes of a text decode to the text.** -/
theorem decode?_encode (text : List Char) : decode? (encode text) = some text := by
  rw [decode?, decodeFrom_encode]
  induction text with
  | nil => rfl
  | cons c text ih => rw [List.map_cons, List.mapM_cons, ih]; rfl

/-! ## Sizes in bytes -/

theorem width_pos (c : Char) : 0 < width c := by
  unfold width
  repeat' split
  all_goals omega

theorem byteSize_append (s t : List Char) : byteSize (s ++ t) = byteSize s + byteSize t := by
  induction s with
  | nil => simp [byteSize]
  | cons c s ih => rw [List.cons_append, byteSize, byteSize, ih, Nat.add_assoc]

/-- No text has more characters than bytes. -/
theorem length_le_byteSize (text : List Char) : text.length ≤ byteSize text := by
  induction text with
  | nil => exact Nat.le_refl 0
  | cons c text ih =>
    have hwidth := width_pos c
    rw [List.length_cons, byteSize]
    omega

/-- A part of a text has no more bytes than the text. -/
theorem byteSize_le_byteSize {part text : List Char} (h : part <:+: text) :
    byteSize part ≤ byteSize text := by
  obtain ⟨before, after, rfl⟩ := h
  rw [byteSize_append, byteSize_append]
  omega

theorem byteSize_replicate (n : Nat) (c : Char) : byteSize (List.replicate n c) = n * width c := by
  induction n with
  | zero => simp [byteSize]
  | succ n ih => rw [List.replicate_succ, byteSize, ih, Nat.succ_mul, Nat.add_comm]

/-! ## The bytes of characters -/

theorem encodeChar_of_lt {c : Char} (h : c.toNat < 0x80) : encodeChar c = [c.toNat] := by
  rw [encodeChar, if_pos h]

theorem high_of_mem_encodeChar {c : Char} (h : 0x80 ≤ c.toNat) : ∀ b ∈ encodeChar c, 0x80 ≤ b := by
  have hlow : ¬ c.toNat < 0x80 := by omega
  rw [encodeChar, if_neg hlow]
  repeat' split
  all_goals
    simp only [List.mem_cons, List.not_mem_nil, or_false]
    omega

theorem length_encodeChar (c : Char) : (encodeChar c).length = width c := by
  rw [encodeChar, width]
  repeat' split
  all_goals rfl

theorem encode_cons (c : Char) (text : List Char) :
    encode (c :: text) = encodeChar c ++ encode text := rfl

theorem encode_cons_of_lt {c : Char} (h : c.toNat < 0x80) (text : List Char) :
    encode (c :: text) = c.toNat :: encode text := by
  rw [encode_cons, encodeChar_of_lt h, List.singleton_append]

theorem encode_append (a b : List Char) : encode (a ++ b) = encode a ++ encode b :=
  List.flatMap_append

theorem encode_replicate_space (n : Nat) : encode (List.replicate n ' ') = List.replicate n 0x20 := by
  induction n with
  | zero => rfl
  | succ n ih =>
    rw [List.replicate_succ, List.replicate_succ, encode_cons_of_lt (by decide), ih]
    rfl

theorem length_encode (text : List Char) : (encode text).length = byteSize text := by
  induction text with
  | nil => rfl
  | cons c text ih => rw [encode_cons, List.length_append, length_encodeChar, ih, byteSize]

/-- A byte of an ASCII character at the front of encoded text is that character. -/
theorem exists_eq_cons_of_encode {text : List Char} {b : Nat} {bytes : List Nat} (hb : b < 0x80)
    (h : encode text = b :: bytes) : ∃ c text', text = c :: text' ∧ c.toNat = b := by
  cases text with
  | nil => cases h
  | cons c text =>
    refine ⟨c, text, rfl, ?_⟩
    by_cases hc : c.toNat < 0x80
    · rw [encode_cons_of_lt hc] at h
      exact (List.cons.inj h).1
    · -- another character starts with a higher byte
      obtain ⟨b', bs, hcs⟩ : ∃ b' bs, encodeChar c = b' :: bs :=
        List.exists_cons_of_length_pos (by rw [length_encodeChar]; exact width_pos c)
      rw [encode_cons, hcs] at h
      obtain rfl : b' = b := (List.cons.inj h).1
      have := high_of_mem_encodeChar (Nat.le_of_not_lt hc) b' (by rw [hcs]; exact List.mem_cons_self)
      omega

end GasAdvisor.Text
