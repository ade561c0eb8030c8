import GasAdvisor.Contract.ByteMasking
import GasAdvisor.Proofs.Contract.Masked
import GasAdvisor.Proofs.Text.Utf8

/-!
# Masking on bytes and on characters

Masking a text on its bytes encodes the text masked on its characters (`maskBytes_encode`), so the masked
bytes are well formed and `maskThroughBytes` never falls back on the source
(`maskThroughBytes_eq_mask`). The bytes of a character outside of ASCII neither start nor end anything
(`maskBytesIn_high_append`), not even behind a backslash, which takes only the first of them along: the
others are blanked in the literal that goes on.
-/

namespace GasAdvisor

open Text

/-! ## Bytes outside of ASCII -/

theorem Region.Quoted.toNat_lt {quote : Char} (h : (Region.literal quote).Quoted) :
    quote.toNat < 0x80 := by
  rcases h with rfl | rfl <;> decide

/-- A byte outside of ASCII stays in code and is blanked elsewhere. -/
theorem maskBytesIn_high (region : Region) (hq : region.Quoted) {b : Nat} (hb : 0x80 ≤ b)
    (rest : List Nat) :
    maskBytesIn region (b :: rest) =
      (if region = .code then b else 0x20) :: maskBytesIn region rest := by
  have hfeed : feedOrSpace b = 0x20 := if_neg (by omega)
  cases region with
  | code =>
    have hquote : ¬ (b = 0x22 ∨ b = 0x27) := by omega
    rw [maskBytesIn, if_neg hquote, if_pos rfl] <;> omega
  | lineComment =>
    rw [maskBytesIn, if_neg (by omega), if_neg (by decide)]
  | blockComment =>
    rw [maskBytesIn, hfeed, if_neg (by decide)]
    omega
  | literal quote =>
    have hquote : b ≠ quote.toNat := by
      have := hq.toNat_lt
      omega
    rw [maskBytesIn, if_neg hquote, hfeed, if_neg (by simp)]
    omega

theorem maskBytesIn_high_append (region : Region) (hq : region.Quoted) {bytes : List Nat}
    (h : ∀ b ∈ bytes, 0x80 ≤ b) (rest : List Nat) :
    maskBytesIn region (bytes ++ rest) =
      (if region = .code then bytes else List.replicate bytes.length 0x20) ++
        maskBytesIn region rest := by
  induction bytes with
  | nil => split <;> rfl
  | cons b bytes ih =>
    have hrest := ih fun b' hb' => h b' (List.mem_cons_of_mem b hb')
    rw [List.cons_append, maskBytesIn_high region hq (h b List.mem_cons_self), hrest]
    split <;> rfl

/-! ## Texts -/

theorem encode_blanked_cons_visible (c : Char) (gs : List Glyph) :
    encode (blanked (⟨c, true⟩ :: gs)) = encodeChar c ++ encode (blanked gs) := by
  rw [blanked_cons_visible, encode_cons]

theorem encode_blanked_cons_hidden (c : Char) (gs : List Glyph) :
    encode (blanked (⟨c, false⟩ :: gs)) = List.replicate (width c) 0x20 ++ encode (blanked gs) := by
  rw [blanked_cons_hidden, encode_append, encode_replicate_space]

/-- What is hidden unless it is a line feed. -/
theorem encode_blanked_cons_feed {c : Char} (hc : c.toNat < 0x80) (gs : List Glyph) :
    encode (blanked (⟨c, c = '\n'⟩ :: gs)) = feedOrSpace c.toNat :: encode (blanked gs) := by
  by_cases hfeed : c = '\n'
  · subst hfeed
    rfl
  · have hbyte : c.toNat ≠ 0x0a := fun h => hfeed (Char.toNat_inj.1 h)
    have hwidth : width c = 1 := by rw [width, if_pos hc]
    rw [decide_eq_false hfeed, encode_blanked_cons_hidden, hwidth, feedOrSpace, if_neg hbyte]
    rfl

/-- Outside of ASCII a character stays in code and is blanked elsewhere. -/
theorem maskBytesIn_encode_high (region : Region) (hq : region.Quoted) {c : Char}
    (hc : ¬ c.toNat < 0x80) (rest : List Char) :
    maskBytesIn region (encode (c :: rest)) =
      (if region = .code then encodeChar c else List.replicate (width c) 0x20) ++
        maskBytesIn region (encode rest) := by
  rw [encode_cons, maskBytesIn_high_append region hq (high_of_mem_encodeChar (Nat.le_of_not_lt hc)),
    length_encodeChar]

/-- A byte that is hidden by a backslash is the first one of a character, and the literal that goes on
hides the others. -/
theorem maskBytesIn_escaped {quote : Char} (hq : (Region.literal quote).Quoted) (c : Char)
    (rest : List Char) :
    maskBytesIn (.literal quote) (0x5c :: encode (c :: rest)) =
      0x20 :: List.replicate (width c) 0x20 ++ maskBytesIn (.literal quote) (encode rest) := by
  obtain ⟨b, bs, hcs⟩ : ∃ b bs, encodeChar c = b :: bs :=
    List.exists_cons_of_length_pos (by rw [length_encodeChar]; exact width_pos c)
  have hhigh : ∀ b' ∈ bs, 0x80 ≤ b' := by
    intro b' hb'
    by_cases hc : c.toNat < 0x80
    · obtain rfl : bs = [] := (List.cons.inj ((encodeChar_of_lt hc).symm.trans hcs)).2.symm
      cases hb'
    · exact high_of_mem_encodeChar (Nat.le_of_not_lt hc) b' (by rw [hcs]; exact List.mem_cons_of_mem b hb')
  have hwidth : width c = bs.length + 1 := by rw [← length_encodeChar, hcs, List.length_cons]
  rw [encode_cons, hcs, List.cons_append, maskBytesIn, maskBytesIn_high_append _ hq hhigh,
    if_neg (by simp), hwidth]
  rfl

/-- Outside of ASCII no character is a line feed. -/
theorem encode_blanked_cons_feed_high {c : Char} (hc : ¬ c.toNat < 0x80) (gs : List Glyph) :
    encode (blanked (⟨c, c = '\n'⟩ :: gs)) = List.replicate (width c) 0x20 ++ encode (blanked gs) := by
  have hfeed : c ≠ '\n' := by
    rintro rfl
    exact hc (by decide)
  rw [decide_eq_false hfeed, encode_blanked_cons_hidden]

/-- Two ASCII characters at the front of a text are told from the bytes. -/
theorem exists_eq_cons_cons_of_bytes {c d e : Char} {rest : List Char} {bytes : List Nat}
    (he : e.toNat < 0x80) (hcd : c.toNat = d.toNat) (h : encode rest = e.toNat :: bytes) :
    c = d ∧ ∃ rest', rest = e :: rest' := by
  obtain ⟨e', rest', rfl, hbyte⟩ := exists_eq_cons_of_encode he h
  exact ⟨Char.toNat_inj.1 hcd, rest', by rw [Char.toNat_inj.1 hbyte]⟩

/-- **Masking the bytes of a text is encoding the masked text**, whatever the region it starts in. -/
theorem maskBytesIn_encode (region : Region) (source : List Char) (hq : region.Quoted) :
    maskBytesIn region (encode source) = encode (blanked (glyphsIn region source)) := by
  fun_induction glyphsIn region source with
  | case1 region => cases region <;> rfl
  | case2 rest ih | case3 rest ih | case7 rest ih =>
    rw [encode_blanked_cons_hidden, encode_blanked_cons_hidden, ← ih hq]
    rfl
  | case4 c rest hline hblock ih =>
    rw [encode_blanked_cons_visible]
    by_cases hc : c.toNat < 0x80
    · have hquote : (c.toNat = 0x22 ∨ c.toNat = 0x27) ↔ (c = '"' ∨ c = '\'') :=
        or_congr (Char.toNat_inj (d := '"')) (Char.toNat_inj (d := '\''))
      have hregion : Region.Quoted (if c = '"' ∨ c = '\'' then .literal c else .code) := by
        split
        · assumption
        · trivial
      rw [encode_cons_of_lt hc, encodeChar_of_lt hc, maskBytesIn, if_congr hquote rfl rfl,
        Char.ofNat_toNat, ih hregion]
      · rfl
      · intro bytes hslash hrest
        obtain ⟨rfl, rest', rfl⟩ := exists_eq_cons_cons_of_bytes (d := '/') (e := '/') (by decide)
          hslash hrest
        exact hline rest' rfl rfl
      · intro bytes hslash hrest
        obtain ⟨rfl, rest', rfl⟩ := exists_eq_cons_cons_of_bytes (d := '/') (e := '*') (by decide)
          hslash hrest
        exact hblock rest' rfl rfl
    · have hquote : ¬ (c = '"' ∨ c = '\'') := by
        rintro (rfl | rfl) <;> exact hc (by decide)
      rw [if_neg hquote] at ih ⊢
      rw [maskBytesIn_encode_high .code trivial hc, if_pos rfl, ih trivial]
  | case5 rest ih =>
    rw [encode_blanked_cons_visible, ← ih hq]
    rfl
  | case6 c rest hfeed ih =>
    rw [encode_blanked_cons_hidden, ← ih hq]
    by_cases hc : c.toNat < 0x80
    · have hbyte : c.toNat ≠ 0x0a := fun h => hfeed (Char.toNat_inj.1 h)
      have hwidth : width c = 1 := by rw [width, if_pos hc]
      rw [encode_cons_of_lt hc, maskBytesIn, if_neg hbyte, hwidth]
      rfl
    · rw [maskBytesIn_encode_high _ hq hc, if_neg (by decide)]
  | case8 c rest hend ih =>
    by_cases hc : c.toNat < 0x80
    · rw [encode_blanked_cons_feed hc, encode_cons_of_lt hc, maskBytesIn, ih hq]
      intro bytes hstar hrest
      obtain ⟨rfl, rest', rfl⟩ := exists_eq_cons_cons_of_bytes (d := '*') (e := '/') (by decide)
        hstar hrest
      exact hend rest' rfl rfl
    · rw [encode_blanked_cons_feed_high hc, maskBytesIn_encode_high _ hq hc, if_neg (by decide), ih hq]
  | case9 quote c rest ih =>
    rw [encode_blanked_cons_hidden, encode_blanked_cons_hidden, ← ih hq]
    exact maskBytesIn_escaped hq c rest
  | case10 quote rest hescape ih =>
    have hc : quote.toNat < 0x80 := hq.toNat_lt
    have hbackslash : quote.toNat ≠ 0x5c := by rcases hq with rfl | rfl <;> decide
    rw [encode_blanked_cons_visible, ← ih trivial, encode_cons_of_lt hc, encodeChar_of_lt hc,
      maskBytesIn, if_pos rfl]
    · rfl
    · exact fun _ _ h => absurd h hbackslash
  | case11 quote c rest hescape hne ih =>
    by_cases hc : c.toNat < 0x80
    · have hbyte : c.toNat ≠ quote.toNat := fun h => hne (Char.toNat_inj.1 h)
      rw [encode_blanked_cons_feed hc, encode_cons_of_lt hc, maskBytesIn, if_neg hbyte, ih hq]
      intro b bytes hbackslash hrest
      obtain rfl : c = '\\' := Char.toNat_inj.1 hbackslash
      cases rest with
      | nil => cases hrest
      | cons d rest' => exact hescape d rest' rfl rfl
    · rw [encode_blanked_cons_feed_high hc, maskBytesIn_encode_high _ hq hc, if_neg (by simp), ih hq]

/-- **Masking the bytes of a text is encoding the masked text.** -/
theorem maskBytes_encode (source : List Char) : maskBytes (encode source) = encode (mask source) :=
  maskBytesIn_encode .code source trivial

/-- **The masked bytes of a text always encode a text**, and that is the masked one. -/
theorem decode?_maskBytes (source : List Char) :
    decode? (maskBytes (encode source)) = some (mask source) := by
  rw [maskBytes_encode, decode?_encode]

theorem maskThroughBytes_eq_mask (source : List Char) : maskThroughBytes source = mask source := by
  rw [maskThroughBytes, decode?_maskBytes, Option.getD_some]

/-! ## Masking again -/

/-- **What is masked stays as it is when it is masked again**, on characters and on bytes, whether the
result is written byte for byte or character by character. So the code that a contract is read off is the
scanned text itself when comments and literals are masked. -/
theorem masking_idempotent (source : List Char) :
    mask (mask source) = mask source ∧
    maskThroughBytes (maskThroughBytes source) = maskThroughBytes source ∧
    maskBytes (maskBytes (encode source)) = maskBytes (encode source) ∧
    mask (Scanning.scan .masking source) = Scanning.scan .masking source ∧
    codeChars (Scanning.scan .masking source) = Scanning.scan .masking source := by
  refine ⟨mask_mask source, ?_, ?_, mask_mask source, codeChars_mask source⟩
  · rw [maskThroughBytes_eq_mask, maskThroughBytes_eq_mask, mask_mask]
  · rw [maskBytes_encode, maskBytes_encode, mask_mask]

end GasAdvisor
