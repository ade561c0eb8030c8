import GasAdvisor.Contract.ByteBraces
import GasAdvisor.Proofs.Contract.Places

/-!
# Matching braces by bytes

The walk over bytes keeps the number of open braces positive until it ends (`closingAt?_cases`): it
stops at the first offset at which that number comes down to zero, or runs to the end of the bytes with
braces open throughout. So it always has an answer, and the answer is the brace that the counts of
stretches single out (`matchingAt?_eq_some_iff`).

In encoded text the walk passes over the characters of several bytes, none of which is a brace, and
finds what `matchingBrace?` finds on characters (`matchingAt?_encode`). All that is known of matching
braces is put together in `matchingBrace?_exact`; that two pairs of braces never cross follows from the
counts alone (`MatchedBraces.apart_or_within`).
-/

namespace GasAdvisor

open Text

/-! ## What the walk finds -/

/-- The bytes, added to `depth` open braces, leave some open. -/
def LeavesOpen (depth : Nat) (bytes : List Nat) : Prop :=
  bytes.count 0x7d < depth + bytes.count 0x7b

/-- The byte at the index `index` closes the last of `depth` open braces, and no byte before does. -/
structure ClosesAt (depth index : Nat) (bytes : List Nat) : Prop where
  bounded : index < bytes.length
  closed : (bytes.take (index + 1)).count 0x7d = depth + (bytes.take (index + 1)).count 0x7b
  before : ∀ n ≤ index, LeavesOpen depth (bytes.take n)

variable {depth depth' byte : Nat} {rest bytes : List Nat}

/-- A byte moves as many braces from the count of the bytes to the depth as it opens. -/
theorem count_cons_of_depthAfter? (h : depthAfter? depth byte = some depth') (rest : List Nat) :
    depth + (byte :: rest).count 0x7b + rest.count 0x7d =
      depth' + rest.count 0x7b + (byte :: rest).count 0x7d := by
  rw [depthAfter?] at h
  by_cases hopen : byte = 0x7b
  · subst hopen
    obtain rfl : depth + 1 = depth' := by simpa using h
    simp only [List.count_cons, beq_iff_eq, Nat.reduceEqDiff, if_true, if_false]
    omega
  · rw [if_neg hopen] at h
    by_cases hclose : byte = 0x7d
    · subst hclose
      rw [if_pos rfl] at h
      split at h
      · cases h
      · obtain rfl : depth - 1 = depth' := by simpa using h
        simp only [List.count_cons, beq_iff_eq, Nat.reduceEqDiff, if_true, if_false]
        omega
    · rw [if_neg hclose] at h
      obtain rfl : depth = depth' := by simpa using h
      simp only [List.count_cons, beq_iff_eq, hopen, hclose, if_false]
      omega

/-- One step of the walk. -/
theorem closingAt?_cons (h : depthAfter? depth byte = some depth') (offset : Nat) (rest : List Nat) :
    closingAt? depth offset (byte :: rest) =
      if byte = 0x7d ∧ depth' = 0 then some (some offset) else closingAt? depth' (offset + 1) rest := by
  rw [closingAt?, h]

theorem leavesOpen_cons (h : depthAfter? depth byte = some depth') :
    LeavesOpen depth (byte :: rest) ↔ LeavesOpen depth' rest := by
  have := count_cons_of_depthAfter? h rest
  rw [LeavesOpen, LeavesOpen]
  omega

/-- Where braces are open, a byte is always counted. -/
theorem exists_depthAfter? (hd : 0 < depth) (byte : Nat) :
    ∃ depth', depthAfter? depth byte = some depth' := by
  unfold depthAfter?
  split
  · exact ⟨_, rfl⟩
  · rw [if_neg (by omega : ¬ depth = 0)]
    split <;> exact ⟨_, rfl⟩

/-- Only a closing brace leaves none open where some were. -/
theorem pos_of_depthAfter? (hd : 0 < depth) (h : depthAfter? depth byte = some depth')
    (hstop : ¬ (byte = 0x7d ∧ depth' = 0)) : 0 < depth' := by
  rw [depthAfter?] at h
  split at h
  · obtain rfl := Option.some.inj h
    omega
  · split at h
    · next hclose =>
      exact Nat.pos_of_ne_zero fun hzero => hstop ⟨hclose, hzero⟩
    · obtain rfl := Option.some.inj h
      exact hd

/-- **The walk ends at the first byte that leaves no brace open, or after all bytes with braces open
throughout**; so it never loses count. -/
theorem closingAt?_cases (hd : 0 < depth) (offset : Nat) (bytes : List Nat) :
    (closingAt? depth offset bytes = some none ∧ ∀ n, LeavesOpen depth (bytes.take n)) ∨
      ∃ index, closingAt? depth offset bytes = some (some (offset + index)) ∧
        ClosesAt depth index bytes := by
  induction bytes generalizing depth offset with
  | nil =>
    refine .inl ⟨rfl, fun n => ?_⟩
    rw [List.take_nil, LeavesOpen, List.count_nil, List.count_nil]
    exact hd
  | cons byte rest ih =>
    obtain ⟨depth', hdepth⟩ := exists_depthAfter? hd byte
    have hzero : LeavesOpen depth [] := hd
    rw [closingAt?_cons hdepth]
    by_cases hstop : byte = 0x7d ∧ depth' = 0
    · refine .inr ⟨0, if_pos hstop, Nat.succ_pos _, ?_, fun n hn => ?_⟩
      · have := count_cons_of_depthAfter? hdepth []
        rw [hstop.2] at this
        simp only [List.count_nil] at this
        show ([byte] : List Nat).count 0x7d = depth + [byte].count 0x7b
        omega
      · rw [Nat.le_zero.1 hn]
        exact hzero
    · -- the walk goes on with braces open
      have hopen (n : Nat) (h : ∀ m < n, LeavesOpen depth' (rest.take m)) :
          LeavesOpen depth ((byte :: rest).take n) := by
        cases n with
        | zero => exact hzero
        | succ n => exact (leavesOpen_cons hdepth).2 (h n (Nat.lt_succ_self n))
      rw [if_neg hstop]
      rcases ih (pos_of_depthAfter? hd hdepth hstop) (offset + 1) with
        ⟨hnone, hall⟩ | ⟨index, hsome, hcloses⟩
      · exact .inl ⟨hnone, fun n => hopen n fun m _ => hall m⟩
      · refine .inr ⟨index + 1, ?_, Nat.succ_lt_succ hcloses.bounded, ?_, fun n hn => ?_⟩
        · rw [hsome, Nat.add_assoc, Nat.add_comm 1 index]
        · have := count_cons_of_depthAfter? hdepth (rest.take (index + 1))
          have := hcloses.closed
          rw [List.take_succ_cons]
          omega
        · exact hopen n fun m hm => hcloses.before m (by omega)

/-! ## Stretches -/

theorem count_bytesThrough {first last : Nat} (h : first ≤ last + 1) (bytes : List Nat) (b : Nat) :
    (bytes.take first).count b + (bytesThrough bytes first last).count b =
      (bytes.take (last + 1)).count b := by
  rw [bytesThrough, stretch, ← List.count_append, ← List.take_add, Nat.add_sub_cancel' h]

/-- The bytes from a brace on are the brace and what follows it. -/
theorem drop_of_opens {opening : Nat} (h : bytes[opening]? = some 0x7b) :
    bytes.drop opening = 0x7b :: bytes.drop (opening + 1) := by
  obtain ⟨hlt, hget⟩ := List.getElem?_eq_some_iff.1 h
  rw [← hget, List.drop_eq_getElem_cons hlt]

theorem bytesThrough_of_opens {opening : Nat} (h : bytes[opening]? = some 0x7b) (n : Nat) :
    bytesThrough bytes opening (opening + n) = 0x7b :: (bytes.drop (opening + 1)).take n := by
  have hsize : opening + n + 1 - opening = n + 1 := by omega
  rw [bytesThrough, stretch, drop_of_opens h, hsize, List.take_succ_cons]

/-- An opening brace is the only one that counts besides the braces behind it. -/
theorem counts_of_opens {opening : Nat} (h : bytes[opening]? = some 0x7b) (n : Nat) :
    (bytesThrough bytes opening (opening + n)).count 0x7b =
        1 + ((bytes.drop (opening + 1)).take n).count 0x7b ∧
      (bytesThrough bytes opening (opening + n)).count 0x7d =
        ((bytes.drop (opening + 1)).take n).count 0x7d := by
  rw [bytesThrough_of_opens h]
  exact ⟨List.count_cons_self.trans (Nat.add_comm _ 1), List.count_cons_of_ne (by decide)⟩

theorem levelBraces_iff {opening : Nat} (h : bytes[opening]? = some 0x7b) (n : Nat) :
    LevelBraces (bytesThrough bytes opening (opening + n)) ↔
      ((bytes.drop (opening + 1)).take n).count 0x7d =
        1 + ((bytes.drop (opening + 1)).take n).count 0x7b := by
  obtain ⟨hopen, hclose⟩ := counts_of_opens h n
  rw [LevelBraces, hopen, hclose, eq_comm]

/-- From a brace on more braces are opened than closed as long as the brace is open. -/
theorem leavesOpen_iff {opening : Nat} (h : bytes[opening]? = some 0x7b) (n : Nat) :
    LeavesOpen 1 ((bytes.drop (opening + 1)).take n) ↔
      (bytesThrough bytes opening (opening + n)).count 0x7d <
        (bytesThrough bytes opening (opening + n)).count 0x7b := by
  obtain ⟨hopen, hclose⟩ := counts_of_opens h n
  rw [LeavesOpen, hopen, hclose]

theorem matchingAt?_of_opens {opening : Nat} (h : bytes[opening]? = some 0x7b) :
    matchingAt? bytes opening = closingAt? 1 (opening + 1) (bytes.drop (opening + 1)) := by
  rw [matchingAt?, if_pos h, drop_of_opens h]
  rfl

/-- From an opening brace on, more braces are opened than closed at all offsets before `closing`. -/
def OpenBefore (bytes : List Nat) (opening closing : Nat) : Prop :=
  ∀ offset, opening ≤ offset → offset < closing →
    (bytesThrough bytes opening offset).count 0x7d < (bytesThrough bytes opening offset).count 0x7b

/-- **What the walk from an offset comes to**: no brace opens there, or the brace is never closed, or it
is closed where the counts say so. -/
theorem matchingAt?_cases (bytes : List Nat) (opening : Nat) :
    (matchingAt? bytes opening = some none ∧ bytes[opening]? ≠ some 0x7b) ∨
    (matchingAt? bytes opening = some none ∧ ∀ closing, OpenBefore bytes opening closing) ∨
    ∃ closing, matchingAt? bytes opening = some (some closing) ∧
      MatchedBraces bytes opening closing ∧ OpenBefore bytes opening closing := by
  by_cases h : bytes[opening]? = some 0x7b
  · refine .inr ?_
    rw [matchingAt?_of_opens h]
    rcases closingAt?_cases Nat.one_pos (opening + 1) (bytes.drop (opening + 1)) with
      ⟨hnone, hall⟩ | ⟨index, hsome, hcloses⟩
    · refine .inl ⟨hnone, fun closing offset hle _ => ?_⟩
      obtain ⟨n, rfl⟩ := Nat.exists_eq_add_of_le hle
      exact (leavesOpen_iff h n).1 (hall n)
    · have hopen : OpenBefore bytes opening (opening + (index + 1)) := by
        intro offset hle hlt
        obtain ⟨n, rfl⟩ := Nat.exists_eq_add_of_le hle
        exact (leavesOpen_iff h n).1 (hcloses.before n (by omega))
      have hbound := hcloses.bounded
      rw [List.length_drop] at hbound
      refine .inr ⟨opening + (index + 1), ?_, ⟨h, by omega, by omega, ?_, ?_⟩, hopen⟩
      · rw [hsome, Nat.add_assoc, Nat.add_comm 1 index]
      · exact (levelBraces_iff h (index + 1)).2 hcloses.closed
      · intro offset hlt hlt' hlevel
        exact Nat.lt_irrefl _ (hlevel ▸ hopen offset (Nat.le_of_lt hlt) hlt')
  · exact .inl ⟨if_neg h, h⟩

namespace MatchedBraces

variable {opening closing closing' next : Nat}

/-- A brace has one match at most. -/
theorem unique (h : MatchedBraces bytes opening closing) (h' : MatchedBraces bytes opening closing') :
    closing = closing' := by
  rcases Nat.lt_trichotomy closing closing' with hlt | heq | hlt
  · exact absurd h.level (h'.first closing h.behind hlt)
  · exact heq
  · exact absurd h'.level (h.first closing' h'.behind hlt)

theorem counts (h : MatchedBraces bytes opening closing) :
    (bytesThrough bytes opening closing).count 0x7b =
      (bytesThrough bytes opening closing).count 0x7d := h.level

/-- A brace that is matched is found by the walk. -/
theorem matchingAt?_eq (h : MatchedBraces bytes opening closing) :
    matchingAt? bytes opening = some (some closing) ∧ OpenBefore bytes opening closing := by
  rcases matchingAt?_cases bytes opening with ⟨-, hnot⟩ | ⟨-, hopen⟩ | ⟨found, hfound, hmatch, hopen⟩
  · exact absurd h.opens hnot
  · -- a brace that is never closed is not matched
    have hlt := hopen (closing + 1) closing (Nat.le_of_lt h.behind) (Nat.lt_succ_self closing)
    have hlevel := h.counts
    omega
  · obtain rfl := h.unique hmatch
    exact ⟨hfound, hopen⟩

/-- **Braces do not cross**: of two opening braces the first one is matched before the second one, or
behind its match. -/
theorem apart_or_within (h : MatchedBraces bytes opening closing)
    (h' : MatchedBraces bytes next closing') (hlt : opening < next) :
    closing < next ∨ closing' < closing := by
  by_contra hcross
  obtain ⟨hnext, hclosing⟩ : next ≤ closing ∧ closing ≤ closing' := by omega
  obtain ⟨last, rfl⟩ := Nat.exists_eq_add_of_lt (Nat.zero_lt_of_lt hlt)
  rw [Nat.zero_add] at *
  -- what is left of the first stretch from the second brace on closes more than it opens
  have hfirst := h.matchingAt?_eq.2 last (by omega) (by omega)
  have hlevel := h.counts
  have hopens (b : Nat) := count_bytesThrough (by omega : opening ≤ last + 1) bytes b
  have hwhole (b : Nat) := count_bytesThrough (by omega : opening ≤ closing + 1) bytes b
  have hrest (b : Nat) := count_bytesThrough (by omega : last + 1 ≤ closing + 1) bytes b
  have hless : (bytesThrough bytes (last + 1) closing).count 0x7b <
      (bytesThrough bytes (last + 1) closing).count 0x7d := by
    have := hopens 0x7b
    have := hopens 0x7d
    have := hwhole 0x7b
    have := hwhole 0x7d
    have := hrest 0x7b
    have := hrest 0x7d
    omega
  -- but up to its own match the second brace is open, and there the counts agree
  rcases Nat.lt_or_eq_of_le hclosing with hbefore | rfl
  · have := h'.matchingAt?_eq.2 closing hnext hbefore
    omega
  · have hlevel' := h'.counts
    omega

end MatchedBraces

/-- **The walk finds the matching brace.** -/
theorem matchingAt?_eq_some_iff {opening closing : Nat} :
    matchingAt? bytes opening = some (some closing) ↔ MatchedBraces bytes opening closing := by
  refine ⟨fun h => ?_, fun h => h.matchingAt?_eq.1⟩
  rcases matchingAt?_cases bytes opening with ⟨hnone, -⟩ | ⟨hnone, -⟩ | ⟨found, hfound, hmatch, -⟩
  · rw [hnone] at h
    cases h
  · rw [hnone] at h
    cases h
  · rw [hfound] at h
    obtain rfl : found = closing := by simpa using h
    exact hmatch

/-! ## Bytes of a text -/

/-- Bytes that no ASCII character has are passed over. -/
theorem closingAt?_high_append {bs : List Nat} (h : ∀ b ∈ bs, 0x80 ≤ b) (offset : Nat)
    (rest : List Nat) :
    closingAt? depth offset (bs ++ rest) = closingAt? depth (offset + bs.length) rest := by
  induction bs generalizing offset with
  | nil => rfl
  | cons b bs ih =>
    have hb : 0x80 ≤ b := h b List.mem_cons_self
    have hdepth : depthAfter? depth b = some depth := by
      rw [depthAfter?, if_neg (by omega), if_neg (by omega)]
    have hbs : ∀ b' ∈ bs, 0x80 ≤ b' := fun b' h' => h b' (List.mem_cons_of_mem b h')
    rw [List.cons_append, closingAt?_cons hdepth, if_neg (by omega), ih hbs, List.length_cons]
    congr 1
    omega

/-- The walk over the bytes of one character goes as the walk over characters does. -/
theorem closingAt?_encode_cons (hd : 0 < depth) (offset : Nat) (c : Char) (s : List Char) :
    closingAt? depth offset (encode (c :: s)) =
      if c = '{' then closingAt? (depth + 1) (offset + width c) (encode s)
      else if c = '}' then
        if depth ≤ 1 then some (some offset)
        else closingAt? (depth - 1) (offset + width c) (encode s)
      else closingAt? depth (offset + width c) (encode s) := by
  by_cases hc : c.toNat < 0x80
  · have hwidth : width c = 1 := if_pos hc
    have hopen : c.toNat = 0x7b ↔ c = '{' := Char.toNat_inj (d := '{')
    have hclose : c.toNat = 0x7d ↔ c = '}' := Char.toNat_inj (d := '}')
    rw [encode_cons_of_lt hc, hwidth]
    by_cases h1 : c = '{'
    · have hdepth : depthAfter? depth c.toNat = some (depth + 1) := if_pos (hopen.2 h1)
      rw [closingAt?_cons hdepth, if_neg (by omega), if_pos h1]
    · by_cases h2 : c = '}'
      · have hdepth : depthAfter? depth c.toNat = some (depth - 1) := by
          rw [depthAfter?, if_neg (mt hopen.1 h1), if_pos (hclose.2 h2), if_neg (by omega)]
        have hstop : (c.toNat = 0x7d ∧ depth - 1 = 0) ↔ depth ≤ 1 :=
          (and_iff_right (hclose.2 h2)).trans Nat.sub_eq_zero_iff_le
        rw [closingAt?_cons hdepth, if_neg h1, if_pos h2, if_congr hstop rfl rfl]
      · have hdepth : depthAfter? depth c.toNat = some depth := by
          rw [depthAfter?, if_neg (mt hopen.1 h1), if_neg (mt hclose.1 h2)]
        rw [closingAt?_cons hdepth, if_neg (by omega), if_neg h1, if_neg h2]
  · have hne : c ≠ '{' ∧ c ≠ '}' := by
      constructor <;> (rintro rfl; exact hc (by decide))
    rw [encode_cons, closingAt?_high_append (high_of_mem_encodeChar (Nat.le_of_not_lt hc)),
      length_encodeChar, if_neg hne.1, if_neg hne.2]

/-- **On the bytes of a text the walk ends where the walk on its characters does.** -/
theorem closingAt?_encode (hd : 0 < depth) (offset : Nat) (s : List Char) :
    closingAt? depth offset (encode s) =
      some ((closing? depth s).map fun t => offset + byteSize t - 1) := by
  induction s generalizing depth offset with
  | nil => rfl
  | cons c s ih =>
    -- the walk goes on behind the character
    have hon (depth' : Nat) (hd' : 0 < depth') :
        closingAt? depth' (offset + width c) (encode s) =
          some (((closing? depth' s).map (c :: ·)).map fun t => offset + byteSize t - 1) := by
      rw [ih hd', Option.map_map]
      have hsize : ((fun t => offset + byteSize t - 1) ∘ (c :: ·)) =
          fun t => offset + width c + byteSize t - 1 := by
        funext t
        rw [Function.comp_apply, byteSize]
        omega
      rw [hsize]
    rw [closingAt?_encode_cons hd, closing?]
    split
    · exact hon (depth + 1) (Nat.succ_pos depth)
    · split
      · next hclose =>
        have hwidth : width c = 1 := by rw [hclose]; rfl
        split
        · rw [Option.map_some, byteSize, byteSize, hwidth]
          rfl
        · exact hon (depth - 1) (by omega)
      · exact hon depth hd

/-- An offset to which the text can be dropped is the size of what stands before it. -/
theorem exists_of_dropBytes {text s : List Char} {offset : Nat} (h : dropBytes offset text = some s) :
    ∃ front, text = front ++ s ∧ byteSize front = offset := by
  induction text generalizing offset with
  | nil =>
    cases offset with
    | zero => exact ⟨[], Option.some.inj h, rfl⟩
    | succ offset => cases h
  | cons c text ih =>
    cases offset with
    | zero => exact ⟨[], Option.some.inj h, rfl⟩
    | succ offset =>
      rw [dropBytes] at h
      split at h
      · next hle =>
        obtain ⟨front, rfl, hsize⟩ := ih h
        exact ⟨c :: front, rfl, by rw [byteSize, hsize]; omega⟩
      · cases h

/-- **A byte of an ASCII character in encoded text is that character.** -/
theorem exists_char_of_byte {text : List Char} {offset b : Nat} (hb : b < 0x80)
    (h : (encode text)[offset]? = some b) :
    ∃ front c rest, text = front ++ c :: rest ∧ byteSize front = offset ∧ c.toNat = b := by
  induction text generalizing offset with
  | nil => cases h
  | cons c text ih =>
    rw [encode_cons] at h
    by_cases hle : width c ≤ offset
    · rw [List.getElem?_append_right (by rw [length_encodeChar]; exact hle), length_encodeChar] at h
      obtain ⟨front, c', rest, rfl, hsize, hchar⟩ := ih h
      exact ⟨c :: front, c', rest, rfl, by rw [byteSize, hsize]; omega, hchar⟩
    · rw [List.getElem?_append_left (by rw [length_encodeChar]; omega)] at h
      by_cases hc : c.toNat < 0x80
      · have hwidth : width c = 1 := if_pos hc
        obtain rfl : offset = 0 := by omega
        rw [encodeChar_of_lt hc] at h
        exact ⟨[], c, text, rfl, rfl, Option.some.inj h⟩
      · -- another character has higher bytes only
        have := high_of_mem_encodeChar (Nat.le_of_not_lt hc) b (List.mem_of_getElem? h)
        omega

theorem getElem?_encode_append (front : List Char) {c : Char} (hc : c.toNat < 0x80)
    (rest : List Char) :
    (encode (front ++ c :: rest))[byteSize front]? = some c.toNat := by
  rw [encode_append, List.getElem?_append_right (by rw [length_encode]), length_encode,
    Nat.sub_self, encode_cons_of_lt hc]
  rfl

theorem drop_encode_append (front rest : List Char) :
    (encode (front ++ rest)).drop (byteSize front) = encode rest := by
  rw [encode_append, ← length_encode front, List.drop_left]

/-- **The brace that is found on characters is the one that is found on bytes**, whatever the
offset. -/
theorem matchingAt?_encode (text : List Char) (opening : Nat) :
    matchingAt? (encode text) opening = some (matchingBrace? text opening) := by
  by_cases h : (encode text)[opening]? = some 0x7b
  · obtain ⟨front, c, rest, rfl, rfl, hc⟩ := exists_char_of_byte (by decide) h
    obtain rfl : c = '{' := Char.toNat_inj.1 hc
    have hbrace : width '{' = 1 := by decide
    have hone : byteSize (front ++ ['{']) = byteSize front + 1 := by
      rw [byteSize_append]
      rfl
    have hdrop : (encode (front ++ '{' :: rest)).drop (byteSize front + 1) = encode rest := by
      have := drop_encode_append (front ++ ['{']) rest
      rwa [hone, List.append_assoc] at this
    have hsize : (fun block => byteSize front + byteSize block - 1) ∘ ('{' :: ·) =
        fun t => byteSize front + 1 + byteSize t - 1 := by
      funext t
      rw [Function.comp_apply, byteSize, hbrace]
      omega
    rw [matchingAt?_of_opens h, hdrop, closingAt?_encode Nat.one_pos, matchingBrace?_append, block?,
      Option.map_map, hsize]
  · rw [matchingAt?, if_neg h, matchingBrace?]
    cases hdrop : dropBytes opening text with
    | none => rfl
    | some s =>
      obtain ⟨front, rfl, rfl⟩ := exists_of_dropBytes hdrop
      -- no brace opens there
      have hblock : block? s = none := by
        unfold block?
        split
        · next rest => exact absurd (getElem?_encode_append front (by decide) rest) h
        · rfl
      rw [Option.bind_eq_bind, Option.bind_some, hblock]
      rfl

/-- **Matching braces is exact.** The brace found for the one at an offset is the first one behind it
up to which as many braces are opened as closed, and none is found exactly if there is none. The count
of open braces never falls below zero, neither where a brace is found nor where none is, and it is
positive all the way to the brace that is found. So two pairs of braces are apart or one lies within
the other, and no brace closes two others. -/
theorem matchingBrace?_exact (text : List Char) :
    (∀ opening closing, matchingBrace? text opening = some closing ↔
      MatchedBraces (encode text) opening closing) ∧
    (∀ opening, matchingBrace? text opening = none ↔
      ∀ closing, ¬ MatchedBraces (encode text) opening closing) ∧
    (∀ opening, matchingAt? (encode text) opening = some (matchingBrace? text opening)) ∧
    (∀ opening closing, matchingBrace? text opening = some closing →
      ∀ offset, opening ≤ offset → offset < closing →
        (bytesThrough (encode text) opening offset).count 0x7d <
          (bytesThrough (encode text) opening offset).count 0x7b) ∧
    (∀ opening next closing closing', opening < next → matchingBrace? text opening = some closing →
      matchingBrace? text next = some closing' → closing < next ∨ closing' < closing) ∧
    ∀ opening next closing, matchingBrace? text opening = some closing →
      matchingBrace? text next = some closing → opening = next := by
  have hiff (opening closing : Nat) : matchingBrace? text opening = some closing ↔
      MatchedBraces (encode text) opening closing := by
    rw [← matchingAt?_eq_some_iff, matchingAt?_encode, Option.some_inj]
  have hcross (opening next closing closing' : Nat) (hlt : opening < next)
      (h : matchingBrace? text opening = some closing)
      (h' : matchingBrace? text next = some closing') : closing < next ∨ closing' < closing :=
    ((hiff _ _).1 h).apart_or_within ((hiff _ _).1 h') hlt
  refine ⟨hiff, fun opening => ?_, matchingAt?_encode text, fun opening closing h => ?_, hcross, ?_⟩
  · simp only [← hiff, Option.eq_none_iff_forall_ne_some, ne_eq]
  · exact ((hiff _ _).1 h).matchingAt?_eq.2
  · intro opening next closing h h'
    have hbehind := ((hiff _ _).1 h).behind
    have hbehind' := ((hiff _ _).1 h').behind
    rcases Nat.lt_trichotomy opening next with hlt | heq | hlt
    · have := hcross _ _ _ _ hlt h h'
      omega
    · exact heq
    · have := hcross _ _ _ _ hlt h' h
      omega

/-- The second brace is never closed, and the character before the first one takes two bytes. -/
example : matchingBrace? "é\x7b\x7d\x7b".toList 2 = some 3 ∧
    matchingBrace? "é\x7b\x7d\x7b".toList 4 = none := by
  decide

end GasAdvisor
