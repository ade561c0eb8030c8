import GasAdvisor.Contract.Token
import GasAdvisor.Proofs.Contract.ByteMasking

/-!
# Masking token by token

Every text has exactly one row of tokens: some token stands at the front of each text that is not empty
(`exists_token`), and no two do (`eq_of_text_append`). The scanner of `maskBytesIn` enters no region
within a token but those of the token, and is back in code behind it, so it writes the masked bytes of
each token in turn (`maskBytesIn_token`).
-/

namespace GasAdvisor

open Text

/-! ## The end of a block comment -/

/-- The two bytes that end a block comment. -/
def closingMark : List Nat := [0x2a, 0x2f]

/-- What stands before the first closing mark of a text, if it has one. -/
theorem exists_first_closingMark (bytes : List Nat) :
    (∃ content rest, bytes = content ++ (closingMark ++ rest) ∧
      ¬ closingMark <:+: content ++ [0x2a]) ∨ ¬ closingMark <:+: bytes := by
  induction bytes with
  | nil => exact .inr (by simp [closingMark])
  | cons b bytes ih =>
    by_cases hfront : closingMark <+: b :: bytes
    · obtain ⟨rest, hrest⟩ := hfront
      exact .inl ⟨[], rest, hrest.symm, by decide⟩
    · rcases ih with ⟨content, rest, rfl, hcontent⟩ | hnone
      · refine .inl ⟨b :: content, rest, rfl, fun hinfix => ?_⟩
        rcases List.infix_cons_iff.1 hinfix with hmark | hlater
        · -- the mark would stand at the front of the text
          refine hfront (hmark.trans ⟨0x2f :: rest, ?_⟩)
          simp [closingMark]
        · exact hcontent hlater
      · exact .inr fun hinfix => (List.infix_cons_iff.1 hinfix).elim hfront hnone

/-- Nothing stands before a closing mark that is the first one. -/
theorem eq_nil_of_closingMark {between rest rest' : List Nat}
    (h : closingMark ++ rest = between ++ (closingMark ++ rest'))
    (hfirst : ¬ closingMark <:+: between ++ [0x2a]) : between = [] := by
  cases between with
  | nil => rfl
  | cons b between =>
    obtain ⟨rfl, hslash⟩ := List.cons.inj h
    refine absurd (List.IsPrefix.isInfix ?_) hfirst
    -- the slash after the star stands between, or it would be the star of the later mark
    cases between with
    | nil => cases hslash
    | cons b' between =>
      obtain ⟨rfl, -⟩ := List.cons.inj hslash
      exact ⟨between ++ [0x2a], rfl⟩

/-- The first closing mark of a text is one only. -/
theorem eq_of_first_closingMark {content content' rest rest' : List Nat}
    (h : content ++ (closingMark ++ rest) = content' ++ (closingMark ++ rest'))
    (hfirst : ¬ closingMark <:+: content ++ [0x2a])
    (hfirst' : ¬ closingMark <:+: content' ++ [0x2a]) : content = content' ∧ rest = rest' := by
  have hcontent : content = content' := by
    rcases List.append_eq_append_iff.1 h with ⟨between, rfl, hb⟩ | ⟨between, rfl, hb⟩
    · have hnil := eq_nil_of_closingMark hb fun hinfix =>
        hfirst' (by rw [List.append_assoc]; exact hinfix.trans (List.suffix_append _ _).isInfix)
      rw [hnil, List.append_nil]
    · have hnil := eq_nil_of_closingMark hb fun hinfix =>
        hfirst (by rw [List.append_assoc]; exact hinfix.trans (List.suffix_append _ _).isInfix)
      rw [hnil, List.append_nil]
  subst hcontent
  exact ⟨rfl, List.append_cancel_left (List.append_cancel_left h)⟩

/-- In a block comment everything up to the closing mark is blanked. -/
theorem maskBytesIn_blockComment {content rest : List Nat}
    (h : ¬ closingMark <:+: content ++ rest.take 1) :
    maskBytesIn .blockComment (content ++ rest) =
      content.map feedOrSpace ++ maskBytesIn .blockComment rest := by
  induction content with
  | nil => rfl
  | cons b content ih =>
    rw [List.cons_append, List.infix_cons_iff, not_or] at h
    rw [List.cons_append, maskBytesIn, ih h.2]
    · rfl
    · rintro bytes rfl hslash
      refine h.1 ?_
      cases content with
      | nil =>
        obtain rfl : rest = 0x2f :: bytes := hslash
        exact ⟨[], rfl⟩
      | cons b' content =>
        obtain ⟨rfl, -⟩ := List.cons.inj hslash
        exact ⟨content ++ rest.take 1, rfl⟩

/-! ## Literals -/

namespace LiteralPiece

/-- The text of a piece is not empty. -/
theorem text_ne_nil (piece : LiteralPiece) : piece.text ≠ [] := by
  cases piece <;> exact List.cons_ne_nil _ _

/-- Which piece stands at the front of a text is told from the text. -/
theorem eq_of_text_append {quote : Nat} {piece piece' : LiteralPiece} {more more' : List Nat}
    (hpiece : piece.FitsIn quote) (hpiece' : piece'.FitsIn quote)
    (h : piece.text ++ more = piece'.text ++ more') : piece = piece' ∧ more = more' := by
  cases piece with
  | plain b =>
    cases piece' with
    | plain b' =>
      obtain ⟨rfl, hmore⟩ := List.cons.inj h
      exact ⟨rfl, hmore⟩
    | escaped b' => exact absurd (List.cons.inj h).1 hpiece.2
  | escaped b =>
    cases piece' with
    | plain b' => exact absurd (List.cons.inj h).1.symm hpiece'.2
    | escaped b' =>
      obtain ⟨rfl, hmore⟩ := List.cons.inj (List.cons.inj h).2
      exact ⟨rfl, hmore⟩

end LiteralPiece

namespace LiteralEnd

/-- How a literal ends is told from the text. -/
theorem eq_of_text_append {quote : Nat} {ending ending' : LiteralEnd} {rest rest' : List Nat}
    (hq : Token.IsQuote quote) (h : ending.text quote ++ rest = ending'.text quote ++ rest')
    (hend : ending ≠ .quote → rest = []) (hend' : ending' ≠ .quote → rest' = []) :
    ending = ending' ∧ rest = rest' := by
  have hbackslash : quote ≠ 0x5c := by
    rcases hq with rfl | rfl <;> decide
  cases ending <;> cases ending' <;> simp_all [text]

/-- What stands at the end of a literal is none of its pieces. -/
theorem text_append_ne {quote : Nat} {ending : LiteralEnd} {rest : List Nat}
    {piece : LiteralPiece} {more : List Nat} (hq : Token.IsQuote quote)
    (hend : ending ≠ .quote → rest = []) (hpiece : piece.FitsIn quote) :
    ending.text quote ++ rest ≠ piece.text ++ more := by
  have hbackslash : quote ≠ 0x5c := by
    rcases hq with rfl | rfl <;> decide
  intro h
  cases ending with
  | quote =>
    cases piece with
    | plain b => exact hpiece.1 (List.cons.inj h).1.symm
    | escaped b => exact hbackslash (List.cons.inj h).1
  | cut =>
    obtain rfl := hend (by decide)
    exact absurd h.symm (List.append_ne_nil_of_left_ne_nil piece.text_ne_nil more)
  | cutBackslash =>
    obtain rfl := hend (by decide)
    cases piece with
    | plain b => exact hpiece.2 (List.cons.inj h).1.symm
    | escaped b => cases (List.cons.inj h).2

end LiteralEnd

/-- **The pieces of a literal are told from its bytes.** -/
theorem eq_of_pieces {quote : Nat} (hq : Token.IsQuote quote) {pieces pieces' : List LiteralPiece}
    {ending ending' : LiteralEnd} {rest rest' : List Nat}
    (h : pieces.flatMap LiteralPiece.text ++ (ending.text quote ++ rest) =
      pieces'.flatMap LiteralPiece.text ++ (ending'.text quote ++ rest'))
    (hpieces : ∀ piece ∈ pieces, piece.FitsIn quote)
    (hpieces' : ∀ piece ∈ pieces', piece.FitsIn quote)
    (hend : ending ≠ .quote → rest = []) (hend' : ending' ≠ .quote → rest' = []) :
    pieces = pieces' ∧ ending = ending' ∧ rest = rest' := by
  induction pieces generalizing pieces' with
  | nil =>
    cases pieces' with
    | nil => exact ⟨rfl, LiteralEnd.eq_of_text_append hq h hend hend'⟩
    | cons piece' pieces' =>
      rw [List.flatMap_nil, List.nil_append, List.flatMap_cons, List.append_assoc] at h
      exact absurd h (LiteralEnd.text_append_ne hq hend (hpieces' piece' List.mem_cons_self))
  | cons piece pieces ih =>
    cases pieces' with
    | nil =>
      rw [List.flatMap_nil, List.nil_append, List.flatMap_cons, List.append_assoc] at h
      exact absurd h.symm (LiteralEnd.text_append_ne hq hend' (hpieces piece List.mem_cons_self))
    | cons piece' pieces' =>
      have hpiece := hpieces piece List.mem_cons_self
      have hpiece' := hpieces' piece' List.mem_cons_self
      rw [List.flatMap_cons, List.flatMap_cons, List.append_assoc, List.append_assoc] at h
      obtain ⟨rfl, hmore⟩ := LiteralPiece.eq_of_text_append hpiece hpiece' h
      obtain ⟨rfl, hrest⟩ := ih hmore (fun p hp => hpieces p (List.mem_cons_of_mem _ hp))
        fun p hp => hpieces' p (List.mem_cons_of_mem _ hp)
      exact ⟨rfl, hrest⟩

/-- Some pieces and an end stand behind every quote. -/
theorem exists_pieces (quote : Nat) : (bytes : List Nat) → ∃ pieces ending rest,
    bytes = List.flatMap LiteralPiece.text pieces ++ (LiteralEnd.text quote ending ++ rest) ∧
      (∀ piece ∈ pieces, piece.FitsIn quote) ∧ (ending ≠ .quote → rest = [])
  | [] => ⟨[], .cut, [], rfl, by simp, fun _ => rfl⟩
  | b :: bytes => by
    by_cases hquote : b = quote
    · exact ⟨[], .quote, bytes, by rw [hquote]; rfl, by simp, fun h => absurd rfl h⟩
    by_cases hbackslash : b = 0x5c
    · subst hbackslash
      cases bytes with
      | nil => exact ⟨[], .cutBackslash, [], rfl, by simp, fun _ => rfl⟩
      | cons c bytes =>
        obtain ⟨pieces, ending, rest, rfl, hpieces, hend⟩ := exists_pieces quote bytes
        refine ⟨.escaped c :: pieces, ending, rest, rfl, ?_, hend⟩
        exact List.forall_mem_cons.2 ⟨trivial, hpieces⟩
    · obtain ⟨pieces, ending, rest, rfl, hpieces, hend⟩ := exists_pieces quote bytes
      refine ⟨.plain b :: pieces, ending, rest, rfl, ?_, hend⟩
      exact List.forall_mem_cons.2 ⟨⟨hquote, hbackslash⟩, hpieces⟩

/-- A literal is masked piece by piece, and code goes on behind it. -/
theorem maskBytesIn_literal {quote : Char} (hq : (Region.literal quote).Quoted)
    {pieces : List LiteralPiece} {ending : LiteralEnd} {rest : List Nat}
    (hpieces : ∀ piece ∈ pieces, piece.FitsIn quote.toNat) (hend : ending ≠ .quote → rest = []) :
    maskBytesIn (.literal quote)
        (pieces.flatMap LiteralPiece.text ++ (ending.text quote.toNat ++ rest)) =
      pieces.flatMap LiteralPiece.masked ++
        (ending.masked quote.toNat ++ maskBytesIn .code rest) := by
  induction pieces with
  | nil =>
    cases ending with
    | quote =>
      have hbackslash : quote.toNat ≠ 0x5c := by rcases hq with rfl | rfl <;> decide
      show maskBytesIn (.literal quote) (quote.toNat :: rest) = quote.toNat :: maskBytesIn .code rest
      rw [maskBytesIn, if_pos rfl]
      exact fun _ _ h => absurd h hbackslash
    | cut =>
      obtain rfl := hend (by decide)
      rfl
    | cutBackslash =>
      obtain rfl := hend (by decide)
      have hbackslash : 0x5c ≠ quote.toNat := by rcases hq with rfl | rfl <;> decide
      show maskBytesIn (.literal quote) [0x5c] = [0x20]
      rw [maskBytesIn, if_neg hbackslash]
      · rfl
      · exact fun _ _ _ h => by cases h
  | cons piece pieces ih =>
    obtain ⟨hpiece, hmore⟩ := List.forall_mem_cons.1 hpieces
    rw [List.flatMap_cons, List.flatMap_cons, List.append_assoc, List.append_assoc, ← ih hmore]
    cases piece with
    | plain b =>
      show maskBytesIn (.literal quote) (b :: (pieces.flatMap LiteralPiece.text ++ _)) =
        feedOrSpace b :: maskBytesIn (.literal quote) _
      rw [maskBytesIn, if_neg hpiece.1]
      exact fun _ _ h => absurd h hpiece.2
    | escaped b => rfl

/-! ## Tokens -/

/-- A line comment is blanked, and code goes on behind it. -/
theorem maskBytesIn_lineComment {content rest : List Nat} (h : 0x0a ∉ content)
    (hend : rest = [] ∨ rest.head? = some 0x0a) :
    maskBytesIn .lineComment (content ++ rest) =
      List.replicate content.length 0x20 ++ maskBytesIn .code rest := by
  induction content with
  | nil =>
    cases rest with
    | nil => rfl
    | cons b rest =>
      obtain rfl : b = 0x0a := by simpa using hend
      rfl
  | cons b content ih =>
    obtain ⟨hb, hcontent⟩ : ¬ 0x0a = b ∧ 0x0a ∉ content := by simpa using h
    rw [List.cons_append, maskBytesIn, if_neg (Ne.symm hb), ih hcontent]
    rfl

namespace Token

/-- **Masking writes the masked bytes of the token at the front**, and goes on in code. -/
theorem maskBytesIn_token {token : Token} {rest : List Nat} (h : token.StandsBefore rest) :
    maskBytesIn .code (token.text ++ rest) = token.masked ++ maskBytesIn .code rest := by
  cases token with
  | code b =>
    have hquote : ¬ (b = 0x22 ∨ b = 0x27) := h.1
    show maskBytesIn .code (b :: rest) = b :: maskBytesIn .code rest
    rw [maskBytesIn, if_neg hquote]
    · rintro bytes rfl rfl
      exact h.2 ⟨rfl, .inl rfl⟩
    · rintro bytes rfl rfl
      exact h.2 ⟨rfl, .inr rfl⟩
  | lineComment content =>
    have hline := maskBytesIn_lineComment h.1 h.2
    show 0x20 :: 0x20 :: maskBytesIn .lineComment (content ++ rest) = _
    rw [hline]
    rfl
  | blockComment content closed =>
    cases closed with
    | true =>
      have hblock : ¬ closingMark <:+: content ++ (closingMark ++ rest).take 1 := h
      show 0x20 :: 0x20 :: maskBytesIn .blockComment (content ++ closingMark ++ rest) = _
      rw [List.append_assoc, maskBytesIn_blockComment hblock]
      show _ = 0x20 :: 0x20 :: (content.map feedOrSpace ++ [0x20, 0x20]) ++ _
      simp only [List.cons_append, List.append_assoc]
      rfl
    | false =>
      obtain ⟨hopen, rfl⟩ : ¬ closingMark <:+: content ∧ rest = [] := h
      have hblock : ¬ closingMark <:+: content ++ [].take 1 := by
        rwa [List.take_nil, List.append_nil]
      show 0x20 :: 0x20 :: maskBytesIn .blockComment (content ++ [] ++ []) = _
      rw [List.append_nil, maskBytesIn_blockComment hblock]
      show _ = 0x20 :: 0x20 :: (content.map feedOrSpace ++ []) ++ []
      rw [List.append_nil]
      rfl
  | literal quote pieces ending =>
    obtain ⟨hq, hpieces, hend⟩ := h
    obtain ⟨q, hquoted, rfl⟩ : ∃ q, (Region.literal q).Quoted ∧ q.toNat = quote := by
      rcases hq with rfl | rfl
      · exact ⟨'"', .inl rfl, rfl⟩
      · exact ⟨'\'', .inr rfl, rfl⟩
    have hquote : q.toNat = 0x22 ∨ q.toNat = 0x27 := hq
    have hliteral := maskBytesIn_literal hquoted hpieces hend
    show maskBytesIn .code (q.toNat :: (_ ++ _) ++ rest) = q.toNat :: (_ ++ _) ++ _
    rw [List.cons_append, maskBytesIn, if_pos hquote, Char.ofNat_toNat, List.append_assoc, hliteral,
      List.cons_append, List.append_assoc]
    · exact fun _ h => by rcases hquoted with rfl | rfl <;> exact absurd h (by decide)
    · exact fun _ h => by rcases hquoted with rfl | rfl <;> exact absurd h (by decide)

theorem maskBytes_of_decomposes {tokens : List Token} {bytes : List Nat}
    (h : Decomposes tokens bytes) : maskBytes bytes = tokens.flatMap masked := by
  induction h with
  | nil => rfl
  | cons hstands _ ih => rw [maskBytes, maskBytesIn_token hstands, ← maskBytes, ih, List.flatMap_cons]

/-! ## The tokens of a text -/

/-- The region that the bytes at the front of a text open. -/
def opened : List Nat → Region
  | 0x2f :: 0x2f :: _ => .lineComment
  | 0x2f :: 0x2a :: _ => .blockComment
  | b :: _ => if b = 0x22 ∨ b = 0x27 then .literal (Char.ofNat b) else .code
  | [] => .code

/-- The region that a token opens. -/
def region : Token → Region
  | .code _ => .code
  | .lineComment _ => .lineComment
  | .blockComment _ _ => .blockComment
  | .literal quote _ _ => .literal (Char.ofNat quote)

theorem opened_cons {b : Nat} {bytes : List Nat}
    (h : ¬ (b = 0x2f ∧ (bytes.head? = some 0x2f ∨ bytes.head? = some 0x2a))) :
    opened (b :: bytes) = if b = 0x22 ∨ b = 0x27 then .literal (Char.ofNat b) else .code := by
  rw [opened]
  · rintro bytes' rfl rfl
    exact h ⟨rfl, .inl rfl⟩
  · rintro bytes' rfl rfl
    exact h ⟨rfl, .inr rfl⟩

/-- **What a token is shows at its front.** -/
theorem opened_text_append {token : Token} {rest : List Nat} (h : token.StandsBefore rest) :
    opened (token.text ++ rest) = token.region := by
  cases token with
  | code b =>
    have hquote : ¬ (b = 0x22 ∨ b = 0x27) := h.1
    exact (opened_cons h.2).trans (if_neg hquote)
  | lineComment content => rfl
  | blockComment content closed => rfl
  | literal quote pieces ending =>
    have hquote : quote = 0x22 ∨ quote = 0x27 := h.1
    have hslash : quote ≠ 0x2f := by rcases hquote with rfl | rfl <;> decide
    exact (opened_cons fun h => hslash h.1).trans (if_pos hquote)

theorem takeWhile_ne_feed {content rest : List Nat} (h : 0x0a ∉ content)
    (hend : rest = [] ∨ rest.head? = some 0x0a) :
    (content ++ rest).takeWhile (· != 0x0a) = content := by
  have hcontent : ∀ b ∈ content, (b != 0x0a) = true := by
    rintro b hb
    simp only [bne_iff_ne]
    rintro rfl
    exact h hb
  rw [List.takeWhile_append_of_pos hcontent]
  cases rest with
  | nil => simp
  | cons b rest =>
    obtain rfl : b = 0x0a := by simpa using hend
    simp

/-- **No two tokens stand at the front of a text.** -/
theorem eq_of_text_append {token token' : Token} {rest rest' : List Nat}
    (hstands : token.StandsBefore rest) (hstands' : token'.StandsBefore rest')
    (h : token.text ++ rest = token'.text ++ rest') : token = token' ∧ rest = rest' := by
  have hregion : token.region = token'.region := by
    rw [← opened_text_append hstands, ← opened_text_append hstands', h]
  cases token with
  | code b =>
    cases token' <;> try cases hregion
    obtain ⟨rfl, hrest⟩ := List.cons.inj h
    exact ⟨rfl, hrest⟩
  | lineComment content =>
    cases token' <;> try cases hregion
    next content' =>
      have hbytes : content ++ rest = content' ++ rest' := (List.cons.inj (List.cons.inj h).2).2
      have hcontent := congrArg (List.takeWhile (· != 0x0a)) hbytes
      rw [takeWhile_ne_feed hstands.1 hstands.2, takeWhile_ne_feed hstands'.1 hstands'.2] at hcontent
      subst hcontent
      exact ⟨rfl, List.append_cancel_left hbytes⟩
  | blockComment content closed =>
    cases token' <;> try cases hregion
    next content' closed' =>
      have hbytes := (List.cons.inj (List.cons.inj h).2).2
      rw [List.append_eq, List.append_eq, List.append_assoc, List.append_assoc] at hbytes
      cases closed with
      | true =>
        cases closed' with
        | true =>
          obtain ⟨rfl, hrest⟩ := eq_of_first_closingMark hbytes hstands hstands'
          exact ⟨rfl, hrest⟩
        | false =>
          refine absurd ⟨content, rest, ?_⟩ hstands'.1
          rw [hstands'.2] at hbytes
          rw [List.append_assoc]
          simpa using hbytes
      | false =>
        cases closed' with
        | true =>
          refine absurd ⟨content', rest', ?_⟩ hstands.1
          rw [hstands.2] at hbytes
          rw [List.append_assoc]
          simpa using hbytes.symm
        | false =>
          obtain ⟨⟨-, rfl⟩, ⟨-, rfl⟩⟩ := And.intro hstands hstands'
          obtain rfl : content = content' := by simpa using hbytes
          exact ⟨rfl, rfl⟩
  | literal quote pieces ending =>
    cases token' <;> try cases hregion
    next quote' pieces' ending' =>
      obtain ⟨rfl, hbytes⟩ := List.cons.inj h
      rw [List.append_eq, List.append_eq, List.append_assoc, List.append_assoc] at hbytes
      obtain ⟨hq, hpieces, hend⟩ := hstands
      obtain ⟨-, hpieces', hend'⟩ := hstands'
      obtain ⟨rfl, rfl, hrest⟩ := eq_of_pieces hq hbytes hpieces hpieces' hend hend'
      exact ⟨rfl, hrest⟩

/-- **A token stands at the front of every text** that is not empty. -/
theorem exists_token (b : Nat) (bytes : List Nat) :
    ∃ token rest, b :: bytes = text token ++ rest ∧ token.StandsBefore rest := by
  by_cases hcomment : b = 0x2f ∧ (bytes.head? = some 0x2f ∨ bytes.head? = some 0x2a)
  · obtain ⟨rfl, hnext | hnext⟩ := hcomment
    · obtain ⟨bytes, rfl⟩ := List.head?_eq_some_iff.1 hnext
      refine ⟨.lineComment (bytes.takeWhile (· != 0x0a)), bytes.dropWhile (· != 0x0a), ?_, ?_, ?_⟩
      · show _ = 0x2f :: 0x2f :: (_ ++ _)
        rw [List.takeWhile_append_dropWhile]
      · intro hfeed
        exact absurd (List.mem_takeWhile_imp hfeed) (by decide)
      · cases hrest : bytes.dropWhile (· != 0x0a) with
        | nil => exact .inl rfl
        | cons b rest =>
          have hstop := List.head?_dropWhile_not (· != 0x0a) bytes
          rw [hrest] at hstop
          exact .inr (by simpa using hstop)
    · obtain ⟨bytes, rfl⟩ := List.head?_eq_some_iff.1 hnext
      rcases exists_first_closingMark bytes with ⟨content, rest, rfl, hfirst⟩ | hnone
      · refine ⟨.blockComment content true, rest, ?_, hfirst⟩
        show _ = 0x2f :: 0x2a :: (content ++ closingMark ++ rest)
        rw [List.append_assoc]
      · refine ⟨.blockComment bytes false, [], ?_, hnone, rfl⟩
        show _ = 0x2f :: 0x2a :: (bytes ++ [] ++ [])
        rw [List.append_nil, List.append_nil]
  · by_cases hquote : IsQuote b
    · obtain ⟨pieces, ending, rest, rfl, hpieces, hend⟩ := exists_pieces b bytes
      refine ⟨.literal b pieces ending, rest, ?_, hquote, hpieces, hend⟩
      show _ = b :: (_ ++ _ ++ rest)
      rw [List.append_assoc]
    · exact ⟨.code b, bytes, rfl, hquote, hcomment⟩

theorem text_ne_nil (token : Token) : token.text ≠ [] := by
  cases token <;> exact List.cons_ne_nil _ _

theorem exists_decomposes (bytes : List Nat) : ∃ tokens, Decomposes tokens bytes := by
  induction hsize : bytes.length using Nat.strong_induction_on generalizing bytes with
  | _ size ih =>
    cases bytes with
    | nil => exact ⟨[], .nil⟩
    | cons b bytes =>
      obtain ⟨token, rest, htext, hstands⟩ := exists_token b bytes
      have hshorter : rest.length < size := by
        have hpos := List.length_pos_iff.2 token.text_ne_nil
        rw [← hsize, htext, List.length_append]
        omega
      obtain ⟨tokens, htokens⟩ := ih rest.length hshorter rest rfl
      rw [htext]
      exact ⟨token :: tokens, .cons hstands htokens⟩

/-- The tokens of a text make up all of it. -/
theorem Decomposes.flatMap_text {tokens : List Token} {bytes : List Nat}
    (h : Decomposes tokens bytes) : bytes = tokens.flatMap text := by
  induction h with
  | nil => rfl
  | cons _ _ ih => rw [List.flatMap_cons, ← ih]

theorem Decomposes.unique {tokens tokens' : List Token} {bytes : List Nat}
    (h : Decomposes tokens bytes) (h' : Decomposes tokens' bytes) : tokens = tokens' := by
  induction h generalizing tokens' with
  | nil =>
    generalize hbytes : ([] : List Nat) = bytes at h'
    cases h' with
    | nil => rfl
    | cons => exact absurd hbytes.symm (List.append_ne_nil_of_left_ne_nil (text_ne_nil _) _)
  | @cons token tokens rest hstands _ ih =>
    generalize hbytes : token.text ++ rest = bytes at h'
    cases h' with
    | nil => exact absurd hbytes (List.append_ne_nil_of_left_ne_nil (text_ne_nil _) _)
    | cons hstands' hrest' =>
      obtain ⟨rfl, rfl⟩ := eq_of_text_append hstands hstands' hbytes
      rw [ih hrest']

-- the star that starts a block comment is not the one that ends it
example : Decomposes [.blockComment [0x2f, 0x61] false] (encode "/*/a".toList) :=
  .cons ⟨by decide, rfl⟩ .nil

end Token

/-! ## What masking does to a byte and to a character -/

/-- Whether a masked byte is that of the source or a space. -/
def IsMaskOf (b out : Nat) : Prop :=
  out = b ∨ out = 0x20

theorem isMaskOf_feedOrSpace (b : Nat) : IsMaskOf b (feedOrSpace b) := by
  rw [feedOrSpace]
  split
  · exact .inl (Eq.symm ‹_›)
  · exact .inr rfl

theorem forall₂_isMaskOf_replicate (bytes : List Nat) :
    List.Forall₂ IsMaskOf bytes (List.replicate bytes.length 0x20) := by
  induction bytes with
  | nil => exact .nil
  | cons b bytes ih => exact .cons (.inr rfl) ih

theorem forall₂_isMaskOf_refl (bytes : List Nat) : List.Forall₂ IsMaskOf bytes bytes :=
  List.forall₂_same.2 fun _ _ => .inl rfl

theorem LiteralPiece.forall₂_isMaskOf (piece : LiteralPiece) :
    List.Forall₂ IsMaskOf piece.text piece.masked := by
  cases piece with
  | plain b => exact .cons (isMaskOf_feedOrSpace b) .nil
  | escaped b => exact forall₂_isMaskOf_replicate [0x5c, b]

theorem LiteralEnd.forall₂_isMaskOf (quote : Nat) (ending : LiteralEnd) :
    List.Forall₂ IsMaskOf (ending.text quote) (ending.masked quote) := by
  cases ending with
  | quote => exact forall₂_isMaskOf_refl _
  | cut => exact .nil
  | cutBackslash => exact forall₂_isMaskOf_replicate [0x5c]

/-- **A token is masked in place**: byte for byte, each as it is or as a space. -/
theorem Token.forall₂_isMaskOf (token : Token) : List.Forall₂ IsMaskOf token.text token.masked := by
  cases token with
  | code b => exact forall₂_isMaskOf_refl _
  | lineComment content => exact forall₂_isMaskOf_replicate (0x2f :: 0x2f :: content)
  | blockComment content closed =>
    refine .cons (.inr rfl) (.cons (.inr rfl) (List.rel_append ?_ ?_))
    · exact List.forall₂_map_right_iff.2 (List.forall₂_same.2 fun b _ => isMaskOf_feedOrSpace b)
    · cases closed with
      | true => exact forall₂_isMaskOf_replicate [0x2a, 0x2f]
      | false => exact .nil
  | literal quote pieces ending =>
    refine .cons (.inl rfl) (List.rel_append ?_ (ending.forall₂_isMaskOf quote))
    exact List.rel_flatMap (List.forall₂_same.2 fun _ _ => rfl)
      fun piece _ h => h ▸ piece.forall₂_isMaskOf

/-- The bytes of a glyph in a masked text. -/
def Glyph.maskedBytes (g : Glyph) : List Nat :=
  if g.visible then encodeChar g.char else List.replicate (width g.char) 0x20

theorem encode_blanked (gs : List Glyph) : encode (blanked gs) = gs.flatMap Glyph.maskedBytes := by
  induction gs with
  | nil => rfl
  | cons g gs ih =>
    obtain ⟨c, visible⟩ := g
    rw [List.flatMap_cons, ← ih]
    cases visible with
    | true => exact encode_blanked_cons_visible c gs
    | false => exact encode_blanked_cons_hidden c gs

/-- **A character is kept whole or blanked whole.** -/
theorem exists_masked_characters (source : List Char) :
    ∃ outs : List (List Nat), encode (mask source) = outs.flatten ∧
      List.Forall₂ (fun c out => out = encodeChar c ∨ out = List.replicate (width c) 0x20)
        source outs := by
  refine ⟨(glyphs source).map Glyph.maskedBytes, ?_, ?_⟩
  · rw [mask_eq_blanked, encode_blanked, List.flatMap_def]
  · have hglyphs : List.Forall₂ (fun c out => out = encodeChar c ∨ out = List.replicate (width c) 0x20)
        ((glyphs source).map Glyph.char) ((glyphs source).map Glyph.maskedBytes) := by
      rw [List.forall₂_map_left_iff, List.forall₂_map_right_iff, List.forall₂_same]
      intro g _
      rw [Glyph.maskedBytes]
      split
      · exact .inl rfl
      · exact .inr rfl
    rwa [glyphs, map_char_glyphsIn] at hglyphs

/-- **Masking is masking token by token.** Each text is cut into tokens in one way only, and masking
writes the masked bytes of each of them, in place and one by one as they are or as spaces. So the masked
text is as long as the source in bytes, keeps or blanks each character as a whole, and is well formed:
what is masked on the bytes never falls back on the source. -/
theorem masking_matches_tokens (source : List Char) :
    (∃! tokens, Token.Decomposes tokens (encode source)) ∧
    (∃ tokens, Token.Decomposes tokens (encode source) ∧
      encode (mask source) = tokens.flatMap Token.masked ∧
      ∀ token ∈ tokens, List.Forall₂ IsMaskOf token.text token.masked) ∧
    byteSize (mask source) = byteSize source ∧
    List.Forall₂ IsMaskOf (encode source) (encode (mask source)) ∧
    (∃ outs : List (List Nat), encode (mask source) = outs.flatten ∧
      List.Forall₂ (fun c out => out = encodeChar c ∨ out = List.replicate (width c) 0x20)
        source outs) ∧
    decode? (maskBytes (encode source)) = some (mask source) ∧
    maskThroughBytes source = mask source := by
  obtain ⟨tokens, htokens⟩ := Token.exists_decomposes (encode source)
  have hmasked : encode (mask source) = tokens.flatMap Token.masked := by
    rw [← maskBytes_encode, Token.maskBytes_of_decomposes htokens]
  have hbytes : List.Forall₂ IsMaskOf (encode source) (encode (mask source)) := by
    rw [hmasked, htokens.flatMap_text]
    exact List.rel_flatMap (List.forall₂_same.2 fun _ _ => rfl)
      fun token _ h => h ▸ token.forall₂_isMaskOf
  refine ⟨⟨tokens, htokens, fun other h => h.unique htokens⟩,
    ⟨tokens, htokens, hmasked, fun token _ => token.forall₂_isMaskOf⟩, ?_, hbytes,
    exists_masked_characters source, decode?_maskBytes source, maskThroughBytes_eq_mask source⟩
  rw [← length_encode, ← length_encode, hbytes.length_eq]

end GasAdvisor
