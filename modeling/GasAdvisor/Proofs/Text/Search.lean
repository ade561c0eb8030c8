import GasAdvisor.Proofs.Text.Spans

/-!
# What a search finds

A search goes through a text from left to right (`hitsFrom`), and this is known of what it finds.

* Every hit stands where `find` succeeds (`exists_of_mem_hitsFrom`), and the hits follow one another
  without overlap (`hitsFrom_pairwise`), so there are no more of them than characters
  (`length_hitsFrom_le`).
* A search word by word finds what stands where no word goes on (`hitsByWord_ne_nil`).
* A search can be followed piece by piece: a stretch in which nothing is found is passed over
  (`hitsFrom_append_of_none`), and a match is one hit (`hitsFrom_append_of_some`).
* A search that keeps only part of what it finds has the same hits (`hitsFrom_map`).
* Replacement goes on after a match as a search does (`Shape.replaceFrom_append_of_some`).
* Hits are counted apart before and after a character that no match holds (`length_hits_append_cons`).

A search for one thing alone (`firstFrom`) stops at the first place where `find` succeeds
(`first?_eq_some_iff`), and passes over what stands before it (`firstFrom_append_of_none`); whether there
is such a place is what `isSome_first?_iff` says. A search has hits under the same condition
(`hits_ne_nil_iff`).
-/

namespace GasAdvisor.Text

variable {α : Type} {find : Option Char → List Char → Option (α × Nat)}
  {barren : List Char → Nat}

theorem getLast?_cons_or (c : Char) (s : List Char) (before : Option Char) :
    (c :: s).getLast?.or before = s.getLast?.or (some c) := by
  cases s with
  | nil => simp
  | cons d s => simp [List.getLast?_cons]

/-! ## Where hits stand -/

/-- **Every hit stands where the search succeeds**, and not among the characters passed over. -/
theorem exists_of_mem_hitsFrom {before : Option Char} {index skip : Nat} {s : List Char}
    {hit : Hit α} (h : hit ∈ hitsFrom find barren before index skip s) :
    ∃ u v size, s = u ++ v ∧ hit.index = index + u.length ∧ skip ≤ u.length ∧
      find (u.getLast?.or before) v = some (hit.value, size) := by
  induction s generalizing before index skip with
  | nil => simp [hitsFrom] at h
  | cons c s ih =>
    -- a hit in the rest of the text, put after the character at the front
    have later {skip' : Nat} (hs : skip ≤ skip' + 1)
        (h : hit ∈ hitsFrom find barren (some c) (index + 1) skip' s) :
        ∃ u v size, c :: s = u ++ v ∧ hit.index = index + u.length ∧ skip ≤ u.length ∧
          find (u.getLast?.or before) v = some (hit.value, size) := by
      obtain ⟨u, v, size, rfl, hi, hle, hf⟩ := ih h
      refine ⟨c :: u, v, size, rfl, ?_, ?_, ?_⟩
      · rw [List.length_cons]; omega
      · rw [List.length_cons]; omega
      · rw [getLast?_cons_or]; exact hf
    cases skip with
    | succ skip => exact later (Nat.le_refl _) h
    | zero =>
      rw [hitsFrom] at h
      split at h
      · next value size hf =>
        rcases List.mem_cons.1 h with rfl | h
        · exact ⟨[], c :: s, size, rfl, rfl, Nat.zero_le _, hf⟩
        · exact later (Nat.zero_le _) h
      · exact later (Nat.zero_le _) h

theorem le_index_of_mem_hitsFrom {before : Option Char} {index skip : Nat} {s : List Char}
    {hit : Hit α} (h : hit ∈ hitsFrom find barren before index skip s) :
    index + skip ≤ hit.index := by
  obtain ⟨u, v, size, -, hi, hle, -⟩ := exists_of_mem_hitsFrom h
  omega

/-- **Hits do not overlap**, where the value of a hit tells how much it takes at least. -/
theorem hitsFrom_pairwise (sizeOf : α → Nat)
    (hsize : ∀ before s value size, find before s = some (value, size) → sizeOf value ≤ size)
    (before : Option Char) (index skip : Nat) (s : List Char) :
    (hitsFrom find barren before index skip s).Pairwise fun hit next =>
      hit.index + max 1 (sizeOf hit.value) ≤ next.index := by
  induction s generalizing before index skip with
  | nil => simp [hitsFrom]
  | cons c s ih =>
    cases skip with
    | succ skip => exact ih _ _ _
    | zero =>
      rw [hitsFrom]
      split
      · next value size hf =>
        refine List.Pairwise.cons (fun next hn => ?_) (ih _ _ _)
        have hle := le_index_of_mem_hitsFrom hn
        have hv := hsize _ _ _ _ hf
        show index + max 1 (sizeOf value) ≤ next.index
        omega
      · exact ih _ _ _

/-- **There are no more hits than characters.** -/
theorem length_hitsFrom_le (before : Option Char) (index skip : Nat) (s : List Char) :
    (hitsFrom find barren before index skip s).length ≤ s.length := by
  induction s generalizing before index skip with
  | nil => simp [hitsFrom]
  | cons c s ih =>
    rw [List.length_cons]
    cases skip with
    | succ skip => exact (ih _ _ _).trans (Nat.le_succ _)
    | zero =>
      rw [hitsFrom]
      split
      · exact Nat.succ_le_succ (ih _ _ _)
      · exact (ih _ _ _).trans (Nat.le_succ _)

/-! ## Following a search -/

/-- The characters that belong to the hit before are passed over. -/
theorem hitsFrom_skip (before : Option Char) (index : Nat) (a b : List Char) :
    hitsFrom find barren before index a.length (a ++ b) =
      hitsFrom find barren (a.getLast?.or before) (index + a.length) 0 b := by
  induction a generalizing before index with
  | nil => simp
  | cons c a ih =>
    rw [getLast?_cons_or, List.length_cons, List.cons_append, hitsFrom, ih]
    congr 1
    omega

/-- **A stretch in which nothing is found is passed over.** -/
theorem hitsFrom_append_of_none (before : Option Char) (index : Nat) (a b : List Char)
    (h : ∀ u v, a = u ++ v → v ≠ [] → ∀ before, find before (v ++ b) = none) :
    hitsFrom find (fun _ => 0) before index 0 (a ++ b) =
      hitsFrom find (fun _ => 0) (a.getLast?.or before) (index + a.length) 0 b := by
  induction a generalizing before index with
  | nil => simp
  | cons c a ih =>
    have hc : find before (c :: (a ++ b)) = none := h [] (c :: a) rfl (by simp) before
    have ha : ∀ u v, a = u ++ v → v ≠ [] → ∀ before, find before (v ++ b) = none :=
      fun u v e hv => h (c :: u) v (by rw [e, List.cons_append]) hv
    rw [getLast?_cons_or, List.cons_append, hitsFrom, hc]
    show hitsFrom find _ (some c) (index + 1) 0 (a ++ b) = _
    rw [ih _ _ ha, List.length_cons]
    congr 1
    omega

/-- **A match is one hit**, and the search goes on after it. -/
theorem hitsFrom_append_of_some {before : Option Char} {a b : List Char} {value : α}
    (ha : a ≠ []) (h : find before (a ++ b) = some (value, a.length)) (index : Nat) :
    hitsFrom find barren before index 0 (a ++ b) =
      ⟨index, value⟩ :: hitsFrom find barren (a.getLast?.or before) (index + a.length) 0 b := by
  cases a with
  | nil => exact absurd rfl ha
  | cons c a =>
    rw [List.cons_append] at h
    rw [List.cons_append, hitsFrom, h]
    show _ :: hitsFrom find barren (some c) (index + 1) (a.length + 1 - 1) (a ++ b) = _
    rw [Nat.add_sub_cancel, hitsFrom_skip, getLast?_cons_or, List.length_cons]
    congr 2
    omega

/-- **A match is replaced by the image**, and the search goes on after it. -/
theorem Shape.replaceFrom_append_of_some {shape : Shape} {before : Option Char} {a b rest : List Char}
    (image : List Char) (ha : a ≠ []) (h : shape before (a ++ b) = some (a, rest)) :
    shape.replaceFrom image before 0 (a ++ b) =
      image ++ shape.replaceFrom image (a.getLast?.or before) 0 b := by
  have hskip : ∀ (a : List Char) (before : Option Char), shape.replaceFrom image before a.length (a ++ b) =
      shape.replaceFrom image (a.getLast?.or before) 0 b := by
    intro a
    induction a with
    | nil => simp
    | cons c a ih =>
      intro before
      rw [getLast?_cons_or, List.length_cons, List.cons_append, replaceFrom, ih]
  cases a with
  | nil => exact absurd rfl ha
  | cons c a =>
    rw [List.cons_append] at h
    rw [List.cons_append, replaceFrom, h]
    show image ++ shape.replaceFrom image (some c) (a.length + 1 - 1) (a ++ b) = _
    rw [Nat.add_sub_cancel, hskip, getLast?_cons_or]

/-! ## Searching word by word -/

/-- What a failure at one character of a word passes over ends with the word. -/
theorem restOfWord_append_le {c : Char} {u : List Char} (hu : EndsWords (c :: u))
    (v : List Char) : restOfWord (c :: (u ++ v)) ≤ (u.takeWhile isWord).length := by
  rw [restOfWord]
  split
  · next hc =>
    -- the word ends within `u`, as the last character there belongs to none
    have hend : ¬ ∀ d ∈ u, isWord d = true := by
      intro hall
      have hlast := List.getLast_mem (List.cons_ne_nil c u)
      rw [EndsWords, List.getLast?_eq_some_getLast (List.cons_ne_nil c u), Option.any_some] at hu
      rcases List.mem_cons.1 hlast with h | h
      · rw [h, hc] at hu
        cases hu
      · rw [hall _ h] at hu
        cases hu
    have hprefix : (u ++ v).takeWhile isWord = u.takeWhile isWord := by
      rw [List.takeWhile_append]
      split
      · next hall =>
        have hwhole := (List.takeWhile_prefix isWord).eq_of_length hall
        exact absurd (fun d hd => of_mem_takeWhile (hwhole.symm ▸ hd)) hend
      · rfl
    exact (congrArg List.length hprefix).le
  · exact Nat.zero_le _

/-- **A search word by word finds what stands where no word goes on.** What carries it there is that
the characters passed over belong to a word that ends before. -/
theorem hitsFrom_restOfWord_ne_nil {before : Option Char} {u v : List Char} (hne : v ≠ [])
    (hu : EndsWords u)
    (h : (find (u.getLast?.or before) v).isSome = true) (index : Nat) {skip : Nat}
    (hskip : skip ≤ (u.takeWhile isWord).length) :
    hitsFrom find restOfWord before index skip (u ++ v) ≠ [] := by
  induction u generalizing before index skip with
  | nil =>
    obtain rfl : skip = 0 := Nat.le_zero.1 hskip
    obtain ⟨c, v, rfl⟩ := List.exists_cons_of_ne_nil hne
    obtain ⟨found, hfound⟩ := Option.isSome_iff_exists.1 h
    change find before (c :: v) = some found at hfound
    rw [List.nil_append, hitsFrom, hfound]
    exact List.cons_ne_nil _ _
  | cons c u ih =>
    have hu' : EndsWords u := by
      cases u with
      | nil => rfl
      | cons d u => rwa [EndsWords, List.getLast?_cons_cons] at hu
    rw [getLast?_cons_or] at h
    rw [List.cons_append]
    cases skip with
    | succ skip =>
      rw [hitsFrom]
      refine ih hu' h (index + 1) ?_
      cases hc : isWord c <;> simp_all
    | zero =>
      rw [hitsFrom]
      split
      · exact List.cons_ne_nil _ _
      · exact ih hu' h (index + 1) (restOfWord_append_le hu v)

theorem hitsByWord_ne_nil {u v : List Char} (hne : v ≠ []) (hu : EndsWords u)
    (h : (find u.getLast? v).isSome = true) : hitsByWord find (u ++ v) ≠ [] :=
  hitsFrom_restOfWord_ne_nil hne hu (by rwa [Option.or_none]) 0 (Nat.zero_le _)

/-! ## Comparing searches -/

/-- **A search for part of what another one finds has its hits**, each with that part. -/
theorem hitsFrom_map {β : Type} {find' : Option Char → List Char → Option (β × Nat)} (part : α → β)
    (h : ∀ before s, find' before s = (find before s).map fun (value, size) => (part value, size))
    (before : Option Char) (index skip : Nat) (s : List Char) :
    hitsFrom find' barren before index skip s =
      (hitsFrom find barren before index skip s).map fun hit => ⟨hit.index, part hit.value⟩ := by
  induction s generalizing before index skip with
  | nil => rfl
  | cons c s ih =>
    cases skip with
    | succ skip => exact ih _ _ _
    | zero =>
      rw [hitsFrom, hitsFrom, h]
      cases find before (c :: s) with
      | none => exact ih _ _ _
      | some found => exact congrArg _ (ih _ _ _)

/-! ## The first thing found -/

section First

variable {find : Option Char → List Char → Option α} {before : Option Char} {s : List Char}
  {value : α}

/-- **The first thing found stands where the search succeeds, and it fails at all earlier places.** -/
theorem firstFrom_eq_some_iff :
    firstFrom find before s = some value ↔
      ∃ u v, s = u ++ v ∧ v ≠ [] ∧ find (u.getLast?.or before) v = some value ∧
        ∀ u' v', s = u' ++ v' → u'.length < u.length → find (u'.getLast?.or before) v' = none := by
  induction s generalizing before with
  | nil =>
    simp only [firstFrom, reduceCtorEq, false_iff]
    rintro ⟨u, v, hs, hv, -⟩
    exact hv (List.append_eq_nil_iff.1 hs.symm).2
  | cons c s ih =>
    rw [firstFrom]
    cases hc : find before (c :: s) with
    | some found =>
      show some found = some value ↔ _
      constructor
      · intro hfound
        refine ⟨[], c :: s, rfl, by simp, by rw [← hfound, ← hc]; rfl, fun u' v' _ hlt => ?_⟩
        exact absurd hlt (Nat.not_lt_zero _)
      · rintro ⟨u, v, hs, -, hv, hearlier⟩
        cases u with
        | nil =>
          obtain rfl : c :: s = v := hs
          rw [← hv, ← hc]
          rfl
        | cons d u =>
          have hnone := hearlier [] (c :: s) rfl (Nat.succ_pos _)
          rw [List.getLast?_nil, Option.none_or, hc] at hnone
          cases hnone
    | none =>
      show firstFrom find (some c) s = some value ↔ _
      rw [ih]
      constructor
      · rintro ⟨u, v, rfl, hne, hv, hearlier⟩
        refine ⟨c :: u, v, rfl, hne, by rw [getLast?_cons_or]; exact hv, fun u' v' hs hlt => ?_⟩
        cases u' with
        | nil =>
          obtain rfl : c :: (u ++ v) = v' := hs
          exact hc
        | cons d u' =>
          obtain ⟨rfl, hrest⟩ := List.cons.inj hs
          rw [getLast?_cons_or]
          exact hearlier u' v' hrest (Nat.lt_of_succ_lt_succ hlt)
      · rintro ⟨u, v, hs, hne, hv, hearlier⟩
        cases u with
        | nil =>
          obtain rfl : c :: s = v := hs
          have hsome : find before (c :: s) = some value := hv
          rw [hc] at hsome
          cases hsome
        | cons d u =>
          obtain ⟨rfl, rfl⟩ := List.cons.inj hs
          rw [getLast?_cons_or] at hv
          refine ⟨u, v, rfl, hne, hv, fun u' v' hs hlt => ?_⟩
          rw [← getLast?_cons_or]
          exact hearlier (c :: u') v' (by rw [hs]; rfl) (Nat.succ_lt_succ hlt)

/-- A search that can succeed somewhere finds something. -/
theorem isSome_firstFrom_append {u v : List Char} (hne : v ≠ [])
    (h : (find (u.getLast?.or before) v).isSome = true) :
    (firstFrom find before (u ++ v)).isSome = true := by
  induction u generalizing before with
  | nil =>
    cases v with
    | nil => exact absurd rfl hne
    | cons c v =>
      obtain ⟨found, hfound⟩ := Option.isSome_iff_exists.1 h
      have hfront : find before (c :: v) = some found := hfound
      rw [List.nil_append, firstFrom, hfront]
      rfl
  | cons c u ih =>
    rw [getLast?_cons_or] at h
    rw [List.cons_append, firstFrom]
    split
    · rfl
    · exact ih h

theorem first?_eq_some_iff :
    first? find s = some value ↔
      ∃ u v, s = u ++ v ∧ v ≠ [] ∧ find u.getLast? v = some value ∧
        ∀ u' v', s = u' ++ v' → u'.length < u.length → find u'.getLast? v' = none := by
  rw [first?, firstFrom_eq_some_iff]
  simp only [Option.or_none]

/-- **A search passes over a stretch in which nothing is found.** -/
theorem firstFrom_append_of_none {a b : List Char}
    (h : ∀ u v, a = u ++ v → v ≠ [] → ∀ before, find before (v ++ b) = none) :
    firstFrom find before (a ++ b) = firstFrom find (a.getLast?.or before) b := by
  induction a generalizing before with
  | nil => rfl
  | cons c a ih =>
    have hc : find before (c :: (a ++ b)) = none :=
      h [] (c :: a) rfl (List.cons_ne_nil c a) before
    have ha : ∀ u v, a = u ++ v → v ≠ [] → ∀ before, find before (v ++ b) = none :=
      fun u v huv hne => h (c :: u) v (congrArg (c :: ·) huv) hne
    rw [getLast?_cons_or, List.cons_append, firstFrom, hc]
    exact ih ha

/-- What is found at the front of a text is found first. -/
theorem firstFrom_of_some {c : Char} (h : find before (c :: s) = some value) :
    firstFrom find before (c :: s) = some value := by
  rw [firstFrom, h]

/-- **Something is found exactly if the search succeeds at some place.** -/
theorem isSome_first?_iff :
    (first? find s).isSome = true ↔
      ∃ u v, s = u ++ v ∧ v ≠ [] ∧ (find u.getLast? v).isSome = true := by
  constructor
  · intro h
    obtain ⟨value, hvalue⟩ := Option.isSome_iff_exists.1 h
    obtain ⟨u, v, hs, hne, hv, -⟩ := first?_eq_some_iff.1 hvalue
    exact ⟨u, v, hs, hne, by rw [hv]; rfl⟩
  · rintro ⟨u, v, rfl, hne, hv⟩
    exact isSome_firstFrom_append hne (by rwa [Option.or_none])

/-- **The first part of what another search finds first.** -/
theorem firstFrom_map {β : Type} {find' : Option Char → List Char → Option β} (part : α → β)
    (h : ∀ before s, find' before s = (find before s).map part) (before : Option Char)
    (s : List Char) : firstFrom find' before s = (firstFrom find before s).map part := by
  induction s generalizing before with
  | nil => rfl
  | cons c s ih =>
    rw [firstFrom, firstFrom, h]
    cases find before (c :: s) with
    | none => exact ih _
    | some found => rfl

end First

/-! ## Counting hits -/

/-- **A search has hits exactly if it succeeds somewhere.** -/
theorem hits_ne_nil_iff {s : List Char} :
    hits find s ≠ [] ↔ ∃ u v, s = u ++ v ∧ v ≠ [] ∧ (find u.getLast? v).isSome = true := by
  have hfrom (before : Option Char) (index : Nat) :
      hitsFrom find (fun _ => 0) before index 0 s ≠ [] ↔
        (firstFrom find before s).isSome = true := by
    induction s generalizing before index with
    | nil => simp [hitsFrom, firstFrom]
    | cons c s ih =>
      rw [hitsFrom, firstFrom]
      cases find before (c :: s) with
      | none => exact ih _ _
      | some found => exact ⟨fun _ => rfl, fun _ => List.cons_ne_nil _ _⟩
  exact (hfrom none 0).trans isSome_first?_iff

/-- Where a text stands does not change the number of its hits. -/
theorem length_hitsFrom_index (before : Option Char) (index index' skip : Nat) (s : List Char) :
    (hitsFrom find barren before index skip s).length =
      (hitsFrom find barren before index' skip s).length := by
  induction s generalizing before index index' skip with
  | nil => rfl
  | cons c s ih =>
    cases skip with
    | succ skip => exact ih _ _ _ _
    | zero =>
      rw [hitsFrom, hitsFrom]
      cases find before (c :: s) with
      | none => exact ih _ _ _ _
      | some found => exact congrArg Nat.succ (ih _ _ _ _)

/-- **At a character that no match holds, a search can be cut in two.** What stands from that character on
does not change what is found before it. -/
theorem length_hits_append_cons {c : Char} (hnone : ∀ before s, find before (c :: s) = none)
    (hbefore : ∀ before a b, a ≠ [] →
      (find before (a ++ c :: b)).map Prod.snd = (find before a).map Prod.snd)
    (hwithin : ∀ before a found, find before a = some found → found.2 ≤ a.length)
    (a b : List Char) :
    (hits find (a ++ c :: b)).length = (hits find a).length + (hits find (c :: b)).length := by
  have hfrom (before : Option Char) (index skip : Nat) (hskip : skip ≤ a.length) :
      (hitsFrom find (fun _ => 0) before index skip (a ++ c :: b)).length =
        (hitsFrom find (fun _ => 0) before index skip a).length + (hits find (c :: b)).length := by
    induction a generalizing before index skip with
    | nil =>
      obtain rfl : skip = 0 := Nat.le_zero.1 hskip
      rw [hits, List.nil_append, hitsFrom, hitsFrom, hitsFrom, hnone, hnone, List.length_nil,
        Nat.zero_add]
      exact length_hitsFrom_index _ _ _ _ _
    | cons d a ih =>
      cases skip with
      | succ skip => exact ih _ _ _ (Nat.le_of_succ_le_succ hskip)
      | zero =>
        have hsame := hbefore before (d :: a) b (List.cons_ne_nil d a)
        rw [List.cons_append] at hsame
        rw [List.cons_append, hitsFrom, hitsFrom]
        cases hfound : find before (d :: a) with
        | none =>
          rw [hfound, Option.map_none, Option.map_eq_none_iff] at hsame
          rw [hsame]
          exact ih _ _ _ (Nat.zero_le _)
        | some found =>
          rw [hfound, Option.map_some, Option.map_eq_some_iff] at hsame
          obtain ⟨found', hfound', hsize⟩ := hsame
          have hle := hwithin before (d :: a) found hfound
          rw [List.length_cons] at hle
          rw [hfound']
          dsimp only
          rw [hsize, List.length_cons, List.length_cons, ih _ _ _ (by omega)]
          omega
  exact hfrom none 0 0 (Nat.zero_le _)

/-! ## Fixed texts -/

/-- **A text mentions what is a part of it.** -/
theorem mentions_iff {part text : List Char} : mentions part text = true ↔ part <:+: text := by
  induction text with
  | nil => simp [mentions]
  | cons c text ih =>
    rw [mentions, Bool.or_eq_true, ih, List.isPrefixOf_iff_prefix, List.infix_cons_iff]

end GasAdvisor.Text
