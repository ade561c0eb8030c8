import GasAdvisor.Contract.Slicing
import GasAdvisor.Proofs.Contract.Places

/-!
# Qualifiers found again

A header is read with its qualifiers, but their places are those of a second search, in the text of the
qualifiers alone. That search finds the same qualifiers, each from its word on
(`FoundQualifier.all_textOf`): where they follow one another nothing more than white space stands
between them, and at white space no qualifier is found.

What is sliced out of the source at these places is what the cells of the qualifiers stand for
(`PlacedQualifier.slice?_whole`, `PlacedQualifier.slice?_arguments`). The white space after a word may
be a hidden comment, but it is taken up to a character that is none, so it ends at a seam
(`Scanning.isSeam_body`).
-/

namespace GasAdvisor

open Text

/-- A step that may fail does not fail on what is picked from a list if it succeeds on each pick. -/
theorem mapM_filterMap {α β γ : Type} {xs : List α} {f : α → Option β} {k : β → Option γ}
    {g : α → Option γ} (h : ∀ x ∈ xs, (f x).map k = (g x).map some) :
    (xs.filterMap f).mapM k = some (xs.filterMap g) := by
  induction xs with
  | nil => rfl
  | cons x xs ih =>
    have hx := h x List.mem_cons_self
    have hxs := ih fun y hy => h y (List.mem_cons_of_mem x hy)
    cases hf : f x with
    | none =>
      have hg : g x = none := by simpa [hf] using hx
      rw [List.filterMap_cons_none hf, List.filterMap_cons_none hg, hxs]
    | some y =>
      obtain ⟨z, hg, hk⟩ : ∃ z, g x = some z ∧ k y = some z := by
        rw [hf] at hx
        obtain ⟨z, hg, hz⟩ := Option.map_eq_some_iff.1 hx.symm
        exact ⟨z, hg, hz.symm⟩
      rw [List.filterMap_cons_some hf, List.filterMap_cons_some hg, List.mapM_cons, hk, hxs]
      rfl

/-! ## Searching the text of qualifiers -/

namespace Qualifier

/-- A qualifier without the white space before it. -/
def bare (q : Qualifier) : Qualifier :=
  { q with lead := [] }

theorem WellFormed.bare {q : Qualifier} (hq : q.WellFormed) : q.bare.WellFormed :=
  ⟨nofun, hq.word_ne, hq.word, hq.gap, hq.arguments⟩

theorem WellFormed.body_ne_nil {q : Qualifier} (hq : q.WellFormed) : q.body ≠ [] := fun h =>
  hq.word_ne (List.append_eq_nil_iff.1 (List.append_eq_nil_iff.1 h).1).1

theorem lead_of_read? {s rest : List Char} {q : Qualifier} (h : read? s = some (q, rest)) :
    q.lead = s.takeWhile isBlank := by
  simp only [read?] at h
  split at h
  · cases h
  · split at h
    · split at h <;> (obtain ⟨rfl, -⟩ := Prod.mk.inj (Option.some.inj h); rfl)
    · obtain ⟨rfl, -⟩ := Prod.mk.inj (Option.some.inj h)
      rfl

end Qualifier

namespace PlacedQualifier

/-- Places are counted from where the first qualifier stands. -/
theorem place_add (offset start : Nat) (qs : List Qualifier) :
    place (offset + start) qs =
      (place start qs).map fun p => ⟨offset + p.start, p.qualifier⟩ := by
  induction qs generalizing start with
  | nil => rfl
  | cons q qs ih => rw [place, place, List.map_cons, Nat.add_assoc, ih]

/-- A qualifier stands at its place, and what follows it is no part of it. -/
theorem exists_of_mem_place {p : PlacedQualifier} {start : Nat} {qs : List Qualifier}
    {rest : List Char} (hqs : Qualifier.Separated qs rest) (h : p ∈ place start qs) :
    ∃ u v, Qualifier.textOf qs = u ++ (p.qualifier.text ++ v) ∧ p.start = start + u.length ∧
      p.qualifier.WellFormed ∧ p.qualifier.Ends (v ++ rest) := by
  induction qs generalizing start with
  | nil => cases h
  | cons q qs ih =>
    obtain ⟨hq, hend, hmore⟩ := hqs
    rcases List.mem_cons.1 h with rfl | h
    · exact ⟨[], Qualifier.textOf qs, rfl, rfl, hq, hend⟩
    · obtain ⟨u, v, htext, hstart, hrest⟩ := ih hmore h
      refine ⟨q.text ++ u, v, ?_, ?_, hrest⟩
      · rw [Qualifier.textOf, List.flatMap_cons, List.append_assoc]
        exact congrArg _ htext
      · rw [hstart, List.length_append, Nat.add_assoc]

/-- A qualifier as it is found when the text of qualifiers is searched. -/
def found (list : List Char) (p : PlacedQualifier) : FoundQualifier :=
  .place list (p.start + p.qualifier.lead.length) p.qualifier.bare

end PlacedQualifier

namespace FoundQualifier

/-- No qualifier is found at white space. -/
theorem find_of_isBlank {c : Char} (hc : isBlank c = true) (s : List Char) :
    find (c :: s) = none := by
  unfold find
  split
  · rfl
  · next q rest hread =>
    rw [Qualifier.lead_of_read? hread, List.takeWhile_cons_of_pos hc]
    rfl

/-- White space is passed over. -/
theorem hitsFrom_blank_append {gap : List Char} (hgap : ∀ c ∈ gap, isBlank c = true)
    (before : Option Char) (index : Nat) (s : List Char) :
    hitsFrom (fun _ s => find s) (fun _ => 0) before index 0 (gap ++ s) =
      hitsFrom (fun _ s => find s) (fun _ => 0) (gap.getLast?.or before) (index + gap.length) 0 s := by
  refine hitsFrom_append_of_none before index gap s fun u v hsplit hv _ => ?_
  obtain ⟨c, v, rfl⟩ := List.exists_cons_of_ne_nil hv
  exact find_of_isBlank (hgap c (by rw [hsplit]; simp)) _

/-- A qualifier is found at its word. -/
theorem find_body_append {q : Qualifier} (hq : q.WellFormed) {rest : List Char}
    (hend : q.Ends rest) : find (q.body ++ rest) = some (q.bare, q.body.length) := by
  have hread : Qualifier.read? (q.body ++ rest) = some (q.bare, rest) :=
    Qualifier.read?_text_append hq.bare hend
  rw [find, hread]
  rfl

/-- **Searching the text of qualifiers finds them again**, each without the white space before it. -/
theorem hitsFrom_textOf {qs : List Qualifier} (h : Qualifier.Separated qs [])
    (before : Option Char) (index : Nat) :
    hitsFrom (fun _ s => find s) (fun _ => 0) before index 0 (Qualifier.textOf qs) =
      (PlacedQualifier.place index qs).map fun p =>
        ⟨p.start + p.qualifier.lead.length, p.qualifier.bare⟩ := by
  induction qs generalizing before index with
  | nil => rfl
  | cons q qs ih =>
    obtain ⟨hq, hend, hqs⟩ := h
    rw [List.append_nil] at hend
    have htext : Qualifier.textOf (q :: qs) = q.lead ++ (q.body ++ Qualifier.textOf qs) := by
      rw [Qualifier.textOf, List.flatMap_cons, Qualifier.text, List.append_assoc]
      rfl
    rw [htext, hitsFrom_blank_append hq.lead,
      hitsFrom_append_of_some hq.body_ne_nil (find_body_append hq hend), ih hqs, PlacedQualifier.place,
      List.map_cons, Qualifier.text, List.length_append, Nat.add_assoc]

theorem all_textOf {qs : List Qualifier} (h : Qualifier.Separated qs []) :
    all (Qualifier.textOf qs) =
      (PlacedQualifier.place 0 qs).map (·.found (Qualifier.textOf qs)) := by
  rw [all, hits, hitsFrom_textOf h, List.map_map]
  rfl

end FoundQualifier

/-! ## Slices of qualifiers -/

/-- A qualifier stands between seams, from its word on: what follows its white space is none. -/
theorem Scanning.isSeam_body {scanning : Scanning} {source u v : List Char} {q : Qualifier}
    (hq : q.WellFormed) (hend : q.Ends v) (hv : v ≠ [])
    (h : scanning.scan source = u ++ (q.body ++ v)) :
    scanning.IsSeam source u.length ∧ scanning.IsSeam source (u.length + q.body.length) := by
  constructor
  · refine isSeam_of_stops h (by simp [hv]) ?_
    rw [Qualifier.body, List.append_assoc, List.append_assoc]
    exact stops_isBlank_of_word hq.word_ne hq.word
  · rw [← List.length_append]
    cases ha : q.arguments with
    | none => exact isSeam_of_stops (by rw [h, List.append_assoc]) hv (hend ha).1
    | some arguments =>
      have hclosing : scanning.scan source =
          (u ++ (q.word ++ q.gap ++ '(' :: arguments)) ++ ')' :: v := by
        rw [h, Qualifier.body, Qualifier.argumentsText, ha]
        simp only [List.append_assoc, List.cons_append, List.nil_append]
      have hlength : (u ++ q.body).length =
          (u ++ (q.word ++ q.gap ++ '(' :: arguments)).length + 1 := by
        rw [Qualifier.body, Qualifier.argumentsText, ha]
        simp only [List.length_append, List.length_cons, List.length_nil]
        omega
      rw [hlength]
      exact (isSeam_of_char hclosing (by decide)).2

namespace PlacedQualifier

variable {scanning : Scanning} {source front rest : List Char} {qs : List Qualifier}
  {p : PlacedQualifier}

/-- A qualifier at its place in the whole text, when it is placed in the text of qualifiers. -/
def behind (front : List Char) (p : PlacedQualifier) : PlacedQualifier :=
  ⟨front.length + p.start, p.qualifier⟩

/-- Where a qualifier stands from its word on. -/
theorem exists_splits_body (hqs : Qualifier.Separated qs rest) (h : p ∈ place 0 qs) :
    ∃ before after, Qualifier.textOf qs = before ++ (p.qualifier.body ++ after) ∧
      before.length = p.start + p.qualifier.lead.length ∧ p.qualifier.WellFormed ∧
      p.qualifier.Ends (after ++ rest) := by
  obtain ⟨u, v, htext, hstart, hq⟩ := exists_of_mem_place hqs h
  refine ⟨u ++ p.qualifier.lead, v, ?_, ?_, hq⟩
  · rw [htext, Qualifier.text]
    simp only [List.append_assoc]
  · rw [List.length_append]
    omega

/-- Where the arguments of a qualifier stand. -/
theorem exists_splits_arguments (hqs : Qualifier.Separated qs rest) (h : p ∈ place 0 qs)
    {arguments : List Char} (ha : p.qualifier.arguments = some arguments) :
    ∃ before after, Qualifier.textOf qs = before ++ '(' :: (arguments ++ ')' :: after) ∧
      before.length + 1 = p.start + p.qualifier.lead.length +
        (p.qualifier.word.length + p.qualifier.gap.length + 1) := by
  obtain ⟨before, after, htext, hstart, -⟩ := exists_splits_body hqs h
  refine ⟨before ++ (p.qualifier.word ++ p.qualifier.gap), after, ?_, ?_⟩
  · rw [htext, Qualifier.body, Qualifier.argumentsText, ha]
    simp only [List.append_assoc, List.cons_append, List.nil_append]
  · simp only [List.length_append]
    omega

/-- **A qualifier is sliced out of the source.** -/
theorem slice?_whole (hscan : scanning.scan source = front ++ (Qualifier.textOf qs ++ rest))
    (hqs : Qualifier.Separated qs rest) (hrest : rest ≠ []) (h : p ∈ place 0 qs) :
    slice? source ((p.found (Qualifier.textOf qs)).whole.shift (byteSize front)) =
      some ((p.behind front).source (scanning.cells source)) := by
  obtain ⟨before, after, htext, hstart, hq, hend⟩ := exists_splits_body hqs h
  have hfits : before.length + p.qualifier.body.length ≤ (Qualifier.textOf qs).length := by
    rw [htext]
    simp only [List.length_append]
    omega
  have hsplit : scanning.scan source =
      (front ++ before) ++ (p.qualifier.body ++ (after ++ rest)) := by
    rw [hscan, htext]
    simp only [List.append_assoc]
  obtain ⟨hfirst, hlast⟩ := Scanning.isSeam_body hq hend (by simp [hrest]) hsplit
  have hslice := Scanning.slice?_of_isSeam hfirst hlast
  rw [List.length_append, hscan, ← shift_spanAt hfits front rest, hstart, ← Nat.add_assoc] at hslice
  exact hslice

/-- **The arguments of a qualifier are sliced out of the source.** -/
theorem slice?_arguments (hscan : scanning.scan source = front ++ (Qualifier.textOf qs ++ rest))
    (hqs : Qualifier.Separated qs rest) (h : p ∈ place 0 qs) :
    (p.found (Qualifier.textOf qs)).arguments.map
        (fun span => slice? source (span.shift (byteSize front))) =
      ((p.behind front).argumentsSource? (scanning.cells source)).map some := by
  cases ha : p.qualifier.arguments with
  | none => simp [found, FoundQualifier.place, Qualifier.bare, argumentsSource?, behind, ha]
  | some arguments =>
    obtain ⟨before, after, htext, hstart⟩ := exists_splits_arguments hqs h ha
    have hfits : before.length + 1 + arguments.length ≤ (Qualifier.textOf qs).length := by
      rw [htext]
      simp only [List.length_append, List.length_cons]
      omega
    have hsplit : scanning.scan source =
        (front ++ before) ++ '(' :: (arguments ++ ')' :: (after ++ rest)) := by
      rw [hscan, htext]
      simp only [List.append_assoc, List.cons_append]
    have hslice := Scanning.slice?_parenthesised hsplit
    rw [List.length_append, Nat.add_assoc, hscan, ← shift_spanAt hfits front rest] at hslice
    have hplace : (p.behind front).start +
        (p.qualifier.lead.length + p.qualifier.word.length + p.qualifier.gap.length + 1) =
          front.length + (before.length + 1) := by
      show front.length + p.start + _ = _
      omega
    have hfound : (p.found (Qualifier.textOf qs)).arguments =
        some (spanAt (Qualifier.textOf qs) (before.length + 1) arguments.length) := by
      rw [hstart, found, FoundQualifier.place]
      simp only [Qualifier.bare, ha, Option.map_some]
    have hsource : (p.behind front).argumentsSource? (scanning.cells source) =
        some (Cell.sourceOf (stretch (scanning.cells source) (front.length + (before.length + 1))
          arguments.length)) := by
      rw [← hplace, argumentsSource?]
      simp only [behind, ha, Option.map_some]
    rw [hfound, hsource, Option.map_some, Option.map_some, hslice]

/-- What is declared by words is read off the qualifiers found. -/
theorem findSome?_word {β : Type} (declared? : String → Option β) (front : List Char)
    (hqs : Qualifier.Separated qs rest) :
    (FoundQualifier.all (Qualifier.textOf qs)).findSome? (fun q => declared? q.word) =
      ((place 0 qs).map (·.behind front)).findSome? fun p => declared? p.word := by
  rw [FoundQualifier.all_textOf hqs.nil, List.findSome?_map, List.findSome?_map]
  rfl

/-- **The arguments of all returns clauses are sliced out of the source.** -/
theorem mapM_returns (hscan : scanning.scan source = front ++ (Qualifier.textOf qs ++ rest))
    (hqs : Qualifier.Separated qs rest) :
    (((FoundQualifier.all (Qualifier.textOf qs)).filter (·.word = "returns")).filterMap
        (·.arguments)).mapM (fun span => slice? source (span.shift (byteSize front))) =
      some ((((place 0 qs).map (·.behind front)).filter (·.word = "returns")).filterMap
        (·.argumentsSource? (scanning.cells source))) := by
  rw [FoundQualifier.all_textOf hqs.nil, List.filter_map, List.filter_map, List.filterMap_map,
    List.filterMap_map]
  exact mapM_filterMap fun p hp => slice?_arguments hscan hqs (List.mem_of_mem_filter hp)

/-- **All modifiers are sliced out of the source.** -/
theorem mapM_modifiers (hscan : scanning.scan source = front ++ (Qualifier.textOf qs ++ rest))
    (hqs : Qualifier.Separated qs rest) (hrest : rest ≠ []) :
    (((FoundQualifier.all (Qualifier.textOf qs)).filter (·.isModifier)).map
        (·.whole)).mapM (fun span => slice? source (span.shift (byteSize front))) =
      some ((((place 0 qs).map (·.behind front)).filter (·.isModifier)).map
        (·.source (scanning.cells source))) := by
  rw [FoundQualifier.all_textOf hqs.nil, List.filter_map, List.filter_map, List.map_map,
    List.map_map, ← List.filterMap_eq_map, ← List.filterMap_eq_map]
  refine mapM_filterMap fun p hp => congrArg some ?_
  exact slice?_whole hscan hqs hrest (List.mem_of_mem_filter hp)

end PlacedQualifier

end GasAdvisor
