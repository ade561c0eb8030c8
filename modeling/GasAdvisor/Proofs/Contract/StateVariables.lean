import GasAdvisor.Proofs.Contract.Slicing
import GasAdvisor.Proofs.Contract.Validity
import GasAdvisor.Proofs.Contract.VariableExpression
import GasAdvisor.Proofs.Distinct

/-!
# Which state variables are listed

The pass over the matches of a text looks at the code between two of them once. What carries it is that
the depth it has reached is the one counted from the beginning (`StateVariable.Carried`), whether the
matches before were gathered or passed over; so it decides of each match as `TopLevel` does
(`StateVariable.gather?_eq_some_iff`). The depth is held in a word of 32 bits, which has room for it in any
code of fewer than `2 ^ 31` bytes (`StateVariable.depthFits_of_length_lt`). A character of several bytes is
no parenthesis, so the depth of the code is the same byte by byte and character by character
(`StateVariable.foldl_encode`).

The contract that is read lists the same names (`Contract.stateVariables_topLevel`). The one exception
is a source without any declaration, which has no state variables whatever stands in it
(`Contract.undeclared_variable_unlisted`).
-/

namespace GasAdvisor

open Text

namespace StateVariable

/-- Without its repetitions, a list has each name where it first occurs. -/
theorem listsOnce_eraseDups (found : List String) : ListsOnce found.eraseDups found :=
  ⟨nodup_eraseDups found, fun _ => List.mem_eraseDups, pairwise_idxOf_eraseDups found⟩

/-! ## The depth in a word -/

section Word

variable {word next final : Int32} {n byte : Nat} {bytes : List Nat}

theorem toInt_add_one (h : word.toInt = n) (hne : word ≠ .maxValue) : (word + 1).toInt = (n + 1 : Nat) := by
  have hword := word.toInt_lt
  have hlast : word.toInt ≠ 2 ^ 31 - 1 := fun heq =>
    hne (Int32.toInt_inj.1 (heq.trans Int32.toInt_maxValue.symm))
  rw [Int32.toInt_add, Int32.toInt_one, Int.bmod_eq_of_le (by omega) (by omega), h]
  rfl

/-- One less, but not below zero. -/
theorem toInt_max_sub_one (h : word.toInt = n) : (max (word - 1) 0).toInt = (n - 1 : Nat) := by
  have hword := word.toInt_lt
  have hless : (word - 1).toInt = n - 1 := by
    rw [Int32.toInt_sub, Int32.toInt_one, Int.bmod_eq_of_le (by omega) (by omega), h]
  have hmax : max (word - 1) 0 = if word - 1 ≤ 0 then 0 else word - 1 := rfl
  rw [hmax]
  split
  · next hle =>
    rw [Int32.le_iff_toInt_le, hless, Int32.toInt_zero] at hle
    rw [Int32.toInt_zero]
    omega
  · next hle =>
    rw [Int32.le_iff_toInt_le, hless, Int32.toInt_zero] at hle
    omega

/-- **One byte more in a word** gives the word of the next depth, if there is one. -/
theorem byteDepthStep?_eq_some_iff (h : word.toInt = n) :
    byteDepthStep? word byte = some next ↔ next.toInt = byteDepthStep n byte := by
  have hsome {found : Int32} {depth : Nat} (hfound : found.toInt = depth) :
      some found = some next ↔ next.toInt = depth := by
    rw [Option.some.injEq, ← Int32.toInt_inj, hfound, eq_comm]
  unfold byteDepthStep? byteDepthStep
  split
  · split
    · next hmax =>
      -- no word holds a number beyond the largest one
      have hnext := next.toInt_lt
      rw [hmax, Int32.toInt_maxValue] at h
      simp only [reduceCtorEq, false_iff]
      omega
    · next hne => exact hsome (toInt_add_one h hne)
  · split
    · exact hsome (toInt_max_sub_one h)
    · split
      · exact hsome Int32.toInt_zero
      · exact hsome h

/-- **The depth after some bytes fits exactly if it does after each of them.** -/
theorem foldlM_byteDepthStep?_eq_some_iff (h : word.toInt = n) :
    bytes.foldlM byteDepthStep? word = some final ↔
      (∀ stop, (bytes.take stop).foldl byteDepthStep n < 2 ^ 31) ∧
        final.toInt = bytes.foldl byteDepthStep n := by
  have hword := word.toInt_lt
  induction bytes generalizing word n with
  | nil =>
    have hfits (stop : Nat) : (([] : List Nat).take stop).foldl byteDepthStep n < 2 ^ 31 := by
      rw [List.take_nil, List.foldl_nil]
      omega
    rw [List.foldlM_nil, Option.pure_def, Option.some.injEq, ← Int32.toInt_inj, h, List.foldl_nil,
      eq_comm]
    exact (and_iff_right hfits).symm
  | cons byte bytes ih =>
    rw [List.foldlM_cons, Option.bind_eq_bind, Option.bind_eq_some_iff]
    constructor
    · rintro ⟨next, hnext, hfinal⟩
      have hdepth := (byteDepthStep?_eq_some_iff h).1 hnext
      obtain ⟨hfits, hfinal⟩ := (ih hdepth next.toInt_lt).1 hfinal
      refine ⟨fun stop => ?_, hfinal⟩
      cases stop with
      | zero =>
        rw [List.take_zero, List.foldl_nil]
        omega
      | succ stop => exact hfits stop
    · rintro ⟨hfits, hfinal⟩
      have hnext : (Int32.ofNat (byteDepthStep n byte)).toInt = byteDepthStep n byte :=
        Int32.toInt_ofNat_of_lt (hfits 1)
      exact ⟨_, (byteDepthStep?_eq_some_iff h).2 hnext,
        (ih hnext (Int32.toInt_lt _)).2 ⟨fun stop => hfits (stop + 1), hfinal⟩⟩

end Word

/-- Up to the start of each match, never so many parentheses are open that their number does not fit a
word of 32 bits with a sign. -/
def DepthFits (code : List Nat) (found : List Match) : Prop :=
  ∀ m ∈ found, ∀ stop ≤ m.start, byteDepth (code.take stop) < 2 ^ 31

/-- Every byte opens one parenthesis at most. -/
theorem byteDepth_le_length (code : List Nat) : byteDepth code ≤ code.length := by
  have hstep (depth byte : Nat) : byteDepthStep depth byte ≤ depth + 1 := by
    unfold byteDepthStep
    split_ifs <;> omega
  have hfold (depth : Nat) : code.foldl byteDepthStep depth ≤ depth + code.length := by
    induction code generalizing depth with
    | nil => simp
    | cons byte code ih =>
      have := ih (byteDepthStep depth byte)
      have := hstep depth byte
      rw [List.foldl_cons, List.length_cons]
      omega
  exact (hfold 0).trans (Nat.zero_add _).le

/-- **In code of fewer than `2 ^ 31` bytes the depth fits.** -/
theorem depthFits_of_length_lt {code : List Nat} (h : code.length < 2 ^ 31) (found : List Match) :
    DepthFits code found := by
  intro m _ stop _
  have hdepth := byteDepth_le_length (code.take stop)
  have hlength := List.length_take_le' stop code
  omega

/-! ## One pass over the matches -/

section Pass

variable {code : List Nat} {functions : List Text.Span} {seen found : List Match} {g next : Gathering}
  {m : Match}

/-- **What the pass carries after some matches**: the depth of the code from the beginning up to the
cursor, which has always fitted so far, and the names of the matches at top level, each once. -/
structure Carried (code : List Nat) (functions : List Text.Span) (seen : List Match)
    (g : Gathering) : Prop where
  fits : ∀ stop ≤ g.cursor, byteDepth (code.take stop) < 2 ^ 31
  depth : g.depth.toInt = byteDepth (code.take g.cursor)
  names : g.names = (topLevelNames code functions seen).eraseDups

theorem carried_start : Carried code functions [] .start where
  fits stop hstop := by
    rw [Nat.le_zero.1 hstop, List.take_zero]
    decide
  depth := rfl
  names := rfl

theorem topLevelNames_concat (seen : List Match) (m : Match) :
    topLevelNames code functions (seen ++ [m]) =
      topLevelNames code functions seen ++
        if TopLevel code functions m ∧ m.name ∉ reserved then [m.name] else [] := by
  rw [topLevelNames, topLevelNames, List.filter_append, List.map_append, List.filter_append]
  by_cases htop : TopLevel code functions m
  · by_cases hreserved : m.name ∈ reserved <;> simp [htop, hreserved]
  · simp [htop]

/-- The pass tells a match at top level by the depth it carries. -/
theorem not_topLevel_eq (code : List Nat) (functions : List Text.Span) (m : Match) :
    (decide (0 < byteDepth (code.take m.start)) || functions.any (·.contains m.start)) =
      !decide (TopLevel code functions m) := by
  have hdepth : decide (byteDepth (code.take m.start) = 0) =
      !decide (0 < byteDepth (code.take m.start)) := by
    rw [← decide_not, decide_eq_decide]
    omega
  have htop : decide (TopLevel code functions m) =
      (!functions.any (·.contains m.start) && decide (byteDepth (code.take m.start) = 0)) := by
    rw [List.not_any_eq_all_not, Bool.eq_iff_iff, decide_eq_true_iff]
    simp [TopLevel]
  rw [htop, hdepth, Bool.not_and, Bool.not_not, Bool.not_not, Bool.or_comm]

/-- **The depth goes on from the cursor to the next match**, if it fits up to there. -/
theorem Carried.foldlM_eq_some_iff (h : Carried code functions seen g) (hle : g.cursor ≤ m.start)
    {depth : Int32} :
    (stretch code g.cursor (m.start - g.cursor)).foldlM byteDepthStep? g.depth = some depth ↔
      (∀ stop ≤ m.start, byteDepth (code.take stop) < 2 ^ 31) ∧
        depth.toInt = byteDepth (code.take m.start) := by
  have hfold (size : Nat) :
      ((code.drop g.cursor).take size).foldl byteDepthStep (byteDepth (code.take g.cursor)) =
        byteDepth (code.take (g.cursor + size)) := by
    rw [List.take_add, byteDepth, byteDepth, List.foldl_append]
  have hfits : (∀ stop, byteDepth (code.take (g.cursor + min stop (m.start - g.cursor))) < 2 ^ 31) ↔
      ∀ stop ≤ m.start, byteDepth (code.take stop) < 2 ^ 31 := by
    constructor
    · intro hmore stop hstop
      rcases Nat.le_total stop g.cursor with hseen | hahead
      · exact h.fits stop hseen
      · have hstretch := hmore (stop - g.cursor)
        rwa [Nat.min_eq_left (by omega), Nat.add_sub_cancel' hahead] at hstretch
    · intro hall stop
      exact hall _ (by omega)
  rw [foldlM_byteDepthStep?_eq_some_iff h.depth]
  simp only [stretch, List.take_take, hfold, hfits, Nat.add_sub_cancel' hle]

/-- **A match that is passed over moves the cursor like any other.** -/
theorem Carried.step? (h : Carried code functions seen g) (hle : g.cursor ≤ m.start)
    (hnext : g.step? code functions m = some next) :
    next.cursor = m.start ∧ Carried code functions (seen ++ [m]) next := by
  rw [Gathering.step?, Option.bind_eq_bind, Option.bind_eq_some_iff] at hnext
  obtain ⟨depth, hdepth, hnext⟩ := hnext
  obtain ⟨hfits, hdepth⟩ := (h.foldlM_eq_some_iff hle).1 hdepth
  have hpositive : decide (0 < depth) = decide (0 < byteDepth (code.take m.start)) := by
    rw [decide_eq_decide, Int32.lt_iff_toInt_lt, hdepth, Int32.toInt_zero, Int.natCast_pos]
  obtain rfl := Option.some.inj hnext
  refine ⟨rfl, hfits, hdepth, ?_⟩
  rw [topLevelNames_concat]
  simp only [hpositive, not_topLevel_eq, h.names]
  by_cases htop : TopLevel code functions m
  · by_cases hreserved : m.name ∈ reserved
    · simp [htop, hreserved]
    · simp [htop, hreserved, eraseDups_concat]
  · simp [htop]

theorem Carried.exists_step? (h : Carried code functions seen g) (hle : g.cursor ≤ m.start)
    (hfits : ∀ stop ≤ m.start, byteDepth (code.take stop) < 2 ^ 31) :
    ∃ next, g.step? code functions m = some next := by
  have hdepth := (h.foldlM_eq_some_iff hle).2
    ⟨hfits, Int32.toInt_ofNat_of_lt (hfits m.start le_rfl)⟩
  rw [Gathering.step?, hdepth]
  exact ⟨_, rfl⟩

/-- **The pass carries the same after any number of matches**, and comes to an end exactly if the depth
fits all the time. -/
theorem Carried.foldlM (h : Carried code functions seen g) (hle : ∀ m ∈ found, g.cursor ≤ m.start)
    (hsorted : found.Pairwise fun m next => m.start ≤ next.start) :
    (∀ last, found.foldlM (Gathering.step? code functions) g = some last →
      DepthFits code found ∧ Carried code functions (seen ++ found) last) ∧
    (DepthFits code found → ∃ last, found.foldlM (Gathering.step? code functions) g = some last) := by
  induction found generalizing seen g with
  | nil =>
    refine ⟨fun last hlast => ⟨nofun, ?_⟩, fun _ => ⟨g, rfl⟩⟩
    obtain rfl := Option.some.inj hlast
    rwa [List.append_nil]
  | cons m found ih =>
    obtain ⟨hahead, hmore⟩ := List.pairwise_cons.1 hsorted
    have hm := hle m List.mem_cons_self
    have hcons : seen ++ m :: found = (seen ++ [m]) ++ found := by simp
    rw [List.foldlM_cons, Option.bind_eq_bind, hcons, DepthFits, List.forall_mem_cons]
    constructor
    · intro last hlast
      obtain ⟨next, hnext, hlast⟩ := Option.bind_eq_some_iff.1 hlast
      obtain ⟨hcursor, hcarried⟩ := h.step? hm hnext
      obtain ⟨hfits, hlast⟩ := (ih hcarried (hcursor ▸ hahead) hmore).1 last hlast
      exact ⟨⟨hcursor ▸ hcarried.fits, hfits⟩, hlast⟩
    · rintro ⟨hfits, hmoreFits⟩
      obtain ⟨next, hnext⟩ := h.exists_step? hm hfits
      obtain ⟨hcursor, hcarried⟩ := h.step? hm hnext
      rw [hnext]
      exact (ih hcarried (hcursor ▸ hahead) hmore).2 hmoreFits

/-- **One pass gathers what a look at each match by itself does**, exactly if the depth fits. -/
theorem gather?_eq_some_iff (hsorted : found.Pairwise fun m next => m.start ≤ next.start)
    {names : List String} :
    gather? code functions found = some names ↔
      DepthFits code found ∧ (topLevelNames code functions found).eraseDups = names := by
  obtain ⟨hgathered, hends⟩ :=
    (@carried_start code functions).foldlM (fun _ _ => Nat.zero_le _) hsorted
  rw [gather?, Option.map_eq_some_iff]
  constructor
  · rintro ⟨last, hlast, rfl⟩
    obtain ⟨hfits, hcarried⟩ := hgathered last hlast
    exact ⟨hfits, hcarried.names.symm⟩
  · rintro ⟨hfits, rfl⟩
    obtain ⟨last, hlast⟩ := hends hfits
    exact ⟨last, hlast, (hgathered last hlast).2.names⟩

end Pass

/-! ## Bytes and characters -/

theorem foldl_encodeChar (c : Char) (depth : Nat) :
    (encodeChar c).foldl byteDepthStep depth = depthStep depth c := by
  by_cases hc : c.toNat < 0x80
  · have hbyte (d : Char) : c.toNat = d.toNat ↔ c = d := Char.toNat_inj
    have hstep : byteDepthStep depth c.toNat = depthStep depth c := by
      simp only [byteDepthStep, depthStep, ← hbyte]
      rfl
    rw [encodeChar_of_lt hc]
    exact hstep
  · -- no byte of another character is a parenthesis or ends a statement
    have hbytes : ∀ b ∈ encodeChar c, ∀ depth, byteDepthStep depth b = depth := by
      intro b hb depth
      have := high_of_mem_encodeChar (Nat.le_of_not_lt hc) b hb
      unfold byteDepthStep
      split_ifs <;> omega
    have hfold (bytes : List Nat) (h : ∀ b ∈ bytes, ∀ depth, byteDepthStep depth b = depth) :
        bytes.foldl byteDepthStep depth = depth := by
      induction bytes with
      | nil => rfl
      | cons b bytes ih =>
        obtain ⟨hb, hmore⟩ := List.forall_mem_cons.1 h
        rw [List.foldl_cons, hb, ih hmore]
    have hne (d : Char) (hd : d.toNat < 0x80) : c ≠ d := fun h => hc (h ▸ hd)
    rw [hfold _ hbytes, depthStep, if_neg (hne _ (by decide)), if_neg (hne _ (by decide)), if_neg]
    rintro (h | h | h) <;> exact hne _ (by decide) h

/-- **The depth of parentheses is the same for the bytes of a text and for its characters.** -/
theorem foldl_encode (text : List Char) (depth : Nat) :
    (encode text).foldl byteDepthStep depth = text.foldl depthStep depth := by
  induction text generalizing depth with
  | nil => rfl
  | cons c text ih => rw [encode_cons, List.foldl_append, foldl_encodeChar, ih, List.foldl_cons]

/-- The depth at an offset of the masked text is the one at the character of the scanned text. -/
theorem byteDepth_take (scan : List Char) (index : Nat) :
    byteDepth ((encode (mask scan)).take (byteOffset scan index)) =
      depth ((codeChars scan).take index) := by
  obtain ⟨front, after, hmask, hfront, hstop⟩ :=
    slice?_eq_some_iff.1 (slice?_mask (Nat.zero_le index) scan)
  have hnil : front = [] := by
    cases front with
    | nil => rfl
    | cons c front =>
      have hpos := width_pos c
      have hzero : width c + byteSize front = 0 := hfront
      omega
  rw [hnil, List.nil_append] at hmask hstop
  have hlength : byteOffset scan index =
      (encode (blanked (stretch (glyphs scan) 0 (index - 0)))).length :=
    (length_encode _).trans hstop |>.symm
  rw [hmask, encode_append, hlength, List.take_left, byteDepth, foldl_encode,
    depth_take (Nat.zero_le index)]
  rfl

/-- Of what is declared, the names at top level are those outside of functions and parentheses. -/
theorem topLevel_ofHit {scan : List Char} {sites : List Site}
    (hsites : ∀ site ∈ sites, site.stop ≤ scan.length) (hit : Hit Way) :
    decide (TopLevel (encode (mask scan)) (sites.map (·.span scan)) (Match.ofHit scan hit)) =
      isOutside scan (sites.map fun site => (site.start, site.stop))
        ⟨hit.index, captured hit.value⟩ := by
  have hnot := not_topLevel_eq (encode (mask scan)) (sites.map (·.span scan)) (Match.ofHit scan hit)
  rw [isOutside_eq hsites, ← byteDepth_take]
  exact (Bool.not_not _).symm.trans (congrArg not hnot.symm)

theorem occurrences_pairwise (scan : List Char) :
    (occurrences scan).Pairwise fun m next => m.start ≤ next.start := by
  have hdeclared := declared_pairwise scan
  rw [declared_eq, List.pairwise_map] at hdeclared
  exact List.pairwise_map.2 (hdeclared.imp fun h => byteOffset_le_byteOffset h scan)

/-- **The names of a scanned text are those at top level, each once.** -/
theorem names_eq_eraseDups {scan : List Char} {sites : List Site}
    (hsites : ∀ site ∈ sites, site.stop ≤ scan.length) :
    names scan (sites.map fun site => (site.start, site.stop)) =
      (topLevelNames (encode (mask scan)) (sites.map (·.span scan)) (occurrences scan)).eraseDups := by
  have hnames : ((declared scan).filter
      (isOutside scan (sites.map fun site => (site.start, site.stop)))).map
        (fun hit => String.ofList hit.value) =
      ((occurrences scan).filter (TopLevel (encode (mask scan)) (sites.map (·.span scan)) ·)).map
        (·.name) := by
    rw [declared_eq, occurrences, List.filter_map, List.filter_map, List.map_map, List.map_map]
    exact congrArg _ (List.filter_congr fun hit _ => (topLevel_ofHit hsites hit).symm)
  rw [names_eq, hnames]
  rfl

end StateVariable

/-! ## Contracts -/

/-- The bytes of a function. -/
def Extent.span (e : Extent) : Text.Span :=
  ⟨e.start, e.closing + 1⟩

namespace Contract

theorem span_extent {scanning : Scanning} {source : String} {site : Site}
    (h : site ∈ sites scanning source) :
    (site.extent (scanning.scan source.toList)).span = site.span (scanning.scan source.toList) := by
  obtain ⟨_, _, hfound⟩ := exists_foundIn_of_mem_sites h
  rw [Extent.span, hfound.closing_add_one]
  rfl

theorem map_span_extents (scanning : Scanning) (source : String) :
    (extents scanning source).map Extent.span =
      (sites scanning source).map (·.span (scanning.scan source.toList)) := by
  rw [extents, List.map_map]
  exact List.map_congr_left fun _ h => span_extent h

/-- The functions of a contract are the texts at its spans. -/
theorem forall₂_span (scanning : Scanning) (source : String) :
    List.Forall₂ (fun span f => slice? source.toList span = some f.sourceCode.toList)
      ((extents scanning source).map Extent.span) (read scanning source).functions := by
  rw [functions_read, extents, List.map_map, List.forall₂_map_left_iff, List.forall₂_map_right_iff,
    List.forall₂_same]
  intro site hsite
  obtain ⟨_, _, h⟩ := exists_foundIn_of_mem_sites hsite
  exact (h.delimits _).code

theorem stateVariables_read_of_declares {scanning : Scanning} {source : String}
    (h : declares scanning source = true) :
    (read scanning source).stateVariables =
      (StateVariable.topLevelNames (encode (mask (scanning.scan source.toList)))
        ((extents scanning source).map Extent.span)
        (StateVariable.occurrences (scanning.scan source.toList))).eraseDups := by
  unfold declares at h
  have hsites (site : Site) (hsite : site ∈ Site.all (scanning.scan source.toList)) :
      site.stop ≤ (scanning.scan source.toList).length := by
    obtain ⟨_, _, hfound⟩ := Site.exists_foundIn_of_mem_all hsite
    exact hfound.stop_le_length
  rw [map_span_extents, sites, if_pos h, ← StateVariable.names_eq_eraseDups hsites, read_eq, if_pos h]

/-- **Which state variables a contract has.** Where the source declares a contract, an interface or a
library, they are the names that the matches of the expression capture at top level, without the
reserved words, each once and in the order in which they first occur; the pass that carries the depth
from match to match gathers the same. A match is at top level if it starts in no function that was
found, and if no parenthesis is open in the masked code from the beginning up to its start. Where the
source declares nothing, there are none.

The pass has an answer exactly if never, up to the last match, `2 ^ 31` parentheses are open, so in every
source of fewer bytes. -/
theorem stateVariables_topLevel (scanning : Scanning) (source : String) :
    let scan := scanning.scan source.toList
    let code := encode (mask scan)
    let functions := (extents scanning source).map Extent.span
    let found := StateVariable.occurrences scan
    List.Forall₂ (fun span f => slice? source.toList span = some f.sourceCode.toList)
      functions (read scanning source).functions ∧
    (¬ DeclaresNothing source → StateVariable.DepthFits code found →
      StateVariable.ListsOnce (read scanning source).stateVariables
        (StateVariable.topLevelNames code functions found) ∧
      StateVariable.gather? code functions found = some (read scanning source).stateVariables) ∧
    (DeclaresNothing source → (read scanning source).stateVariables = []) ∧
    ((StateVariable.gather? code functions found).isSome = true ↔
      StateVariable.DepthFits code found) ∧
    (byteSize source.toList < 2 ^ 31 → StateVariable.DepthFits code found) := by
  intro scan code functions found
  have hgather {names : List String} :=
    @StateVariable.gather?_eq_some_iff code functions found
      (StateVariable.occurrences_pairwise scan) names
  refine ⟨forall₂_span scanning source, fun hdeclared hfits => ?_, fun hnothing => ?_, ?_, fun hsize => ?_⟩
  · have hdeclares : declares scanning source = true := by
      rwa [declares_eq, ← Bool.not_eq_false, ← declaresNothing_iff]
    rw [stateVariables_read_of_declares hdeclares]
    exact ⟨StateVariable.listsOnce_eraseDups _, hgather.2 ⟨hfits, rfl⟩⟩
  · have hdeclares : declares scanning source = false :=
      (declares_eq scanning source).trans ((declaresNothing_iff source).1 hnothing)
    rw [read_of_not_declares hdeclares]
    rfl
  · rw [Option.isSome_iff_exists]
    exact ⟨fun ⟨_, h⟩ => (hgather.1 h).1, fun hfits => ⟨_, hgather.2 ⟨hfits, rfl⟩⟩⟩
  · have hmask : byteSize (mask scan) = byteSize source.toList :=
      (Scanning.byteSize_scan .masking scan).trans (scanning.byteSize_scan source.toList)
    exact StateVariable.depthFits_of_length_lt (by rwa [length_encode, hmask]) found

/-- A contract with a parameter of an event, a variable that is declared twice, a variable of a function
and one after the function. -/
def variablesSource : String :=
  "contract C \x7b event E(uint256 a); bool public paid; bool paid; " ++
    "function f() public \x7b uint256 x; \x7d address owner; \x7d"

/-- The second and the last of them are listed. -/
theorem stateVariables_topLevel_variablesSource :
    ¬ DeclaresNothing variablesSource ∧
      (read .text variablesSource).stateVariables = ["paid", "owner"] ∧
      byteSize variablesSource.toList < 2 ^ 31 ∧
      StateVariable.gather? (encode (mask variablesSource.toList))
        ((extents .text variablesSource).map Extent.span)
        (StateVariable.occurrences variablesSource.toList) = some ["paid", "owner"] := by
  have hdeclared : ¬ DeclaresNothing variablesSource := by
    rw [declaresNothing_iff]
    decide +kernel
  have hlisted : (read .text variablesSource).stateVariables = ["paid", "owner"] := by
    decide +kernel
  have hsize : byteSize variablesSource.toList < 2 ^ 31 := by
    decide +kernel
  obtain ⟨-, hnames, -, -, hfits⟩ := stateVariables_topLevel .text variablesSource
  have hgathered := (hnames hdeclared (hfits hsize)).2
  rw [Scanning.scan_text, hlisted] at hgathered
  exact ⟨hdeclared, hlisted, hsize, hgathered⟩

/-- **Without a declaration, what stands at top level is not listed.** -/
theorem undeclared_variable_unlisted :
    let source := "uint256 x;"
    ∀ scanning : Scanning,
      let scan := scanning.scan source.toList
      StateVariable.topLevelNames (encode (mask scan))
          ((extents scanning source).map Extent.span) (StateVariable.occurrences scan) = ["x"] ∧
        (read scanning source).stateVariables = [] := by
  intro source scanning
  cases scanning with
  | text => decide +kernel
  | masking => decide +kernel

end Contract

end GasAdvisor
