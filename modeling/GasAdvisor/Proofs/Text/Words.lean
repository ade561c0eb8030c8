import GasAdvisor.Text.Lines
import GasAdvisor.Proofs.Text.Spans

/-!
# Words, pieces and lines of joined texts

Cutting a text undoes joining its parts.

* The runs of a class of characters in a text are those stretches of it that are as long as they can be
  (`mem_runs_iff`).
* Words that are joined by spaces are the words of the text (`words_join`).
* Texts without commas that are joined by commas and spaces are its pieces, all but the first one
  with the space before them (`pieces_join`). The pieces of a text are all there is to join
  (`pieces_eq_iff`).
* Of texts without line feeds that are put together line by line, a reader of lines reads each one
  (`filterMap_lines_ofLines`).
* White space at the end of a word is trimmed off (`trim_append_blank`), and no more than white space
  around any text (`exists_append_trim`).
-/

namespace GasAdvisor.Text

/-! ## Words -/

theorem runs_cons_of_not {p : Char → Bool} {c : Char} (hc : p c = false) (s : List Char) :
    runs p (c :: s) = runs p s := by
  rw [runs, if_neg (by simp [hc])]

/-- A run at the front of a text is taken whole. -/
theorem runs_append_of_stop {p : Char → Bool} {a b : List Char} (hne : a ≠ [])
    (ha : ∀ c ∈ a, p c = true) (hb : Stops p b) : runs p (a ++ b) = a :: runs p b := by
  induction a with
  | nil => exact absurd rfl hne
  | cons c a ih =>
    have hc : p c = true := ha c (by simp)
    rw [List.cons_append, runs, if_pos hc]
    cases a with
    | nil =>
      have hstop : ¬ b.head?.any p = true := by
        cases b with
        | nil => simp
        | cons d b => simpa using hb
      rw [List.nil_append, if_neg hstop]
    | cons d a =>
      have hd : p d = true := ha d (by simp)
      rw [if_pos (by simpa using hd), ih (by simp) fun c' h' => ha c' (List.mem_cons_of_mem c h')]

/-- A run of characters of a class that is as long as it can be where it stands in a text. -/
structure IsRun (p : Char → Bool) (run text : List Char) : Prop where
  ne_nil : run ≠ []
  within : ∀ c ∈ run, p c = true
  stands : ∃ before after, text = before ++ (run ++ after) ∧ before.getLast?.any p = false ∧
    Stops p after

theorem isRun_cons_of_not {p : Char → Bool} {c : Char} {run s : List Char} (hc : p c = false) :
    IsRun p run (c :: s) ↔ IsRun p run s := by
  have hlast (u : List Char) : (c :: u).getLast?.any p = u.getLast?.any p := by
    cases u with
    | nil => simp [hc]
    | cons d u => rw [List.getLast?_cons_cons]
  constructor
  · rintro ⟨hne, hall, before, after, htext, hbefore, hafter⟩
    refine ⟨hne, hall, ?_⟩
    cases before with
    | nil =>
      -- the run would start with `c`
      obtain ⟨d, run, rfl⟩ := List.exists_cons_of_ne_nil hne
      obtain ⟨rfl, -⟩ := List.cons.inj htext
      rw [hall c List.mem_cons_self] at hc
      cases hc
    | cons d before =>
      obtain ⟨rfl, rfl⟩ := List.cons.inj htext
      exact ⟨before, after, rfl, hlast before ▸ hbefore, hafter⟩
  · rintro ⟨hne, hall, before, after, rfl, hbefore, hafter⟩
    exact ⟨hne, hall, c :: before, after, rfl, (hlast before).trans hbefore, hafter⟩

/-- The runs of a text that starts with one. -/
theorem isRun_append_of_stop {p : Char → Bool} {a b run : List Char} (hne : a ≠ [])
    (ha : ∀ c ∈ a, p c = true) (hb : Stops p b) :
    IsRun p run (a ++ b) ↔ run = a ∨ IsRun p run b := by
  constructor
  · rintro ⟨hrunne, hall, before, after, htext, hbefore, hafter⟩
    rcases List.append_eq_append_iff.1 htext with ⟨more, rfl, rfl⟩ | ⟨more, rfl, hrest⟩
    · refine .inr ⟨hrunne, hall, more, after, rfl, ?_, hafter⟩
      rw [List.getLast?_append] at hbefore
      cases hmore : more.getLast? with
      | none => rfl
      | some d => rwa [hmore] at hbefore
    · -- what stands before the run is empty, as its last character would belong to the first run
      obtain rfl : before = [] := by
        by_contra hbeforene
        have hlast := ha _ (List.mem_append_left more (List.getLast_mem hbeforene))
        rw [List.getLast?_eq_some_getLast hbeforene, Option.any_some, hlast] at hbefore
        cases hbefore
      rw [List.nil_append] at ha ⊢
      have hfront := congrArg (List.takeWhile p) hrest
      rw [takeWhile_append_of_stop hall hafter, takeWhile_append_of_stop ha hb] at hfront
      exact .inl hfront
  · rintro (rfl | ⟨hrunne, hall, before, after, rfl, hbefore, hafter⟩)
    · exact ⟨hne, ha, [], b, rfl, rfl, hb⟩
    · have hbeforene : before ≠ [] := by
        rintro rfl
        obtain ⟨d, run, rfl⟩ := List.exists_cons_of_ne_nil hrunne
        have hd := stops_cons.1 hb
        rw [hall d List.mem_cons_self] at hd
        cases hd
      refine ⟨hrunne, hall, a ++ before, after, by simp, ?_, hafter⟩
      rw [List.getLast?_append, List.getLast?_eq_some_getLast hbeforene]
      rwa [List.getLast?_eq_some_getLast hbeforene] at hbefore

/-- **The runs of a text are those that are as long as they can be.** -/
theorem mem_runs_iff {p : Char → Bool} {run text : List Char} :
    run ∈ runs p text ↔ IsRun p run text := by
  induction hsize : text.length using Nat.strong_induction_on generalizing text with
  | _ size ih =>
    cases text with
    | nil =>
      refine ⟨nofun, fun h => absurd ?_ h.ne_nil⟩
      obtain ⟨before, after, htext, -, -⟩ := h.stands
      exact (List.append_eq_nil_iff.1 (List.append_eq_nil_iff.1 htext.symm).2).1
    | cons c rest =>
      have hlength : rest.length < size := by rw [← hsize, List.length_cons]; exact Nat.lt_succ_self _
      cases hc : p c with
      | false => rw [runs_cons_of_not hc, isRun_cons_of_not hc, ih _ hlength rfl]
      | true =>
        have hfront : ∀ d ∈ c :: rest.takeWhile p, p d = true :=
          List.forall_mem_cons.2 ⟨hc, fun _ => of_mem_takeWhile⟩
        have hstop := stops_dropWhile p rest
        have hsplit : c :: rest = (c :: rest.takeWhile p) ++ rest.dropWhile p := by
          rw [List.cons_append, List.takeWhile_append_dropWhile]
        have hshort : (rest.dropWhile p).length < size :=
          (List.dropWhile_suffix p).length_le.trans_lt hlength
        rw [hsplit, runs_append_of_stop (List.cons_ne_nil _ _) hfront hstop,
          isRun_append_of_stop (List.cons_ne_nil _ _) hfront hstop, List.mem_cons,
          ih _ hshort rfl]

/-- A text without white space that is not empty. -/
structure IsWhole (w : List Char) : Prop where
  ne_nil : w ≠ []
  solid : ∀ c ∈ w, isBlank c = false

theorem isWhole_iff {w : List Char} : IsWhole w ↔ (!w.isEmpty && w.all (!isBlank ·)) = true := by
  rw [Bool.and_eq_true, Bool.not_eq_true', List.isEmpty_eq_false_iff, List.all_eq_true]
  simp only [Bool.not_eq_true']
  exact ⟨fun h => ⟨h.ne_nil, h.solid⟩, fun h => ⟨h.1, h.2⟩⟩

instance (w : List Char) : Decidable (IsWhole w) :=
  decidable_of_iff' _ isWhole_iff

theorem words_cons_blank {c : Char} (hc : isBlank c = true) (s : List Char) :
    words (c :: s) = words s :=
  runs_cons_of_not (by simp [hc]) s

theorem IsWhole.words_append {w s : List Char} (hw : IsWhole w)
    (hs : Stops (fun c => !isBlank c) s) : words (w ++ s) = w :: words s :=
  runs_append_of_stop hw.ne_nil (fun c hc => by simp [hw.solid c hc]) hs

theorem join_cons_cons (separator x y : List Char) (xs : List (List Char)) :
    join separator (x :: y :: xs) = x ++ separator ++ join separator (y :: xs) :=
  rfl

/-- **Joined words are taken apart again.** -/
theorem words_join {ws : List (List Char)} (h : ∀ w ∈ ws, IsWhole w) :
    words (join [' '] ws) = ws := by
  have hspace : isBlank ' ' = true := by decide
  induction ws with
  | nil => rfl
  | cons w ws ih =>
    have hw : IsWhole w := h w (by simp)
    cases ws with
    | nil =>
      have := hw.words_append (s := []) stops_nil
      rw [List.append_nil] at this
      exact this
    | cons v ws =>
      have hrest := ih fun v' h' => h v' (List.mem_cons_of_mem w h')
      rw [join_cons_cons, List.append_assoc, List.singleton_append,
        hw.words_append (by simp [hspace]), words_cons_blank hspace, hrest]

/-! ## Pieces -/

variable {separator : Char} {a b : List Char}

theorem pieces_of_not_mem (ha : separator ∉ a) : pieces separator a = [a] := by
  induction a with
  | nil => rfl
  | cons c a ih =>
    obtain ⟨hc, ha'⟩ : ¬ separator = c ∧ separator ∉ a := by simpa using ha
    rw [pieces, if_neg (Ne.symm hc), ih ha']

theorem pieces_append_cons (ha : separator ∉ a) (b : List Char) :
    pieces separator (a ++ separator :: b) = a :: pieces separator b := by
  induction a with
  | nil => rw [List.nil_append, pieces, if_pos rfl]
  | cons c a ih =>
    obtain ⟨hc, ha'⟩ : ¬ separator = c ∧ separator ∉ a := by simpa using ha
    rw [List.cons_append, pieces, if_neg (Ne.symm hc), ih ha']

theorem pieces_ne_nil (a : List Char) : pieces separator a ≠ [] := by
  cases a with
  | nil => simp [pieces]
  | cons c a =>
    rw [pieces]
    split
    · simp
    · split <;> simp

/-- What stands before a separator and what stands after it are cut on their own. -/
theorem pieces_append_separator (a b : List Char) :
    pieces separator (a ++ separator :: b) = pieces separator a ++ pieces separator b := by
  induction a with
  | nil =>
    show pieces separator (separator :: b) = [] :: pieces separator b
    rw [pieces, if_pos rfl]
  | cons c a ih =>
    rw [List.cons_append, pieces, pieces, ih]
    by_cases hc : c = separator
    · rw [if_pos hc, if_pos hc, List.cons_append]
    · rw [if_neg hc, if_neg hc]
      cases hfront : pieces separator a with
      | nil => exact absurd hfront (pieces_ne_nil a)
      | cons piece more => rfl

/-- **Joined texts are taken apart again**, with what stood between them and the next separator. -/
theorem pieces_join {between : List Char} (hbetween : separator ∉ between) {x : List Char}
    {xs : List (List Char)} (hx : separator ∉ x) (hxs : ∀ y ∈ xs, separator ∉ y) :
    pieces separator (join (separator :: between) (x :: xs)) = x :: xs.map (between ++ ·) := by
  -- the texts after a separator begin with what stands between
  have after (y : List Char) (ys : List (List Char)) (hy : separator ∉ y)
      (hys : ∀ z ∈ ys, separator ∉ z) (front : List Char) (hfront : separator ∉ front) :
      pieces separator (front ++ join (separator :: between) (y :: ys)) =
        (front ++ y) :: ys.map (between ++ ·) := by
    induction ys generalizing y front with
    | nil => exact pieces_of_not_mem (by simp [join, hfront, hy])
    | cons z ys ih =>
      have hz : separator ∉ z := hys z (by simp)
      have hrest := ih z hz (fun z' h' => hys z' (List.mem_cons_of_mem z h')) between hbetween
      have hsplit : front ++ join (separator :: between) (y :: z :: ys) =
          (front ++ y) ++ separator :: (between ++ join (separator :: between) (z :: ys)) := by
        simp [join]
      rw [hsplit, pieces_append_cons (by simp [hfront, hy]), hrest, List.map_cons]
  exact after x xs hx hxs [] (by simp)

/-- **The pieces of a text** are the texts without separators that give it when they are joined by
one. -/
theorem pieces_eq_iff {text : List Char} {xs : List (List Char)} :
    pieces separator text = xs ↔
      xs ≠ [] ∧ (∀ x ∈ xs, separator ∉ x) ∧ join [separator] xs = text := by
  constructor
  · rintro rfl
    refine ⟨pieces_ne_nil text, ?_⟩
    induction text with
    | nil => simp [pieces, join]
    | cons c text ih =>
      cases hpieces : pieces separator text with
      | nil => exact absurd hpieces (pieces_ne_nil text)
      | cons piece more =>
        rw [hpieces, List.forall_mem_cons] at ih
        obtain ⟨⟨hpiece, hmore⟩, rfl⟩ := ih
        rw [pieces, hpieces]
        by_cases hc : c = separator
        · rw [if_pos hc, hc]
          exact ⟨by simpa using ⟨hpiece, hmore⟩, rfl⟩
        · rw [if_neg hc]
          refine ⟨List.forall_mem_cons.2 ⟨by simp [Ne.symm hc, hpiece], hmore⟩, ?_⟩
          cases more <;> rfl
  · rintro ⟨hne, hfree, rfl⟩
    obtain ⟨x, xs, rfl⟩ := List.exists_cons_of_ne_nil hne
    obtain ⟨hx, hxs⟩ := List.forall_mem_cons.1 hfree
    simpa using pieces_join List.not_mem_nil hx hxs

/-- Every character of joined texts stands in one of them, or between two. -/
theorem mem_join {separator : List Char} {xs : List (List Char)} {c : Char}
    (h : c ∈ join separator xs) : c ∈ separator ∨ ∃ x ∈ xs, c ∈ x := by
  induction xs with
  | nil => simp [join] at h
  | cons x xs ih =>
    cases xs with
    | nil => exact .inr ⟨x, by simp, h⟩
    | cons y ys =>
      rw [join, List.append_assoc, List.mem_append, List.mem_append] at h
      · rcases h with h | h | h
        · exact .inr ⟨x, by simp, h⟩
        · exact .inl h
        · rcases ih h with h | ⟨z, hz, hc⟩
          · exact .inl h
          · exact .inr ⟨z, List.mem_cons_of_mem x hz, hc⟩
      · simp

theorem join_eq_intercalate (separator : List Char) (xs : List (List Char)) :
    join separator xs = separator.intercalate xs := by
  induction xs with
  | nil => rfl
  | cons x xs ih =>
    cases xs with
    | nil => simp [join]
    | cons y ys =>
      rw [join, ih, List.intercalate_cons_cons]
      simp

/-! ## Lines -/

/-- Only a carriage return at the end of a line is left out. -/
theorem dropReturn_concat (line : List Char) {c : Char} (hc : c ≠ '\r') :
    dropReturn (line ++ [c]) = line ++ [c] := by
  rw [dropReturn, List.getLast?_concat, if_neg]
  simpa using hc

/-- Texts put together line by line, with a line feed after the last one or without. -/
def ofLines (xs : List String) (ended : Bool) : String :=
  "\n".intercalate (xs ++ if ended then [""] else [])

/-- **A reader of lines reads what was put together by line feeds**, if it reads nothing off an empty
line and does not look at a carriage return at the end of one. -/
theorem filterMap_lines_join {α : Type} {read : List Char → Option α} (hempty : read [] = none)
    {xs : List (List Char)} (hfeed : ∀ x ∈ xs, '\n' ∉ x)
    (hreturn : ∀ x ∈ xs, read (dropReturn x) = read x) :
    (lines (join ['\n'] xs)).filterMap read = xs.filterMap read := by
  rcases List.eq_nil_or_concat' xs with rfl | ⟨front, last, rfl⟩
  · rfl
  have hpieces : pieces '\n' (join ['\n'] (front ++ [last])) = front ++ [last] :=
    pieces_eq_iff.2 ⟨List.append_ne_nil_of_right_ne_nil front (List.cons_ne_nil last []), hfeed, rfl⟩
  have hfront : (front.map dropReturn).filterMap read = front.filterMap read := by
    rw [List.filterMap_map]
    exact List.filterMap_congr fun x hx => hreturn x (List.mem_append_left [last] hx)
  rw [lines, hpieces, List.getLast?_concat, List.dropLast_concat]
  split
  · next hlast =>
    rw [Option.some.inj hlast, hfront, List.filterMap_append, List.filterMap_cons_none hempty,
      List.filterMap_nil, List.append_nil]
  · rw [List.filterMap_append, hfront, List.filterMap_append]
    rfl

theorem filterMap_lines_ofLines {α : Type} {read : List Char → Option α} (hempty : read [] = none)
    {xs : List String} (hfeed : ∀ x ∈ xs, '\n' ∉ x.toList)
    (hreturn : ∀ x ∈ xs, read (dropReturn x.toList) = read x.toList) (ended : Bool) :
    (lines (ofLines xs ended).toList).filterMap read = xs.filterMap fun x => read x.toList := by
  have htext : (ofLines xs ended).toList =
      join ['\n'] (xs.map String.toList ++ if ended then [[]] else []) := by
    rw [ofLines, String.toList_intercalate, join_eq_intercalate, List.map_append]
    cases ended <;> rfl
  rw [htext, filterMap_lines_join hempty, List.filterMap_append, List.filterMap_map]
  · cases ended with
    | true => exact (congrArg _ (List.filterMap_cons_none hempty)).trans (List.append_nil _)
    | false => exact List.append_nil _
  · refine List.forall_mem_append.2 ⟨List.forall_mem_map.2 hfeed, ?_⟩
    cases ended <;> simp
  · refine List.forall_mem_append.2 ⟨List.forall_mem_map.2 hreturn, ?_⟩
    cases ended <;> simp [dropReturn]

/-! ## Trimming -/

theorem IsWhole.stops {w : List Char} (hw : IsWhole w) (s : List Char) : Stops isBlank (w ++ s) := by
  cases w with
  | nil => exact absurd rfl hw.ne_nil
  | cons c w => exact stops_cons.2 (hw.solid c (by simp))

theorem IsWhole.reverse {w : List Char} (hw : IsWhole w) : IsWhole w.reverse :=
  ⟨by simpa using hw.ne_nil, fun c hc => hw.solid c (List.mem_reverse.1 hc)⟩

/-- A text that starts with a word is trimmed at its end only. -/
theorem IsWhole.trim_append {w : List Char} (hw : IsWhole w) (s : List Char) :
    trim (w ++ s) = trimRight (w ++ s) :=
  congrArg trimRight (dropWhile_append_of_stop (a := []) (by simp) (hw.stops s))

/-- White space after a text that has none at its ends is trimmed off. -/
theorem trim_append_of_stops {w gap : List Char} (hleft : Stops isBlank (w ++ gap))
    (hright : Stops isBlank w.reverse) (hgap : ∀ c ∈ gap, isBlank c = true) :
    trim (w ++ gap) = w := by
  have hfront : trimLeft (w ++ gap) = w ++ gap := dropWhile_append_of_stop (a := []) (by simp) hleft
  rw [trim, hfront, trimRight, List.reverse_append,
    dropWhile_append_of_stop (by simpa using hgap) hright, List.reverse_reverse]

theorem trim_append_blank {w gap : List Char} (hw : IsWhole w)
    (hgap : ∀ c ∈ gap, isBlank c = true) : trim (w ++ gap) = w :=
  trim_append_of_stops (hw.stops gap) (by simpa using hw.reverse.stops []) hgap

theorem trim_cons_blank {c : Char} (hc : isBlank c = true) (text : List Char) :
    trim (c :: text) = trim text := by
  rw [trim, trim, trimLeft, trimLeft, List.dropWhile_cons_of_pos hc]

/-- White space at the end of a text is trimmed off. -/
theorem trim_append_singleton {c : Char} (hc : isBlank c = true) (text : List Char) :
    trim (text ++ [c]) = trim text := by
  have hnone : [c].dropWhile isBlank = [] := List.dropWhile_cons_of_pos hc
  rw [trim, trim, trimLeft, trimLeft, List.dropWhile_append, hnone]
  split
  · next hempty => rw [List.isEmpty_iff.1 hempty]
  · rw [trimRight, trimRight, List.reverse_append, List.reverse_singleton, List.singleton_append,
      List.dropWhile_cons_of_pos hc]

/-- Trimming keeps the last character of a text unless it is white space. -/
theorem getLast?_trim_append_singleton {c : Char} (hc : isBlank c = false) (text : List Char) :
    (trim (text ++ [c])).getLast? = some c := by
  obtain ⟨front, hfront⟩ : ∃ front, trimLeft (text ++ [c]) = front ++ [c] := by
    rw [trimLeft, List.dropWhile_append]
    split
    · exact ⟨[], List.dropWhile_cons_of_neg (by simp [hc])⟩
    · exact ⟨_, rfl⟩
  rw [trim, hfront, trimRight, List.reverse_append, List.reverse_singleton, List.singleton_append,
    List.dropWhile_cons_of_neg (by simp [hc]), List.reverse_cons, List.reverse_reverse,
    List.getLast?_append, List.getLast?_singleton, Option.some_or]

/-- A word at the front of a text stays there when the text is trimmed. -/
theorem IsWhole.prefix_trim {w : List Char} (hw : IsWhole w) (s : List Char) :
    w <+: trim (w ++ s) := by
  induction s using List.reverseRecOn with
  | nil => rw [trim_append_blank hw (by simp)]
  | append_singleton s c ih =>
    by_cases hc : isBlank c = true
    · rwa [← List.append_assoc, trim_append_singleton hc]
    · rw [hw.trim_append, ← List.append_assoc, trimRight, List.reverse_append, List.reverse_singleton,
        List.singleton_append, List.dropWhile_cons_of_neg hc, List.reverse_cons, List.reverse_reverse,
        List.append_assoc]
      exact List.prefix_append _ _

/-- Only white space is trimmed off the end of a text. -/
theorem exists_append_trimRight (text : List Char) :
    ∃ trail, text = trimRight text ++ trail ∧ ∀ c ∈ trail, isBlank c = true := by
  refine ⟨(text.reverse.takeWhile isBlank).reverse, ?_, fun c hc => ?_⟩
  · rw [trimRight, ← List.reverse_append, List.takeWhile_append_dropWhile, List.reverse_reverse]
  · exact of_mem_takeWhile (List.mem_reverse.1 hc)

/-- **A text is its trimmed form between white space.** -/
theorem exists_append_trim (text : List Char) :
    ∃ lead trail, text = lead ++ (trim text ++ trail) ∧ (∀ c ∈ lead, isBlank c = true) ∧
      ∀ c ∈ trail, isBlank c = true := by
  obtain ⟨trail, htrail, hblank⟩ := exists_append_trimRight (trimLeft text)
  refine ⟨text.takeWhile isBlank, trail, ?_, fun c => of_mem_takeWhile, hblank⟩
  rw [trim, ← htrail, trimLeft, List.takeWhile_append_dropWhile]

theorem trim_subset (text : List Char) : trim text ⊆ text := by
  obtain ⟨lead, trail, htext, -, -⟩ := exists_append_trim text
  intro c hc
  rw [htext]
  exact List.mem_append_right lead (List.mem_append_left trail hc)

/-- What does not start with a character of a class does not reach into such characters before it. -/
theorem infix_of_append_of_stops {p : Char → Bool} {part lead text : List Char} (hpart : Stops p part)
    (hlead : ∀ c ∈ lead, p c = true) (h : part <:+: lead ++ text) : part <:+: text := by
  induction lead with
  | nil => exact h
  | cons c lead ih =>
    obtain ⟨hc, hlead⟩ := List.forall_mem_cons.1 hlead
    rcases List.infix_cons_iff.1 h with hfront | hrest
    · cases part with
      | nil => exact List.nil_infix
      | cons d part =>
        obtain ⟨rfl, -⟩ := List.cons_prefix_cons.1 hfront
        rw [stops_cons.1 hpart] at hc
        cases hc
    · exact ih hlead hrest

/-- **Trimming keeps every part of a text that has no white space at its ends.** -/
theorem infix_trim_iff {part text : List Char} (hfront : Stops isBlank part)
    (hback : Stops isBlank part.reverse) : part <:+: trim text ↔ part <:+: text := by
  obtain ⟨lead, trail, htext, hlead, htrail⟩ := exists_append_trim text
  constructor
  · intro h
    rw [htext]
    exact h.trans ⟨lead, trail, List.append_assoc _ _ _⟩
  · intro h
    rw [htext] at h
    have hrest := infix_of_append_of_stops hfront hlead h
    rw [← List.reverse_infix, List.reverse_append] at hrest
    have hblank : ∀ c ∈ trail.reverse, isBlank c = true := fun c hc =>
      htrail c (List.mem_reverse.1 hc)
    exact List.reverse_infix.1 (infix_of_append_of_stops hback hblank hrest)

/-- A trimmed text does not start with white space. -/
theorem stops_trim (text : List Char) : Stops isBlank (trim text) := by
  obtain ⟨trail, htrail, -⟩ := exists_append_trimRight (trimLeft text)
  have hfront : Stops isBlank (trimLeft text) := stops_dropWhile isBlank text
  rw [htrail] at hfront
  rw [trim]
  cases htrim : trimRight (trimLeft text) with
  | nil => exact stops_nil
  | cons c rest =>
    rw [htrim, List.cons_append] at hfront
    exact stops_cons.2 (stops_cons.1 hfront)

end GasAdvisor.Text
