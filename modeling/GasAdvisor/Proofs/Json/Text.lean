import GasAdvisor.Json.Reader
import GasAdvisor.Proofs.Json.Number

/-!
# Values read back from their texts

The text of a value over several lines is read as the value (`parse?_pretty`), if the value is
`Legible`: its integers have 64 bits, its doubles are what their texts are read as, and it does not nest
deeper than a reader goes.

Strings need no condition. Each character is read back from its escape whatever follows it
(`readString_escapeChar`), and so is the whole string.

The texts of items and members start on lines of their own, so that a reader first skips white space.
A number there is followed by a comma, by white space or by nothing, and thus ends
(`readNumber_append`).
-/

namespace GasAdvisor.Json

open Text

variable {depth level limit : Nat} {value : Json} {s rest : List Char}

/-! ## Strings -/

theorem hexNumber?_hexDigits {n : Nat} (h : n < 0x20) :
    hexNumber? ['0', '0', hexDigit (n / 16), hexDigit (n % 16)] = some n := by
  have hall : ∀ n < 0x20,
      hexNumber? ['0', '0', hexDigit (n / 16), hexDigit (n % 16)] = some n := by decide
  exact hall n h

theorem readString_plain {c : Char} (hquote : c ≠ '"') (hslash : c ≠ '\\') (hc : ¬c.toNat < 0x20)
    (s : List Char) :
    readString (c :: s) = (readString s).map fun found => (c :: found.1, found.2) := by
  rw [readString.eq_def]
  split
  · next heq => cases heq
  · next heq => exact absurd (List.cons.inj heq).1 hquote
  · next heq => exact absurd (List.cons.inj heq).1 hslash
  · next heq => exact absurd (List.cons.inj heq).1 hslash
  · next heq =>
    cases heq
    rw [if_neg (by simp [hslash, hc])]
    cases readString s <;> rfl

theorem readString_escaped {c x : Char} (h : escaped? x = some c) (s : List Char) :
    readString ('\\' :: x :: s) = (readString s).map fun found => (c :: found.1, found.2) := by
  have hx : x ≠ 'u' := by
    rintro rfl
    cases h
  rw [readString.eq_def]
  split
  · next heq => cases heq
  · next heq => exact absurd (List.cons.inj heq).1 (by decide)
  · next heq => exact absurd (List.cons.inj (List.cons.inj heq).2).1 hx
  · next heq =>
    cases heq
    rw [h]
    cases readString s <;> rfl
  · next hno heq =>
    obtain ⟨hslash, hrest⟩ := List.cons.inj heq
    exact absurd hrest.symm (hno x s hslash.symm)

theorem readString_control {c : Char} (h : c.toNat < 0x20) (s : List Char) :
    readString ('\\' :: 'u' :: '0' :: '0' ::
        hexDigit (c.toNat / 16) :: hexDigit (c.toNat % 16) :: s) =
      (readString s).map fun found => (c :: found.1, found.2) := by
  have hhigh : isHighHalf c.toNat = false := by
    simp [isHighHalf]
    omega
  have hlow : isLowHalf c.toNat = false := by
    simp [isLowHalf]
    omega
  rw [readString.eq_def]
  simp only [hexNumber?_hexDigits h, Option.bind_eq_bind, Option.bind_some, hhigh, hlow,
    Bool.false_eq_true, if_false, Char.ofNat_toNat]
  cases readString s <;> rfl

/-- **A character is read back from its escape.** -/
theorem readString_escapeChar (c : Char) (s : List Char) :
    readString (escapeChar c ++ s) =
      (readString s).map fun found => (c :: found.1, found.2) := by
  have hcode {n : Nat} (h : c.toNat = n) : Char.ofNat n = c := by rw [← h, Char.ofNat_toNat]
  unfold escapeChar
  split_ifs with hquote hslash hfeed hreturn htab hback hform hcontrol
  · exact readString_escaped (by rw [hquote]; rfl) s
  · exact readString_escaped (by rw [hslash]; rfl) s
  · exact readString_escaped (by rw [hfeed]; rfl) s
  · exact readString_escaped (by rw [hreturn]; rfl) s
  · exact readString_escaped (by rw [htab]; rfl) s
  · exact readString_escaped (by rw [← hcode hback]; rfl) s
  · exact readString_escaped (by rw [← hcode hform]; rfl) s
  · exact readString_control hcontrol s
  · exact readString_plain hquote hslash hcontrol s

/-- **A string is read back from its text.** -/
theorem readString_quote (s : List Char) (rest : List Char) :
    readString (s.flatMap escapeChar ++ '"' :: rest) = some (s, rest) := by
  induction s with
  | nil => simp [readString]
  | cons c s ih => rw [List.flatMap_cons, List.append_assoc, readString_escapeChar, ih, Option.map_some]

/-! ## White space -/

theorem isSpace_of_mem_newLine {c : Char} (h : c ∈ newLine level) : isSpace c = true := by
  rcases List.mem_cons.1 h with rfl | hc
  · rfl
  · rw [(List.mem_replicate.1 hc).2]
    rfl

theorem skipSpace_newLine_append (level : Nat) (s : List Char) :
    skipSpace (newLine level ++ s) = skipSpace s :=
  List.dropWhile_append_of_pos fun _ => isSpace_of_mem_newLine

theorem skipSpace_of_stops (h : Stops isSpace s) : skipSpace s = s :=
  dropWhile_append_of_stop (a := []) (by simp) h

theorem skipSpace_skipSpace (s : List Char) : skipSpace (skipSpace s) = skipSpace s :=
  skipSpace_of_stops (stops_dropWhile isSpace s)

/-- White space ends a number. -/
theorem stops_newLine (level : Nat) (s : List Char) :
    Stops continuesNumber (newLine level ++ s) := by
  rw [newLine, List.cons_append, stops_cons]
  decide

/-! ## Values -/

/-- A value that is read back from its text: its integers have 64 bits, its doubles are what their
texts are read as, and its arrays and objects nest at most so deep. -/
def Legible : (depth : Nat) → Json → Prop
  | _, .null => True
  | _, .bool _ => True
  | _, .string _ => True
  | _, .integer n => IsInteger64 n
  | _, .double x => ReadsBack x
  | 0, .array _ => False
  | 0, .object _ => False
  | depth + 1, .array items => ∀ item ∈ items, Legible depth item
  | depth + 1, .object members => ∀ member ∈ members, Legible depth member.2

theorem Legible.mono {deeper : Nat} (h : Legible depth value) (hle : depth ≤ deeper) :
    Legible deeper value := by
  induction depth generalizing deeper value with
  | zero => cases value <;> cases deeper <;> first | exact h | exact h.elim
  | succ depth ih =>
    obtain ⟨deeper, rfl⟩ : ∃ n, deeper = n + 1 := ⟨deeper - 1, by omega⟩
    cases value with
    | array items => exact fun item hitem => ih (h item hitem) (by omega)
    | object members => exact fun named hnamed => ih (h named hnamed) (by omega)
    | null | bool _ | integer _ | double _ | string _ => exact h

/-! ### The first character of a value -/

/-- The characters that a value starts with. -/
def startsValue (c : Char) : Bool :=
  !isSpace c && c ≠ ']' && c ≠ '}'

/-- The characters that a number starts with. -/
def startsNumber (c : Char) : Bool :=
  c.isDigit || c = '-'

theorem ne_of_startsNumber {c d : Char} (hc : startsNumber c = true)
    (hd : startsNumber d = false) : c ≠ d := by
  rintro rfl
  rw [hc] at hd
  cases hd

theorem startsValue_of_startsNumber {c : Char} (h : startsNumber c = true) :
    startsValue c = true := by
  have hne {d : Char} (hd : startsNumber d = false) : c ≠ d := ne_of_startsNumber h hd
  simp [startsValue, isSpace, hne (d := ' ') rfl, hne (d := '\n') rfl, hne (d := '\t') rfl,
    hne (d := '\r') rfl, hne (d := ']') rfl, hne (d := '}') rfl]

theorem isSpace_of_startsValue {c : Char} (h : startsValue c = true) : isSpace c = false := by
  simp only [startsValue, Bool.and_eq_true, Bool.not_eq_true'] at h
  exact h.1.1

theorem exists_startsNumber {found : Json × List Char} (h : readNumber s = some found) :
    ∃ c rest, s = c :: rest ∧ startsNumber c = true := by
  cases s with
  | nil => cases h
  | cons c s =>
    refine ⟨c, s, rfl, ?_⟩
    by_cases hc : c = '-'
    · simp [startsNumber, hc]
    · rw [readNumber_cons_of_ne hc] at h
      have hdigit : c.isDigit = true := by
        by_contra hno
        simp [readUnsigned, takeDigits, hno] at h
      simp [startsNumber, hdigit]

theorem exists_startsNumber_writeInteger {n : Int} (h : IsInteger64 n) :
    ∃ c rest, writeInteger n = c :: rest ∧ startsNumber c = true := by
  have hread := readNumber_writeInteger h stops_nil
  rw [List.append_nil] at hread
  exact exists_startsNumber hread

/-- The text of a value starts with neither white space nor an end. -/
theorem exists_startsValue_prettyAt (level : Nat) (h : Legible depth value) :
    ∃ c s, prettyAt level value = c :: s ∧ startsValue c = true := by
  have hnumber {s : List Char} (hs : ∃ c rest, s = c :: rest ∧ startsNumber c = true) :
      ∃ c rest, s = c :: rest ∧ startsValue c = true := by
    obtain ⟨c, rest, hs, hc⟩ := hs
    exact ⟨c, rest, hs, startsValue_of_startsNumber hc⟩
  cases value with
  | null => exact ⟨'n', _, rfl, by decide⟩
  | bool b => cases b with
    | false => exact ⟨'f', _, rfl, by decide⟩
    | true => exact ⟨'t', _, rfl, by decide⟩
  | integer n =>
    have hn : IsInteger64 n := by cases depth <;> exact h
    exact hnumber (exists_startsNumber_writeInteger hn)
  | double x =>
    have hx : ReadsBack x := by cases depth <;> exact h
    exact hnumber (exists_startsNumber hx)
  | string s => exact ⟨'"', _, rfl, by decide⟩
  | array items => cases items with
    | nil => exact ⟨'[', _, rfl, by decide⟩
    | cons item items => exact ⟨'[', _, rfl, by decide⟩
  | object members => cases members with
    | nil => exact ⟨'{', _, rfl, by decide⟩
    | cons member members => exact ⟨'{', _, rfl, by decide⟩

/-! ### Scalars -/

theorem readScalar_of_startsNumber {c : Char} (h : startsNumber c = true) :
    readScalar (c :: s) = readNumber (c :: s) := by
  unfold readScalar
  split
  · next heq => exact absurd (List.cons.inj heq).1 (ne_of_startsNumber h rfl)
  · next heq => exact absurd (List.cons.inj heq).1 (ne_of_startsNumber h rfl)
  · next heq => exact absurd (List.cons.inj heq).1 (ne_of_startsNumber h rfl)
  · next heq => exact absurd (List.cons.inj heq).1 (ne_of_startsNumber h rfl)
  · rfl

/-- A value that is neither an array nor an object is read alike at every depth. -/
theorem readValue_of_scalar {c : Char} (hspace : isSpace c = false) (harray : c ≠ '[')
    (hobject : c ≠ '{') : readValue limit depth (c :: s) = readScalar (c :: s) := by
  have hskip : skipSpace (c :: s) = c :: s := skipSpace_of_stops (stops_cons.2 hspace)
  cases depth with
  | zero =>
    rw [readValue, hskip]
    split
    · next heq => exact absurd (List.cons.inj heq).1 harray
    · next heq => exact absurd (List.cons.inj heq).1 hobject
    · rfl
  | succ depth =>
    rw [readValue, hskip]
    split
    · next heq => exact absurd (List.cons.inj heq).1 harray
    · next heq => exact absurd (List.cons.inj heq).1 hobject
    · rfl

theorem readValue_of_readNumber {found : Json × List Char} (h : readNumber s = some found) :
    readValue limit depth s = some found := by
  obtain ⟨c, rest, rfl, hc⟩ := exists_startsNumber h
  rw [readValue_of_scalar (isSpace_of_startsValue (startsValue_of_startsNumber hc))
    (ne_of_startsNumber hc rfl) (ne_of_startsNumber hc rfl), readScalar_of_startsNumber hc, h]

/-! ### Items and members -/

/-- A reader that skips the white space before a value. -/
def SkipsSpace (reader : ValueReader) : Prop := ∀ s, reader (skipSpace s) = reader s

theorem skipsSpace_readValue (limit depth : Nat) : SkipsSpace (readValue limit depth) := by
  intro s
  cases depth <;> simp only [readValue, skipSpace_skipSpace]

theorem readItems_skipSpace {item : ValueReader} (h : SkipsSpace item) (limit : Nat)
    (s : List Char) : readItems item limit (skipSpace s) = readItems item limit s := by
  cases limit with
  | zero => rfl
  | succ limit => rw [readItems, readItems, h]

theorem readMembers_skipSpace (member : String → ValueReader) (limit : Nat) (s : List Char) :
    readMembers member limit (skipSpace s) = readMembers member limit s := by
  cases limit with
  | zero => rfl
  | succ limit => simp only [readMembers, skipSpace_skipSpace]

theorem prettyItems_cons_cons (level : Nat) (value next : Json) (items : List Json) :
    prettyItems level (value :: next :: items) =
      newLine level ++ prettyAt level value ++ ',' :: prettyItems level (next :: items) := by
  rw [prettyItems]
  exact nofun

theorem prettyMembers_cons_cons (level : Nat) (name : String) (value : Json)
    (next : String × Json) (members : List (String × Json)) :
    prettyMembers level ((name, value) :: next :: members) =
      newLine level ++ quote name ++ ':' :: ' ' :: prettyAt level value ++
        ',' :: prettyMembers level (next :: members) := by
  rw [prettyMembers]
  exact nofun

/-- What ends a list of items or members is found after white space. -/
theorem skipSpace_newLine_cons {c : Char} (hc : isSpace c = false) (level : Nat) (s : List Char) :
    skipSpace (newLine level ++ c :: s) = c :: s := by
  rw [skipSpace_newLine_append]
  exact skipSpace_of_stops (stops_cons.2 hc)

theorem skipSpace_cons {c : Char} (hc : isSpace c = false) (s : List Char) :
    skipSpace (c :: s) = c :: s :=
  skipSpace_of_stops (stops_cons.2 hc)

theorem readItems_prettyItems {item : ValueReader} {items : List Json} (hne : items ≠ [])
    (hlimit : items.length ≤ limit)
    (hitem : ∀ value ∈ items, ∀ rest, Stops continuesNumber rest →
      item (newLine level ++ prettyAt level value ++ rest) = some (value, rest))
    (outer : Nat) (rest : List Char) :
    readItems item limit (prettyItems level items ++ newLine outer ++ ']' :: rest) =
      some (items, rest) := by
  induction items generalizing limit with
  | nil => exact absurd rfl hne
  | cons value items ih =>
    obtain ⟨limit, rfl⟩ : ∃ n, limit = n + 1 := ⟨limit - 1, by simp at hlimit; omega⟩
    cases items with
    | nil =>
      have hvalue := hitem value (by simp) (newLine outer ++ ']' :: rest) (stops_newLine _ _)
      rw [prettyItems, List.append_assoc, readItems, hvalue]
      simp [skipSpace_newLine_cons (show isSpace ']' = false by decide)]
    | cons next items =>
      have hvalue := hitem value (by simp)
        (',' :: (prettyItems level (next :: items) ++ newLine outer ++ ']' :: rest))
        (stops_cons.2 (by decide))
      have hlimit : (next :: items).length ≤ limit := by simpa using hlimit
      have hmore := ih (by simp) hlimit fun other hother =>
        hitem other (List.mem_cons_of_mem value hother)
      rw [prettyItems_cons_cons, readItems]
      simp only [List.append_assoc, List.cons_append] at hvalue hmore ⊢
      simp [hvalue, skipSpace_cons (show isSpace ',' = false by decide), hmore]

theorem readMembers_prettyMembers {member : String → ValueReader}
    {members : List (String × Json)} (hne : members ≠ []) (hlimit : members.length ≤ limit)
    (hmember : ∀ named ∈ members, ∀ rest, Stops continuesNumber rest →
      member named.1 (' ' :: prettyAt level named.2 ++ rest) = some (named.2, rest))
    (outer : Nat) (rest : List Char) :
    readMembers member limit (prettyMembers level members ++ newLine outer ++ '}' :: rest) =
      some (members, rest) := by
  have hquote (name : String) (s : List Char) :
      skipSpace (newLine level ++ (quote name ++ s)) =
        '"' :: (name.toList.flatMap escapeChar ++ '"' :: s) := by
    simp [quote, skipSpace_newLine_cons (show isSpace '"' = false by decide)]
  have hcolon (s : List Char) : skipSpace (':' :: s) = ':' :: s := skipSpace_cons (by decide) s
  induction members generalizing limit with
  | nil => exact absurd rfl hne
  | cons named members ih =>
    obtain ⟨limit, rfl⟩ : ∃ n, limit = n + 1 := ⟨limit - 1, by simp at hlimit; omega⟩
    obtain ⟨name, value⟩ := named
    cases members with
    | nil =>
      have hvalue := hmember (name, value) (by simp) (newLine outer ++ '}' :: rest)
        (stops_newLine _ _)
      rw [prettyMembers, readMembers]
      simp only [List.append_assoc, List.cons_append] at hvalue ⊢
      rw [hquote]
      simp [readString_quote, hcolon, hvalue,
        skipSpace_newLine_cons (show isSpace '}' = false by decide)]
    | cons next members =>
      have hvalue := hmember (name, value) (by simp)
        (',' :: (prettyMembers level (next :: members) ++ newLine outer ++ '}' :: rest))
        (stops_cons.2 (by decide))
      have hlimit : (next :: members).length ≤ limit := by simpa using hlimit
      have hmore := ih (by simp) hlimit fun other hother =>
        hmember other (List.mem_cons_of_mem _ hother)
      rw [prettyMembers_cons_cons, readMembers]
      simp only [List.append_assoc, List.cons_append] at hvalue hmore ⊢
      rw [hquote]
      simp [readString_quote, hcolon, hvalue, skipSpace_cons (show isSpace ',' = false by decide),
        hmore]

/-- The first of the members that are read is the one at the front of the text. -/
theorem exists_of_readMembers_quote {member : String → ValueReader} {name : String}
    {value : Json} {limit : Nat} {s rest after : List Char} {members : List (String × Json)}
    (hvalue : member name s = some (value, rest))
    (h : readMembers member limit (quote name ++ ':' :: s) = some (members, after)) :
    ∃ more, members = (name, value) :: more := by
  have hname : skipSpace (quote name ++ ':' :: s) =
      '"' :: (name.toList.flatMap escapeChar ++ '"' :: ':' :: s) := by
    simp [quote, skipSpace_cons (show isSpace '"' = false by decide)]
  cases limit with
  | zero => cases h
  | succ limit =>
    rw [readMembers, hname] at h
    simp only [readString_quote, Option.bind_eq_bind, Option.bind_some, String.ofList_toList,
      skipSpace_cons (show isSpace ':' = false by decide), hvalue] at h
    split at h
    · cases h
      exact ⟨[], rfl⟩
    · obtain ⟨⟨more, left⟩, -, heq⟩ := Option.bind_eq_some_iff.1 h
      cases heq
      exact ⟨more, rfl⟩
    · cases h

theorem readArray_eq_map {item : ValueReader} (hitem : SkipsSpace item)
    (hopen : Stops (· = ']') (skipSpace s)) :
    readArray limit item s =
      (readItems item limit s).map fun found => (.array found.1, found.2) := by
  unfold readArray
  split
  · next hend =>
    rw [hend] at hopen
    exact absurd (stops_cons.1 hopen) (by decide)
  · rw [readItems_skipSpace hitem]

theorem readObject_eq_map {member : String → ValueReader}
    (hopen : Stops (· = '}') (skipSpace s)) :
    readObject limit member s =
      (readMembers member limit s).map fun found => (.object found.1, found.2) := by
  unfold readObject
  split
  · next hend =>
    rw [hend] at hopen
    exact absurd (stops_cons.1 hopen) (by decide)
  · rw [readMembers_skipSpace]

theorem exists_prettyItems_cons (level : Nat) (value : Json) (items : List Json) :
    ∃ more, prettyItems level (value :: items) =
      newLine level ++ (prettyAt level value ++ more) := by
  cases items with
  | nil => exact ⟨[], by rw [prettyItems, List.append_nil]⟩
  | cons next items =>
    exact ⟨',' :: prettyItems level (next :: items), by
      rw [prettyItems_cons_cons, List.append_assoc]⟩

theorem exists_prettyMembers_cons (level : Nat) (named : String × Json)
    (members : List (String × Json)) :
    ∃ more, prettyMembers level (named :: members) = newLine level ++ '"' :: more := by
  obtain ⟨name, value⟩ := named
  cases members with
  | nil => exact ⟨_, by rw [prettyMembers, quote, List.append_assoc]; rfl⟩
  | cons next members =>
    exact ⟨_, by rw [prettyMembers_cons_cons, quote, List.append_assoc, List.append_assoc]; rfl⟩

/-! ### Lengths -/

theorem length_le_prettyItems (level : Nat) (items : List Json) :
    items.length ≤ (prettyItems level items).length ∧
      ∀ value ∈ items, (prettyAt level value).length ≤ (prettyItems level items).length := by
  induction items with
  | nil => simp
  | cons value items ih =>
    cases items with
    | nil =>
      simp [prettyItems, newLine]
      omega
    | cons next items =>
      obtain ⟨hcount, hall⟩ := ih
      have hlength : (prettyItems level (value :: next :: items)).length =
          (newLine level).length + (prettyAt level value).length + 1 +
            (prettyItems level (next :: items)).length := by
        rw [prettyItems_cons_cons]
        simp
        omega
      refine ⟨by simp only [List.length_cons] at hcount ⊢; omega, fun other hother => ?_⟩
      rcases List.mem_cons.1 hother with rfl | hother
      · omega
      · have := hall other hother
        omega

theorem length_le_prettyMembers (level : Nat) (members : List (String × Json)) :
    members.length ≤ (prettyMembers level members).length ∧
      ∀ named ∈ members,
        (prettyAt level named.2).length ≤ (prettyMembers level members).length := by
  induction members with
  | nil => simp
  | cons named members ih =>
    obtain ⟨name, value⟩ := named
    cases members with
    | nil =>
      simp [prettyMembers, newLine]
      omega
    | cons next members =>
      obtain ⟨hcount, hall⟩ := ih
      have hlength : (prettyAt level value).length + 1 +
          (prettyMembers level (next :: members)).length ≤
            (prettyMembers level ((name, value) :: next :: members)).length := by
        rw [prettyMembers_cons_cons]
        simp
        omega
      refine ⟨by simp only [List.length_cons] at hcount ⊢; omega, fun other hother => ?_⟩
      rcases List.mem_cons.1 hother with rfl | hother
      · dsimp only
        omega
      · have := hall other hother
        omega

/-! ### Values -/

theorem readValue_prettyAt_of_scalar (harray : ∀ items, value ≠ .array items)
    (hobject : ∀ members, value ≠ .object members) (h : Legible depth value)
    (hrest : Stops continuesNumber rest) :
    readValue limit depth (prettyAt level value ++ rest) = some (value, rest) := by
  cases value with
  | null => exact readValue_of_scalar (by decide) (by decide) (by decide)
  | bool b => cases b <;> exact readValue_of_scalar (by decide) (by decide) (by decide)
  | integer n =>
    have hn : IsInteger64 n := by cases depth <;> exact h
    exact readValue_of_readNumber (readNumber_writeInteger hn hrest)
  | double x =>
    have hx : ReadsBack x := by cases depth <;> exact h
    exact readValue_of_readNumber (hx.readNumber_append hrest)
  | string s =>
    rw [prettyAt, quote, List.cons_append, List.cons_append,
      readValue_of_scalar (by decide) (by decide) (by decide), readScalar, List.append_assoc,
      List.singleton_append, readString_quote, Option.map_some]
    simp
  | array items => exact absurd rfl (harray items)
  | object members => exact absurd rfl (hobject members)

/-- Items that are read one level deeper are read as an array. -/
theorem readValue_prettyAt_array {first : Json} {items : List Json}
    (hlegible : Legible (depth + 1) (.array (first :: items)))
    (hlimit : (prettyAt level (.array (first :: items))).length ≤ limit)
    (hitems : ∀ item ∈ first :: items, ∀ rest, Stops continuesNumber rest →
      (prettyAt (level + 1) item).length ≤ limit →
      readValue limit depth (prettyAt (level + 1) item ++ rest) = some (item, rest)) :
    readValue limit (depth + 1) (prettyAt level (.array (first :: items)) ++ rest) =
      some (.array (first :: items), rest) := by
  obtain ⟨hcount, hall⟩ := length_le_prettyItems (level + 1) (first :: items)
  have hlength : (prettyItems (level + 1) (first :: items)).length ≤ limit := by
    simp [prettyAt] at hlimit
    omega
  have hitem : ∀ item ∈ first :: items, ∀ rest, Stops continuesNumber rest →
      readValue limit depth (newLine (level + 1) ++ prettyAt (level + 1) item ++ rest) =
        some (item, rest) := by
    intro item hitem rest hrest
    rw [List.append_assoc, ← skipsSpace_readValue, skipSpace_newLine_append, skipsSpace_readValue]
    exact hitems item hitem rest hrest ((hall item hitem).trans hlength)
  have hread := readItems_prettyItems (List.cons_ne_nil first items) (hcount.trans hlength)
    hitem level rest
  have hopen : Stops (· = ']')
      (skipSpace (prettyItems (level + 1) (first :: items) ++ newLine level ++ ']' :: rest)) := by
    obtain ⟨more, hmore⟩ := exists_prettyItems_cons (level + 1) first items
    obtain ⟨c, s, hfirst, hc⟩ :=
      exists_startsValue_prettyAt (level + 1) (hlegible first List.mem_cons_self)
    rw [hmore, List.append_assoc, List.append_assoc, skipSpace_newLine_append, hfirst,
      List.append_assoc, List.cons_append, skipSpace_cons (isSpace_of_startsValue hc), stops_cons]
    simp only [startsValue, Bool.and_eq_true] at hc
    simpa using hc.1.2
  have htext : prettyAt level (.array (first :: items)) ++ rest =
      '[' :: (prettyItems (level + 1) (first :: items) ++ newLine level ++ ']' :: rest) := by
    simp [prettyAt]
  rw [htext, readValue, skipSpace_cons (by decide)]
  change readArray limit (readValue limit depth) _ = _
  rw [readArray_eq_map (skipsSpace_readValue limit depth) hopen, hread, Option.map_some]

/-- Members whose values are read one level deeper are read as an object. -/
theorem readValue_prettyAt_object {first : String × Json} {members : List (String × Json)}
    (hlimit : (prettyAt level (.object (first :: members))).length ≤ limit)
    (hmembers : ∀ named ∈ first :: members, ∀ rest, Stops continuesNumber rest →
      (prettyAt (level + 1) named.2).length ≤ limit →
      readValue limit depth (prettyAt (level + 1) named.2 ++ rest) = some (named.2, rest)) :
    readValue limit (depth + 1) (prettyAt level (.object (first :: members)) ++ rest) =
      some (.object (first :: members), rest) := by
  obtain ⟨hcount, hall⟩ := length_le_prettyMembers (level + 1) (first :: members)
  have hlength : (prettyMembers (level + 1) (first :: members)).length ≤ limit := by
    simp [prettyAt] at hlimit
    omega
  have hmember : ∀ named ∈ first :: members, ∀ rest, Stops continuesNumber rest →
      readValue limit depth (' ' :: prettyAt (level + 1) named.2 ++ rest) =
        some (named.2, rest) := by
    intro named hnamed rest hrest
    have hspace : skipSpace (' ' :: prettyAt (level + 1) named.2 ++ rest) =
        skipSpace (prettyAt (level + 1) named.2 ++ rest) := rfl
    rw [← skipsSpace_readValue, hspace, skipsSpace_readValue]
    exact hmembers named hnamed rest hrest ((hall named hnamed).trans hlength)
  have hread : readMembers (fun _ => readValue limit depth) limit
      (prettyMembers (level + 1) (first :: members) ++ newLine level ++ '}' :: rest) =
        some (first :: members, rest) :=
    readMembers_prettyMembers (List.cons_ne_nil first members) (hcount.trans hlength) hmember
      level rest
  have hopen : Stops (· = '}') (skipSpace
      (prettyMembers (level + 1) (first :: members) ++ newLine level ++ '}' :: rest)) := by
    obtain ⟨more, hmore⟩ := exists_prettyMembers_cons (level + 1) first members
    rw [hmore, List.append_assoc, List.append_assoc, skipSpace_newLine_append, List.cons_append,
      skipSpace_cons (by decide), stops_cons]
    decide
  have htext : prettyAt level (.object (first :: members)) ++ rest =
      '{' ::
        (prettyMembers (level + 1) (first :: members) ++ newLine level ++ '}' :: rest) := by
    simp [prettyAt]
  rw [htext, readValue, skipSpace_cons (by decide)]
  change readObject limit (fun _ => readValue limit depth) _ = _
  rw [readObject_eq_map hopen, hread, Option.map_some]

/-- **A legible value is read back from its text**, whatever follows it. -/
theorem readValue_prettyAt (h : Legible depth value) (hrest : Stops continuesNumber rest)
    (hlimit : (prettyAt level value).length ≤ limit) :
    readValue limit depth (prettyAt level value ++ rest) = some (value, rest) := by
  induction depth generalizing level value rest with
  | zero =>
    have harray : ∀ items, value ≠ .array items := by
      rintro items rfl
      exact h
    have hobject : ∀ members, value ≠ .object members := by
      rintro members rfl
      exact h
    exact readValue_prettyAt_of_scalar harray hobject h hrest
  | succ depth ih =>
    cases value with
    | array items => cases items with
      | nil => rfl
      | cons first items =>
        exact readValue_prettyAt_array h hlimit fun item hitem rest hrest hlimit =>
          ih (h item hitem) hrest hlimit
    | object members => cases members with
      | nil => rfl
      | cons first members =>
        exact readValue_prettyAt_object hlimit fun named hnamed rest hrest hlimit =>
          ih (h named hnamed) hrest hlimit
    | null | bool _ | integer _ | double _ | string _ =>
      exact readValue_prettyAt_of_scalar nofun nofun h hrest

/-- **The text of a legible value holds the value.** -/
theorem parse?_pretty (h : Legible maxDepth value) : parse? (pretty value) = some value := by
  have hread : readValue (pretty value).length maxDepth (pretty value ++ []) = some (value, []) :=
    readValue_prettyAt h stops_nil le_rfl
  rw [List.append_nil] at hread
  simp [parse?, parseWith?, hread, skipSpace]

end GasAdvisor.Json
