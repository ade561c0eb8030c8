import GasAdvisor.Cache.Sharing
import GasAdvisor.Proofs.Json.Record
import GasAdvisor.Proofs.Text.Utf8
import GasAdvisor.Proofs.Workspace.Steps

/-!
# Entries and their files

* An entry is fresh from its time on and for its lifetime (`CacheEntry.isFresh_iff`); ages have 64 bits,
  which matters only for times that lie further apart.
* The text of an entry holds its time, also if it does not hold its suggestions
  (`CacheEntry.timestamp_of_ofText?`).
* What a cache holds in memory after an entry was inserted is that entry or was there before
  (`Cache.mem_insert`).
* The file for a key stands in the directory, under a name that tells the key
  (`Cache.resolve_entryPath`), if there is no slash in the key. There is none in a digest
  (`Cache.slash_not_mem_key`).
-/

namespace GasAdvisor

open Text Json

/-- A record of an object starts with a brace. -/
theorem Json.readRecord_brace (limit : Nat) (fields : List (String × ValueReader))
    (s : List Char) :
    readRecord limit fields ('{' :: s) =
      readObject limit (fun name => (fields.lookup name).getD readIgnored) s := by
  rw [readRecord, skipSpace_cons (by decide)]
  rfl

namespace CacheEntry

variable {entry found : CacheEntry}

/-- **An entry is fresh from its time on and for its lifetime.** -/
theorem isFresh_iff {entry : CacheEntry} {lifetime : Nat} {now : Int}
    (hnear : now - entry.timestamp < 2 ^ 63) :
    entry.isFresh lifetime now = true ↔
      entry.timestamp ≤ now ∧ now - entry.timestamp < lifetime := by
  have hlimit : (1 <<< 63 : Int) = 2 ^ 63 := by decide
  rw [isFresh, Bool.and_eq_true, decide_eq_true_iff, decide_eq_true_iff, age, clamp64, hlimit]
  omega

/-- The content of a file that an entry is written into holds what its text holds. -/
theorem ofContent?_encode_text (entry : CacheEntry) :
    ofContent? (encode entry.text.toList) = ofText? entry.text := by
  rw [ofContent?, decode?_encode, Option.bind_some, String.ofList_toList]

/-! ## Texts -/

theorem timestamp_of_ofJson? {time : Int} {more : List (String × Json)}
    (h : ofJson? (.object (("timestamp", .integer time) :: more)) = some found) :
    found.timestamp = time := by
  obtain ⟨fields, hfields, h⟩ := Option.bind_eq_some_iff.1 h
  change ["timestamp", "suggestions"].mapM
    (Field.ofMembers (("timestamp", .integer time) :: more)) = some fields at hfields
  rw [List.mapM_cons, List.mapM_cons, List.mapM_nil] at hfields
  obtain ⟨first, hfirst, hfields⟩ := Option.bind_eq_some_iff.1 hfields
  obtain ⟨others, hothers, hfields⟩ := Option.bind_eq_some_iff.1 hfields
  obtain ⟨second, -, hothers⟩ := Option.bind_eq_some_iff.1 hothers
  cases hothers
  cases hfields
  obtain rfl := eq_given_of_ofMembers_cons hfirst
  obtain ⟨read, hread, h⟩ := Option.bind_eq_some_iff.1 h
  obtain ⟨suggestions, -, h⟩ := Option.bind_eq_some_iff.1 h
  cases h
  change (if clamp64 time = time then some time else none) = some read at hread
  split at hread
  · exact (Option.some.inj hread).symm
  · cases hread

theorem exists_toList_text (entry : CacheEntry) :
    ∃ more, entry.text.toList =
      '{' :: (quote "timestamp" ++ ':' :: (writeInteger entry.timestamp ++ ',' :: more)) :=
  ⟨compactMembers [("suggestions", .ofList Suggestion.toJson entry.suggestions)] ++ ['}'], by
    simp [text, toJson, compact, compactMembers]⟩

/-- The time in the text of an entry is the time of what the text holds. -/
theorem timestamp_of_ofText? (htime : IsInteger64 entry.timestamp)
    (h : ofText? entry.text = some found) : found.timestamp = entry.timestamp := by
  obtain ⟨value, hvalue, hfound⟩ := Option.bind_eq_some_iff.1 h
  obtain ⟨more, hmore⟩ := exists_toList_text entry
  rw [hmore, parseWith?] at hvalue
  split at hvalue
  · next read left hread =>
    split at hvalue
    · cases hvalue
      have hopen (s : List Char) : Stops (· = '}') (skipSpace (quote "timestamp" ++ s)) := by
        rw [quote, List.cons_append, List.cons_append, skipSpace_cons (by decide), stops_cons]
        decide
      rw [CacheEntry.readRecord, readRecord_brace, readObject_eq_map (hopen _)] at hread
      obtain ⟨⟨members, after⟩, hmembers, heq⟩ := Option.map_eq_some_iff.1 hread
      cases heq
      obtain ⟨others, rfl⟩ := exists_of_readMembers_quote
        (readValue_of_readNumber (readNumber_writeInteger htime (stops_cons.2 (by decide)))) hmembers
      exact timestamp_of_ofJson? hfound
    · cases hvalue
  · cases hvalue

end CacheEntry

namespace Cache

variable {cache : Cache} {key other : String} {entry : CacheEntry}

/-! ## Memory -/

theorem mem_insert {item : String × CacheEntry} (h : item ∈ (cache.insert key entry).entries) :
    item = (key, entry) ∨ item ∈ cache.entries := by
  rcases List.mem_cons.1 h with rfl | hold
  · exact .inl rfl
  · exact .inr (List.mem_of_mem_filter hold)

theorem mem_of_remembered? {now : Int} (h : cache.remembered? now key = some entry) :
    (key, entry) ∈ cache.entries ∧ entry.isFresh cache.lifetime now = true := by
  obtain ⟨hlookup, hfresh⟩ := Option.filter_eq_some_iff.1 h
  obtain ⟨earlier, later, hentries, -⟩ := List.lookup_eq_some_iff.1 hlookup
  exact ⟨by simp [hentries], hfresh⟩

/-! ## Files -/

/-- The name of the file for a key. -/
theorem resolve_entryPath (start : Place) (directory : String) (h : '/' ∉ key.toList) :
    Path.resolve start (entryPath directory key) =
      Path.resolve start directory ++ [key ++ ".json"] := by
  have hlength : (key ++ ".json").length = key.length + 5 := String.length_append key ".json"
  have hne {name : String} (hshort : name.length < 5) : key ++ ".json" ≠ name := by
    intro heq
    rw [heq] at hlength
    omega
  have hslash : '/' ∉ (key ++ ".json").toList := by
    simp [String.toList_append, h]
  have hempty : key ++ ".json" ≠ "" := hne (by decide)
  have hdot : key ++ ".json" ≠ "." := hne (by decide)
  have hdots : key ++ ".json" ≠ ".." := hne (by decide)
  rw [entryPath, Path.resolve_join start directory hslash, Path.lead, Path.isName,
    if_neg (by simp [hempty, hdot]), if_neg hdots]

theorem slash_not_mem_byteDigits {b : Nat} (hb : b < 0x100) : '/' ∉ Sha256.byteDigits b := by
  have hdigit : ∀ n < 16, hexDigit n ≠ '/' := by decide
  have hhigh := hdigit (b / 0x10) (by omega)
  have hlow := hdigit (b % 0x10) (by omega)
  simp [Sha256.byteDigits, hhigh.symm, hlow.symm]

theorem lt_of_mem_bytesOfNat {b count n : Nat} (h : b ∈ Sha256.bytesOfNat count n) :
    b < 0x100 := by
  induction count generalizing n with
  | zero => cases h
  | succ count ih =>
    rcases List.mem_append.1 h with hfront | hlast
    · exact ih hfront
    · have hb : b = n % 0x100 := by simpa using hlast
      omega

/-- **There is no slash in a digest.** -/
theorem slash_not_mem_key (kind text : String) : '/' ∉ (Cache.key kind text).toList := by
  rw [Cache.key, String.toList_ofList, Sha256.ofText]
  intro h
  obtain ⟨word, -, hword⟩ := List.mem_flatMap.1 h
  obtain ⟨b, hb, hdigits⟩ := List.mem_flatMap.1 hword
  exact slash_not_mem_byteDigits (lt_of_mem_bytesOfNat hb) hdigits

end Cache

end GasAdvisor
