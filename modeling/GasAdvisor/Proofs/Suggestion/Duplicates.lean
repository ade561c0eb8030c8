import GasAdvisor.Configuration.Loading
import GasAdvisor.Proofs.Suggestion.Counts
import GasAdvisor.Proofs.Suggestion.Incremental

/-!
# Merging without duplicates

Two messages with the same words have similarity one (`similarity_eq_one`), also if they have none.
A suggestion is dropped if its similarity to an earlier one is above the threshold, so whether the
merged list is free of duplicates depends on the threshold alone: below one it is
(`Suggestion.pairwise_not_sameWords_merge`), and at one it is not, since nothing is above
(`Suggestion.merge_one_perm`). A configuration is accepted with one as its threshold
(`Configuration.read_eq_ok_iff`), so both happen (`Suggestion.merge_duplicates`).
-/

namespace GasAdvisor

/-! ## Accepted thresholds -/

namespace Configuration

theorem nonFinite_eq_nil_iff {settings : RuleSettings} :
    nonFinite settings = [] ↔ ∀ p ∈ settings.confidence, p.2.isFinite = true := by
  have hlength : (nonFinite settings).length =
      ((settings.confidence.filter fun p => !p.2.isFinite).map (·.1)).length :=
    List.length_mergeSort _
  rw [← List.length_eq_zero_iff, hlength, List.length_map, List.length_eq_zero_iff,
    List.filter_eq_nil_iff]
  simp

theorem check?_eq_ok_iff {settings config : Configuration} :
    settings.check? = .ok config ↔ settings = config ∧ 0 ≤ settings.similarityThreshold ∧
      settings.similarityThreshold ≤ 1 ∧ ∀ p ∈ settings.rules.confidence, p.2.isFinite = true := by
  rw [check?, ← nonFinite_eq_nil_iff]
  by_cases hrange : 0 ≤ settings.similarityThreshold ∧ settings.similarityThreshold ≤ 1
  · obtain ⟨hlow, hhigh⟩ := hrange
    by_cases hfinite : nonFinite settings.rules = []
    · simp [hlow, hhigh, hfinite]
    · simp [hlow, hhigh, hfinite]
  · have hrefused : (!(decide (0 ≤ settings.similarityThreshold) &&
        decide (settings.similarityThreshold ≤ 1))) = true := by
      rwa [Bool.not_eq_true', ← Bool.not_eq_true, Bool.and_eq_true, decide_eq_true_eq,
        decide_eq_true_eq]
    rw [if_pos hrefused]
    exact iff_of_false nofun fun h => hrange ⟨h.2.1, h.2.2.1⟩

/-- **Which configurations are read**: those of texts whose threshold lies between zero and one, the
bounds included, and whose confidences are finite. -/
theorem read_eq_ok_iff {text : String} {config : Configuration} :
    read text = .ok config ↔ ofText text.toList = .ok config ∧ 0 ≤ config.similarityThreshold ∧
      config.similarityThreshold ≤ 1 ∧ ∀ p ∈ config.rules.confidence, p.2.isFinite = true := by
  rw [read]
  cases ofText text.toList with
  | error e => exact iff_of_false nofun nofun
  | ok settings =>
    rw [check?_eq_ok_iff, Except.ok.injEq]
    exact and_congr_right fun h => by rw [h]

/-- A text is read if it sets a threshold in range and no confidence. -/
theorem exists_read (text : String) (threshold : Float)
    (h : (ofText text.toList).toOption.map (fun c => (c.similarityThreshold, c.rules.confidence)) =
      some (threshold, []))
    (hlow : 0 ≤ threshold) (hhigh : threshold ≤ 1) :
    ∃ config, read text = .ok config ∧ config.similarityThreshold = threshold := by
  cases htext : ofText text.toList with
  | error e => simp [htext, Except.toOption] at h
  | ok config =>
    obtain ⟨hthreshold, hconfidence⟩ : config.similarityThreshold = threshold ∧
        config.rules.confidence = [] := by simpa [htext, Except.toOption] using h
    refine ⟨config, read_eq_ok_iff.2 ⟨htext, ?_, ?_, ?_⟩, hthreshold⟩
    · rwa [hthreshold]
    · rwa [hthreshold]
    · simp [hconfidence]

end Configuration

theorem isNaN_eq_false_of_le {x y : Float} (h : x ≤ y) : x.isNaN = false := by
  rw [isNaN_eq_false_iff]
  intro hnan
  have hle : (x.toModel.unpack.compare y.toModel.unpack).any (·.isLE) = true := of_decide_eq_true h
  rw [hnan] at hle
  cases hle

/-- A number up to one is below one or it is one. -/
theorem eq_one_of_not_lt {x : Float} (hle : x ≤ 1) (hnot : ¬x < 1) : x = 1 := by
  have hx := isNaN_eq_false_of_le hle
  have hone : (1 : Float).isNaN = false := by decide +kernel
  have hbits : (1 : Float).toBits.toNat = 1023 * 2 ^ 52 := by decide +kernel
  rw [le_iff_signedBits hx hone] at hle
  rw [lt_iff_signedBits hx hone] at hnot
  have hsigned : signedBits x.toBits.toNat = 1023 * 2 ^ 52 := by
    rw [le_antisymm hle (not_lt.1 hnot), hbits]
    rfl
  have hnat : x.toBits.toNat = (1 : Float).toBits.toNat := by
    rw [hbits]
    unfold signedBits at hsigned
    split at hsigned <;> omega
  exact Float.toBits_inj.1 (UInt64.toNat_inj.1 hnat)

/-! ## Messages with the same words -/

/-- Whether the same words, in lower case, are in two messages. -/
def SameWords (a b : String) : Prop :=
  ∀ word, word ∈ wordSet a ↔ word ∈ wordSet b

/-- **Messages with the same words have similarity one.** The words that they share are all that each
of them has, and a count divided by itself is one. -/
theorem similarity_eq_one {a b : String} (h : SameWords a b) (hcount : (wordSet a).length < 2 ^ 64) :
    similarity a b = 1 := by
  have hperm : (wordSet a).Perm (wordSet b) :=
    (List.perm_ext_iff_of_nodup (nodup_eraseDups _) (nodup_eraseDups _)).2 h
  have hshared : (wordSet a).filter ((wordSet b).contains ·) = wordSet a :=
    List.filter_eq_self.2 fun word hword => List.contains_iff_mem.2 ((h word).1 hword)
  rw [similarity, overlap, hshared, ← hperm.length_eq, Nat.max_self]
  by_cases hzero : (wordSet a).length = 0
  · exact if_pos hzero
  · rw [if_neg hzero]
    exact ofNat_div_self (Nat.pos_of_ne_zero hzero) hcount

namespace Suggestion

variable {threshold : Float} {lists : List (List Suggestion)}

theorem mem_flatten_of_mem_merge {s : Suggestion} (h : s ∈ merge threshold lists) :
    s ∈ lists.flatten := by
  have hdistinct := (stableDescending_merge threshold lists).perm.mem_iff.1 h
  rw [distinct_eq_survivors] at hdistinct
  exact (survivorsAfter_sublist [] _).subset hdistinct

/-- **Below one, merging leaves no two suggestions with the same words.** -/
theorem pairwise_not_sameWords_merge (hthreshold : threshold < 1)
    (hcount : ∀ s ∈ lists.flatten, (wordSet s.message).length < 2 ^ 64) :
    (merge threshold lists).Pairwise fun s t => ¬SameWords s.message t.message := by
  refine (pairwise_merge threshold lists).imp_of_mem fun {s t} hs ht hdifferent hsame => ?_
  rw [tooSimilar_comm, tooSimilar,
    similarity_eq_one hsame (hcount s (mem_flatten_of_mem_merge hs))] at hdifferent
  exact of_decide_eq_false hdifferent hthreshold

/-- **At one, merging keeps all suggestions with the same words.** -/
theorem merge_one_perm (hcount : ∀ s ∈ lists.flatten, (wordSet s.message).length < 2 ^ 64)
    (hsame : ∀ s ∈ lists.flatten, ∀ t ∈ lists.flatten, SameWords s.message t.message) :
    (merge 1 lists).Perm lists.flatten := by
  have hnone : lists.flatten.Pairwise fun s t => tooSimilar 1 t s = false := by
    refine List.pairwise_of_forall_mem_list fun s hs t ht => ?_
    rw [tooSimilar, similarity_eq_one (hsame t ht s hs) (hcount t ht)]
    decide +kernel
  have hperm := (stableDescending_merge 1 lists).perm
  rwa [distinct_eq_survivors, survivors_eq_self hnone] at hperm

/-- **Whether merging leaves duplicates depends on the threshold.** With any configuration that is
accepted, of whatever messages whose words can be counted in 64 bits: if the threshold is below one,
no two of the merged suggestions have the same words, so none has the message of another. Otherwise
the threshold is one, and suggestions with the same words are all kept. -/
theorem merge_duplicates {text : String} {config : Configuration}
    (hread : Configuration.read text = .ok config) (lists : List (List Suggestion))
    (hcount : ∀ s ∈ lists.flatten, (wordSet s.message).length < 2 ^ 64) :
    (config.similarityThreshold < 1 →
        ((merge config.similarityThreshold lists).Pairwise fun s t =>
          ¬SameWords s.message t.message) ∧
        ((merge config.similarityThreshold lists).map message).Nodup) ∧
      (¬config.similarityThreshold < 1 →
        config.similarityThreshold = 1 ∧
          ((∀ s ∈ lists.flatten, ∀ t ∈ lists.flatten, SameWords s.message t.message) →
            (merge config.similarityThreshold lists).Perm lists.flatten)) := by
  obtain ⟨-, -, hle, -⟩ := Configuration.read_eq_ok_iff.1 hread
  refine ⟨fun hlt => ?_, fun hnot => ?_⟩
  · have hpairs := pairwise_not_sameWords_merge hlt hcount
    refine ⟨hpairs, List.pairwise_map.2 (hpairs.imp fun hdifferent hmessage => ?_)⟩
    rw [hmessage] at hdifferent
    exact hdifferent fun _ => Iff.rfl
  · have hone := eq_one_of_not_lt hle hnot
    rw [hone]
    exact ⟨rfl, merge_one_perm hcount⟩

/-- One suggestion twice, from two sources. -/
def repeatedAdvice : List (List Suggestion) :=
  [[generated "Pack slots" 0.5 .high], [generated "Pack slots" 0.5 .high]]

/-- The configuration of an empty text, whose threshold is below one. -/
theorem merge_duplicates_standard :
    ∃ config, Configuration.read "" = .ok config ∧
      (∀ s ∈ repeatedAdvice.flatten, (wordSet s.message).length < 2 ^ 64) ∧
      config.similarityThreshold < 1 ∧
      ((merge config.similarityThreshold repeatedAdvice).map message).Nodup := by
  obtain ⟨config, hread, hthreshold⟩ := Configuration.exists_read "" 0.7
    (by decide +kernel) (by decide +kernel) (by decide +kernel)
  have hcount : ∀ s ∈ repeatedAdvice.flatten, (wordSet s.message).length < 2 ^ 64 := by
    decide +kernel
  have hlt : config.similarityThreshold < 1 := by
    rw [hthreshold]
    decide +kernel
  exact ⟨config, hread, hcount, hlt, ((merge_duplicates hread repeatedAdvice hcount).1 hlt).2⟩

/-- **Not with every accepted threshold is the merged list free of duplicates**: with one, a message
is in it twice. -/
theorem merge_duplicates_at_one :
    ∃ config, Configuration.read "[ranking]\nsimilarity_threshold = 1.0\n" = .ok config ∧
      ¬((merge config.similarityThreshold repeatedAdvice).Pairwise fun s t =>
        ¬SameWords s.message t.message) ∧
      ¬((merge config.similarityThreshold repeatedAdvice).map message).Nodup := by
  obtain ⟨config, hread, hthreshold⟩ := Configuration.exists_read
    "[ranking]\nsimilarity_threshold = 1.0\n" 1
    (by decide +kernel) (by decide +kernel) (by decide +kernel)
  have hall : ∀ s ∈ repeatedAdvice.flatten, s = generated "Pack slots" 0.5 .high := by
    decide +kernel
  have hperm : (merge 1 repeatedAdvice).Perm repeatedAdvice.flatten := by
    refine merge_one_perm (by decide +kernel) fun s hs t ht _ => ?_
    rw [hall s hs, hall t ht]
  have htwice : merge 1 repeatedAdvice = List.replicate 2 (generated "Pack slots" 0.5 .high) :=
    List.perm_replicate.1 hperm
  refine ⟨config, hread, ?_⟩
  rw [hthreshold, htwice]
  exact ⟨fun hpairs => (List.pairwise_pair.1 hpairs) fun _ => Iff.rfl, by decide +kernel⟩

end Suggestion

end GasAdvisor
