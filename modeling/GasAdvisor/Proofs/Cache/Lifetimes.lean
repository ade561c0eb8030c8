import GasAdvisor.Command.Run
import GasAdvisor.Proofs.Cache.Session
import GasAdvisor.Proofs.Checked
import GasAdvisor.Proofs.Suggestion.Duplicates

/-!
# Lifetimes of cached answers

A configuration gives the lifetime of cached answers in hours, and the cache takes it in milliseconds. A
longer lifetime keeps what a shorter one keeps (`CacheEntry.isFresh_mono`), as ages are compared without
loss. But the hours are made into seconds in 64 bits. Where these do not fit there is no cache
(`Configuration.cache?_keeping_eq_some_iff`), although every number of hours is accepted
(`Configuration.check?_keeping`), and a run with a language model is stopped
(`Command.run_runWith_of_overflow`).

`Configuration.keeps_keeping_iff` says for any two numbers of hours whether an entry that is fresh with the
first one is fresh with the second one. Ages have 64 bits, so a lifetime counts for no more than that.
-/

namespace GasAdvisor

/-- What is fresh in the cache `short` is fresh in the cache `long`, at all times. -/
def Cache.Outlasts (long short : Cache) : Prop :=
  ∀ (entry : CacheEntry) (now : Int), entry.isFresh short.lifetime now = true →
    entry.isFresh long.lifetime now = true

namespace CacheEntry

variable {entry : CacheEntry} {now : Int}

/-- **A longer lifetime keeps what a shorter one keeps.** -/
theorem isFresh_mono {short long : Nat} (h : short ≤ long)
    (hfresh : entry.isFresh short now = true) : entry.isFresh long now = true := by
  simp only [isFresh, Bool.and_eq_true, decide_eq_true_eq] at hfresh ⊢
  omega

/-- Ages have 64 bits with a sign, so a lifetime counts for no more than that. -/
theorem isFresh_min {lifetime : Nat} :
    entry.isFresh (min lifetime (2 ^ 63)) now = entry.isFresh lifetime now := by
  have hlimit : (1 <<< 63 : Int) = 2 ^ 63 := by decide
  have hage : entry.age now < 2 ^ 63 := by
    rw [age, clamp64, hlimit]
    omega
  rw [Bool.eq_iff_iff]
  simp only [isFresh, Bool.and_eq_true, decide_eq_true_eq]
  omega

/-- An entry of the first moment of 1970 is as old as the clock says. -/
theorem isFresh_at_zero {lifetime now : Nat} (hnow : now < 2 ^ 63) (suggestions : List Suggestion) :
    isFresh lifetime now ⟨0, suggestions⟩ = true ↔ now < lifetime := by
  rw [isFresh_iff (by simpa using by omega)]
  simp

end CacheEntry

namespace Cache

open CacheSession

variable {long short : Cache}

/-- An entry that a cache still holds when the lifetime of another one is over. -/
theorem exists_fresh_of_lt (h : long.lifetime < min short.lifetime (2 ^ 63)) :
    ∃ (entry : CacheEntry) (now : Int), IsTime entry.timestamp ∧ IsTime now ∧
      entry.isFresh short.lifetime now = true ∧ entry.isFresh long.lifetime now = false := by
  have hnow : long.lifetime < 2 ^ 63 := by omega
  refine ⟨⟨0, []⟩, long.lifetime, ⟨le_rfl, by decide⟩, ⟨by omega, by omega⟩, ?_, ?_⟩
  · exact (CacheEntry.isFresh_at_zero hnow []).2 (by omega)
  · rw [← Bool.not_eq_true, CacheEntry.isFresh_at_zero hnow]
    omega

/-- **When one cache outlasts another.** -/
theorem outlasts_iff_lifetime : long.Outlasts short ↔ min short.lifetime (2 ^ 63) ≤ long.lifetime := by
  constructor
  · intro houtlasts
    by_contra hlt
    obtain ⟨entry, now, -, -, hshort, hlong⟩ := exists_fresh_of_lt (not_le.1 hlt)
    rw [houtlasts entry now hshort] at hlong
    cases hlong
  · intro hle entry now hfresh
    rw [← CacheEntry.isFresh_min] at hfresh
    exact CacheEntry.isFresh_mono hle hfresh

end Cache

namespace Configuration

/-- The configuration with answers of a language model kept for so many hours. -/
def keeping (config : Configuration) (hours : Nat) : Configuration :=
  { config with model := { config.model with keepHours := hours } }

/-- The cache of the language model of a configuration, if there is such a model, for the user with a home
directory or without one. -/
def cache? (config : Configuration) (home : Option String) : Option Cache :=
  (RemoteModel.ofSettings? config.model home).map (·.cache)

/-- What is fresh in the cache of `other` is fresh in the cache of a configuration, at all times. -/
def Keeps (config other : Configuration) (home : Option String) : Prop :=
  ∀ short, other.cache? home = some short → ∃ long, config.cache? home = some long ∧ long.Outlasts short

variable (config : Configuration) (home : Option String)

/-- **Every number of hours is accepted** where the rest of a configuration is. -/
theorem check?_keeping (hours : Nat) :
    (config.keeping hours).check? = config.check?.map (·.keeping hours) := by
  rw [check?, check?, apply_ite (Except.map _), apply_ite (Except.map _)]
  rfl

variable {config home}

/-- **There is a cache exactly if its seconds fit 64 bits**, and then none of them is lost. -/
theorem cache?_keeping_eq_some_iff {hours : Nat} {cache : Cache} :
    (config.keeping hours).cache? home = some cache ↔ hours * 3600 < 2 ^ 64 ∧
      .opened (hours * 3600 * 1000) (config.model.cacheDirectoryIn? home) = cache := by
  simp only [cache?, RemoteModel.ofSettings?, ModelSettings.keepSeconds?, Checked.mul?,
    Option.bind_eq_bind, Option.map_bind, Option.bind_eq_some_iff, Checked.fit?_eq_some_iff]
  constructor
  · rintro ⟨seconds, ⟨hfits, rfl⟩, hcache⟩
    exact ⟨hfits, Option.some.inj hcache⟩
  · rintro ⟨hfits, rfl⟩
    exact ⟨_, ⟨hfits, rfl⟩, rfl⟩

theorem cache?_keeping_eq_none_iff {hours : Nat} :
    (config.keeping hours).cache? home = none ↔ 2 ^ 64 ≤ hours * 3600 := by
  rw [Option.eq_none_iff_forall_ne_some]
  simp only [ne_eq, cache?_keeping_eq_some_iff, not_and]
  exact ⟨fun h => not_lt.1 fun hfits => h _ hfits rfl, fun h _ hfits => absurd hfits (not_lt.2 h)⟩

/-- What a configuration keeps is told from the two lifetimes. -/
theorem keeps_keeping_iff_lifetime {few many : Nat} :
    (config.keeping many).Keeps (config.keeping few) home ↔
      (few * 3600 < 2 ^ 64 → many * 3600 < 2 ^ 64 ∧
        min (few * 3600 * 1000) (2 ^ 63) ≤ many * 3600 * 1000) := by
  constructor
  · intro hkeeps hfew
    obtain ⟨long, hlong, houtlasts⟩ := hkeeps _ (cache?_keeping_eq_some_iff.2 ⟨hfew, rfl⟩)
    obtain ⟨hmany, rfl⟩ := cache?_keeping_eq_some_iff.1 hlong
    exact ⟨hmany, Cache.outlasts_iff_lifetime.1 houtlasts⟩
  · intro h short hshort
    obtain ⟨hfew, rfl⟩ := cache?_keeping_eq_some_iff.1 hshort
    obtain ⟨hmany, hle⟩ := h hfew
    exact ⟨_, cache?_keeping_eq_some_iff.2 ⟨hmany, rfl⟩, Cache.outlasts_iff_lifetime.2 hle⟩

end Configuration

namespace Command

variable {config : Configuration}

/-- **A run whose seconds do not fit is stopped** before it looks at a file, and leaves all files as they
are. -/
theorem run_runWith_of_overflow (henabled : config.model.enabled = true)
    (hover : 2 ^ 64 ≤ config.model.keepHours * 3600) (escapes : Bool) (line : CommandLine)
    (w : MemoryWorkspace) :
    (runWith escapes line config : StateM _ _).run w = (.overflowed, w) := by
  have hseconds : config.model.keepSeconds? = none := Checked.fit?_eq_none_iff.2 hover
  have hbatch (measured : Bool) (files : List String)
      (conclude : Batch → StateM MemoryWorkspace CommandResult) :
      (onBatch config measured files conclude).run w = (.overflowed, w) := by
    unfold onBatch survey?
    simp only [henabled, if_true, RemoteModel.ofSettings?, hseconds]
    rfl
  unfold runWith
  split
  · exact hbatch _ _ _
  · exact hbatch _ _ _
  · exact hbatch _ _ _

end Command

namespace Configuration

/-- **When more hours keep what fewer hours keep.** Every number of hours is accepted, and there is a cache
exactly if their seconds fit 64 bits. As long as those of the larger number do, everything that is fresh
with fewer hours is fresh with more; if they do not, nothing is, and each run with a language model is
stopped. Of any two numbers, the lifetimes decide, up to the age that 64 bits hold. -/
theorem keeps_keeping_iff (config : Configuration) (home : Option String) (few many : Nat) :
    (config.keeping many).check? = config.check?.map (·.keeping many) ∧
    ((config.keeping many).cache? home = none ↔ 2 ^ 64 ≤ many * 3600) ∧
    (few ≤ many → ((config.keeping many).Keeps (config.keeping few) home ↔
      (few * 3600 < 2 ^ 64 → many * 3600 < 2 ^ 64))) ∧
    ((config.keeping many).Keeps (config.keeping few) home ↔
      (few * 3600 < 2 ^ 64 → many * 3600 < 2 ^ 64 ∧
        min (few * 3600 * 1000) (2 ^ 63) ≤ many * 3600 * 1000)) ∧
    (config.model.enabled = true → 2 ^ 64 ≤ many * 3600 →
      ∀ (escapes : Bool) (line : CommandLine) (w : MemoryWorkspace),
        (Command.runWith escapes line (config.keeping many) : StateM _ _).run w = (.overflowed, w)) := by
  refine ⟨config.check?_keeping many, cache?_keeping_eq_none_iff, fun hle => ?_,
    keeps_keeping_iff_lifetime, fun henabled hover => ?_⟩
  · have hlifetime : min (few * 3600 * 1000) (2 ^ 63) ≤ many * 3600 * 1000 := by omega
    rw [keeps_keeping_iff_lifetime]
    exact forall_congr' fun _ => and_iff_left hlifetime
  · exact Command.run_runWith_of_overflow henabled hover

/-- The largest number of hours whose seconds fit 64 bits keeps what a day keeps, and a day does not keep
what it keeps. The next larger number keeps nothing. -/
theorem keeps_keeping_iff_edge :
    24 ≤ 5124095576030431 ∧
      (standard.keeping 5124095576030431).Keeps (standard.keeping 24) none ∧
      ¬ (standard.keeping 24).Keeps (standard.keeping 5124095576030431) none ∧
      ¬ (standard.keeping 5124095576030432).Keeps (standard.keeping 24) none := by
  obtain ⟨-, -, hlonger, -⟩ := keeps_keeping_iff standard none 24 5124095576030431
  obtain ⟨-, -, -, hshorter, -⟩ := keeps_keeping_iff standard none 5124095576030431 24
  obtain ⟨-, -, hover, -⟩ := keeps_keeping_iff standard none 24 5124095576030432
  refine ⟨by omega, (hlonger (by omega)).2 fun _ => by omega, ?_, ?_⟩
  · rw [hshorter]
    omega
  · rw [hover (by omega)]
    omega

deriving instance DecidableEq for RuleSettings, ModelSettings, Configuration

/-- The configuration that a text sets without a threshold and confidences. -/
theorem read_eq_ok_of_ofText {text : String} {config : Configuration}
    (h : (ofText text.toList).toOption = some config) (hlow : 0 ≤ config.similarityThreshold)
    (hhigh : config.similarityThreshold ≤ 1) (hnone : config.rules.confidence = []) :
    read text = .ok config := by
  cases htext : ofText text.toList with
  | error e => simp [htext, Except.toOption] at h
  | ok found =>
    obtain rfl : found = config := by simpa [htext, Except.toOption] using h
    exact read_eq_ok_iff.2 ⟨htext, hlow, hhigh, by simp [hnone]⟩

/-- The standard configuration with a language model. -/
def advised : Configuration :=
  { standard with model := { ModelSettings.standard with enabled := true } }

/-- **More hours can be no lifetime at all.** Two texts that differ in the number of hours are both
accepted. With the smaller number, an answer of the first moment of 1970 is kept for more than a century.
With the larger one there is no cache that could keep it, and every run is stopped. -/
theorem more_hours_keep_nothing :
    read "[llm]\nenabled = true\ncache_ttl_hours = 1000000\n" = .ok (advised.keeping 1000000) ∧
    read "[llm]\nenabled = true\ncache_ttl_hours = 5124095576030432\n" =
      .ok (advised.keeping 5124095576030432) ∧
    1000000 ≤ 5124095576030432 ∧
    (∃ cache, (advised.keeping 1000000).cache? none = some cache ∧
      CacheEntry.isFresh cache.lifetime 1767225600000 ⟨0, []⟩ = true) ∧
    (advised.keeping 5124095576030432).cache? none = none ∧
    ¬ (advised.keeping 5124095576030432).Keeps (advised.keeping 1000000) none ∧
    ∀ (escapes : Bool) (line : CommandLine) (w : MemoryWorkspace),
      (Command.runWith escapes line (advised.keeping 5124095576030432) : StateM _ _).run w =
        (.overflowed, w) := by
  have hfew : read "[llm]\nenabled = true\ncache_ttl_hours = 1000000\n" =
      .ok (advised.keeping 1000000) :=
    read_eq_ok_of_ofText (by decide +kernel) (by decide +kernel) (by decide +kernel) rfl
  have hmany : read "[llm]\nenabled = true\ncache_ttl_hours = 5124095576030432\n" =
      .ok (advised.keeping 5124095576030432) :=
    read_eq_ok_of_ofText (by decide +kernel) (by decide +kernel) (by decide +kernel) rfl
  have hnot : ¬ (advised.keeping 5124095576030432).Keeps (advised.keeping 1000000) none := by
    rw [keeps_keeping_iff_lifetime]
    omega
  exact ⟨hfew, hmany, by omega, ⟨_, cache?_keeping_eq_some_iff.2 ⟨by omega, rfl⟩, by decide +kernel⟩,
    cache?_keeping_eq_none_iff.2 (by omega), hnot, Command.run_runWith_of_overflow rfl (by decide)⟩

end Configuration

end GasAdvisor
