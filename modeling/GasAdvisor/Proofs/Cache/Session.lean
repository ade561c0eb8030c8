import GasAdvisor.Proofs.Cache.Entries
import GasAdvisor.Proofs.Cache.Sharing
import GasAdvisor.Proofs.Workspace.Growth

/-!
# A cache is a map with a lifetime

A cache that has its workspace to itself finds under a key what was last put there, for its lifetime and
no longer (`CacheSession.found_iff_lastPut`). That holds in memory alone and with a directory, and with a
directory it also holds of another cache that is opened there later.

The two places of an entry never disagree. What a cache remembers is what was last put under each key,
and the file for a key is there exactly if something was put, with the text of the last entry (`Filed`).
So an entry that is too old in memory is too old in its file as well.

With a directory, keys have to be names, as digests are: two keys that differ only in the way to one
file share that file (`CacheSession.found_under_other_key`).

What a cache writes to a log on the way, with the first twelve bytes of a key, is left out.
-/

namespace GasAdvisor

open Text Json

/-! ## Calls -/

namespace CacheCall

/-- What was last put under a key. -/
def lastPut? (calls : List CacheCall) (key : String) : Option CacheEntry :=
  calls.foldl (fun last call => match call with
    | put time other suggestions => if other = key then some ⟨time, suggestions⟩ else last
    | get _ _ => last) none

/-- The keys under which something was put. -/
def keysPut (calls : List CacheCall) : List String :=
  calls.filterMap fun call => match call with
    | put _ key _ => some key
    | get _ _ => none

variable {calls : List CacheCall} {key other : String} {time : Int} {entry : CacheEntry}
  {suggestions : List Suggestion}

theorem lastPut?_concat_put :
    lastPut? (calls ++ [put time other suggestions]) key =
      if other = key then some ⟨time, suggestions⟩ else lastPut? calls key := by
  rw [lastPut?, List.foldl_append]
  rfl

theorem lastPut?_concat_get : lastPut? (calls ++ [get time other]) key = lastPut? calls key := by
  rw [lastPut?, List.foldl_append]
  rfl

theorem keysPut_append (calls more : List CacheCall) :
    keysPut (calls ++ more) = keysPut calls ++ keysPut more :=
  List.filterMap_append

theorem isSome_lastPut?_iff : (lastPut? calls key).isSome = true ↔ key ∈ keysPut calls := by
  induction calls using List.reverseRecOn with
  | nil => simp [lastPut?, keysPut]
  | append_singleton calls call ih =>
    cases call with
    | put time other suggestions =>
      rw [lastPut?_concat_put, keysPut_append, List.mem_append, ← ih]
      by_cases h : other = key
      · simp [h, keysPut]
      · simp [h, Ne.symm h, keysPut]
    | get time other =>
      rw [lastPut?_concat_get, keysPut_append, List.mem_append, ih]
      simp [keysPut]

theorem mem_of_lastPut? (h : lastPut? calls key = some entry) :
    put entry.timestamp key entry.suggestions ∈ calls := by
  induction calls using List.reverseRecOn with
  | nil => cases h
  | append_singleton calls call ih =>
    cases call with
    | put time other suggestions =>
      rw [lastPut?_concat_put] at h
      split at h
      · next hkey =>
        cases h
        simp [hkey]
      · exact List.mem_append_left _ (ih h)
    | get time other =>
      rw [lastPut?_concat_get] at h
      exact List.mem_append_left _ (ih h)

end CacheCall

/-! ## Sessions -/

/-- A cache, and the workspace that it has to itself. -/
structure CacheSession where
  cache : Cache
  workspace : MemoryWorkspace

namespace CacheSession

/-- A cache without entries in memory. -/
def opened (w : MemoryWorkspace) (lifetime : Nat) (directory : Option String) : CacheSession :=
  ⟨.opened lifetime directory, w⟩

/-- A session after a call. -/
def perform (session : CacheSession) (call : CacheCall) : CacheSession :=
  let (answer, w) := (call.perform session.cache : StateM MemoryWorkspace _).run session.workspace
  ⟨answer.2, w⟩

/-- A session after calls, the first one first. -/
def after (session : CacheSession) (calls : List CacheCall) : CacheSession :=
  calls.foldl perform session

/-- What is found under a key at a time. -/
def found? (session : CacheSession) (now : Int) (key : String) : Option (List Suggestion) :=
  ((session.cache.get now key : StateM MemoryWorkspace _).run session.workspace).1.1

/-- A session of another cache with the same lifetime and directory. -/
def reopened (session : CacheSession) : CacheSession :=
  .opened session.workspace session.cache.lifetime session.cache.directory

theorem after_concat (session : CacheSession) (calls : List CacheCall) (call : CacheCall) :
    session.after (calls ++ [call]) = (session.after calls).perform call := by
  rw [after, List.foldl_append]
  rfl

end CacheSession

/-! ## Operations -/

namespace Cache

variable {cache : Cache} {w : MemoryWorkspace} {key other directory : String}
  {entry : CacheEntry} {now : Int} {last : String → Option CacheEntry}

theorem lookup_insert :
    (cache.insert key entry).entries.lookup other =
      if other = key then some entry else cache.entries.lookup other := by
  rw [insert, List.lookup_cons, lookup_filter_ne]
  by_cases h : other = key
  · simp [h]
  · rw [beq_false_of_ne h, if_neg h, if_neg h]

/-- The entry in the file for a key. -/
def inFile? (cache : Cache) (w : MemoryWorkspace) (key : String) : Option CacheEntry :=
  cache.directory.bind fun directory =>
    (w.tree.read w.directory (entryPath directory key)).toOption.bind CacheEntry.ofContent?

theorem run_readText? (path : String) (w : MemoryWorkspace) :
    (Workspace.readText? path : StateM MemoryWorkspace _).run w =
      ((w.tree.read w.directory path).toOption.bind fun content =>
        (decode? content).map String.ofList, w) := by
  have hread : (MonadWorkspace.read path : StateM MemoryWorkspace _).run w =
      pure (w.tree.read w.directory path, w) := rfl
  rw [Workspace.readText?, Workspace.readText, StateT.run_bind, StateT.run_bind, hread, pure_bind]
  cases w.tree.read w.directory path with
  | error fault => rfl
  | ok content =>
    dsimp only [Except.toOption, Option.bind_some]
    cases decode? content <;> rfl

theorem run_stored? (cache : Cache) (w : MemoryWorkspace) (key : String) :
    (cache.stored? key : StateM MemoryWorkspace _).run w = (cache.inFile? w key, w) := by
  rw [stored?, inFile?]
  cases cache.directory with
  | none => rfl
  | some directory =>
    rw [Option.bind_some]
    dsimp only
    rw [StateT.run_bind, run_readText?]
    cases w.tree.read w.directory (entryPath directory key) with
    | error fault => rfl
    | ok content =>
      have hcontent : (Except.toOption (.ok content : Except FileFault (List Nat))).bind
          CacheEntry.ofContent? = ((decode? content).map String.ofList).bind CacheEntry.ofText? := by
        dsimp only [Except.toOption, Option.bind_some]
        rw [CacheEntry.ofContent?]
        cases decode? content <;> rfl
      rw [hcontent]
      rfl

theorem run_get (cache : Cache) (w : MemoryWorkspace) (now : Int) (key : String) :
    (cache.get now key : StateM MemoryWorkspace _).run w =
      (match cache.remembered? now key with
      | some entry => (some entry.suggestions, cache)
      | none =>
        match (cache.inFile? w key).filter (·.isFresh cache.lifetime now) with
        | some entry => (some entry.suggestions, cache.insert key entry)
        | none => (none, cache), w) := by
  rw [get]
  cases cache.remembered? now key with
  | some entry => rfl
  | none =>
    dsimp only
    rw [StateT.run_bind, run_stored?]
    change StateT.run _ _ = _
    cases (cache.inFile? w key).filter (·.isFresh cache.lifetime now) <;> rfl

/-- The file for a key can be written, in a directory that is made if it is not there. -/
def CanStore (w : MemoryWorkspace) (directory key : String) : Prop :=
  ∃ made written, w.tree.createDirectories w.directory directory = .ok made ∧
    made.write w.directory (entryPath directory key) [] = .ok written

theorem run_store {made written : FileTree} (hdirectory : cache.directory = some directory)
    (hmade : w.tree.createDirectories w.directory directory = .ok made)
    (hwritten : made.write w.directory (entryPath directory key) (encode entry.text.toList) =
      .ok written) :
    ((cache.store key entry : StateM MemoryWorkspace _).run w).2 =
      { w with tree := written } := by
  have hcreate : (MonadWorkspace.createDirectories directory : StateM MemoryWorkspace _).run w =
      (.ok (), { w with tree := made }) := by
    change w.update (w.tree.createDirectories w.directory directory) = _
    rw [hmade]
    rfl
  rw [store, hdirectory]
  dsimp only
  rw [StateT.run_bind, hcreate]
  change (MemoryWorkspace.update _ (made.write w.directory _ _)).2 = _
  rw [hwritten]
  rfl

/-! ## Files -/

/-- The files of a directory are those of what was last put: the file for a key can be read and holds
the text of the entry, and where nothing was put there is no file. -/
structure Filed (w : MemoryWorkspace) (directory : String) (last : String → Option CacheEntry) :
    Prop where
  read : ∀ key entry, '/' ∉ key.toList → last key = some entry →
    w.tree.read w.directory (entryPath directory key) = .ok (encode entry.text.toList)
  absent : ∀ key content, '/' ∉ key.toList → last key = none →
    ¬ w.tree.HasFile (Path.resolve w.directory (entryPath directory key)) content

theorem filed_of_namesIn (h : w.tree.namesIn (Path.resolve w.directory directory) = []) :
    Filed w directory fun _ => none where
  read := nofun
  absent key content hkey _ := by
    rw [resolve_entryPath _ _ hkey]
    exact FileTree.not_hasFile_of_namesIn h _

/-- The files of different keys stand at different places. -/
theorem resolve_entryPath_inj {start : Place} (hkey : '/' ∉ key.toList)
    (hother : '/' ∉ other.toList)
    (h : Path.resolve start (entryPath directory key) =
      Path.resolve start (entryPath directory other)) : key = other := by
  rw [resolve_entryPath _ _ hkey, resolve_entryPath _ _ hother, List.append_cancel_left_eq] at h
  exact (String.append_left_inj ".json").1 (List.cons.inj h).1

/-- What is read for a key is what the text of the last entry holds. -/
theorem Filed.inFile?_eq (h : Filed w directory last) (hdirectory : cache.directory = some directory)
    (hkey : '/' ∉ key.toList) :
    cache.inFile? w key = (last key).bind fun entry => CacheEntry.ofText? entry.text := by
  rw [inFile?, hdirectory, Option.bind_some]
  cases hlast : last key with
  | some entry =>
    rw [h.read key entry hkey hlast]
    simp only [Except.toOption, Option.bind_some]
    exact CacheEntry.ofContent?_encode_text entry
  | none =>
    cases hread : w.tree.read w.directory (entryPath directory key) with
    | error fault => simp only [Except.toOption, Option.bind_none]
    | ok content =>
      have hfile := FileTree.hasFile_of_read hread
      exact absurd hfile (h.absent key content hkey hlast)

/-- **Putting an entry into its file leaves the files of other keys as they are**, and what could be
written can be written later on. -/
theorem Filed.store (h : Filed w directory last) (hdirectory : cache.directory = some directory)
    (hkey : '/' ∉ key.toList) (hcan : CanStore w directory key) (entry : CacheEntry) :
    ∃ tree, ((cache.store key entry : StateM MemoryWorkspace _).run w).2 = { w with tree } ∧
      Filed { w with tree } directory (fun other => if key = other then some entry else last other) ∧
      ∀ other, CanStore w directory other → CanStore { w with tree } directory other := by
  obtain ⟨made, blank, hmade, hblank⟩ := hcan
  obtain ⟨written, hwritten⟩ := FileTree.exists_write hblank (encode entry.text.toList)
  refine ⟨written, run_store hdirectory hmade hwritten, ⟨?_, ?_⟩, ?_⟩
  · intro other found hother hfound
    by_cases heq : key = other
    · subst heq
      rw [if_pos rfl] at hfound
      cases hfound
      exact FileTree.read_of_write hwritten
    · rw [if_neg heq] at hfound
      have hread := h.read other found hother hfound
      have hplaces : Path.resolve w.directory (entryPath directory other) ≠
          Path.resolve w.directory (entryPath directory key) := fun hplace =>
        heq (resolve_entryPath_inj hother hkey hplace).symm
      exact FileTree.read_of_write_of_ne hwritten hplaces
        (FileTree.read_of_createDirectories hmade hread)
  · intro other content hother hlast hfile
    by_cases heq : key = other
    · rw [if_pos heq] at hlast
      cases hlast
    · rw [if_neg heq] at hlast
      rcases FileTree.hasFile_of_write hwritten hfile with hold | ⟨hplace, -⟩
      · exact h.absent other content hother hlast (FileTree.hasFile_of_createDirectories hmade hold)
      · exact heq (resolve_entryPath_inj hother hkey hplace).symm
  · rintro other ⟨made', blank', hmade', hblank'⟩
    obtain rfl : made = made' := Except.ok.inj (hmade.symm.trans hmade')
    obtain ⟨later, hlater⟩ := FileTree.exists_write_after hwritten hblank'
    exact ⟨written, later,
      FileTree.createDirectories_again hmade (FileTree.keepsDirectories_of_write hwritten), hlater⟩

/-! ## Look-ups -/

/-- What a cache remembers was last put, and so was what stands in its files. -/
structure Knows (cache : Cache) (w : MemoryWorkspace) (last : String → Option CacheEntry) : Prop where
  remembered : ∀ key entry, cache.entries.lookup key = some entry → last key = some entry
  filed : ∀ directory, cache.directory = some directory → Filed w directory last

/-- What was last put under a key is remembered, or is read back from a file. -/
def Recalls (cache : Cache) (last : String → Option CacheEntry) (key : String) : Prop :=
  ∀ entry, last key = some entry → cache.entries.lookup key = some entry ∨
    cache.directory.isSome = true ∧ CacheEntry.ofText? entry.text = some entry

theorem Knows.insert (h : cache.Knows w last) (hlast : last key = some entry) :
    (cache.insert key entry).Knows w last where
  remembered other found hfound := by
    rw [lookup_insert] at hfound
    split at hfound
    · next hother => rw [hother, hlast, hfound]
    · exact h.remembered other found hfound
  filed := h.filed

theorem Knows.inFile?_eq (h : cache.Knows w last)
    (hkey : ∀ directory, cache.directory = some directory → '/' ∉ key.toList) :
    cache.inFile? w key =
      cache.directory.bind fun _ => (last key).bind fun entry => CacheEntry.ofText? entry.text := by
  cases hdirectory : cache.directory with
  | none => rw [inFile?, hdirectory, Option.bind_none, Option.bind_none]
  | some directory =>
    rw [Option.bind_some]
    exact (h.filed directory hdirectory).inFile?_eq hdirectory (hkey directory hdirectory)

/-- An entry that is too old in memory is too old in its file. -/
theorem filter_inFile?_of_stale (h : cache.Knows w last)
    (hkey : ∀ directory, cache.directory = some directory → '/' ∉ key.toList)
    (hlast : last key = some entry) (htime : IsInteger64 entry.timestamp)
    (hstale : entry.isFresh cache.lifetime now = false) :
    (cache.inFile? w key).filter (·.isFresh cache.lifetime now) = none := by
  rw [h.inFile?_eq hkey, hlast, Option.bind_some, Option.filter_eq_none_iff]
  intro found hfound hfresh
  obtain ⟨directory, -, hread⟩ := Option.bind_eq_some_iff.1 hfound
  have htimes := CacheEntry.timestamp_of_ofText? htime hread
  rw [CacheEntry.isFresh, CacheEntry.age, htimes] at hfresh
  rw [CacheEntry.isFresh, CacheEntry.age, hfresh] at hstale
  cases hstale

/-- **A look-up finds what was last put under the key, if that is fresh.** It changes nothing but that an
entry may be remembered again. -/
theorem Knows.run_get (h : cache.Knows w last)
    (hkey : ∀ directory, cache.directory = some directory → '/' ∉ key.toList)
    (htime : ∀ entry, last key = some entry → IsInteger64 entry.timestamp)
    (hrecalls : cache.Recalls last key) (now : Int) :
    ∃ after, (cache.get now key : StateM MemoryWorkspace _).run w =
        ((((last key).filter (·.isFresh cache.lifetime now)).map (·.suggestions), after), w) ∧
      (after = cache ∨ ∃ entry, last key = some entry ∧ after = cache.insert key entry) := by
  rw [Cache.run_get, remembered?]
  cases hlookup : cache.entries.lookup key with
  | some entry =>
    have hlast := h.remembered key entry hlookup
    refine ⟨cache, ?_, .inl rfl⟩
    cases hfresh : entry.isFresh cache.lifetime now with
    | true => simp [hlast, Option.filter_some, hfresh]
    | false =>
      have hfile := filter_inFile?_of_stale h hkey hlast (htime entry hlast) hfresh
      simp [hlast, Option.filter_some, hfresh, hfile]
  | none =>
    have hfile := h.inFile?_eq hkey
    cases hlast : last key with
    | none =>
      refine ⟨cache, ?_, .inl rfl⟩
      rw [hlast] at hfile
      simp [hfile]
    | some entry =>
      obtain ⟨directory, hdirectory, hread⟩ : ∃ directory, cache.directory = some directory ∧
          CacheEntry.ofText? entry.text = some entry := by
        rcases hrecalls entry hlast with hmemory | ⟨hsome, hread⟩
        · rw [hlookup] at hmemory
          cases hmemory
        · obtain ⟨directory, hdirectory⟩ := Option.isSome_iff_exists.1 hsome
          exact ⟨directory, hdirectory, hread⟩
      rw [hlast, hdirectory, Option.bind_some, Option.bind_some, hread] at hfile
      cases hfresh : entry.isFresh cache.lifetime now with
      | true =>
        exact ⟨cache.insert key entry, by simp [hfile, Option.filter_some, hfresh],
          .inr ⟨entry, rfl, rfl⟩⟩
      | false => exact ⟨cache, by simp [hfile, Option.filter_some, hfresh], .inl rfl⟩

end Cache

/-! ## Runs -/

namespace CacheSession

open CacheCall

variable {session : CacheSession} {w : MemoryWorkspace} {lifetime : Nat}
  {directory : Option String} {calls looks : List CacheCall} {last : String → Option CacheEntry}
  {now : Int} {key : String}

/-- A directory is there for one cache: nothing is in it, the keys are names, and what is put can be
written. -/
structure Ready (w : MemoryWorkspace) (directory : String) (calls : List CacheCall) : Prop where
  empty : w.tree.namesIn (Path.resolve w.directory directory) = []
  slash_not_mem : ∀ call ∈ calls, '/' ∉ call.key.toList
  canStore : ∀ time key suggestions, put time key suggestions ∈ calls →
    Cache.CanStore w directory key

theorem Ready.mono {name : String} (h : Ready w name calls) (hlooks : looks ⊆ calls) :
    Ready w name looks where
  empty := h.empty
  slash_not_mem call hcall := h.slash_not_mem call (hlooks hcall)
  canStore time key suggestions hput := h.canStore time key suggestions (hlooks hput)

/-- A time of the clock: so many milliseconds after 1970, in 64 bits. -/
def IsTime (time : Int) : Prop := 0 ≤ time ∧ time < 2 ^ 63

instance (time : Int) : Decidable (IsTime time) := inferInstanceAs (Decidable (_ ∧ _))

theorem IsTime.isInteger64 {time : Int} (h : IsTime time) : IsInteger64 time := by
  obtain ⟨hlow, hhigh⟩ := h
  exact ⟨by omega, by omega⟩

/-- The invariant of a session that has done some calls from a workspace on: the cache remembers what was
last put under each key, and so do its files. -/
structure Follows (session : CacheSession) (w : MemoryWorkspace) (lifetime : Nat)
    (directory : Option String) (calls : List CacheCall) : Prop where
  lifetime_eq : session.cache.lifetime = lifetime
  directory_eq : session.cache.directory = directory
  lookup_eq : ∀ key, session.cache.entries.lookup key = lastPut? calls key
  nodup : (session.cache.entries.map Prod.fst).Nodup
  filed : ∀ name, directory = some name → Cache.Filed session.workspace name (lastPut? calls)
  canStore : ∀ name, directory = some name → ∀ key, Cache.CanStore w name key →
    Cache.CanStore session.workspace name key

theorem Follows.knows (h : session.Follows w lifetime directory calls) :
    session.cache.Knows session.workspace (lastPut? calls) where
  remembered key entry hentry := by rw [← h.lookup_eq, hentry]
  filed name hname := h.filed name (h.directory_eq ▸ hname)

theorem Follows.recalls (h : session.Follows w lifetime directory calls) (key : String) :
    session.cache.Recalls (lastPut? calls) key := by
  intro entry hentry
  exact .inl ((h.lookup_eq key).trans hentry)

theorem follows_opened (hready : ∀ name, directory = some name → Ready w name []) :
    (opened w lifetime directory).Follows w lifetime directory [] where
  lifetime_eq := rfl
  directory_eq := rfl
  lookup_eq _ := rfl
  nodup := List.nodup_nil
  filed name hname := Cache.filed_of_namesIn (hready name hname).empty
  canStore _ _ _ hcan := hcan

theorem nodup_names_insert {cache : Cache} {entry : CacheEntry}
    (h : (cache.entries.map Prod.fst).Nodup) (key : String) :
    ((cache.insert key entry).entries.map Prod.fst).Nodup := by
  rw [Cache.insert, List.map_cons, List.nodup_cons]
  exact ⟨not_mem_names_filter_ne _ _, nodup_names_filter h _⟩

/-- The cache remembers an entry again that was last put. -/
theorem Follows.remember (h : session.Follows w lifetime directory calls) {entry : CacheEntry}
    (hlast : lastPut? calls key = some entry) :
    (CacheSession.mk (session.cache.insert key entry) session.workspace).Follows w lifetime
      directory calls where
  lifetime_eq := h.lifetime_eq
  directory_eq := h.directory_eq
  lookup_eq other := by
    rw [Cache.lookup_insert]
    split
    · next hother => rw [hother, hlast]
    · exact h.lookup_eq other
  nodup := nodup_names_insert h.nodup key
  filed := h.filed
  canStore := h.canStore

theorem Follows.of_lastPut? {more : List CacheCall} (h : session.Follows w lifetime directory calls)
    (hlast : lastPut? more = lastPut? calls) : session.Follows w lifetime directory more where
  lifetime_eq := h.lifetime_eq
  directory_eq := h.directory_eq
  lookup_eq key := by rw [hlast, h.lookup_eq]
  nodup := h.nodup
  filed name hname := by
    rw [hlast]
    exact h.filed name hname
  canStore := h.canStore

/-- **A look-up keeps the invariant.** -/
theorem Follows.perform_get (h : session.Follows w lifetime directory calls)
    (hkey : ∀ name, directory = some name → '/' ∉ key.toList)
    (htimes : ∀ entry, lastPut? calls key = some entry → IsInteger64 entry.timestamp) :
    (session.perform (get now key)).Follows w lifetime directory (calls ++ [get now key]) := by
  have hlast : lastPut? (calls ++ [get now key]) = lastPut? calls := by
    funext other
    exact lastPut?_concat_get
  refine Follows.of_lastPut? ?_ hlast
  obtain ⟨cache, hrun, hcache⟩ := h.knows.run_get
    (fun name hname => hkey name (h.directory_eq ▸ hname)) htimes (h.recalls key) now
  have hsession : session.perform (get now key) = ⟨cache, session.workspace⟩ := by
    rw [perform, CacheCall.perform, hrun]
  rw [hsession]
  rcases hcache with rfl | ⟨entry, hentry, rfl⟩
  · exact h
  · exact h.remember hentry

/-- **Putting suggestions keeps the invariant.** -/
theorem Follows.perform_put (h : session.Follows w lifetime directory calls)
    (hkey : ∀ name, directory = some name → '/' ∉ key.toList)
    (hcan : ∀ name, directory = some name → Cache.CanStore w name key)
    (suggestions : List Suggestion) :
    (session.perform (put now key suggestions)).Follows w lifetime directory
      (calls ++ [put now key suggestions]) := by
  have hlast : lastPut? (calls ++ [put now key suggestions]) = fun other =>
      if key = other then some ⟨now, suggestions⟩ else lastPut? calls other := by
    funext other
    exact lastPut?_concat_put
  have hstored : ∀ name, directory = some name →
      Cache.Filed (session.perform (put now key suggestions)).workspace name
        (lastPut? (calls ++ [put now key suggestions])) ∧
      ∀ other, Cache.CanStore session.workspace name other →
        Cache.CanStore (session.perform (put now key suggestions)).workspace name other := by
    intro name hname
    obtain ⟨tree, htree, hfiled, hcanStore⟩ := (h.filed name hname).store
      (h.directory_eq.trans hname) (hkey name hname)
      (h.canStore name hname key (hcan name hname)) ⟨now, suggestions⟩
    have hworkspace : (session.perform (put now key suggestions)).workspace =
        { session.workspace with tree } := htree
    rw [hworkspace, hlast]
    exact ⟨hfiled, hcanStore⟩
  exact
    { lifetime_eq := h.lifetime_eq
      directory_eq := h.directory_eq
      lookup_eq := fun other => by
        have hinsert : (session.perform (put now key suggestions)).cache =
            session.cache.insert key ⟨now, suggestions⟩ := rfl
        rw [hinsert, Cache.lookup_insert, lastPut?_concat_put, h.lookup_eq]
        simp only [eq_comm]
      nodup := nodup_names_insert h.nodup key
      filed := fun name hname => (hstored name hname).1
      canStore := fun name hname other hother =>
        (hstored name hname).2 other (h.canStore name hname other hother) }

/-- **A run of calls keeps the invariant.** -/
theorem follows_after (hready : ∀ name, directory = some name → Ready w name calls)
    (htimes : ∀ call ∈ calls, IsTime call.time) :
    ((opened w lifetime directory).after calls).Follows w lifetime directory calls := by
  induction calls using List.reverseRecOn with
  | nil => exact follows_opened hready
  | append_singleton calls call ih =>
    have hearlier : calls ⊆ calls ++ [call] := List.subset_append_left calls [call]
    have hsession := ih (fun name hname => (hready name hname).mono hearlier)
      fun other hother => htimes other (hearlier hother)
    have hmem : call ∈ calls ++ [call] := by simp
    have hkey : ∀ name, directory = some name → '/' ∉ call.key.toList := fun name hname =>
      (hready name hname).slash_not_mem call hmem
    rw [after_concat]
    cases call with
    | get now key =>
      refine hsession.perform_get hkey fun entry hentry => ?_
      exact (htimes _ (hearlier (mem_of_lastPut? hentry))).isInteger64
    | put now key suggestions =>
      exact hsession.perform_put hkey
        (fun name hname => (hready name hname).canStore now key suggestions hmem) suggestions

/-- The cache counts the keys under which something was put. -/
theorem Follows.size_eq (h : session.Follows w lifetime directory calls) :
    session.cache.size = (keysPut calls).toFinset.card := by
  have hkeys : (session.cache.entries.map Prod.fst).toFinset = (keysPut calls).toFinset := by
    ext key
    rw [List.mem_toFinset, List.mem_toFinset, ← isSome_lastPut?_iff, ← h.lookup_eq,
      List.lookup_isSome_iff, List.mem_map]
    constructor
    · rintro ⟨item, hitem, rfl⟩
      exact ⟨item, hitem, beq_self_eq_true _⟩
    · rintro ⟨item, hitem, hname⟩
      exact ⟨item, hitem, (eq_of_beq hname).symm⟩
  rw [← hkeys, List.toFinset_card_of_nodup h.nodup, List.length_map]
  rfl

theorem found?_eq (h : session.cache.Knows session.workspace last)
    (hkey : ∀ name, session.cache.directory = some name → '/' ∉ key.toList)
    (htimes : ∀ entry, last key = some entry → IsInteger64 entry.timestamp)
    (hrecalls : session.cache.Recalls last key) (now : Int) :
    session.found? now key =
      ((last key).filter (·.isFresh session.cache.lifetime now)).map (·.suggestions) := by
  obtain ⟨after, hrun, -⟩ := h.run_get hkey htimes hrecalls now
  rw [found?, hrun]

/-- A cache that is opened anew has the same files. -/
theorem knows_reopened (h : session.cache.Knows session.workspace last) :
    session.reopened.cache.Knows session.reopened.workspace last where
  remembered := nofun
  filed := h.filed

/-- Look-ups of a cache that reads all entries back change nothing but what it remembers. -/
theorem knows_after_looks (h : session.cache.Knows session.workspace last)
    (hlooks : ∀ call ∈ looks, ∃ time key, call = get time key)
    (hkeys : ∀ name, session.cache.directory = some name →
      ∀ call ∈ looks, '/' ∉ call.key.toList)
    (htimes : ∀ key entry, last key = some entry → IsInteger64 entry.timestamp)
    (hread : ∀ key entry, last key = some entry →
      session.cache.directory.isSome = true ∧ CacheEntry.ofText? entry.text = some entry) :
    (session.after looks).cache.Knows (session.after looks).workspace last ∧
      (session.after looks).cache.lifetime = session.cache.lifetime ∧
      (session.after looks).cache.directory = session.cache.directory := by
  induction looks using List.reverseRecOn with
  | nil => exact ⟨h, rfl, rfl⟩
  | append_singleton looks call ih =>
    obtain ⟨hknows, hlifetime, hdirectory⟩ := ih
      (fun other hother => hlooks other (List.mem_append_left _ hother))
      (fun name hname other hother => hkeys name hname other (List.mem_append_left _ hother))
    obtain ⟨time, key, rfl⟩ := hlooks call (by simp)
    have hrecalls : (session.after looks).cache.Recalls last key := by
      intro entry hentry
      rw [hdirectory]
      exact .inr (hread key entry hentry)
    have hkey : ∀ name, (session.after looks).cache.directory = some name → '/' ∉ key.toList := by
      intro name hname
      rw [hdirectory] at hname
      exact hkeys name hname (get time key) (by simp)
    obtain ⟨cache, hrun, hcache⟩ := hknows.run_get hkey (htimes key) hrecalls time
    have hsession : session.after (looks ++ [get time key]) =
        ⟨cache, (session.after looks).workspace⟩ := by
      rw [after_concat, perform, CacheCall.perform, hrun]
    rw [hsession]
    rcases hcache with rfl | ⟨entry, hentry, rfl⟩
    · exact ⟨hknows, hlifetime, hdirectory⟩
    · exact ⟨hknows.insert hentry, hlifetime, hdirectory⟩

/-- A session finds what was last put, if that is fresh. -/
theorem Follows.found?_eq (h : session.Follows w lifetime directory calls)
    (hkey : ∀ name, directory = some name → '/' ∉ key.toList)
    (htimes : ∀ entry, lastPut? calls key = some entry → IsInteger64 entry.timestamp) (now : Int) :
    session.found? now key =
      ((lastPut? calls key).filter (·.isFresh lifetime now)).map (·.suggestions) := by
  rw [CacheSession.found?_eq h.knows (fun name hname => hkey name (h.directory_eq ▸ hname)) htimes
    (h.recalls key), h.lifetime_eq]

/-- If the texts of all entries are read back, a session of another cache finds the same. -/
theorem Follows.found?_reopened (h : session.Follows w lifetime directory calls)
    (hdirectory : directory.isSome = true)
    (hlooks : ∀ call ∈ looks, ∃ time key, call = get time key)
    (hkeys : ∀ name, directory = some name →
      ∀ call ∈ looks ++ [get now key], '/' ∉ call.key.toList)
    (htimes : ∀ other entry, lastPut? calls other = some entry → IsInteger64 entry.timestamp)
    (hread : ∀ other entry, lastPut? calls other = some entry →
      CacheEntry.ofText? entry.text = some entry) :
    (session.reopened.after looks).found? now key =
      ((lastPut? calls key).filter (·.isFresh lifetime now)).map (·.suggestions) := by
  obtain ⟨hknows, hlifetime, hsame⟩ := knows_after_looks (knows_reopened h.knows) hlooks
    (fun name hname call hcall => hkeys name (h.directory_eq ▸ hname) call
      (List.mem_append_left _ hcall))
    htimes (fun other entry hentry => ⟨h.directory_eq ▸ hdirectory, hread other entry hentry⟩)
  replace hlifetime := hlifetime.trans h.lifetime_eq
  replace hsame := hsame.trans h.directory_eq
  have hrecalls : (session.reopened.after looks).cache.Recalls (lastPut? calls) key := by
    intro entry hentry
    rw [hsame]
    exact .inr ⟨hdirectory, hread key entry hentry⟩
  have hkey : ∀ name, (session.reopened.after looks).cache.directory = some name →
      '/' ∉ key.toList := fun name hname =>
    hkeys name (hsame ▸ hname) (get now key) (by simp)
  rw [CacheSession.found?_eq hknows hkey (htimes key) hrecalls, hlifetime]

/-- Of entries that were put before a time, those are fresh that are younger than the lifetime. -/
theorem filter_isFresh_eq_some_iff {held : Option CacheEntry} {value : List Suggestion}
    (hnow : IsTime now)
    (htimes : ∀ entry, held = some entry → IsTime entry.timestamp ∧ entry.timestamp ≤ now) :
    (held.filter (·.isFresh lifetime now)).map (·.suggestions) = some value ↔
      ∃ time, held = some ⟨time, value⟩ ∧ now - time < lifetime := by
  cases held with
  | none => simp
  | some entry =>
    obtain ⟨⟨hlow, -⟩, hle⟩ := htimes entry rfl
    have hnear : now - entry.timestamp < 2 ^ 63 := by
      have := hnow.2
      omega
    have hfresh : entry.isFresh lifetime now = true ↔ now - entry.timestamp < lifetime := by
      rw [CacheEntry.isFresh_iff hnear]
      exact and_iff_right hle
    rw [Option.map_eq_some_iff]
    constructor
    · rintro ⟨found, hfound, rfl⟩
      obtain ⟨heq, hkept⟩ := Option.filter_eq_some_iff.1 hfound
      obtain rfl : entry = found := Option.some.inj heq
      exact ⟨entry.timestamp, rfl, hfresh.1 hkept⟩
    · rintro ⟨time, heq, hage⟩
      obtain rfl : entry = ⟨time, value⟩ := Option.some.inj heq
      exact ⟨_, Option.filter_eq_some_iff.2 ⟨rfl, hfresh.2 hage⟩, rfl⟩

/-- **A cache is a map with a lifetime.** After calls, a look-up finds what was last put under the key,
if that is younger than the lifetime, and nothing otherwise; and the cache counts the keys under which
something was put. This is so in memory alone, and with a directory that is there for the cache
(`Ready`).

With a directory and finite confidences, what is put being read back as it was written, another cache
that is opened there finds the same, also after look-ups of its own.

Log lines are left out. They cut a key after twelve bytes, which takes a key that has a boundary of
characters there, as every digest has. -/
theorem found_iff_lastPut {w : MemoryWorkspace} {lifetime : Nat} {directory : Option String}
    {calls looks : List CacheCall} {now : Int} {key : String}
    (hready : ∀ name, directory = some name → Ready w name (calls ++ looks ++ [get now key]))
    (hclock : ((calls ++ looks ++ [get now key]).map CacheCall.time).Pairwise (· ≤ ·))
    (htimes : ∀ call ∈ calls ++ looks ++ [get now key], IsTime call.time)
    (hlooks : ∀ call ∈ looks, ∃ time key, call = get time key) :
    (∀ value, ((opened w lifetime directory).after calls).found? now key = some value ↔
      ∃ time, lastPut? calls key = some ⟨time, value⟩ ∧ now - time < lifetime) ∧
    ((opened w lifetime directory).after calls).cache.size = (keysPut calls).toFinset.card ∧
    (directory.isSome = true →
      (∀ time other suggestions, put time other suggestions ∈ calls →
        ∀ s ∈ suggestions, s.confidence.isFinite = true) →
      (∀ time other suggestions, put time other suggestions ∈ calls →
        (∀ s ∈ suggestions, s.confidence.isFinite = true) →
        CacheEntry.ofText? (CacheEntry.text ⟨time, suggestions⟩) = some ⟨time, suggestions⟩) →
      ((((opened w lifetime directory).after calls).reopened).after looks).found? now key =
        ((opened w lifetime directory).after calls).found? now key) := by
  have hcalls : calls ⊆ calls ++ looks ++ [get now key] := by simp
  have hget : get now key ∈ calls ++ looks ++ [get now key] := by simp
  have hfollows : ((opened w lifetime directory).after calls).Follows w lifetime directory calls :=
    follows_after (fun name hname => (hready name hname).mono hcalls)
      fun call hcall => htimes call (hcalls hcall)
  -- what was last put was put at a time of the clock, before the look-up
  have hputs : ∀ other entry, lastPut? calls other = some entry →
      IsTime entry.timestamp ∧ entry.timestamp ≤ now := by
    intro other entry hentry
    have hput := mem_of_lastPut? hentry
    refine ⟨htimes _ (hcalls hput), ?_⟩
    rw [List.map_append, List.pairwise_append] at hclock
    exact hclock.2.2 _ (List.mem_map.2 ⟨_, List.mem_append_left _ hput, rfl⟩) _
      (List.mem_singleton_self _)
  have hintegers : ∀ other entry, lastPut? calls other = some entry →
      IsInteger64 entry.timestamp := fun other entry hentry =>
    (hputs other entry hentry).1.isInteger64
  have hkey : ∀ name, directory = some name → '/' ∉ key.toList := fun name hname =>
    (hready name hname).slash_not_mem (get now key) hget
  have hfound := hfollows.found?_eq hkey (hintegers key) now
  refine ⟨fun value => ?_, hfollows.size_eq, fun hdirectory hfinite hreadable => ?_⟩
  · rw [hfound]
    exact filter_isFresh_eq_some_iff (htimes _ hget) (hputs key)
  · rw [hfound]
    refine hfollows.found?_reopened hdirectory hlooks (fun name hname call hcall => ?_) hintegers
      fun other entry hentry => ?_
    · exact (hready name hname).slash_not_mem call (by
        rw [List.append_assoc]
        exact List.mem_append_right _ hcall)
    · have hput := mem_of_lastPut? hentry
      exact hreadable _ _ _ hput (hfinite _ _ _ hput)

/-! ### Runs in an empty workspace -/

open SharedCaches

/-- Suggestions are put under two keys, under one of them twice. -/
def heldCalls : List CacheCall :=
  [put 5 "0a" [], get 6 "0b", put 7 "0b" [], put 9 "0a" packing]

theorem put_mem_heldCalls {time : Int} {suggestions : List Suggestion}
    (h : put time key suggestions ∈ heldCalls) :
    time = 5 ∧ suggestions = [] ∨ time = 7 ∧ suggestions = [] ∨
      time = 9 ∧ suggestions = packing := by
  simp only [heldCalls, List.mem_cons, put.injEq, reduceCtorEq, List.not_mem_nil, or_false,
    false_or] at h
  rcases h with ⟨rfl, -, rfl⟩ | ⟨rfl, -, rfl⟩ | ⟨rfl, -, rfl⟩ <;> simp

theorem ready_heldCalls :
    Ready bareWorkspace "cache" (heldCalls ++ [get 10 "0a"] ++ [get 12 "0a"]) where
  empty := by decide +kernel
  slash_not_mem := by decide +kernel
  canStore time key suggestions hput := by
    have hkeys : ∀ key ∈ keysPut (heldCalls ++ [get 10 "0a"] ++ [get 12 "0a"]),
        (FileTree.mk [(["cache"], .directory)]).write [] (Cache.entryPath "cache" key) [] =
          .ok ⟨[(["cache", key ++ ".json"], .file []), (["cache"], .directory)]⟩ := by
      decide +kernel
    exact ⟨_, _, by decide +kernel, hkeys key (List.mem_filterMap.2 ⟨_, hput, rfl⟩)⟩

theorem found_iff_lastPut_heldCalls :
    ((opened bareWorkspace 20 (some "cache")).after heldCalls).found? 12 "0a" = some packing ∧
      ((opened bareWorkspace 20 (some "cache")).after heldCalls).cache.size = 2 ∧
      ((((opened bareWorkspace 20 (some "cache")).after heldCalls).reopened).after
        [get 10 "0a"]).found? 12 "0a" = some packing := by
  obtain ⟨hfound, hsize, hreopened⟩ :=
    @found_iff_lastPut bareWorkspace 20 (some "cache") heldCalls [get 10 "0a"] 12 "0a"
      (fun name hname => by cases hname; exact ready_heldCalls) (by decide +kernel)
      (by decide +kernel) (fun call hcall => ⟨10, "0a", List.mem_singleton.1 hcall⟩)
  have hheld := (hfound packing).2 ⟨9, by decide +kernel, by decide⟩
  refine ⟨hheld, hsize.trans (by decide +kernel), (hreopened rfl ?_ ?_).trans hheld⟩
  · intro time key suggestions hput
    rcases put_mem_heldCalls hput with ⟨-, rfl⟩ | ⟨-, rfl⟩ | ⟨-, rfl⟩ <;> decide +kernel
  · intro time key suggestions hput _
    rcases put_mem_heldCalls hput with ⟨rfl, rfl⟩ | ⟨rfl, rfl⟩ | ⟨rfl, rfl⟩ <;> decide +kernel

/-- Two keys that lead to one file: what is put under one of them is found under the other. -/
theorem found_under_other_key :
    bareWorkspace.tree.namesIn (Path.resolve bareWorkspace.directory "cache") = [] ∧
      Cache.CanStore bareWorkspace "cache" "k" ∧ Cache.CanStore bareWorkspace "cache" "./k" ∧
      ((opened bareWorkspace 20 (some "cache")).after [put 5 "k" []]).found? 6 "./k" = some [] ∧
      lastPut? [put 5 "k" []] "./k" = none := by
  have hcan : ∀ key ∈ ["k", "./k"], Cache.CanStore bareWorkspace "cache" key := by
    have hwrite : ∀ key ∈ ["k", "./k"],
        (FileTree.mk [(["cache"], .directory)]).write [] (Cache.entryPath "cache" key) [] =
          .ok ⟨[(["cache", "k.json"], .file []), (["cache"], .directory)]⟩ := by
      decide +kernel
    exact fun key hkey => ⟨_, _, by decide +kernel, hwrite key hkey⟩
  exact ⟨by decide +kernel, hcan "k" (by simp), hcan "./k" (by simp), by decide +kernel,
    by decide +kernel⟩

end CacheSession

end GasAdvisor
