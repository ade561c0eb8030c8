import GasAdvisor.Proofs.Cache.Entries

/-!
# What caches that share a directory find

Entries move between the memories of several caches and the files of the directory: a call puts an
entry into both, and a look-up brings one from a file into memory. The invariant ties all of them to
the calls that put them (`CacheLedger.Sound`): what stands in the file for a key or is held in memory
under it was put under it, unless the content of the file is no entry.

The steps of a call keep that whatever others do between them (`CacheLedger.keeps_perform`), each event
keeps it (`CacheLedger.Sound.after?`) and so does a run (`CacheLedger.Sound.run?`). So what a look-up
finds was put by one of the caches under the same key, and is fresh for the cache that finds it
(`SharedCaches.found_was_put`).
-/

namespace GasAdvisor

open Text

/-! ## Calls without others -/

theorem Cache.alone_stored? (cache : Cache) (key : String) :
    (cache.stored? key : Resumption MemoryWorkspace _).alone = cache.stored? key := by
  rw [stored?, stored?]
  cases cache.directory with
  | none => rfl
  | some directory =>
    show (_ >>= _ : Resumption MemoryWorkspace _).alone = _
    rw [Resumption.alone_bind, Workspace.alone_readText?]
    rfl

theorem Cache.alone_store (cache : Cache) (key : String) (entry : CacheEntry) :
    (cache.store key entry : Resumption MemoryWorkspace _).alone = cache.store key entry := by
  rw [store, store]
  cases cache.directory with
  | none => rfl
  | some directory =>
    show (_ >>= _ : Resumption MemoryWorkspace _).alone = _
    rw [Resumption.alone_bind]
    refine bind_congr fun outcome => ?_
    cases outcome <;> rfl

/-- **The steps of a call in a row are the call.** -/
theorem CacheCall.alone_perform (call : CacheCall) (cache : Cache) :
    (call.perform cache : Resumption MemoryWorkspace _).alone = call.perform cache := by
  cases call with
  | get time key =>
    show (cache.get time key : Resumption MemoryWorkspace _).alone = cache.get time key
    rw [Cache.get, Cache.get]
    cases cache.remembered? time key with
    | some entry => rfl
    | none =>
      show (_ >>= _ : Resumption MemoryWorkspace _).alone = _
      rw [Resumption.alone_bind, Cache.alone_stored?]
      refine bind_congr fun found => ?_
      cases found.filter (·.isFresh cache.lifetime time) <;> rfl
  | put time key suggestions =>
    show (Cache.put cache time key suggestions >>= _ : Resumption MemoryWorkspace _).alone = _
    rw [Cache.put, Resumption.alone_bind, Resumption.alone_bind, Cache.alone_store]
    rfl

/-! ## What was put -/

/-- What was put into the caches that share a directory. -/
structure CacheLedger where
  /-- The place that paths are taken from. -/
  base : Place
  directory : String
  WasPut : String → CacheEntry → Prop
  slash_not_mem : ∀ {key entry}, WasPut key entry → '/' ∉ key.toList
  /-- The entries are read back as they are written. -/
  readable : ∀ {key entry}, WasPut key entry → CacheEntry.ofText? entry.text = some entry

namespace CacheLedger

variable (ledger : CacheLedger)

/-- The place of the file for a key. -/
def placeOf (key : String) : Place :=
  Path.resolve ledger.base ledger.directory ++ [key ++ ".json"]

/-- A content that may stand in a file at a place: the file for a key holds an entry that was put under
the key, or none. -/
def Allows (place : Place) (content : List Nat) : Prop :=
  ∀ key entry, place = ledger.placeOf key → CacheEntry.ofContent? content = some entry →
    ledger.WasPut key entry

/-- The files of a workspace hold nothing under the keys but what was put there. -/
structure Files (w : MemoryWorkspace) : Prop where
  directory_eq : w.directory = ledger.base
  allowed : ∀ place content, w.tree.HasFile place content → ledger.Allows place content

/-- The memory of a cache over the directory holds nothing but what was put. -/
structure Holds (lifetime : Nat) (cache : Cache) : Prop where
  lifetime_eq : cache.lifetime = lifetime
  directory_eq : cache.directory = some ledger.directory
  put : ∀ key entry, (key, entry) ∈ cache.entries → ledger.WasPut key entry

/-- A call under a key without slashes, at a time from which ages have 64 bits, that puts what is in the
ledger. -/
structure Admits (call : CacheCall) : Prop where
  slash_not_mem : '/' ∉ call.key.toList
  near : ∀ key entry, ledger.WasPut key entry → call.time - entry.timestamp < 2 ^ 63
  put : ∀ time key suggestions, call = .put time key suggestions →
    ledger.WasPut key ⟨time, suggestions⟩

/-- What the latest call of a cache may yield: suggestions that were put under its key and are fresh, and
a cache that holds nothing but what was put. -/
structure Answers (lifetime : Nat) (call : Option CacheCall)
    (answer : Option (List Suggestion) × Cache) : Prop where
  holds : ledger.Holds lifetime answer.2
  found : ∀ value, answer.1 = some value → ∃ called ∈ call, ∃ time,
    ledger.WasPut called.key ⟨time, value⟩ ∧ time ≤ called.time ∧ called.time - time < lifetime

/-- The invariant of caches that share the directory. -/
structure Sound {ι : Type} (lifetime : ι → Nat) (shared : SharedCaches ι) : Prop where
  files : ledger.Files shared.workspace
  answers : ∀ who, (shared.users who).rest.Keeps ledger.Files
    (ledger.Answers (lifetime who) (shared.users who).call)

variable {ledger} {w : MemoryWorkspace} {lifetime : Nat} {cache : Cache} {call : CacheCall}
  {key : String} {entry : CacheEntry}

/-! ## Files -/

/-- A change after which each file was there before or is allowed. -/
theorem Files.update (hw : ledger.Files w) {outcome : Except FileFault FileTree}
    (h : ∀ after, outcome = .ok after → ∀ place content, after.HasFile place content →
      w.tree.HasFile place content ∨ ledger.Allows place content) :
    ledger.Files (w.update outcome).2 := by
  cases outcome with
  | error fault => exact hw
  | ok after =>
    refine ⟨hw.directory_eq, fun place content hfile => ?_⟩
    rcases h after rfl place content hfile with hold | hallowed
    · exact hw.allowed place content hold
    · exact hallowed

theorem allows_spoilt {content : List Nat} (h : CacheEntry.ofContent? content = none)
    (place : Place) : ledger.Allows place content := by
  intro key entry _ hentry
  rw [h] at hentry
  cases hentry

theorem allows_entry (hput : ledger.WasPut key entry) :
    ledger.Allows (ledger.placeOf key) (encode entry.text.toList) := by
  intro other found hplace hfound
  have hname : key ++ ".json" = other ++ ".json" := by
    have hlast := congrArg List.getLast? hplace
    simpa [placeOf] using hlast
  have hkey : key = other := (String.append_left_inj ".json").1 hname
  rw [CacheEntry.ofContent?_encode_text, ledger.readable hput] at hfound
  rwa [← hkey, ← Option.some.inj hfound]

/-! ## Calls -/

theorem Holds.insert (hcache : ledger.Holds lifetime cache) (hput : ledger.WasPut key entry) :
    ledger.Holds lifetime (cache.insert key entry) where
  lifetime_eq := hcache.lifetime_eq
  directory_eq := hcache.directory_eq
  put other found h := by
    rcases Cache.mem_insert h with heq | hold
    · cases heq; exact hput
    · exact hcache.put other found hold

theorem keeps_stored? (hcache : ledger.Holds lifetime cache) (hkey : '/' ∉ key.toList) :
    (cache.stored? key : Resumption MemoryWorkspace _).Keeps ledger.Files fun found =>
      ∀ entry, found = some entry → ledger.WasPut key entry := by
  rw [Cache.stored?, hcache.directory_eq]
  refine (Workspace.keeps_readText? ledger.Files _).bind fun text htext => ?_
  intro entry hentry
  obtain ⟨read, hread, hentry⟩ := Option.bind_eq_some_iff.1 hentry
  obtain ⟨w, content, hw, hfile, hdecode⟩ := htext read hread
  rw [Cache.resolve_entryPath _ _ hkey, hw.directory_eq] at hfile
  refine hw.allowed _ _ hfile key entry rfl ?_
  rw [CacheEntry.ofContent?, hdecode, Option.bind_some, String.ofList_toList]
  exact hentry

theorem keeps_store (hcache : ledger.Holds lifetime cache) (hput : ledger.WasPut key entry) :
    (cache.store key entry : Resumption MemoryWorkspace _).Keeps ledger.Files fun _ => True := by
  rw [Cache.store, hcache.directory_eq]
  have hcreate : (MonadWorkspace.createDirectories ledger.directory :
      Resumption MemoryWorkspace _).Keeps ledger.Files fun _ => True :=
    .atomic fun w hw => ⟨hw.update fun after h place content hfile =>
      .inl (FileTree.hasFile_of_createDirectories h hfile), trivial⟩
  have hwrite : (Workspace.writeText (Cache.entryPath ledger.directory key) entry.text :
      Resumption MemoryWorkspace _).Keeps ledger.Files fun _ => True := by
    refine .atomic fun w hw => ⟨hw.update fun after h place content hfile => ?_, trivial⟩
    rcases FileTree.hasFile_of_write h hfile with hold | ⟨hplace, hcontent⟩
    · exact .inl hold
    · rw [Cache.resolve_entryPath _ _ (ledger.slash_not_mem hput), hw.directory_eq] at hplace
      rw [hplace, hcontent]
      exact .inr (allows_entry hput)
  refine hcreate.bind fun outcome _ => ?_
  cases outcome with
  | error fault => exact trivial
  | ok _ => exact hwrite.bind fun _ _ => trivial

/-- **A look-up finds what was put under its key and is fresh.** -/
theorem keeps_get (hcache : ledger.Holds lifetime cache) {time : Int}
    (hcall : ledger.Admits (.get time key)) :
    (cache.get time key : Resumption MemoryWorkspace _).Keeps ledger.Files
      (ledger.Answers lifetime (some (.get time key))) := by
  -- an entry that was put and is fresh is an answer
  have answer (entry : CacheEntry) (after : Cache) (hput : ledger.WasPut key entry)
      (hfresh : entry.isFresh cache.lifetime time = true) (hafter : ledger.Holds lifetime after) :
      ledger.Answers lifetime (some (.get time key)) (some entry.suggestions, after) := by
    have hnear : time - entry.timestamp < 2 ^ 63 := hcall.near key entry hput
    refine ⟨hafter, fun value hvalue => ⟨_, rfl, entry.timestamp, ?_, ?_⟩⟩
    · rw [← Option.some.inj hvalue]
      exact hput
    · rw [CacheEntry.isFresh_iff hnear, hcache.lifetime_eq] at hfresh
      exact hfresh
  rw [Cache.get]
  cases hmemory : cache.remembered? time key with
  | some entry =>
    obtain ⟨hmem, hfresh⟩ := Cache.mem_of_remembered? hmemory
    exact answer entry cache (hcache.put key entry hmem) hfresh hcache
  | none =>
    refine (keeps_stored? hcache hcall.slash_not_mem).bind fun found hfound => ?_
    cases hfile : found.filter (·.isFresh cache.lifetime time) with
    | none => exact ⟨hcache, nofun⟩
    | some entry =>
      obtain ⟨hentry, hfresh⟩ := Option.filter_eq_some_iff.1 hfile
      have hput := hfound entry hentry
      exact answer entry _ hput hfresh (hcache.insert hput)

theorem keeps_put (hcache : ledger.Holds lifetime cache) {time : Int}
    {suggestions : List Suggestion} (hput : ledger.WasPut key ⟨time, suggestions⟩) :
    (cache.put time key suggestions : Resumption MemoryWorkspace _).Keeps ledger.Files
      (ledger.Holds lifetime) :=
  (keeps_store hcache hput).bind fun _ _ => hcache.insert hput

/-- **The steps of a call keep the files as they are allowed**, and it yields what it may. -/
theorem keeps_perform (hcache : ledger.Holds lifetime cache) (hcall : ledger.Admits call) :
    (call.perform cache : Resumption MemoryWorkspace _).Keeps ledger.Files
      (ledger.Answers lifetime (some call)) := by
  cases call with
  | get time key => exact keeps_get hcache hcall
  | put time key suggestions =>
    exact (keeps_put hcache (hcall.put time key suggestions rfl)).bind fun after hafter =>
      ⟨hafter, nofun⟩

/-! ## Runs -/

section Runs

variable {ι : Type} [DecidableEq ι] {lifetime : ι → Nat} {shared next : SharedCaches ι}

theorem Sound.update (h : ledger.Sound lifetime shared) {who : ι} (user : CacheUser)
    (huser : user.rest.Keeps ledger.Files (ledger.Answers (lifetime who) user.call)) :
    ledger.Sound lifetime (shared.update who user) where
  files := h.files
  answers other := by
    by_cases hother : other = who
    · simpa [SharedCaches.update, hother] using huser
    · simpa [SharedCaches.update, hother] using h.answers other

/-- **Each event keeps the invariant.** -/
theorem Sound.after? (h : ledger.Sound lifetime shared) {event : SharingEvent ι}
    (hevent : ∀ who call, event = .call who call → ledger.Admits call)
    (hnext : shared.after? event = some next) : ledger.Sound lifetime next := by
  cases event with
  | call who call =>
    obtain ⟨⟨found, cache⟩, hresult, hnext⟩ := Option.bind_eq_some_iff.1 hnext
    have hcache := ((h.answers who).of_result? hresult).holds
    rw [← Option.some.inj hnext]
    exact h.update ⟨some call, _⟩ (keeps_perform hcache (hevent who call rfl))
  | advance who =>
    obtain ⟨hrest, hfiles⟩ := (h.answers who).advance h.files
    rw [← Option.some.inj hnext]
    exact ⟨hfiles, (h.update { shared.users who with rest := _ } hrest).answers⟩
  | remove path =>
    rw [← Option.some.inj hnext]
    exact ⟨h.files.update fun after hafter place content hfile =>
      .inl (FileTree.hasFile_of_remove hafter hfile), h.answers⟩
  | spoil path content =>
    rw [SharedCaches.after?] at hnext
    split at hnext
    · next hspoilt =>
      rw [← Option.some.inj hnext]
      refine ⟨h.files.update fun after hafter place other hfile => ?_, h.answers⟩
      rcases FileTree.hasFile_of_write hafter hfile with hold | ⟨-, hcontent⟩
      · exact .inl hold
      · rw [hcontent]
        exact .inr (allows_spoilt (Option.isNone_iff_eq_none.1 hspoilt) place)
    · cases hnext

/-- **A run of events keeps the invariant.** -/
theorem Sound.run? (h : ledger.Sound lifetime shared) {events : List (SharingEvent ι)}
    (hevents : ∀ who call, .call who call ∈ events → ledger.Admits call)
    (hrun : shared.run? events = some next) : ledger.Sound lifetime next := by
  induction events generalizing shared with
  | nil => rwa [← Option.some.inj hrun]
  | cons event events ih =>
    rw [SharedCaches.run?, List.foldlM_cons] at hrun
    obtain ⟨middle, hafter, hrest⟩ := Option.bind_eq_some_iff.1 hrun
    refine ih (h.after? (fun who call hcall => hevents who call ?_) hafter)
      (fun who call hcall => hevents who call (List.mem_cons_of_mem event hcall)) hrest
    rw [hcall]
    exact List.mem_cons_self

omit [DecidableEq ι] in
theorem sound_opened {w : MemoryWorkspace} (hbase : w.directory = ledger.base)
    (hempty : w.tree.namesIn (Path.resolve w.directory ledger.directory) = []) :
    ledger.Sound lifetime (.opened w ledger.directory lifetime) where
  files := by
    refine ⟨hbase, fun place content hfile key entry hplace _ => ?_⟩
    rw [hplace, placeOf, ← hbase] at hfile
    exact absurd hfile (FileTree.not_hasFile_of_namesIn hempty _)
  answers who := ⟨⟨rfl, rfl, nofun⟩, nofun⟩

/-- The entries that the calls of a run put. -/
def ofRun (base : Place) (directory : String) (events : List (SharingEvent ι))
    (hkeys : ∀ who call, .call who call ∈ events → '/' ∉ call.key.toList)
    (hreadable : ∀ who time key found, .call who (.put time key found) ∈ events →
      CacheEntry.ofText? (CacheEntry.text ⟨time, found⟩) = some ⟨time, found⟩) : CacheLedger where
  base := base
  directory := directory
  WasPut key entry := ∃ who, .call who (.put entry.timestamp key entry.suggestions) ∈ events
  slash_not_mem {key entry} := fun ⟨who, hput⟩ =>
    hkeys who (.put entry.timestamp key entry.suggestions) hput
  readable {key entry} := fun ⟨who, hput⟩ =>
    hreadable who entry.timestamp key entry.suggestions hput

end Runs

end CacheLedger

namespace SharedCaches

/-- **What a cache finds was put by one of the caches under the same key, and is fresh for the cache
that finds it.** The caches share a directory that is empty at first, and `events` are all that happened
so far; the clock need not even go forward. Keys are without slashes, as digests are
(`Cache.slash_not_mem_key`), no two times are so far apart that an age has no 64 bits, and what is put
is read back as it was written (`hreadable`). -/
theorem found_was_put {ι : Type} [DecidableEq ι] {w : MemoryWorkspace} {directory : String}
    {lifetime : ι → Nat} {events : List (SharingEvent ι)} {shared : SharedCaches ι}
    (hempty : w.tree.namesIn (Path.resolve w.directory directory) = [])
    (hrun : (opened w directory lifetime).run? events = some shared)
    (hkeys : ∀ who call, .call who call ∈ events → '/' ∉ call.key.toList)
    (htimes : ∀ who call other earlier, .call who call ∈ events → .call other earlier ∈ events →
      call.time - earlier.time < 2 ^ 63)
    (hfinite : ∀ who time key found, .call who (.put time key found) ∈ events →
      ∀ s ∈ found, s.confidence.isFinite = true)
    (hreadable : ∀ who time key found, .call who (.put time key found) ∈ events →
      (∀ s ∈ found, s.confidence.isFinite = true) →
      CacheEntry.ofText? (CacheEntry.text ⟨time, found⟩) = some ⟨time, found⟩)
    {who : ι} {now : Int} {key : String} {value : List Suggestion}
    (hget : (shared.users who).call = some (.get now key))
    (hfound : (shared.users who).found? = some value) :
    ∃ other time, .call other (.put time key value) ∈ events ∧ time ≤ now ∧
      now - time < lifetime who := by
  let ledger := CacheLedger.ofRun w.directory directory events hkeys
    fun who time key found hput => hreadable who time key found hput (hfinite who time key found hput)
  have hadmits (other : ι) (call : CacheCall) (hcall : .call other call ∈ events) :
      ledger.Admits call :=
    { slash_not_mem := hkeys other call hcall
      near := fun key entry ⟨putter, hput⟩ =>
        htimes other call putter (.put entry.timestamp key entry.suggestions) hcall hput
      put := fun time key suggestions hput => ⟨other, hput ▸ hcall⟩ }
  have hopened : ledger.Sound lifetime (opened w directory lifetime) :=
    CacheLedger.sound_opened rfl hempty
  have hsound : ledger.Sound lifetime shared := hopened.run? hadmits hrun
  obtain ⟨⟨found, cache⟩, hresult, hvalue⟩ := Option.bind_eq_some_iff.1 hfound
  obtain ⟨called, hcalled, time, ⟨other, hput⟩, hfresh⟩ :=
    ((hsound.answers who).of_result? hresult).found value hvalue
  rw [hget] at hcalled
  obtain rfl : CacheCall.get now key = called := Option.some.inj hcalled
  exact ⟨other, time, hput, hfresh⟩

/-! ### A run -/

/-- A workspace with nothing in it. -/
def bareWorkspace : MemoryWorkspace := ⟨.empty, [], [], [], none, 0, ""⟩

def packing : List Suggestion := [.generated "Pack it." 0.5 .high]

/-- One cache puts suggestions while another one looks for them, in vain at first. Then the other one
finds them in the file, and again in memory when the file is gone. -/
def sharedRun : List (SharingEvent Bool) :=
  [.call true (.put 5 "0a" packing), .call false (.get 6 "0a"), .advance true, .advance false,
   .advance true, .spoil "cache/0b.json" [0x5b], .call false (.get 9 "0a"), .advance false,
   .remove "cache/0a.json", .call false (.get 12 "0a")]

/-- The cache that looks for suggestions keeps them longer than the one that puts them. -/
def sharedLifetime (who : Bool) : Nat := if who then 5 else 20

theorem call_mem_sharedRun {who : Bool} {call : CacheCall} (h : .call who call ∈ sharedRun) :
    call = .put 5 "0a" packing ∨ call = .get 6 "0a" ∨ call = .get 9 "0a" ∨ call = .get 12 "0a" := by
  simp only [sharedRun, List.mem_cons, SharingEvent.call.injEq, reduceCtorEq, List.not_mem_nil,
    or_false, false_or] at h
  rcases h with ⟨-, rfl⟩ | ⟨-, rfl⟩ | ⟨-, rfl⟩ | ⟨-, rfl⟩ <;> simp

theorem found_was_put_by_other :
    ∃ shared, (opened bareWorkspace "cache" sharedLifetime).run? sharedRun = some shared ∧
      (shared.users false).call = some (.get 12 "0a") ∧
      (shared.users false).found? = some packing ∧
      ∃ (other : Bool) (time : Int), .call other (.put time "0a" packing) ∈ sharedRun ∧ time ≤ 12 ∧
        12 - time < sharedLifetime false := by
  have hlook : ((opened bareWorkspace "cache" sharedLifetime).run? sharedRun).map
      (fun shared => ((shared.users false).call, (shared.users false).found?)) =
      some (some (.get 12 "0a"), some packing) := by
    decide +kernel
  obtain ⟨shared, hrun, hend⟩ := Option.map_eq_some_iff.1 hlook
  obtain ⟨hget, hfound⟩ := Prod.mk.inj hend
  have hkey {who : Bool} {call : CacheCall} (h : .call who call ∈ sharedRun) : call.key = "0a" := by
    rcases call_mem_sharedRun h with rfl | rfl | rfl | rfl <;> rfl
  have htime {who : Bool} {call : CacheCall} (h : .call who call ∈ sharedRun) :
      5 ≤ call.time ∧ call.time ≤ 12 := by
    rcases call_mem_sharedRun h with rfl | rfl | rfl | rfl <;> decide
  have hput {who : Bool} {time : Int} {key : String} {found : List Suggestion}
      (h : .call who (.put time key found) ∈ sharedRun) : time = 5 ∧ found = packing := by
    rcases call_mem_sharedRun h with hcall | hcall | hcall | hcall <;> cases hcall
    exact ⟨rfl, rfl⟩
  refine ⟨shared, hrun, hget, hfound, ?_⟩
  refine found_was_put (by decide +kernel) hrun (fun who call h => ?_)
    (fun who call other earlier h hearlier => ?_) (fun who time key found h => ?_)
    (fun who time key found h _ => ?_) hget hfound
  · rw [hkey h]
    decide
  · have := htime h
    have := htime hearlier
    omega
  · obtain ⟨-, rfl⟩ := hput h
    decide +kernel
  · obtain ⟨rfl, rfl⟩ := hput h
    decide +kernel

end SharedCaches

end GasAdvisor
