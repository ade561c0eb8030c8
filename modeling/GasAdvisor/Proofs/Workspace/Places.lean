import GasAdvisor.Proofs.Lookup
import GasAdvisor.Proofs.Text.Words
import GasAdvisor.Workspace.FileTree

/-!
# Where paths lead

If a path leads anywhere in a tree, the place that it leads to is told by the path alone
(`Path.resolve`): a tree only says whether it leads there. So what an operation does to the files of a
tree is said by their places.

* What is read stands at the place of the path (`FileTree.hasFile_of_read`).
* What is written stands there and changes no other file (`FileTree.hasFile_of_write`).
* To make directories or to remove a file makes none (`FileTree.hasFile_of_createDirectories`,
  `FileTree.hasFile_of_remove`).
-/

namespace GasAdvisor

open Text

theorem bind_eq_ok_iff {ε α β : Type} {x : Except ε α} {f : α → Except ε β} {b : β} :
    x >>= f = .ok b ↔ ∃ a, x = .ok a ∧ f a = .ok b := by
  cases x with
  | error e => simp [bind, Except.bind]
  | ok a => simp [bind, Except.bind]

/-! ## Paths -/

namespace Path

/-- Where one part of a path leads from a place. -/
def lead (place : Place) (part : String) : Place :=
  if !isName part then place
  else if part = ".." then place.dropLast
  else place ++ [part]

/-- Where a path leads from a place, if it leads anywhere. -/
def resolve (start : Place) (path : String) : Place :=
  (parts path).foldl lead (if isAbsolute path then [] else start)

theorem isAbsolute_append {a : String} (ha : a.isEmpty = false) (b : String) :
    isAbsolute (a ++ b) = isAbsolute a := by
  have hne : a.toList ≠ [] := by simpa using ha
  rw [isAbsolute, isAbsolute, String.toList_append, List.head?_append_of_ne_nil _ hne]

theorem parts_of_not_mem {path : String} (h : '/' ∉ path.toList) : parts path = [path] := by
  rw [parts, pieces_of_not_mem h, List.map_singleton, String.ofList_toList]

theorem parts_append_slash (a b : String) : parts (a ++ "/" ++ b) = parts a ++ parts b := by
  have hsplit : (a ++ "/" ++ b).toList = a.toList ++ '/' :: b.toList := by
    simp [String.toList_append]
  rw [parts, hsplit, pieces_append_separator, List.map_append]
  rfl

theorem exists_of_endsInSlash {path : String} (h : endsInSlash path = true) :
    ∃ front : String, path = front ++ "/" := by
  have hlast : path.toList.getLast? = some '/' := by simpa [endsInSlash] using h
  obtain ⟨front, hfront⟩ := List.getLast?_eq_some_iff.1 hlast
  refine ⟨String.ofList front, ?_⟩
  rw [← String.toList_inj, String.toList_append, String.toList_ofList, hfront]
  rfl

/-- **A name in a directory leads to that name at the place of the directory.** -/
theorem resolve_join (start : Place) (directory : String) {name : String}
    (h : '/' ∉ name.toList) :
    resolve start (join directory name) = lead (resolve start directory) name := by
  have hrelative : isAbsolute name = false := by
    rw [isAbsolute, decide_eq_false_iff_not]
    exact fun hhead => h (List.mem_of_mem_head? hhead)
  rw [join, hrelative, Bool.false_or]
  split
  · next hempty =>
    have hdirectory : directory = "" := by simpa using hempty
    rw [resolve, hrelative, parts_of_not_mem h, hdirectory]
    rfl
  · next hempty =>
    replace hempty : directory.isEmpty = false := by simpa using hempty
    split
    · next hslash =>
      obtain ⟨front, rfl⟩ := exists_of_endsInSlash hslash
      have hparts : parts (front ++ "/") = parts front ++ [""] := by
        have happend := parts_append_slash front ""
        rwa [String.append_empty] at happend
      rw [resolve, resolve, isAbsolute_append hempty, parts_append_slash, hparts,
        parts_of_not_mem h, List.foldl_append, List.foldl_append]
      rfl
    · rw [resolve, resolve, String.append_assoc, isAbsolute_append hempty, ← String.append_assoc,
        parts_append_slash, parts_of_not_mem h, List.foldl_append]
      rfl

end Path

namespace FileTree

variable {tree after : FileTree} {start place next : Place} {path part : String}
  {content written : List Nat} {entry : Entry}

theorem eq_lead_of_step (h : tree.step place part = .ok next) : next = Path.lead place part := by
  rw [step] at h
  split at h
  · cases h
  · cases h
  · rw [Path.lead]
    split at h
    · next hname => rw [if_pos hname, Except.ok.inj h]
    · next hname =>
      rw [if_neg hname]
      split at h
      · next hup => rw [if_pos hup, Except.ok.inj h]
      · next hup =>
        rw [if_neg hup]
        split at h
        · cases h
        · exact (Except.ok.inj h).symm

theorem eq_foldl_lead_of_walk {parts : List String} (h : tree.walk place parts = .ok next) :
    next = parts.foldl Path.lead place := by
  induction parts generalizing place with
  | nil => exact (Except.ok.inj h).symm
  | cons part parts ih =>
    rw [walk, List.foldlM_cons] at h
    obtain ⟨middle, hstep, hwalk⟩ := bind_eq_ok_iff.1 h
    rw [List.foldl_cons, ← eq_lead_of_step hstep]
    exact ih hwalk

/-- **Where a path leads is told by the path alone**, if it leads anywhere. -/
theorem eq_resolve_of_place? (h : tree.place? start path = .ok place) :
    place = Path.resolve start path := by
  obtain ⟨_, -, hwalk⟩ := bind_eq_ok_iff.1 h
  exact eq_foldl_lead_of_walk hwalk

/-! ## Files -/

/-- A file with a content stands at a place. -/
def HasFile (tree : FileTree) (place : Place) (content : List Nat) : Prop :=
  tree.get? place = some (.file content)

theorem not_hasFile_root : ¬ tree.HasFile [] content := nofun

theorem get?_of_ne_nil (h : place ≠ []) : tree.get? place = tree.entries.lookup place := by
  cases place with
  | nil => exact absurd rfl h
  | cons name place => rfl

theorem hasFile_of_erase (h : (tree.erase place).HasFile next content) :
    tree.HasFile next content := by
  have hne : next ≠ [] := fun hnil => not_hasFile_root (hnil ▸ h)
  rw [HasFile, get?_of_ne_nil hne, erase, lookup_filter_ne] at h
  rw [HasFile, get?_of_ne_nil hne]
  split at h
  · cases h
  · exact h

theorem get?_insert_of_ne_nil (hne : next ≠ []) :
    (tree.insert place entry).get? next = if next = place then some entry else tree.get? next := by
  rw [get?_of_ne_nil hne, get?_of_ne_nil hne, insert, erase, List.lookup_cons, lookup_filter_ne]
  by_cases hnext : next = place
  · rw [if_pos hnext, hnext, beq_self_eq_true, if_pos rfl]
  · rw [if_neg hnext, if_neg hnext, beq_false_of_ne hnext]

theorem hasFile_of_insert (h : (tree.insert place entry).HasFile next content) :
    tree.HasFile next content ∨ next = place ∧ entry = .file content := by
  have hne : next ≠ [] := fun hnil => not_hasFile_root (hnil ▸ h)
  rw [HasFile, get?_insert_of_ne_nil hne] at h
  split at h
  · next hnext => exact .inr ⟨hnext, Option.some.inj h⟩
  · exact .inl h

/-! ## Operations -/

theorem hasFile_of_read (h : tree.read start path = .ok content) :
    tree.HasFile (Path.resolve start path) content := by
  obtain ⟨entry, hentry, hfile⟩ := bind_eq_ok_iff.1 h
  obtain ⟨place, hplace, hget⟩ := bind_eq_ok_iff.1 hentry
  rw [HasFile, ← eq_resolve_of_place? hplace]
  cases entry with
  | directory => cases hfile
  | file found =>
    cases hfile
    split at hget
    · next hsome => rw [hsome, Except.ok.inj hget]
    · cases hget

theorem trimmed_of_not_endsInSlash (h : Path.endsInSlash path = false) : trimmed path = path := by
  have hlast : path.toList.getLast? ≠ some '/' := by simpa [Path.endsInSlash] using h
  rw [trimmed]
  split
  · rfl
  · next c rest hpath =>
    have hstop : Stops (· = '/') rest.reverse := by
      intro d hd
      rw [List.head?_reverse] at hd
      have hd' : path.toList.getLast? = some d := by rw [hpath, List.getLast?_cons, hd]; rfl
      rw [decide_eq_false_iff_not]
      exact fun heq => hlast (heq ▸ hd')
    have hkeep : rest.reverse.dropWhile (· = '/') = rest.reverse :=
      dropWhile_append_of_stop (a := []) (by simp) hstop
    rw [hkeep, List.reverse_reverse, ← hpath, String.ofList_toList]

/-- **A file of the tree after a write is a file of the tree before, or what was written at the place
of the path.** -/
theorem hasFile_of_write (h : tree.write start path written = .ok after)
    (hfile : after.HasFile next content) :
    tree.HasFile next content ∨ next = Path.resolve start path ∧ content = written := by
  obtain ⟨_, -, h⟩ := bind_eq_ok_iff.1 h
  obtain ⟨place, hplace, h⟩ := bind_eq_ok_iff.1 h
  split at h
  · cases h
  · next hfree =>
    have hslash : Path.endsInSlash path = false := by
      by_contra hslash
      exact hfree (by simp [hslash])
    rw [trimmed_of_not_endsInSlash hslash] at hplace
    rw [← Except.ok.inj h] at hfile
    rcases hasFile_of_insert hfile with hold | ⟨hnext, hentry⟩
    · exact .inl hold
    · cases hentry
      exact .inr ⟨hnext.trans (eq_resolve_of_place? hplace), rfl⟩

theorem hasFile_of_stepOrCreate {state : FileTree × Place}
    (h : stepOrCreate (tree, place) part = .ok state) (hfile : state.1.HasFile next content) :
    tree.HasFile next content := by
  obtain ⟨below, -, h⟩ := bind_eq_ok_iff.1 h
  split at h
  · cases h
    rcases hasFile_of_insert hfile with hold | ⟨-, hentry⟩
    · exact hold
    · cases hentry
  · cases h
    exact hfile

theorem hasFile_of_foldlM_stepOrCreate {parts : List String} {state last : FileTree × Place}
    (h : parts.foldlM stepOrCreate state = .ok last) (hfile : last.1.HasFile next content) :
    state.1.HasFile next content := by
  induction parts generalizing state with
  | nil => cases h; exact hfile
  | cons part parts ih =>
    rw [List.foldlM_cons] at h
    obtain ⟨middle, hstep, hrest⟩ := bind_eq_ok_iff.1 h
    exact hasFile_of_stepOrCreate hstep (ih hrest)

/-- **Making directories makes no file.** -/
theorem hasFile_of_createDirectories (h : tree.createDirectories start path = .ok after)
    (hfile : after.HasFile next content) : tree.HasFile next content := by
  rw [createDirectories] at h
  split at h
  · cases h; exact hfile
  · obtain ⟨_, -, h⟩ := bind_eq_ok_iff.1 h
    obtain ⟨⟨last, place⟩, hmade, h⟩ := bind_eq_ok_iff.1 h
    have hok : (if last.get? place = some .directory then .ok last
        else .error .notDirectory : Except FileFault FileTree) = .ok after := h
    split at hok
    · cases hok; exact hasFile_of_foldlM_stepOrCreate hmade hfile
    · cases hok

/-- **Removing a file makes none.** -/
theorem hasFile_of_remove (h : tree.remove start path = .ok after)
    (hfile : after.HasFile next content) : tree.HasFile next content := by
  obtain ⟨_, -, h⟩ := bind_eq_ok_iff.1 h
  obtain ⟨place, -, h⟩ := bind_eq_ok_iff.1 h
  cases h
  exact hasFile_of_erase hfile

/-- No file stands in a directory in which no name is seen. -/
theorem not_hasFile_of_namesIn {directory : Place} (h : tree.namesIn directory = []) (name : String) :
    ¬ tree.HasFile (directory ++ [name]) content := by
  intro hfile
  rw [HasFile, get?_of_ne_nil (by simp)] at hfile
  obtain ⟨earlier, later, hentries, -⟩ := List.lookup_eq_some_iff.1 hfile
  have hname : name ∈ tree.namesIn directory := by
    rw [namesIn, List.mem_mergeSort, List.mem_filterMap]
    exact ⟨(directory ++ [name], .file content), by simp [hentries], by simp⟩
  rw [h] at hname
  cases hname

end FileTree

end GasAdvisor
