import GasAdvisor.Proofs.Workspace.Places

/-!
# What stays when files are written

Where a path leads is a matter of the directories on its way. So a path leads to the same place in every
tree that has these directories too (`KeepsDirectories.place?`). Neither writing a file nor making
directories takes one away, and so

* a file can be read after it was written (`read_of_write`), until another content is written to its
  place (`read_of_write_of_ne`, `read_of_createDirectories`);
* directories that were made are made again without a change (`createDirectories_again`);
* a file that can be written can also be written after another one (`exists_write_after`).
-/

namespace GasAdvisor

namespace FileTree

variable {tree made after : FileTree} {start place next last : Place} {path other part : String}
  {content written : List Nat} {entry : Entry}

/-! ## Directories -/

/-- The directories of a tree are directories of another one. -/
def KeepsDirectories (tree after : FileTree) : Prop :=
  ∀ place, tree.get? place = some .directory → after.get? place = some .directory

theorem directory_of_step (h : tree.step place part = .ok next) :
    tree.get? place = some .directory := by
  rw [step] at h
  split at h
  · cases h
  · cases h
  · assumption

theorem KeepsDirectories.step (hkeeps : tree.KeepsDirectories after)
    (h : tree.step place part = .ok next) : after.step place part = .ok next := by
  have hbefore := directory_of_step h
  rw [FileTree.step, hbefore] at h
  rw [FileTree.step, hkeeps place hbefore]
  exact h

theorem KeepsDirectories.walk (hkeeps : tree.KeepsDirectories after) {parts : List String}
    (h : tree.walk place parts = .ok next) : after.walk place parts = .ok next := by
  induction parts generalizing place with
  | nil => exact h
  | cons part parts ih =>
    rw [FileTree.walk, List.foldlM_cons] at h ⊢
    obtain ⟨middle, hstep, hrest⟩ := bind_eq_ok_iff.1 h
    exact bind_eq_ok_iff.2 ⟨middle, hkeeps.step hstep, ih hrest⟩

/-- **A path leads to the same place in a tree with the same directories.** -/
theorem KeepsDirectories.place? (hkeeps : tree.KeepsDirectories after)
    (h : tree.place? start path = .ok place) : after.place? start path = .ok place := by
  obtain ⟨_, haccept, hwalk⟩ := bind_eq_ok_iff.1 h
  exact bind_eq_ok_iff.2 ⟨_, haccept, hkeeps.walk hwalk⟩

/-! ## Insertions -/

theorem get?_insert (hplace : place ≠ []) :
    (tree.insert place entry).get? next = if next = place then some entry else tree.get? next := by
  by_cases hnil : next = []
  · rw [hnil, if_neg hplace.symm]
    rfl
  · exact get?_insert_of_ne_nil hnil

theorem ne_nil_of_get?_ne (h : tree.get? place ≠ some .directory) : place ≠ [] := by
  rintro rfl
  exact h rfl

theorem keepsDirectories_insert (h : tree.get? place ≠ some .directory) (entry : Entry) :
    tree.KeepsDirectories (tree.insert place entry) := by
  intro next hnext
  rw [get?_insert (ne_nil_of_get?_ne h), if_neg]
  · exact hnext
  · rintro rfl
    exact h hnext

/-! ## Making directories -/

/-- What stands in a tree stands in another one. -/
def KeepsAll (tree after : FileTree) : Prop :=
  ∀ place entry, tree.get? place = some entry → after.get? place = some entry

theorem KeepsAll.keepsDirectories (h : tree.KeepsAll after) : tree.KeepsDirectories after :=
  fun place hplace => h place .directory hplace

theorem keepsAll_of_stepOrCreate {state : FileTree × Place}
    (h : stepOrCreate (tree, place) part = .ok state) : tree.KeepsAll state.1 := by
  obtain ⟨below, -, h⟩ := bind_eq_ok_iff.1 h
  split at h
  · next hnone =>
    cases h
    intro other entry hother
    rw [get?_insert (ne_nil_of_get?_ne (by rw [hnone]; exact nofun)), if_neg]
    · exact hother
    · rintro rfl
      rw [hnone] at hother
      cases hother
  · cases h
    exact fun _ _ hother => hother

theorem keepsAll_of_foldlM_stepOrCreate {parts : List String} {state final : FileTree × Place}
    (h : parts.foldlM stepOrCreate state = .ok final) : state.1.KeepsAll final.1 := by
  induction parts generalizing state with
  | nil =>
    cases h
    exact fun _ _ hother => hother
  | cons part parts ih =>
    rw [List.foldlM_cons] at h
    obtain ⟨middle, hstep, hrest⟩ := bind_eq_ok_iff.1 h
    exact fun other entry hother =>
      ih hrest other entry (keepsAll_of_stepOrCreate hstep other entry hother)

/-- To make directories is to go step by step to a directory. -/
theorem createDirectories_eq_ok_iff (hpath : path.isEmpty = false) :
    tree.createDirectories start path = .ok made ↔
      accept path = .ok () ∧ ∃ last,
        (Path.parts path).foldlM stepOrCreate
          (tree, if Path.isAbsolute path then [] else start) = .ok (made, last) ∧
        made.get? last = some .directory := by
  rw [createDirectories, hpath, if_neg Bool.false_ne_true, bind_eq_ok_iff]
  constructor
  · rintro ⟨⟨⟩, haccept, h⟩
    obtain ⟨⟨found, last⟩, hfold, h⟩ := bind_eq_ok_iff.1 h
    have hend : (if found.get? last = some .directory then .ok found
        else .error .notDirectory : Except FileFault FileTree) = .ok made := h
    split at hend
    · next hlast =>
      cases hend
      exact ⟨haccept, last, hfold, hlast⟩
    · cases hend
  · rintro ⟨haccept, last, hfold, hlast⟩
    refine ⟨(), haccept, bind_eq_ok_iff.2 ⟨(made, last), hfold, ?_⟩⟩
    exact if_pos hlast

theorem keepsAll_of_createDirectories (h : tree.createDirectories start path = .ok made) :
    tree.KeepsAll made := by
  cases hpath : path.isEmpty with
  | true =>
    rw [createDirectories, if_pos hpath] at h
    cases h
    exact fun _ _ hother => hother
  | false =>
    obtain ⟨-, last, hfold, -⟩ := (createDirectories_eq_ok_iff hpath).1 h
    exact keepsAll_of_foldlM_stepOrCreate hfold

/-- The steps on which directories were made lead through directories, also later on. -/
theorem foldlM_stepOrCreate_again {parts : List String}
    (h : parts.foldlM stepOrCreate (tree, place) = .ok (made, last))
    (hlast : made.get? last = some .directory) (hkeeps : made.KeepsDirectories after) :
    made.get? place = some .directory ∧
      parts.foldlM stepOrCreate (after, place) = .ok (after, last) := by
  induction parts generalizing tree place with
  | nil =>
    cases h
    exact ⟨hlast, rfl⟩
  | cons part parts ih =>
    rw [List.foldlM_cons] at h ⊢
    obtain ⟨⟨middle, next⟩, hstep, hrest⟩ := bind_eq_ok_iff.1 h
    obtain ⟨hnext, hagain⟩ := ih hrest
    obtain ⟨below, hbelow, hmiddle⟩ := bind_eq_ok_iff.1 hstep
    have hplace : made.get? place = some .directory := by
      refine keepsAll_of_foldlM_stepOrCreate hrest place .directory ?_
      exact keepsAll_of_stepOrCreate hstep place .directory (directory_of_step hbelow)
    have hbelow_eq : below = next := by
      split at hmiddle <;> cases hmiddle <;> rfl
    refine ⟨hplace, bind_eq_ok_iff.2 ⟨(after, next), ?_, hagain⟩⟩
    -- the place was a directory, so the step is the same, and it leads to what is there by now
    have hagain_step : after.step place part = .ok next := by
      have hthere := hbelow_eq ▸ hbelow
      rw [step, directory_of_step hbelow] at hthere
      rw [step, hkeeps place hplace]
      exact hthere
    refine bind_eq_ok_iff.2 ⟨next, hagain_step, ?_⟩
    rw [hkeeps next hnext]

/-- **Directories that were made are there**, so that making them again changes nothing. -/
theorem createDirectories_again (h : tree.createDirectories start path = .ok made)
    (hkeeps : made.KeepsDirectories after) :
    after.createDirectories start path = .ok after := by
  cases hpath : path.isEmpty with
  | true => rw [createDirectories, if_pos hpath]; rfl
  | false =>
    obtain ⟨haccept, last, hfold, hlast⟩ := (createDirectories_eq_ok_iff hpath).1 h
    obtain ⟨-, hagain⟩ := foldlM_stepOrCreate_again hfold hlast hkeeps
    exact (createDirectories_eq_ok_iff hpath).2 ⟨haccept, last, hagain, hkeeps last hlast⟩

/-! ## Reading and writing -/

theorem read_eq_ok_iff :
    tree.read start path = .ok content ↔
      tree.place? start path = .ok (Path.resolve start path) ∧
        tree.HasFile (Path.resolve start path) content := by
  constructor
  · intro h
    have hfile := hasFile_of_read h
    obtain ⟨entry, hentry, -⟩ := bind_eq_ok_iff.1 h
    obtain ⟨place, hplace, -⟩ := bind_eq_ok_iff.1 hentry
    rw [← eq_resolve_of_place? hplace] at hfile ⊢
    exact ⟨hplace, hfile⟩
  · rintro ⟨hplace, hfile⟩
    have hentry : tree.entry? start path = .ok (.file content) := by
      refine bind_eq_ok_iff.2 ⟨_, hplace, ?_⟩
      rw [hfile]
    exact bind_eq_ok_iff.2 ⟨_, hentry, rfl⟩

/-- To write a file is to put it where its path leads and no directory is. -/
theorem write_eq_ok_iff :
    tree.write start path content = .ok after ↔
      Path.endsInSlash path = false ∧
        tree.place? start path = .ok (Path.resolve start path) ∧
        tree.get? (Path.resolve start path) ≠ some .directory ∧
        tree.insert (Path.resolve start path) (.file content) = after := by
  constructor
  · intro h
    obtain ⟨_, -, h⟩ := bind_eq_ok_iff.1 h
    obtain ⟨place, hplace, h⟩ := bind_eq_ok_iff.1 h
    split at h
    · cases h
    · next hfree =>
      simp only [Bool.or_eq_true, decide_eq_true_eq, not_or, Bool.not_eq_true] at hfree
      rw [trimmed_of_not_endsInSlash hfree.1] at hplace
      rw [← eq_resolve_of_place? hplace]
      exact ⟨hfree.1, hplace, hfree.2, Except.ok.inj h⟩
  · rintro ⟨hslash, hplace, hfree, rfl⟩
    obtain ⟨_, haccept, -⟩ := bind_eq_ok_iff.1 hplace
    refine bind_eq_ok_iff.2 ⟨_, haccept, ?_⟩
    rw [trimmed_of_not_endsInSlash hslash]
    refine bind_eq_ok_iff.2 ⟨_, hplace, ?_⟩
    rw [if_neg]
    simp [hslash, hfree]

/-- Whether a file can be written does not depend on the content. -/
theorem exists_write (h : tree.write start path content = .ok after) (written : List Nat) :
    ∃ other, tree.write start path written = .ok other := by
  obtain ⟨hslash, hplace, hfree, -⟩ := write_eq_ok_iff.1 h
  exact ⟨_, write_eq_ok_iff.2 ⟨hslash, hplace, hfree, rfl⟩⟩

theorem keepsDirectories_of_write (h : tree.write start path content = .ok after) :
    tree.KeepsDirectories after := by
  obtain ⟨-, -, hfree, rfl⟩ := write_eq_ok_iff.1 h
  exact keepsDirectories_insert hfree _

/-- **What was written can be read.** -/
theorem read_of_write (h : tree.write start path content = .ok after) :
    after.read start path = .ok content := by
  obtain ⟨-, hplace, hfree, rfl⟩ := write_eq_ok_iff.1 h
  refine read_eq_ok_iff.2 ⟨(keepsDirectories_insert hfree _).place? hplace, ?_⟩
  rw [HasFile, get?_insert (ne_nil_of_get?_ne hfree), if_pos rfl]

/-- **What can be read elsewhere can still be read after a file was written.** -/
theorem read_of_write_of_ne (h : tree.write start path written = .ok after)
    (hne : Path.resolve start other ≠ Path.resolve start path)
    (hread : tree.read start other = .ok content) : after.read start other = .ok content := by
  obtain ⟨-, -, hfree, rfl⟩ := write_eq_ok_iff.1 h
  obtain ⟨hplace, hfile⟩ := read_eq_ok_iff.1 hread
  refine read_eq_ok_iff.2 ⟨(keepsDirectories_insert hfree _).place? hplace, ?_⟩
  rw [HasFile, get?_insert (ne_nil_of_get?_ne hfree), if_neg hne]
  exact hfile

/-- **What can be read can still be read after directories were made.** -/
theorem read_of_createDirectories (h : tree.createDirectories start path = .ok made)
    (hread : tree.read start other = .ok content) : made.read start other = .ok content := by
  have hkeeps := keepsAll_of_createDirectories h
  obtain ⟨hplace, hfile⟩ := read_eq_ok_iff.1 hread
  exact read_eq_ok_iff.2 ⟨hkeeps.keepsDirectories.place? hplace, hkeeps _ _ hfile⟩

/-- **A file that can be written can also be written after another one.** -/
theorem exists_write_after (h : tree.write start path written = .ok after)
    (hother : tree.write start other content = .ok made) :
    ∃ later, after.write start other content = .ok later := by
  obtain ⟨-, -, hfree, rfl⟩ := write_eq_ok_iff.1 h
  obtain ⟨hslash, hplace, hotherFree, -⟩ := write_eq_ok_iff.1 hother
  refine ⟨_, write_eq_ok_iff.2
    ⟨hslash, (keepsDirectories_insert hfree _).place? hplace, ?_, rfl⟩⟩
  rw [get?_insert (ne_nil_of_get?_ne hfree)]
  split
  · nofun
  · exact hotherFree

end FileTree

end GasAdvisor
