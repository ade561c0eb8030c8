import Mathlib.Data.List.Infix
import GasAdvisor.Proofs.Workspace.Reading

/-!
# The search for the root of a project

The directories in which the root of a project is looked for are those that hold the contract, as far as
the limit reaches (`Project.InReach`). Among them the nearest root is found, and nothing exactly if none
of them is a root (`Project.root?_nearest`).

The search is also a climb (`Project.climb?`): it tests the directory that it is in before it goes one up,
and it ends when its steps are used up or at the root of the file system. Both are one computation, with
the same tests in the same order, whatever the tests do (`Project.nearestRoot?_eq_climbFrom?`).
-/

namespace GasAdvisor

/-! ## The directories above a path -/

namespace Path

variable {names directory : List String}

theorem ancestors_concat (names : List String) (name : String) :
    ancestors (names ++ [name]) = names :: ancestors names := by
  induction names with
  | nil => rfl
  | cons first names ih =>
    rw [List.cons_append, ancestors, ih, List.map_cons, List.cons_append, ancestors]

theorem length_ancestors (names : List String) : (ancestors names).length = names.length := by
  induction names with
  | nil => rfl
  | cons name names ih =>
    rw [ancestors, List.length_append, List.length_map, ih, List.length_singleton, List.length_cons]

/-- The nearest of the directories above a path. -/
theorem mem_take_ancestors_iff {n : Nat} :
    directory ∈ (ancestors names).take n ↔
      directory <+: names ∧ directory.length < names.length ∧
        names.length ≤ directory.length + n := by
  induction names using List.reverseRecOn generalizing n with
  | nil => simp [ancestors]
  | append_singleton names name ih =>
    rw [ancestors_concat, List.length_append, List.length_singleton, List.prefix_concat_iff]
    cases n with
    | zero =>
      rw [List.take_zero]
      exact ⟨nofun, fun h => by omega⟩
    | succ n =>
      rw [List.take_succ_cons, List.mem_cons, ih]
      constructor
      · rintro (rfl | ⟨habove, hshort, hnear⟩)
        · exact ⟨.inr List.prefix_rfl, by omega, by omega⟩
        · exact ⟨.inr habove, by omega, by omega⟩
      · rintro ⟨rfl | habove, hshort, hnear⟩
        · rw [List.length_append, List.length_singleton] at hshort
          omega
        · rcases habove.length_le.lt_or_eq with hlt | heq
          · exact .inr ⟨habove, hlt, by omega⟩
          · exact .inl (habove.eq_of_length heq)

theorem mem_ancestors_iff :
    directory ∈ ancestors names ↔ directory <+: names ∧ directory.length < names.length := by
  have hall : (ancestors names).take names.length = ancestors names :=
    List.take_of_length_le (length_ancestors names).le
  rw [← hall, mem_take_ancestors_iff]
  exact ⟨fun ⟨habove, hshort, _⟩ => ⟨habove, hshort⟩,
    fun ⟨habove, hshort⟩ => ⟨habove, hshort, Nat.le_add_left _ _⟩⟩

/-- **The directories above a path stand nearest first.** -/
theorem pairwise_ancestors (names : List String) :
    (ancestors names).Pairwise fun near far => far <+: near := by
  induction names using List.reverseRecOn with
  | nil => exact .nil
  | append_singleton names name ih =>
    rw [ancestors_concat]
    exact .cons (fun directory h => (mem_ancestors_iff.1 h).1) ih

/-- The names on the way to an absolute path do not depend on where it is taken from. -/
theorem names?_of_isAbsolute {path : String} (h : isAbsolute path = true) (directory : List String) :
    names? directory path = some ((parts path).filter isName) := by
  have hne : path.isEmpty = false := by
    by_contra hempty
    obtain rfl : path = "" := by simpa using hempty
    cases h
  rw [names?, hne, h]
  rfl

end Path

/-! ## The climb -/

namespace Project

section climb

variable {m : Type → Type} [Monad m] (isRoot : (directory : List String) → m Bool)

/-- The search for a root from a directory upwards, with so many directories left to look at. -/
def climb? : (left : Nat) → (directory : List String) → m (Option (List String))
  | 0, _ => return none
  | left + 1, directory => do
    if ← isRoot directory then return some directory
    else if directory.isEmpty then return none
    else climb? left directory.dropLast

/-- The climb from the directory that holds a contract. The root of the file system is held by none. -/
def climbFrom? (names : List String) : m (Option (List String)) :=
  if names.isEmpty then return none else climb? isRoot searchLimit names.dropLast

/-- **What a climb looks at**: the directory it starts in and those above it, up to its limit. -/
theorem climb?_eq_findM? (left : Nat) (directory : List String) :
    climb? isRoot left directory =
      ((directory :: Path.ancestors directory).take left).findM? isRoot := by
  induction left generalizing directory with
  | zero => rfl
  | succ left ih =>
    rw [climb?, List.take_succ_cons, List.findM?]
    refine congrArg (isRoot directory >>= ·) (funext fun found => ?_)
    cases found with
    | true => rfl
    | false =>
      obtain rfl | ⟨above, name, rfl⟩ := List.eq_nil_or_concat' directory
      · exact (congrArg (List.findM? isRoot) List.take_nil).symm
      · have hne : (above ++ [name]).isEmpty = false := by simp
        dsimp only
        rw [if_neg Bool.false_ne_true, hne, if_neg Bool.false_ne_true, List.dropLast_concat, ih,
          Path.ancestors_concat]

/-- **The nearest root is what a climb from the contract finds.** -/
theorem nearestRoot?_eq_climbFrom? (names : List String) :
    nearestRoot? isRoot names = climbFrom? isRoot names := by
  rw [nearestRoot?, climbFrom?, candidates]
  obtain rfl | ⟨above, name, rfl⟩ := List.eq_nil_or_concat' names
  · rfl
  · have hne : (above ++ [name]).isEmpty = false := by simp
    rw [hne, if_neg Bool.false_ne_true, List.dropLast_concat, climb?_eq_findM?,
      Path.ancestors_concat]

end climb

/-! ## The nearest root -/

variable {names directory : List String}

/-- A directory holds a contract, and not too far below it. -/
structure InReach (names directory : List String) : Prop where
  above : directory <+: names
  proper : directory.length < names.length
  near : names.length ≤ directory.length + searchLimit

theorem mem_candidates_iff : directory ∈ candidates names ↔ InReach names directory :=
  Path.mem_take_ancestors_iff.trans
    ⟨fun ⟨above, proper, near⟩ => ⟨above, proper, near⟩, fun h => ⟨h.above, h.proper, h.near⟩⟩

/-- A directory in reach is a root, and all other roots in reach are above it. -/
structure IsNearestRoot (isRoot : List String → Bool) (names directory : List String) : Prop
    extends InReach names directory where
  root : isRoot directory = true
  nearest : ∀ other, InReach names other → isRoot other = true → other <+: directory

theorem find?_candidates_eq_some_iff {isRoot : List String → Bool} :
    (candidates names).find? isRoot = some directory ↔ IsNearestRoot isRoot names directory := by
  -- what is found first is the nearest
  have hfound {found : List String} (h : (candidates names).find? isRoot = some found) :
      IsNearestRoot isRoot names found := by
    obtain ⟨hroot, before, after, hsplit, hbefore⟩ := List.find?_eq_some_iff_append.1 h
    refine ⟨mem_candidates_iff.1 (List.mem_of_find?_eq_some h), hroot, fun other hother hholds => ?_⟩
    rw [← mem_candidates_iff, hsplit, List.mem_append, List.mem_cons] at hother
    rcases hother with hmem | rfl | hmem
    · have hnot := hbefore other hmem
      rw [hholds] at hnot
      cases hnot
    · exact List.prefix_rfl
    · have hsorted : (candidates names).Pairwise fun near far => far <+: near :=
        (Path.pairwise_ancestors names).take
      rw [hsplit, List.pairwise_append, List.pairwise_cons] at hsorted
      exact hsorted.2.1.1 other hmem
  refine ⟨hfound, fun h => ?_⟩
  have hmem := mem_candidates_iff.2 h.toInReach
  obtain ⟨found, heq⟩ := Option.isSome_iff_exists.1 (List.find?_isSome.2 ⟨directory, hmem, h.root⟩)
  have hnearest := hfound heq
  have hdown := h.nearest found hnearest.toInReach hnearest.root
  have hup := hnearest.nearest directory h.toInReach h.root
  rw [heq, hdown.eq_of_length_le hup.length_le]

theorem find?_candidates_eq_none_iff {isRoot : List String → Bool} :
    (candidates names).find? isRoot = none ↔
      ∀ directory, InReach names directory → isRoot directory = false := by
  rw [List.find?_eq_none]
  exact ⟨fun h directory hreach => eq_false_of_ne_true (h _ (mem_candidates_iff.2 hreach)),
    fun h directory hmem => by rw [h _ (mem_candidates_iff.1 hmem)]; exact Bool.false_ne_true⟩

/-- Whether a test of paths holds of a directory in a workspace. -/
def holds (isRoot : (path : String) → StateM MemoryWorkspace Bool) (w : MemoryWorkspace)
    (directory : List String) : Bool :=
  ((isRoot (Path.ofNames directory)).run w).1

/-- **The root of the project of an absolute path.** A test that only reads is made of the directory that
holds the contract and of those above it, of ten of them if there are so many, and else up to the root of
the file system. The nearest root among them is found, nothing exactly if none of them is a root, and the
workspace stays as it is; the climb from the contract comes to the same. -/
theorem root?_nearest {isRoot : String → StateM MemoryWorkspace Bool}
    (hreads : ∀ path, ReadsOnly (isRoot path)) {contract : String}
    (habsolute : Path.isAbsolute contract = true) (w : MemoryWorkspace) :
    ∃ names found, (∀ directory, Path.names? directory contract = some names) ∧
      (root? isRoot contract).run w = (found, w) ∧
      (climbFrom? (fun directory => isRoot (Path.ofNames directory)) names).run w = (found, w) ∧
      (∀ directory, found = some directory ↔ IsNearestRoot (holds isRoot w) names directory) ∧
      (found = none ↔ ∀ directory, InReach names directory → holds isRoot w directory = false) ∧
      (candidates names).length = min searchLimit names.length := by
  have hnames := Path.names?_of_isAbsolute habsolute
  generalize (Path.parts contract).filter Path.isName = names at hnames
  have hsearch : (nearestRoot? (fun directory => isRoot (Path.ofNames directory)) names).run w =
      ((candidates names).find? (holds isRoot w), w) :=
    ReadsOnly.run_findM? (fun directory => hreads _) w _
  have hroot : (root? isRoot contract).run w =
      (nearestRoot? (fun directory => isRoot (Path.ofNames directory)) names).run w := by
    have hdirectory : (MonadWorkspace.directory : StateM MemoryWorkspace _).run w =
        (w.directory, w) := rfl
    rw [root?, StateT.run_bind, hdirectory]
    dsimp only [bind]
    rw [hnames]
  refine ⟨names, _, hnames, hroot.trans hsearch, ?_, fun directory => find?_candidates_eq_some_iff,
    find?_candidates_eq_none_iff, ?_⟩
  · rw [← nearestRoot?_eq_climbFrom?, hsearch]
  · rw [candidates, List.length_take, Path.length_ancestors]

/-- Two projects, one in the other. -/
def nestedWorkspace : MemoryWorkspace :=
  MemoryWorkspace.plant ⟨.empty, [], [], [], none, 0, ""⟩ []
    [("0/foundry.toml", []), ("foundry.toml", [])]

/-- A contract so deep in the inner project that no directory above that is in reach. -/
def deepContract : String := "/0/1/2/3/4/5/6/7/8/9/C.sol"

/-- A contract one directory deeper. -/
def deeperContract : String := "/0/1/2/3/4/5/6/7/8/9/10/C.sol"

/-- Whether a directory holds a project. -/
def isNestedRoot (path : String) : StateM MemoryWorkspace Bool :=
  Framework.foundry.isProject path

/-- The tenth directory is the root of its project. One directory deeper it is the eleventh, and no root is
found. -/
theorem root?_nearest_tenth :
    (∀ path, ReadsOnly (isNestedRoot path)) ∧ Path.isAbsolute deepContract = true ∧
      (root? isNestedRoot deepContract).run nestedWorkspace = (some ["0"], nestedWorkspace) ∧
      IsNearestRoot (holds isNestedRoot nestedWorkspace)
        ["0", "1", "2", "3", "4", "5", "6", "7", "8", "9", "C.sol"] ["0"] ∧
      Path.isAbsolute deeperContract = true ∧
      (root? isNestedRoot deeperContract).run nestedWorkspace = (none, nestedWorkspace) ∧
      holds isNestedRoot nestedWorkspace ["0"] = true ∧
      ¬ InReach ["0", "1", "2", "3", "4", "5", "6", "7", "8", "9", "10", "C.sol"] ["0"] := by
  have hreads : ∀ path, ReadsOnly (isNestedRoot path) := Framework.readsOnly_isProject .foundry
  have habsolute : Path.isAbsolute deepContract = true := by decide
  have hdeeper : Path.isAbsolute deeperContract = true := by decide
  obtain ⟨names, found, hnames, hrun, -, hnearest, -, -⟩ :=
    root?_nearest hreads habsolute nestedWorkspace
  obtain ⟨deeper, missed, hbelow, hrunBelow, -, -, hnone, -⟩ :=
    root?_nearest hreads hdeeper nestedWorkspace
  have hparts : Path.names? [] deepContract =
      some ["0", "1", "2", "3", "4", "5", "6", "7", "8", "9", "C.sol"] := by decide +kernel
  have hpartsBelow : Path.names? [] deeperContract =
      some ["0", "1", "2", "3", "4", "5", "6", "7", "8", "9", "10", "C.sol"] := by decide +kernel
  have hfound : ((root? isNestedRoot deepContract).run nestedWorkspace).1 = some ["0"] := by
    decide +kernel
  have hmissed : ((root? isNestedRoot deeperContract).run nestedWorkspace).1 = none := by
    decide +kernel
  have hholds : holds isNestedRoot nestedWorkspace ["0"] = true := by decide +kernel
  obtain rfl := Option.some.inj ((hnames []).symm.trans hparts)
  obtain rfl := Option.some.inj ((hbelow []).symm.trans hpartsBelow)
  rw [hrun] at hfound
  rw [hrunBelow] at hmissed
  subst hfound hmissed
  refine ⟨hreads, habsolute, hrun, (hnearest _).1 rfl, hdeeper, hrunBelow, hholds, fun hreach => ?_⟩
  rw [hnone.1 rfl ["0"] hreach] at hholds
  cases hholds

end Project

end GasAdvisor
