import GasAdvisor.Analysis.Files
import GasAdvisor.Workspace.Memory

/-!
# Computations that only read

A computation in a workspace only reads if it leaves the workspace as it is (`ReadsOnly`). Looking at
files does, and so does what is put together of computations that only read. The costs of a stored
report are such a computation, and the analysis of a file is one if it starts no tool and its provider
leaves the workspace alone (`Survey.readsOnly_analyzeFile`).
-/

namespace GasAdvisor

open MonadWorkspace Workspace

/-! ## Putting computations together -/

/-- A computation leaves the state as it is. -/
def ReadsOnly {σ α : Type} (x : StateM σ α) : Prop :=
  ∀ w, (x.run w).2 = w

namespace ReadsOnly

variable {σ α β : Type}

theorem pure (a : α) : ReadsOnly (Pure.pure a : StateM σ α) := fun _ => rfl

theorem bind {x : StateM σ α} {f : α → StateM σ β} (hx : ReadsOnly x)
    (hf : ∀ a, ReadsOnly (f a)) : ReadsOnly (x >>= f) := fun w => by
  have hrun : ((x >>= f).run w).2 = ((f (x.run w).1).run (x.run w).2).2 := rfl
  rw [hrun, hf, hx]

theorem map {x : StateM σ α} (hx : ReadsOnly x) (f : α → β) :
    ReadsOnly (do return f (← x)) :=
  hx.bind fun _ => pure _

theorem mapM {f : α → StateM σ β} (hf : ∀ a, ReadsOnly (f a)) (items : List α) :
    ReadsOnly (items.mapM f) := by
  induction items with
  | nil =>
    rw [List.mapM_nil]
    exact pure []
  | cons a items ih =>
    rw [List.mapM_cons]
    exact (hf a).bind fun _ => ih.map _

/-- **A search whose tests only read finds the first item of which the test holds.** -/
theorem run_findM? {p : α → StateM σ Bool} (hp : ∀ a, ReadsOnly (p a)) (w : σ) (items : List α) :
    (items.findM? p).run w = (items.find? fun a => ((p a).run w).1, w) := by
  induction items with
  | nil => rfl
  | cons a items ih =>
    have hstep : (p a).run w = (((p a).run w).1, w) := Prod.ext rfl (hp a w)
    rw [List.findM?, List.find?_cons, StateT.run_bind, hstep]
    dsimp only [Bind.bind]
    cases ((p a).run w).1 with
    | true => rfl
    | false => exact ih

theorem findM? {p : α → StateM σ Bool} (hp : ∀ a, ReadsOnly (p a)) (items : List α) :
    ReadsOnly (items.findM? p) := fun w => by
  rw [run_findM? hp]

end ReadsOnly

/-! ## Looking at files -/

theorem readsOnly_readText (path : String) :
    ReadsOnly (readText path : StateM MemoryWorkspace _) := by
  have hread : ReadsOnly (read path : StateM MemoryWorkspace _) := fun _ => rfl
  refine hread.bind fun outcome => ?_
  cases outcome with
  | error fault => exact .pure _
  | ok content =>
    dsimp only
    cases Text.decode? content <;> exact .pure _

theorem readsOnly_readText? (path : String) :
    ReadsOnly (readText? path : StateM MemoryWorkspace _) :=
  (readsOnly_readText path).map _

theorem readsOnly_isFile (path : String) : ReadsOnly (isFile path : StateM MemoryWorkspace _) :=
  fun _ => rfl

theorem readsOnly_isDirectory (path : String) :
    ReadsOnly (isDirectory path : StateM MemoryWorkspace _) :=
  fun _ => rfl

/-! ## Projects -/

theorem Foundry.readsOnly_isProject (directory : String) :
    ReadsOnly (isProject directory : StateM MemoryWorkspace _) := by
  refine (readsOnly_isFile _).bind fun found => ?_
  cases found with
  | true => exact .pure true
  | false => exact readsOnly_isDirectory _

theorem Hardhat.readsOnly_isPackage (path : String) :
    ReadsOnly (isPackage path : StateM MemoryWorkspace _) := by
  refine (readsOnly_readText? path).bind fun content => ?_
  cases content <;> exact .pure _

theorem Hardhat.readsOnly_isProject (directory : String) :
    ReadsOnly (isProject directory : StateM MemoryWorkspace _) := by
  refine (readsOnly_isFile _).bind fun found => ?_
  cases found with
  | true => exact .pure true
  | false =>
    refine (readsOnly_isFile _).bind fun found => ?_
    cases found with
    | true => exact .pure true
    | false => exact readsOnly_isPackage _

theorem Hardhat.readsOnly_report? (directory : String) :
    ReadsOnly (report? directory : StateM MemoryWorkspace _) := by
  refine (ReadsOnly.findM? readsOnly_isFile _).bind fun path => ?_
  cases path with
  | none => exact .pure none
  | some path => exact (readsOnly_readText? path).map _

namespace Framework

theorem readsOnly_isProject (framework : Framework) (directory : String) :
    ReadsOnly (framework.isProject directory : StateM MemoryWorkspace _) := by
  cases framework with
  | foundry => exact Foundry.readsOnly_isProject directory
  | hardhat => exact Hardhat.readsOnly_isProject directory

theorem readsOnly_report? (framework : Framework) (directory : String) :
    ReadsOnly (framework.report? directory : StateM MemoryWorkspace _) := by
  cases framework with
  | foundry => exact (readsOnly_readText? _).map _
  | hardhat => exact Hardhat.readsOnly_report? directory

end Framework

theorem Project.readsOnly_root? {isRoot : String → StateM MemoryWorkspace Bool}
    (h : ∀ path, ReadsOnly (isRoot path)) (contract : String) :
    ReadsOnly (root? isRoot contract) := by
  have hdirectory : ReadsOnly (MonadWorkspace.directory : StateM MemoryWorkspace _) := fun _ => rfl
  refine hdirectory.bind fun directory => ?_
  cases Path.names? directory contract with
  | none => exact .pure none
  | some names => exact ReadsOnly.findM? (fun directory => h _) _

/-- **Costs are read off a report** where no tool is run. -/
theorem Measurement.readsOnly_costs {measurement : Measurement} (h : measurement.runTool = false)
    (contract : Option String) :
    ReadsOnly (measurement.costs contract : StateM MemoryWorkspace _) := by
  have hdirectory : ReadsOnly (measurement.directory contract : StateM MemoryWorkspace _) := by
    cases contract with
    | none => exact .pure _
    | some path =>
      refine (Project.readsOnly_root? measurement.framework.readsOnly_isProject path).bind
        fun root => ?_
      cases root <;> exact .pure _
  refine hdirectory.bind fun directory => ?_
  refine (measurement.framework.readsOnly_report? directory).bind fun report => ?_
  simp only [h, Bool.not_false, Bool.or_true, if_true]
  exact .pure _

/-! ## Files -/

namespace Survey

variable {survey : Survey (StateM MemoryWorkspace)}

/-- **The analysis of a file leaves the workspace as it is** if no tool is run and the provider leaves
it alone. -/
theorem readsOnly_analyzeFile (hask : ∀ f, ReadsOnly (survey.ask f))
    (htool : ∀ measurement, survey.measurement = some measurement → measurement.runTool = false)
    (path : String) : ReadsOnly (survey.analyzeFile path) := by
  refine (readsOnly_readText path).bind fun outcome => ?_
  cases outcome with
  | error fault => exact .pure _
  | ok text =>
    have hcosts : ReadsOnly (survey.costs path) := by
      rw [costs]
      split
      · exact .pure _
      · next measurement hsome => exact Measurement.readsOnly_costs (htool _ hsome) _
    have htext : ReadsOnly (survey.analyzeText path text) :=
      hcosts.bind fun costs => ((ReadsOnly.mapM hask _).map _).bind fun analysis => .pure _
    exact htext.map _

end Survey

end GasAdvisor
