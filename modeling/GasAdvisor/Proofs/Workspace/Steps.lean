import GasAdvisor.Proofs.Workspace.Places
import GasAdvisor.Workspace.Resumption

/-!
# What computations in steps keep

A computation in steps keeps an invariant of the state and yields what has some property
(`Resumption.Keeps`), if each of its steps keeps the invariant and it does so whatever the others do
between the steps, as long as they keep the invariant too. This is closed under putting computations
together (`Keeps.bind`), so the operations of a workspace are looked at one by one.

Without others a computation in steps does what it does when it runs in one go (`alone_bind` and what
follows).
-/

namespace GasAdvisor

open Text

namespace Resumption

variable {σ α β : Type}

/-! ## Without others -/

theorem alone_bind (x : Resumption σ α) (f : α → Resumption σ β) :
    (x >>= f).alone = x.alone >>= fun a => (f a).alone := by
  induction x with
  | done a => rfl
  | step effect next ih =>
    funext s
    have hnext : ((next s >>= f).alone) (effect s) = _ := congrFun (ih s) (effect s)
    exact hnext

/-! ## With others -/

/-- Each step keeps `invariant`, whatever others do between the steps, and what is yielded has
`property`. -/
def Keeps (invariant : σ → Prop) (property : α → Prop) : Resumption σ α → Prop
  | done a => property a
  | step effect next =>
    ∀ s, invariant s → invariant (effect s) ∧ (next s).Keeps invariant property

variable {invariant : σ → Prop} {property : α → Prop} {result : β → Prop} {x : Resumption σ α}

theorem Keeps.bind {f : α → Resumption σ β} (hx : x.Keeps invariant property)
    (hf : ∀ a, property a → (f a).Keeps invariant result) : (x >>= f).Keeps invariant result := by
  induction x with
  | done a => exact hf a hx
  | step effect next ih => exact fun s hs => ⟨(hx s hs).1, ih s (hx s hs).2⟩

theorem Keeps.atomic {x : StateM σ α}
    (h : ∀ s, invariant s → invariant (x.run s).2 ∧ property (x.run s).1) :
    (atomic x).Keeps invariant property :=
  h

/-- **The next step keeps the invariant**, and what is left keeps it too. -/
theorem Keeps.advance (hx : x.Keeps invariant property) {s : σ} (hs : invariant s) :
    (x.advance s).1.Keeps invariant property ∧ invariant (x.advance s).2 := by
  cases x with
  | done a => exact ⟨hx, hs⟩
  | step effect next => exact (hx s hs).symm

theorem Keeps.of_result? (hx : x.Keeps invariant property) {a : α} (h : x.result? = some a) :
    property a := by
  cases x with
  | done b => rwa [← Option.some.inj h]
  | step effect next => cases h

end Resumption

/-! ## Operations of a workspace in memory -/

namespace Workspace

theorem alone_readText (path : String) :
    (readText path : Resumption MemoryWorkspace _).alone = readText path := by
  rw [readText, Resumption.alone_bind]
  refine bind_congr fun outcome => ?_
  cases outcome with
  | error fault => rfl
  | ok content =>
    dsimp only
    cases decode? content <;> rfl

theorem alone_readText? (path : String) :
    (readText? path : Resumption MemoryWorkspace _).alone = readText? path := by
  rw [readText?, Resumption.alone_bind, alone_readText]
  rfl

variable (invariant : MemoryWorkspace → Prop) (path : String)

theorem keeps_read :
    (MonadWorkspace.read path : Resumption MemoryWorkspace _).Keeps invariant fun outcome =>
      ∀ content, outcome = .ok content →
        ∃ w, invariant w ∧ w.tree.HasFile (Path.resolve w.directory path) content :=
  .atomic fun w hw => ⟨hw, fun _ h => ⟨w, hw, FileTree.hasFile_of_read h⟩⟩

/-- **A text that was read stood in a file at the place of the path**, at a time at which the
invariant held. -/
theorem keeps_readText? :
    (readText? path : Resumption MemoryWorkspace _).Keeps invariant fun found =>
      ∀ text, found = some text → ∃ w content, invariant w ∧
        w.tree.HasFile (Path.resolve w.directory path) content ∧
        decode? content = some text.toList := by
  have hread : (readText path : Resumption MemoryWorkspace _).Keeps invariant fun outcome =>
      ∀ text, outcome = .ok text → ∃ w content, invariant w ∧
        w.tree.HasFile (Path.resolve w.directory path) content ∧
        decode? content = some text.toList := by
    refine (keeps_read invariant path).bind fun outcome hfile => ?_
    cases outcome with
    | error fault => exact nofun
    | ok content =>
      obtain ⟨w, hw, hfile⟩ := hfile content rfl
      dsimp only
      cases hdecode : decode? content with
      | none => exact nofun
      | some chars =>
        intro text htext
        refine ⟨w, content, hw, hfile, ?_⟩
        rw [← Except.ok.inj htext, String.toList_ofList]
        exact hdecode
  refine hread.bind fun outcome hfile text htext => hfile text ?_
  cases outcome with
  | error fault => cases htext
  | ok found => rw [Option.some.inj htext]

end Workspace

end GasAdvisor
