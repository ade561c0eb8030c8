import GasAdvisor.Cost.Foundry
import GasAdvisor.Cost.Hardhat
import GasAdvisor.Proofs.Lookup

/-!
# What reports say of costs

Costs are held by name, and the last of several statements of one name counts
(`Costs.get?_ofList`). Every reader holds a cost under the lower case of a name. Whether all costs are
positive, so that they say that something was measured, depends on the reader: those of JSON reports
and of tables leave out a cost of zero, while the three others hold it, and have positive costs only if
the last statement of no name is zero (`Costs.measured_of_reports`).
-/

namespace GasAdvisor

open Text

namespace Costs

variable {c : Costs} {stated : List (String × Nat)} {name other : String} {gas : Nat}

/-! ## The last statement counts -/

theorem get?_insert (c : Costs) (name : String) (gas : Nat) (other : String) :
    (c.insert name gas).get? other = if other = name then some gas else c.get? other := by
  rw [get?, insert, List.lookup_append, lookup_filter_ne, List.lookup_cons, List.lookup_nil, get?]
  by_cases h : other = name
  · rw [if_pos h, if_pos h, Option.none_or, h, beq_self_eq_true]
  · rw [if_neg h, if_neg h, beq_false_of_ne h, Option.or_none]

theorem nodup_names_insert (h : (c.entries.map Prod.fst).Nodup) (name : String) (gas : Nat) :
    ((c.insert name gas).entries.map Prod.fst).Nodup := by
  rw [insert, List.map_append, List.nodup_append]
  refine ⟨nodup_names_filter h _, List.nodup_singleton name, fun a ha b hb hab => ?_⟩
  rw [hab, List.mem_singleton.1 hb] at ha
  exact not_mem_names_filter_ne c.entries name ha

theorem ofList_eq_foldl (stated : List (String × Nat)) :
    ofList stated = stated.foldl (fun c item => c.insert item.1 item.2) empty :=
  rfl

theorem nodup_names_ofList (stated : List (String × Nat)) :
    ((ofList stated).entries.map Prod.fst).Nodup := by
  have hfold (c : Costs) (h : (c.entries.map Prod.fst).Nodup) :
      ((stated.foldl (fun c item => c.insert item.1 item.2) c).entries.map Prod.fst).Nodup := by
    induction stated generalizing c with
    | nil => exact h
    | cons item stated ih => exact ih _ (nodup_names_insert h item.1 item.2)
  rw [ofList_eq_foldl]
  exact hfold empty List.nodup_nil

/-- **The last statement of a name counts.** -/
theorem get?_ofList (stated : List (String × Nat)) (name : String) :
    (ofList stated).get? name = stated.reverse.lookup name := by
  have hfold (c : Costs) :
      (stated.foldl (fun c item => c.insert item.1 item.2) c).get? name =
        (stated.reverse.lookup name).or (c.get? name) := by
    induction stated generalizing c with
    | nil => rfl
    | cons item stated ih =>
      rw [List.foldl_cons, ih, get?_insert, List.reverse_cons, List.lookup_append, Option.or_assoc,
        List.lookup_cons, List.lookup_nil]
      by_cases h : name = item.1
      · rw [if_pos h, h, beq_self_eq_true, Option.some_or]
      · rw [if_neg h, beq_false_of_ne h, Option.none_or]
  rw [ofList_eq_foldl, hfold]
  exact Option.or_none

theorem mem_entries_ofList_iff :
    (name, gas) ∈ (ofList stated).entries ↔ stated.reverse.lookup name = some gas := by
  rw [mem_iff_lookup_eq_some (nodup_names_ofList stated), ← get?_ofList]
  rfl

/-- The last of several items that states a cost of a name counts. -/
theorem get?_ofList_filterMap {α : Type} (items : List α) (key : α → String)
    (gas? : α → Option Nat) (name : String) :
    (ofList (items.filterMap fun x => (gas? x).map (key x, ·))).get? name =
      items.reverse.findSome? fun x => if key x = name then gas? x else none := by
  rw [get?_ofList, ← List.filterMap_reverse, lookup_filterMap_pair]

/-! ## Names in lower case and positive costs -/

/-- Each name is the lower case of a name. -/
def Lowercased (c : Costs) : Prop :=
  ∀ name gas, (name, gas) ∈ c.entries → ∃ word, name = lowerName word

/-- Each cost says that something was measured. -/
def Measured (c : Costs) : Prop :=
  ∀ name gas, (name, gas) ∈ c.entries → 0 < gas

theorem mem_of_mem_entries_ofList (h : (name, gas) ∈ (ofList stated).entries) :
    (name, gas) ∈ stated :=
  List.mem_reverse.1 (mem_of_lookup_eq_some (mem_entries_ofList_iff.1 h))

theorem lowercased_ofList (h : ∀ item ∈ stated, ∃ word, item.1 = lowerName word) :
    (ofList stated).Lowercased :=
  fun name gas hmem => h (name, gas) (mem_of_mem_entries_ofList hmem)

theorem measured_ofList (h : ∀ item ∈ stated, 0 < item.2) : (ofList stated).Measured :=
  fun name gas hmem => h (name, gas) (mem_of_mem_entries_ofList hmem)

theorem measured_ofList_iff :
    (ofList stated).Measured ↔ ∀ name, stated.reverse.lookup name ≠ some 0 := by
  constructor
  · intro h name hzero
    exact Nat.lt_irrefl 0 (h name 0 (mem_entries_ofList_iff.2 hzero))
  · intro h name gas hmem
    refine Nat.pos_of_ne_zero fun hzero => h name ?_
    rw [← hzero]
    exact mem_entries_ofList_iff.1 hmem

end Costs

/-! ## Single statements -/

theorem exists_lowerName (word : List Char) : ∃ name, String.ofList (lower word) = lowerName name :=
  ⟨String.ofList word, by rw [lowerName, String.toList_ofList]⟩

namespace Gas

variable {gas n : Nat}

theorem pos_of_positive? (h : positive? n = some gas) : 0 < gas := by
  rw [positive?] at h
  split at h
  · next hpos => rwa [← Option.some.inj h]
  · cases h

/-- **An amount in a JSON report is positive**, whatever the form of the number. -/
theorem pos_of_ofJson? {value : Json} (h : ofJson? value = some gas) : 0 < gas := by
  cases value with
  | integer n =>
    cases n with
    | ofNat n => exact pos_of_positive? h
    | negSucc n => cases h
  | double x => exact pos_of_positive? h
  | string s =>
    obtain ⟨n, -, hpos⟩ := Option.bind_eq_some_iff.1 h
    exact pos_of_positive? hpos
  | null | bool _ | array _ | object _ => cases h

end Gas

namespace Hardhat

theorem methodCosts_spec {stat : String} {methods : Json} {item : String × Nat}
    (h : item ∈ methodCosts stat methods) : (∃ word, item.1 = lowerName word) ∧ 0 < item.2 := by
  obtain ⟨⟨method, stats⟩, -, hitem⟩ := List.mem_filterMap.1 h
  obtain ⟨gas, hgas, rfl⟩ := Option.map_eq_some_iff.1 hitem
  exact ⟨⟨method, rfl⟩, Gas.pos_of_ofJson? hgas⟩

theorem ofTableLine?_spec {line : List Char} {item : String × Nat}
    (h : ofTableLine? line = some item) : (∃ word, item.1 = lowerName word) ∧ 0 < item.2 := by
  obtain ⟨⟨method, ds⟩, -, h⟩ := Option.bind_eq_some_iff.1 h
  obtain ⟨n, -, h⟩ := Option.bind_eq_some_iff.1 h
  obtain ⟨gas, hgas, h⟩ := Option.bind_eq_some_iff.1 h
  cases h
  exact ⟨exists_lowerName method, Gas.pos_of_positive? hgas⟩

theorem lowerName_of_ofRunLine? {line : List Char} {item : String × Nat}
    (h : ofRunLine? line = some item) : ∃ word, item.1 = lowerName word := by
  obtain ⟨⟨name, ds⟩, -, h⟩ := Option.bind_eq_some_iff.1 h
  obtain ⟨gas, -, h⟩ := Option.bind_eq_some_iff.1 h
  cases h
  exact exists_lowerName name

end Hardhat

namespace Foundry

theorem lowerName_of_ofSnapshotLine? {line : List Char} {item : String × Nat}
    (h : ofSnapshotLine? line = some item) : ∃ word, item.1 = lowerName word := by
  obtain ⟨⟨name, ds⟩, -, h⟩ := Option.bind_eq_some_iff.1 h
  obtain ⟨gas, -, h⟩ := Option.bind_eq_some_iff.1 h
  cases h
  exact exists_lowerName name

theorem lowerName_of_ofRunLine? {line : List Char} {item : String × Nat}
    (h : ofRunLine? line = some item) : ∃ word, item.1 = lowerName word := by
  rw [ofRunLine?] at h
  split at h
  · cases h
  · obtain ⟨ds, -, h⟩ := Option.bind_eq_some_iff.1 h
    obtain ⟨gas, -, h⟩ := Option.bind_eq_some_iff.1 h
    obtain ⟨name, -, h⟩ := Option.bind_eq_some_iff.1 h
    cases h
    exact exists_lowerName name

end Foundry

/-! ## Reports -/

namespace Costs

/-- The cost that the last of several lines states for a name, where a line states at most one. -/
def lastStated? (ofLine? : List Char → Option (String × Nat)) (content name : String) : Option Nat :=
  ((lines content.toList).filterMap ofLine?).reverse.lookup name

/-- The costs that the lines of a report state are held in lower case, and they are positive if and only
if the last statement of no name is zero. -/
theorem lowercased_and_measured_iff {ofLine? : List Char → Option (String × Nat)}
    (h : ∀ line item, ofLine? line = some item → ∃ word, item.1 = lowerName word)
    (content : String) :
    (ofList ((lines content.toList).filterMap ofLine?)).Lowercased ∧
      ((ofList ((lines content.toList).filterMap ofLine?)).Measured ↔
        ∀ name, lastStated? ofLine? content name ≠ some 0) := by
  refine ⟨lowercased_ofList fun item hitem => ?_, measured_ofList_iff⟩
  obtain ⟨line, -, hline⟩ := List.mem_filterMap.1 hitem
  exact h line item hline

/-- **What reports say of costs.** Every reader holds costs under lower-case names. Those of JSON reports
and of tables hold positive costs only; those of snapshots and of the two kinds of test runs do so if and
only if the last statement of no name is zero. -/
theorem measured_of_reports (report : Json) (text : String) :
    ((Hardhat.ofJsonReport report).Lowercased ∧ (Hardhat.ofJsonReport report).Measured) ∧
    ((Hardhat.ofTable text).Lowercased ∧ (Hardhat.ofTable text).Measured) ∧
    ((Foundry.ofSnapshot text).Lowercased ∧
      ((Foundry.ofSnapshot text).Measured ↔
        ∀ name, lastStated? Foundry.ofSnapshotLine? text name ≠ some 0)) ∧
    ((Foundry.ofRun text).Lowercased ∧
      ((Foundry.ofRun text).Measured ↔
        ∀ name, lastStated? Foundry.ofRunLine? text name ≠ some 0)) ∧
    ((Hardhat.ofRun text).Lowercased ∧
      ((Hardhat.ofRun text).Measured ↔
        ∀ name, lastStated? Hardhat.ofRunLine? text name ≠ some 0)) := by
  refine ⟨?_, ?_,
    lowercased_and_measured_iff (fun _ _ => Foundry.lowerName_of_ofSnapshotLine?) text,
    lowercased_and_measured_iff (fun _ _ => Foundry.lowerName_of_ofRunLine?) text,
    lowercased_and_measured_iff (fun _ _ => Hardhat.lowerName_of_ofRunLine?) text⟩
  · have hstated : ∀ item ∈ (Hardhat.members (Hardhat.member "methods"
          (Hardhat.member "info" report.normalize))).flatMap
            (fun contract => Hardhat.methodCosts "avg" contract.2) ++
          Hardhat.methodCosts "gasUsed" (Hardhat.member "methods" report.normalize),
        (∃ word, item.1 = lowerName word) ∧ 0 < item.2 := by
      intro item hitem
      rcases List.mem_append.1 hitem with hnested | hflat
      · obtain ⟨contract, -, hitem⟩ := List.mem_flatMap.1 hnested
        exact Hardhat.methodCosts_spec hitem
      · exact Hardhat.methodCosts_spec hflat
    exact ⟨lowercased_ofList fun item hitem => (hstated item hitem).1,
      measured_ofList fun item hitem => (hstated item hitem).2⟩
  · have hstated : ∀ item ∈ (lines text.toList).filterMap Hardhat.ofTableLine?,
        (∃ word, item.1 = lowerName word) ∧ 0 < item.2 := by
      intro item hitem
      obtain ⟨line, -, hline⟩ := List.mem_filterMap.1 hitem
      exact Hardhat.ofTableLine?_spec hline
    exact ⟨lowercased_ofList fun item hitem => (hstated item hitem).1,
      measured_ofList fun item hitem => (hstated item hitem).2⟩

/-- A snapshot and the outputs of two test runs from which a cost of zero is taken, so that there are
costs and nothing was measured. -/
theorem zero_reported :
    (Foundry.ofSnapshot "C:testF() (gas: 0)").entries = [("f", 0)] ∧
      (Foundry.ofRun "[PASS] testF() (gas: 0)").entries = [("f", 0)] ∧
      (Hardhat.ofRun "F gas used: 0").entries = [("f", 0)] ∧
      ¬ (Foundry.ofSnapshot "C:testF() (gas: 0)").Measured ∧
      ¬ (Foundry.ofRun "[PASS] testF() (gas: 0)").Measured ∧
      ¬ (Hardhat.ofRun "F gas used: 0").Measured := by
  have hsnapshot : (Foundry.ofSnapshot "C:testF() (gas: 0)").entries = [("f", 0)] := by
    decide +kernel
  have hforge : (Foundry.ofRun "[PASS] testF() (gas: 0)").entries = [("f", 0)] := by decide +kernel
  have hhardhat : (Hardhat.ofRun "F gas used: 0").entries = [("f", 0)] := by decide +kernel
  have unmeasured {c : Costs} (h : c.entries = [("f", 0)]) : ¬ c.Measured := fun hall =>
    Nat.lt_irrefl 0 (hall "f" 0 (by rw [h]; exact List.mem_singleton_self _))
  exact ⟨hsnapshot, hforge, hhardhat, unmeasured hsnapshot, unmeasured hforge, unmeasured hhardhat⟩

end Costs

end GasAdvisor
