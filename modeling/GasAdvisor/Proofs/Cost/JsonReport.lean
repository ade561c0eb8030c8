import GasAdvisor.Proofs.Cost.Measured
import GasAdvisor.Proofs.Json.InOrder

/-!
# Precedence in JSON reports

A JSON report may state the cost of a method in two places, and there under several contracts and in
several letter cases. All that it states is visited in one order (`Hardhat.nestedStats` and then
`Hardhat.flatStats`), whatever the shape of the report. A value that is no amount is passed over; of the
others, the last one of a name counts (`Hardhat.LastUsable`). So the flat form takes precedence over the
nested one wherever it has an amount for a name (`Hardhat.report_precedence`), and what has none might as
well not be in the report (`Hardhat.ofJsonReport_usableOnly`).
-/

namespace GasAdvisor.Hardhat

open Json

/-! ## What a report states -/

/-- The methods of an object in the order of their names, each with one of its members. -/
def methodStats (stat : String) (methods : Json) : List (String × Json) :=
  methods.inOrder.map fun method => (method.1, member stat method.2)

/-- What a report states of methods, contract by contract. -/
def nestedStats (report : Json) : List (String × Json) :=
  (member "methods" (member "info" report)).inOrder.flatMap fun contract =>
    methodStats "avg" contract.2

/-- What a report states of methods without a contract. -/
def flatStats (report : Json) : List (String × Json) :=
  methodStats "gasUsed" (member "methods" report)

/-- The cost that is stated for a method, under its lower case, if it is an amount. -/
def stated? (method : String × Json) : Option (String × Nat) :=
  (Gas.ofJson? method.2).map (lowerName method.1, ·)

variable {report value : Json} {stats more : List (String × Json)} {name : String} {gas : Nat}

theorem member_normalize (name : String) (value : Json) :
    member name value.normalize = (member name value).normalize := by
  rw [member, member, get?_normalize]
  cases value.get? name <;> rfl

theorem members_normalize (value : Json) :
    members value.normalize = value.inOrder.map fun m => (m.1, m.2.normalize) := by
  cases value with
  | object ms => rw [normalize_object]; rfl
  | null | bool _ | integer _ | double _ | string _ | array _ => rfl

theorem ofJson?_normalize (value : Json) : Gas.ofJson? value.normalize = Gas.ofJson? value := by
  cases value <;> rfl

theorem methodCosts_normalize (stat : String) (methods : Json) :
    methodCosts stat methods.normalize = (methodStats stat methods).filterMap stated? := by
  rw [methodCosts, members_normalize, methodStats, List.filterMap_map, List.filterMap_map]
  refine List.filterMap_congr fun method _ => ?_
  show (Gas.ofJson? (member stat method.2.normalize)).map _ = (Gas.ofJson? (member stat method.2)).map _
  rw [member_normalize, ofJson?_normalize]

/-- **A report of any shape is read in one order**: first what it states by contract, and then what it
states without. -/
theorem ofJsonReport_eq (report : Json) :
    ofJsonReport report = .ofList ((nestedStats report ++ flatStats report).filterMap stated?) := by
  have hnested : (members (member "methods" (member "info" report.normalize))).flatMap
      (fun contract => methodCosts "avg" contract.2) = (nestedStats report).filterMap stated? := by
    rw [member_normalize, member_normalize, members_normalize, nestedStats, List.flatMap_map,
      List.filterMap_flatMap]
    simp only [methodCosts_normalize]
  show Costs.ofList (_ ++ methodCosts "gasUsed" (member "methods" report.normalize)) = _
  rw [List.filterMap_append, flatStats, ← methodCosts_normalize, ← member_normalize]
  exact congrArg (fun costs => Costs.ofList (costs ++ _)) hnested

/-! ## The last amount of a name -/

/-- No value for the lower case of a name is an amount. -/
def NoneUsable (stats : List (String × Json)) (name : String) : Prop :=
  ∀ method ∈ stats, lowerName method.1 = name → Gas.ofJson? method.2 = none

/-- The last of several values for the lower case of a name that is an amount. -/
def LastUsable (stats : List (String × Json)) (name : String) (gas : Nat) : Prop :=
  ∃ before method after, stats = before ++ method :: after ∧ lowerName method.1 = name ∧
    Gas.ofJson? method.2 = some gas ∧ NoneUsable after name

/-- The search for the last amount of a name. -/
def lastUsable? (stats : List (String × Json)) (name : String) : Option Nat :=
  stats.reverse.findSome? fun method =>
    if lowerName method.1 = name then Gas.ofJson? method.2 else none

theorem lastUsable?_eq_none_iff : lastUsable? stats name = none ↔ NoneUsable stats name := by
  simp only [lastUsable?, List.findSome?_eq_none_iff, List.mem_reverse, ite_eq_right_iff, NoneUsable]

theorem lastUsable?_eq_some_iff : lastUsable? stats name = some gas ↔ LastUsable stats name gas := by
  rw [lastUsable?, List.findSome?_eq_some_iff]
  constructor
  · rintro ⟨after, method, before, hsplit, hmethod, hafter⟩
    obtain ⟨hname, hgas⟩ := Option.ite_none_right_eq_some.1 hmethod
    refine ⟨before.reverse, method, after.reverse, ?_, hname, hgas, fun m hm hname' => ?_⟩
    · rw [← List.reverse_reverse stats, hsplit]
      simp
    · have hnone := hafter m (List.mem_reverse.1 hm)
      rwa [if_pos hname'] at hnone
  · rintro ⟨before, method, after, rfl, hname, hgas, hafter⟩
    refine ⟨after.reverse, method, before.reverse, by simp, by rw [if_pos hname, hgas],
      fun m hm => ?_⟩
    split
    · next hname' => exact hafter m (List.mem_reverse.1 hm) hname'
    · rfl

/-- What is stated later takes precedence. -/
theorem lastUsable?_append (stats more : List (String × Json)) (name : String) :
    lastUsable? (stats ++ more) name = (lastUsable? more name).or (lastUsable? stats name) := by
  rw [lastUsable?, List.reverse_append, List.findSome?_append]
  rfl

/-- **A name has the last amount that is stated for it**, without a contract if there is one. -/
theorem get?_ofJsonReport (report : Json) (name : String) :
    (ofJsonReport report).get? name =
      (lastUsable? (flatStats report) name).or (lastUsable? (nestedStats report) name) := by
  have hstated : stated? = fun method => (Gas.ofJson? method.2).map (lowerName method.1, ·) := rfl
  rw [ofJsonReport_eq, ← lastUsable?_append, hstated, Costs.get?_ofList_filterMap, lastUsable?]

/-! ## What is no amount -/

/-- Whether a value that is stated for a method is an amount. -/
def isUsable (method : String × Json) : Bool :=
  (Gas.ofJson? method.2).isSome

/-- The methods of an object of which one member is an amount. -/
def usableMethods (stat : String) : Json → Json
  | .object ms =>
    .object ((inOrder (.object ms)).filter fun method => isUsable (method.1, member stat method.2))
  | value => value

/-- A report with all that it states of methods but what is no amount. -/
def usableOnly (report : Json) : Json :=
  .object
    [("info", .object [("methods", .object
      ((member "methods" (member "info" report)).inOrder.map fun contract =>
        (contract.1, usableMethods "avg" contract.2)))]),
     ("methods", usableMethods "gasUsed" (member "methods" report))]

theorem methodStats_usableMethods (stat : String) (methods : Json) :
    methodStats stat (usableMethods stat methods) = (methodStats stat methods).filter isUsable := by
  cases methods with
  | object ms =>
    have hsorted := (ascending_inOrder (.object ms)).filter fun method =>
      isUsable (method.1, member stat method.2)
    rw [usableMethods, methodStats, inOrder_object hsorted, methodStats, List.filter_map]
    rfl
  | null | bool _ | integer _ | double _ | string _ | array _ => rfl

theorem filterMap_stated?_filter (stats : List (String × Json)) :
    (stats.filter isUsable).filterMap stated? = stats.filterMap stated? := by
  rw [List.filterMap_filter]
  refine List.filterMap_congr fun method _ => ?_
  rw [isUsable, stated?]
  cases Gas.ofJson? method.2 <;> rfl

/-- **What is no amount has no effect.** -/
theorem ofJsonReport_usableOnly (report : Json) :
    ofJsonReport (usableOnly report) = ofJsonReport report := by
  have hcontracts : member "methods" (member "info" (usableOnly report)) = .object
      ((member "methods" (member "info" report)).inOrder.map fun contract =>
        (contract.1, usableMethods "avg" contract.2)) := rfl
  have hmethods : member "methods" (usableOnly report) =
      usableMethods "gasUsed" (member "methods" report) := rfl
  have hnested : (nestedStats (usableOnly report)).filterMap stated? =
      (nestedStats report).filterMap stated? := by
    rw [nestedStats, hcontracts, inOrder_object ((ascending_inOrder _).map _), List.flatMap_map,
      nestedStats, List.filterMap_flatMap, List.filterMap_flatMap]
    simp only [methodStats_usableMethods, filterMap_stated?_filter]
  rw [ofJsonReport_eq, ofJsonReport_eq, List.filterMap_append, hnested, flatStats, hmethods,
    methodStats_usableMethods, filterMap_stated?_filter, List.filterMap_append]
  rfl

/-- **Precedence in a JSON report**, of whatever shape. The members of its objects are visited in
ascending order of their names. A name is bound once, to the last amount that is stated for it without a
contract or, if there is none, to the last one that is stated for it in the visit of all contracts. Amounts
are positive, and what is no amount has no effect. -/
theorem report_precedence (report : Json) :
    ((ofJsonReport report).entries.map Prod.fst).Nodup ∧
      (∀ name gas, (name, gas) ∈ (ofJsonReport report).entries ↔
        LastUsable (flatStats report) name gas ∨
          NoneUsable (flatStats report) name ∧ LastUsable (nestedStats report) name gas) ∧
      (∀ value gas, Gas.ofJson? value = some gas → 0 < gas) ∧
      ofJsonReport (usableOnly report) = ofJsonReport report ∧
      ∀ value : Json, Ascending value.inOrder ∧
        ∀ name held, (name, held) ∈ value.inOrder ↔ value.get? name = some held := by
  have hnames : ((ofJsonReport report).entries.map Prod.fst).Nodup := Costs.nodup_names_ofList _
  refine ⟨hnames, fun name gas => ?_, fun value gas => Gas.pos_of_ofJson?,
    ofJsonReport_usableOnly report, fun value => ⟨ascending_inOrder value, fun _ _ => mem_inOrder_iff⟩⟩
  have hget : (name, gas) ∈ (ofJsonReport report).entries ↔
      (ofJsonReport report).get? name = some gas := mem_iff_lookup_eq_some hnames
  rw [hget, get?_ofJsonReport, Option.or_eq_some_iff, lastUsable?_eq_some_iff,
    lastUsable?_eq_none_iff, lastUsable?_eq_some_iff]

/-- A report in both forms, with names that collide between contracts, in their case and between the
forms. -/
def collisions : Json :=
  .object
    [("methods", .object
      [("MINT", .object [("gasUsed", .integer 0)]), ("transfer", .object [("gasUsed", .null)]),
       ("Burn", .object [("gasUsed", .string " +3 ")]), ("burn", .array [])]),
     ("info", .object [("methods", .object
      [("Vault", .object [("Transfer", .object [("avg", .integer 5)]), ("burn", .bool true)]),
       ("Token", .object
         [("transfer", .object [("avg", .string "9")]), ("mint", .object [("avg", .integer 7)]),
          ("burn", .object [("avg", .integer 4)])])])])]

/-- The cost of the transfer is that of the contract that is visited last; that of minting is not
replaced by zero, and that of burning is replaced by the one without a contract. -/
theorem report_precedence_of_collisions :
    ("transfer", 5) ∈ (ofJsonReport collisions).entries ∧
      ("mint", 7) ∈ (ofJsonReport collisions).entries ∧
      ("burn", 3) ∈ (ofJsonReport collisions).entries ∧
      Gas.ofJson? (.string " +3 ") = some 3 ∧ 0 < 3 := by
  obtain ⟨-, hentries, hpositive, -⟩ := report_precedence collisions
  have hnested {name : String} {gas : Nat} (hflat : lastUsable? (flatStats collisions) name = none)
      (h : lastUsable? (nestedStats collisions) name = some gas) :
      (name, gas) ∈ (ofJsonReport collisions).entries :=
    (hentries name gas).2 (.inr ⟨lastUsable?_eq_none_iff.1 hflat, lastUsable?_eq_some_iff.1 h⟩)
  have hburn : lastUsable? (flatStats collisions) "burn" = some 3 := by decide +kernel
  have hthree : Gas.ofJson? (.string " +3 ") = some 3 := by decide +kernel
  exact ⟨hnested (by decide +kernel) (by decide +kernel),
    hnested (by decide +kernel) (by decide +kernel),
    (hentries "burn" 3).2 (.inl (lastUsable?_eq_some_iff.1 hburn)),
    hthree, hpositive _ 3 hthree⟩

end GasAdvisor.Hardhat
