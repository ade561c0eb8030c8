import GasAdvisor.Proofs.Cost.Snapshot
import GasAdvisor.Proofs.Text.Caseless

/-!
# Test runs and snapshots

A test run prints its tests in lines of their own form, and a snapshot in another one. The two readers
have little in common: that of snapshots takes a line apart at one place, while that of test runs looks
for the cost and for the name on their own, and for the name in any letter case. They agree on every
test all the same (`NamedTest.readers_agree`). Nothing before the name of a test could start it, so
whatever stands later in the name is of no account (`Foundry.first?_testAt_runLine`), and a line has only
one colon, which stands before the cost (`Foundry.first?_amountAt_runLine`).
-/

namespace GasAdvisor

open Text

namespace Foundry

/-! ## Lines of test runs -/

/-- What stands before the name of a test that has passed. -/
def passed : List Char :=
  ['[', 'P', 'A', 'S', 'S', ']', ' ']

/-- What stands between the name of a test and the announcement of its cost. -/
def beforeAmount : List Char :=
  ['(', ')', ' ', '(']

/-- The letters that a test starts with. -/
def testLetters : List Char :=
  ['t', 'e', 's', 't']

/-- What announces a cost. -/
def announcement : List Char :=
  ['g', 'a', 's', ':']

/-- The line of a test in a test run, where the name of the test goes on with a word. -/
def runLine (word : List Char) (gas : Nat) : List Char :=
  passed ++ (testLetters ++ (word ++ (beforeAmount ++ (announcement ++
    (' ' :: (Decimal.digits gas ++ [')']))))))

variable {word : List Char}

theorem colon_not_mem_gas (gas : Nat) : ':' ∉ ' ' :: (Decimal.digits gas ++ [')']) := by
  have hdigits : ':' ∉ Decimal.digits gas := not_mem_digits (by decide)
  simp [hdigits]

/-- Where only one colon follows, a cost is announced right before it and nowhere else. -/
theorem amountAt_append_eq_none {v s : List Char} (hv : v ≠ []) (hv' : ':' ∉ v) (hs : ':' ∉ s)
    (before : Option Char) : amountAt before (v ++ (announcement ++ s)) = none := by
  have hliteral : Shape.literal announcement none (v ++ (announcement ++ s)) = none := by
    refine if_neg fun hprefix => hv ?_
    obtain ⟨rest, hrest⟩ := List.isPrefixOf_iff_prefix.1 hprefix
    have hcolons : (v ++ ['g', 'a', 's']) ++ ':' :: s = ['g', 'a', 's'] ++ ':' :: rest := by
      rw [List.append_assoc]
      exact hrest.symm
    have hfront : ':' ∉ v ++ ['g', 'a', 's'] := by simp [hv']
    have hsame := ((List.append_cons_inj_of_notMem hfront hs).1 hcolons).1
    exact List.append_left_eq_self.1 hsame
  show (Shape.skip (.andThen (.literal announcement) .blanks) _).bind _ = none
  rw [Shape.skip, Shape.andThen_eq_bind, hliteral]
  rfl

theorem amountAt_announcement (gas : Nat) (before : Option Char) :
    amountAt before (announcement ++ (' ' :: (Decimal.digits gas ++ [')']))) =
      some (Decimal.digits gas) := by
  have hblanks (before : Option Char) :
      Shape.blanks before ([' '] ++ (Decimal.digits gas ++ [')'])) =
        some ([' '], Decimal.digits gas ++ [')']) :=
    Shape.many_append isBlank_of_mem_space (stops_isBlank_digits gas [')']) before
  have hskip : Shape.skip (.seq [.literal "gas:".toList, .blanks])
      (announcement ++ (' ' :: (Decimal.digits gas ++ [')']))) =
        some (Decimal.digits gas ++ [')']) :=
    Shape.skip_of_some (Shape.andThen_of_some (Shape.literal_append announcement none _) hblanks)
  have hdigits : Shape.digits? (Decimal.digits gas ++ [')']) = some (Decimal.digits gas, [')']) :=
    Shape.digits?_append Nat.toDigits_ne_nil (fun _ => isDecimalDigit_of_mem_digits)
      (stops_cons.2 (by decide))
  simp only [amountAt, hskip, hdigits, Option.bind_eq_bind, Option.bind_some, Option.pure_def]

/-- **The cost is read behind the only colon of a line**, whatever the name of the test. -/
theorem first?_amountAt_runLine (hword : IsName word) (gas : Nat) :
    first? amountAt (runLine word gas) = some (Decimal.digits gas) := by
  have hfront : ':' ∉ passed ++ (testLetters ++ (word ++ beforeAmount)) := by
    have hpassed : ':' ∉ passed := by decide
    have htest : ':' ∉ testLetters := by decide
    have hname : ':' ∉ word := hword.not_mem (by decide)
    have hbefore : ':' ∉ beforeAmount := by decide
    simp [hpassed, htest, hname, hbefore]
  have hline : runLine word gas = (passed ++ (testLetters ++ (word ++ beforeAmount))) ++
      (announcement ++ (' ' :: (Decimal.digits gas ++ [')']))) := by
    simp only [runLine, List.append_assoc]
  rw [first?, hline, firstFrom_append_of_none]
  · exact firstFrom_of_some (amountAt_announcement gas _)
  · intro u v huv hv before
    have hv' : ':' ∉ v := fun h => hfront (by rw [huv]; exact List.mem_append_right u h)
    exact amountAt_append_eq_none hv hv' (colon_not_mem_gas gas) before

/-- Nothing before the name of a test starts one in any letter case. -/
theorem testAt_append_eq_none {v s : List Char} (hv : v ≠ [])
    (hletters : v.any (Shape.isFormOf 't') = false) (before : Option Char) :
    testAt before (v ++ s) = none := by
  obtain ⟨c, v, rfl⟩ := List.exists_cons_of_ne_nil hv
  rw [List.any_cons, Bool.or_eq_false_iff] at hletters
  have hcaseless : Shape.caseless testLetters none (c :: v ++ s) = none := by
    rw [List.cons_append, testLetters, Shape.caseless, if_neg]
    rw [hletters.1]
    exact Bool.false_ne_true
  show (Shape.skip (.caseless testLetters) _).bind _ = none
  rw [Shape.skip, hcaseless]
  rfl

theorem testAt_append {s : List Char} (hword : IsName word) (hs : Stops isWord s)
    (before : Option Char) :
    testAt before (testLetters ++ (word ++ s)) = some (testedName word) := by
  have hspells : Spells testLetters testLetters := by
    have hforms : testLetters.all (fun c => Shape.isFormOf c c) = true := by decide
    exact List.forall₂_same.2 (List.all_eq_true.1 hforms)
  have hskip : Shape.skip (.caseless "test".toList) (testLetters ++ (word ++ s)) =
      some (word ++ s) :=
    Shape.skip_of_some (Shape.caseless_eq_some_iff.2 ⟨rfl, hspells⟩)
  have hname : Shape.word? (word ++ s) = some (word, s) :=
    Shape.word?_append hword.ne_nil hword.isWord hs
  simp only [testAt, hskip, hname, Option.bind_eq_bind, Option.bind_some, Option.pure_def]

/-- **The name is read from its start**, however often it goes on with what it starts with. -/
theorem first?_testAt_runLine (hword : IsName word) (gas : Nat) :
    first? testAt (runLine word gas) = some (testedName word) := by
  have hpassed : passed.any (Shape.isFormOf 't') = false := by decide
  rw [first?, runLine, firstFrom_append_of_none]
  · exact firstFrom_of_some (testAt_append hword (stops_cons.2 (by decide)) _)
  · intro u v huv hv before
    rw [huv, List.any_append, Bool.or_eq_false_iff] at hpassed
    exact testAt_append_eq_none hv hpassed.2 before

/-- What the line of a test states, if its cost is one of 64 bits. -/
theorem ofRunLine?_runLine (hword : IsName word) (gas : Nat) :
    ofRunLine? (runLine word gas) =
      if gas < 2 ^ 64 then some (String.ofList (lower (testedName word)), gas) else none := by
  have hgas : mentions "gas:".toList (runLine word gas) = true := by
    refine mentions_iff.2 ⟨passed ++ (testLetters ++ (word ++ beforeAmount)),
      ' ' :: (Decimal.digits gas ++ [')']), ?_⟩
    simp only [runLine, List.append_assoc]
    rfl
  have htest : mentions "test".toList (runLine word gas) = true :=
    mentions_iff.2 (List.infix_append' passed testLetters _)
  simp only [ofRunLine?, hgas, htest, first?_amountAt_runLine hword, first?_testAt_runLine hword,
    Option.bind_eq_bind, Option.bind_some, Gas.ofDigits?_digits, Bool.not_true, Bool.or_self,
    Bool.false_eq_true, if_false, Option.pure_def]
  split <;> rfl

end Foundry

/-! ## Named tests -/

/-- A test, whose name is `test` with a word right behind it, and its cost. -/
structure NamedTest where
  word : String
  gas : Nat
  isName_word : IsName word.toList

namespace NamedTest

open Foundry

/-- The name of a test. -/
def name (t : NamedTest) : String :=
  "test" ++ t.word

/-- The line of a test in a test run. -/
def runLine (t : NamedTest) : String :=
  "[PASS] " ++ t.name ++ "() (gas: " ++ toString t.gas ++ ")"

/-- The line of a test of a contract in a snapshot. -/
def snapshotLine (contract : String) (t : NamedTest) : String :=
  contract ++ ":" ++ t.name ++ "() (gas: " ++ toString t.gas ++ ")"

/-- The name of the tested function in lower case: the word, less an underscore at its start if more
than that follows. -/
def key (t : NamedTest) : String :=
  String.ofList (lower (testedName t.word.toList))

/-- Whether the cost is one of 64 bits. -/
def fits (t : NamedTest) : Bool :=
  t.gas < 2 ^ 64

theorem toList_runLine (t : NamedTest) : t.runLine.toList = Foundry.runLine t.word.toList t.gas := by
  have hpassed : "[PASS] ".toList = passed := by decide
  have htest : "test".toList = testLetters := by decide
  have hbefore : "() (gas: ".toList = beforeAmount ++ (announcement ++ [' ']) := by decide
  have hparen : ")".toList = [')'] := by decide
  simp only [runLine, name, Foundry.runLine, String.toList_append, Decimal.toList_toString, hpassed,
    htest, hbefore, hparen, List.append_assoc, List.cons_append, List.nil_append]

theorem toList_snapshotLine (contract : String) (t : NamedTest) :
    (t.snapshotLine contract).toList = testLine contract.toList false t.word.toList t.gas := by
  have hcolon : ":".toList = separator false := by decide
  have hbefore : "() (gas: ".toList = beforeGas := by decide
  have hparen : ")".toList = [')'] := by decide
  simp only [snapshotLine, name, testLine, String.toList_append, Decimal.toList_toString, hcolon,
    hbefore, hparen, List.append_assoc]

/-- What the line of a test states in a test run, if its cost is one of 64 bits. -/
theorem ofRunLine?_toList (t : NamedTest) :
    ofRunLine? t.runLine.toList = if t.fits then some (t.key, t.gas) else none := by
  rw [toList_runLine, ofRunLine?_runLine t.isName_word]
  simp only [fits, decide_eq_true_eq, key]

/-- **A snapshot states the same** for the test. -/
theorem ofSnapshotLine?_toList {contract : String} (hcontract : IsName contract.toList)
    (t : NamedTest) :
    ofSnapshotLine? (t.snapshotLine contract).toList = ofRunLine? t.runLine.toList := by
  rw [toList_runLine, toList_snapshotLine, ofRunLine?_runLine t.isName_word,
    ofSnapshotLine?_testLine hcontract t.isName_word]

/-! ## Reports line by line -/

/-- What is read off lines that end like that of a test is read off each of them. -/
theorem filterMap_lines_tests {α : Type} {read : List Char → Option α} (hempty : read [] = none)
    (line : NamedTest → String) {before : String} (hbefore : '\n' ∉ before.toList)
    (hline : ∀ t, line t = before ++ t.name ++ "() (gas: " ++ toString t.gas ++ ")")
    (tests : List NamedTest) (ended : Bool) :
    (lines (ofLines (tests.map line) ended).toList).filterMap read =
      tests.filterMap fun t => read (line t).toList := by
  have hparen : ")".toList = [')'] := by decide
  rw [filterMap_lines_ofLines hempty, List.filterMap_map]
  · rfl
  · refine List.forall_mem_map.2 fun t _ hmem => ?_
    have htest : '\n' ∉ "test".toList := by decide
    have hgas : '\n' ∉ "() (gas: ".toList := by decide
    have hword : '\n' ∉ t.word.toList := t.isName_word.not_mem (by decide)
    have hdigits : '\n' ∉ Decimal.digits t.gas := not_mem_digits (by decide)
    simp only [hline, name, String.toList_append, Decimal.toList_toString, hparen, List.mem_append,
      hbefore, htest, hgas, hword, hdigits, false_or, List.mem_singleton] at hmem
    exact absurd hmem (by decide)
  · refine List.forall_mem_map.2 fun t _ => ?_
    rw [hline, String.toList_append, hparen, dropReturn_concat _ (by decide)]

/-- **What a test run states** are the costs of 64 bits that are printed in it, in their order. -/
theorem ofRun_ofLines (tests : List NamedTest) (ended : Bool) :
    ofRun (ofLines (tests.map runLine) ended) =
      .ofList ((tests.filter fits).map fun t => (t.key, t.gas)) := by
  have hpassed : '\n' ∉ "[PASS] ".toList := by decide
  have hstated : tests.filterMap (fun t => ofRunLine? t.runLine.toList) =
      (tests.filter fits).map fun t => (t.key, t.gas) := by
    simp only [ofRunLine?_toList]
    rw [← List.filterMap_filter]
    exact congrFun List.filterMap_eq_map _
  rw [ofRun, filterMap_lines_tests (by decide) runLine hpassed fun _ => rfl, hstated]

theorem ofSnapshot_ofLines {contract : String} (hcontract : IsName contract.toList)
    (tests : List NamedTest) (ended ended' : Bool) :
    ofSnapshot (ofLines (tests.map (snapshotLine contract)) ended) =
      ofRun (ofLines (tests.map runLine) ended') := by
  have hpassed : '\n' ∉ "[PASS] ".toList := by decide
  have hbefore : '\n' ∉ (contract ++ ":").toList := by
    have hcolon : '\n' ∉ ":".toList := by decide
    rw [String.toList_append, List.mem_append, not_or]
    exact ⟨hcontract.not_mem (by decide), hcolon⟩
  rw [ofSnapshot, ofRun, filterMap_lines_tests (by decide) (snapshotLine contract) hbefore fun _ => rfl,
    filterMap_lines_tests (by decide) runLine hpassed fun _ => rfl]
  simp only [ofSnapshotLine?_toList hcontract]

/-- **The two readers of test costs agree.** For tests of any names and costs, a test run and a snapshot of
any contract state the same costs: those of 64 bits, each under the lower case of the name behind `test`.
Each line states the same in both, and nothing exactly if its cost has more than 64 bits. -/
theorem readers_agree (contract : String) (hcontract : IsName contract.toList)
    (tests : List NamedTest) (ended ended' : Bool) :
    ofRun (ofLines (tests.map runLine) ended) =
        ofSnapshot (ofLines (tests.map (snapshotLine contract)) ended') ∧
      ofRun (ofLines (tests.map runLine) ended) =
        .ofList ((tests.filter fits).map fun t => (t.key, t.gas)) ∧
      ∀ t : NamedTest,
        ofSnapshotLine? (t.snapshotLine contract).toList = ofRunLine? t.runLine.toList ∧
          (ofRunLine? t.runLine.toList = none ↔ 2 ^ 64 ≤ t.gas) := by
  refine ⟨(ofSnapshot_ofLines hcontract tests ended' ended).symm, ofRun_ofLines tests ended,
    fun t => ⟨ofSnapshotLine?_toList hcontract t, ?_⟩⟩
  rw [ofRunLine?_toList, ← Nat.not_lt]
  simp [fits]

/-- Tests whose names hold `test` in several cases, and underscores; one cost is too large. -/
def mixedTests : List NamedTest :=
  [⟨"Transfer", 51234, by decide +kernel⟩, ⟨"__TESTtest_mint", 70011, by decide +kernel⟩,
   ⟨"_", 3, by decide +kernel⟩, ⟨"_transfer", 2 ^ 64, by decide +kernel⟩]

theorem readers_agree_on_mixed_tests :
    ofLines (mixedTests.map runLine) true =
      "[PASS] testTransfer() (gas: 51234)\n[PASS] test__TESTtest_mint() (gas: 70011)\n" ++
      "[PASS] test_() (gas: 3)\n[PASS] test_transfer() (gas: 18446744073709551616)\n" ∧
    ofRun (ofLines (mixedTests.map runLine) true) =
      ofSnapshot (ofLines (mixedTests.map (snapshotLine "TestToken")) false) ∧
    (ofRun (ofLines (mixedTests.map runLine) true)).entries =
      [("transfer", 51234), ("_testtest_mint", 70011), ("_", 3)] := by
  obtain ⟨hagree, hcosts, -⟩ := readers_agree "TestToken" (by decide +kernel) mixedTests true false
  refine ⟨by decide +kernel, hagree, ?_⟩
  rw [hcosts]
  decide +kernel

end NamedTest

end GasAdvisor
