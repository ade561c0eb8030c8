import GasAdvisor.Proofs.Analysis.Integration
import GasAdvisor.Proofs.Cost.Amounts
import GasAdvisor.Proofs.Cost.Measured
import GasAdvisor.Proofs.Text.Identifiers
import GasAdvisor.Proofs.Text.Shapes
import GasAdvisor.Proofs.Text.Words

/-!
# Printed snapshots

The line of a test has the name of a contract, one or two colons, the word `test` with the name of a
function after it, and a cost. Nothing of this is marked off but by the characters that a name lacks, and
the search for a line's form may start anywhere; it nevertheless finds the form at the first character
and takes the line apart where it was put together (`Foundry.snapshotAt_testLine`), since every name is a
whole word (`IsName`).

So of a snapshot that is printed line by line, the costs of 64 bits are read, each under the lower case of
its function (`PrintedTest.ofSnapshot_snapshot`). What follows for maps and analyses is put together in
`PrintedTest.snapshot_reaches_functions`.
-/

namespace GasAdvisor

open Text

/-! ## Names -/

/-- **Names that differ in the case of ASCII letters alone have one lower case**, if one of them is
ASCII. -/
theorem lowerName_of_toLower_eq {a b : String} (hb : IsAscii b.toList) (h : a.toLower = b.toLower) :
    lowerName a = b.toLower := by
  have hlists : a.toList.map Char.toLower = b.toList.map Char.toLower := by
    have htexts := congrArg String.toList h
    rwa [String.toLower, String.toLower, String.toList_map, String.toList_map] at htexts
  have ha : IsAscii a.toList := by
    rw [← isAscii_map_toLower, hlists, isAscii_map_toLower]
    exact hb
  rw [lowerName, lower_of_isAscii ha, hlists, ← String.toList_map, String.ofList_toList]
  rfl

namespace Foundry

/-! ## Lines -/

/-- What stands between a contract and a test of it. -/
def separator (doubled : Bool) : List Char :=
  if doubled then [':', ':'] else [':']

/-- What stands between the name of a test and its cost. -/
def beforeGas : List Char :=
  ['(', ')', ' ', '(', 'g', 'a', 's', ':', ' ']

/-- The line of a test, whose name goes on with a word. -/
def testLine (contract : List Char) (doubled : Bool) (word : List Char) (gas : Nat) : List Char :=
  contract ++ (separator doubled ++
    ("test".toList ++ (word ++ (beforeGas ++ (Decimal.digits gas ++ [')'])))))

/-- The shape of what stands between the name of a test and its cost takes one space at each place. -/
theorem skip_beforeGas {s : List Char} (hs : Stops isBlank s) :
    Shape.skip (.seq [.literal "()".toList, .many1 isBlank, .literal "(gas:".toList, .blanks])
      (beforeGas ++ s) = some s := by
  have hparens : "()".toList = ['(', ')'] := by decide
  have hgas : "(gas:".toList = ['(', 'g', 'a', 's', ':'] := by decide
  rw [hparens, hgas]
  have hlast (before : Option Char) : Shape.blanks before ([' '] ++ s) = some ([' '], s) :=
    Shape.many_append isBlank_of_mem_space hs before
  have hword (before : Option Char) :
      (Shape.literal ['(', 'g', 'a', 's', ':']).andThen .blanks before
          (['(', 'g', 'a', 's', ':'] ++ ([' '] ++ s)) =
        some (['(', 'g', 'a', 's', ':'] ++ [' '], s) :=
    Shape.andThen_of_some (Shape.literal_append _ before _) hlast
  have hspace (before : Option Char) :
      (Shape.many1 isBlank).andThen ((Shape.literal ['(', 'g', 'a', 's', ':']).andThen .blanks) before
          ([' '] ++ (['(', 'g', 'a', 's', ':'] ++ ([' '] ++ s))) =
        some ([' '] ++ (['(', 'g', 'a', 's', ':'] ++ [' ']), s) :=
    Shape.andThen_of_some (Shape.many1_append (List.cons_ne_nil _ _) isBlank_of_mem_space
      (stops_cons.2 (by decide)) before) hword
  exact Shape.skip_of_some (Shape.andThen_of_some (Shape.literal_append ['(', ')'] none _) hspace)

/-- **A printed line is taken apart where it was put together**, from its first character on. -/
theorem snapshotAt_testLine {contract word : List Char} (hcontract : IsName contract)
    (hword : IsName word) (doubled : Bool) (gas : Nat) (before : Option Char) :
    snapshotAt before (testLine contract doubled word gas) =
      some (testedName word, Decimal.digits gas) := by
  obtain ⟨gasEnd, hgasEnd⟩ : ∃ gasEnd, gasEnd = Decimal.digits gas ++ [')'] := ⟨_, rfl⟩
  have hfront (s : List Char) : Shape.word? (contract ++ ':' :: s) = some (contract, ':' :: s) :=
    Shape.word?_append hcontract.ne_nil hcontract.isWord (stops_cons.2 (by decide))
  have hcolon (s : List Char) : Shape.skip (.one (· = ':')) (':' :: s) = some s := Shape.skip_one s
  -- where there is one colon only, the letter after it is no second one
  have hsecond (s : List Char) : Shape.skip (.one (· = ':')) ("test".toList ++ s) = none := by
    have hletters : "test".toList = ['t', 'e', 's', 't'] := by decide
    rw [hletters]
    rfl
  have htest (s : List Char) : Shape.skip (.literal "test".toList) ("test".toList ++ s) = some s :=
    Shape.skip_literal _ s
  have hname : Shape.word? (word ++ (beforeGas ++ gasEnd)) = some (word, beforeGas ++ gasEnd) :=
    Shape.word?_append hword.ne_nil hword.isWord (stops_cons.2 (by decide))
  have hbefore : Shape.skip
      (.seq [.literal "()".toList, .many1 isBlank, .literal "(gas:".toList, .blanks])
        (beforeGas ++ gasEnd) = some gasEnd := by
    rw [hgasEnd]
    exact skip_beforeGas (stops_isBlank_digits gas [')'])
  have hdigits : Shape.digits? gasEnd = some (Decimal.digits gas, [')']) := by
    rw [hgasEnd]
    exact Shape.digits?_append Nat.toDigits_ne_nil (fun _ => isDecimalDigit_of_mem_digits)
      (stops_cons.2 (by decide))
  have hlast : Shape.skip (.one (· = ')')) [')'] = some [] := Shape.skip_one []
  rw [testLine, ← hgasEnd]
  cases doubled with
  | false =>
    simp only [snapshotAt, separator, Bool.false_eq_true, if_false, List.singleton_append, hfront,
      hcolon, hsecond, htest, hname, hbefore, hdigits, hlast, Option.getD_none, Option.bind_eq_bind,
      Option.bind_some, Option.pure_def]
  | true =>
    simp only [snapshotAt, separator, if_true, List.cons_append, List.nil_append, hfront, hcolon,
      htest, hname, hbefore, hdigits, hlast, Option.getD_some, Option.bind_eq_bind,
      Option.bind_some, Option.pure_def]

/-- What a printed line states, if its cost is one of 64 bits. -/
theorem ofSnapshotLine?_testLine {contract word : List Char} (hcontract : IsName contract)
    (hword : IsName word) (doubled : Bool) (gas : Nat) :
    ofSnapshotLine? (testLine contract doubled word gas) =
      if gas < 2 ^ 64 then some (String.ofList (lower (testedName word)), gas) else none := by
  have hfirst : first? snapshotAt (testLine contract doubled word gas) =
      some (testedName word, Decimal.digits gas) := by
    have hat := snapshotAt_testLine hcontract hword doubled gas none
    obtain ⟨c, contract, rfl⟩ := List.exists_cons_of_ne_nil hcontract.ne_nil
    rw [testLine, List.cons_append] at hat ⊢
    rw [first?, firstFrom, hat]
  simp only [ofSnapshotLine?, hfirst, Option.bind_eq_bind, Option.bind_some, Gas.ofDigits?_digits,
    Option.pure_def]
  split <;> rfl

end Foundry

/-! ## Printed tests -/

/-- A test as a snapshot prints it: the contract it belongs to, the function it tests and its cost. -/
structure PrintedTest where
  contract : String
  function : String
  gas : Nat
  /-- Whether the contract is followed by two colons. -/
  doubled : Bool
  isIdentifier_contract : IsIdentifier contract.toList
  isIdentifier_function : IsIdentifier function.toList

namespace PrintedTest

open Foundry

/-- The line of a test. -/
def line (t : PrintedTest) : String :=
  t.contract ++ (if t.doubled then "::" else ":") ++ "test_" ++ t.function ++ "() (gas: " ++
    toString t.gas ++ ")"

/-- The lines of tests, one after the other, with a line feed after the last one or without. -/
def snapshot (tests : List PrintedTest) (ended : Bool) : String :=
  "\n".intercalate (tests.map line ++ if ended then [""] else [])

/-- The name of the function in lower case. -/
def key (t : PrintedTest) : String :=
  t.function.toLower

/-- Whether the cost is one of 64 bits. -/
def fits (t : PrintedTest) : Bool :=
  t.gas < 2 ^ 64

/-- The last cost of 64 bits that is printed for the lower case of a name. -/
def lastGas? (tests : List PrintedTest) (name : String) : Option Nat :=
  (tests.filter fun t => t.fits && t.key = name).getLast?.map gas

theorem toList_line (t : PrintedTest) :
    t.line.toList = testLine t.contract.toList t.doubled ('_' :: t.function.toList) t.gas := by
  have hgas : (toString t.gas).toList = Decimal.digits t.gas := Decimal.toList_toString t.gas
  have hcolons : (if t.doubled then "::" else ":").toList = separator t.doubled := by
    cases t.doubled <;> decide
  have htest : "test_".toList = "test".toList ++ ['_'] := by decide
  have hbefore : "() (gas: ".toList = beforeGas := by decide
  have hparen : ")".toList = [')'] := by decide
  simp only [line, String.toList_append, hgas, hcolons, htest, hbefore, hparen, testLine,
    List.append_assoc, List.cons_append, List.nil_append]

/-- A printed line states the cost of the function, if that is one of 64 bits. The underscore after
`test` is the one that is left out of the name, however many follow. -/
theorem ofSnapshotLine?_toList (t : PrintedTest) :
    ofSnapshotLine? t.line.toList = if t.fits then some (t.key, t.gas) else none := by
  have hword : IsIdentifier ('_' :: t.function.toList) :=
    ⟨List.cons_ne_nil _ _, List.forall_mem_cons.2 ⟨.inr rfl, t.isIdentifier_function.part⟩⟩
  have hname : testedName ('_' :: t.function.toList) = t.function.toList := by
    obtain ⟨c, rest, hfunction⟩ := List.exists_cons_of_ne_nil t.isIdentifier_function.ne_nil
    rw [hfunction, testedName]
  have hkey : String.ofList (lower t.function.toList) = t.key :=
    lowerName_of_toLower_eq t.isIdentifier_function.isAscii rfl
  rw [toList_line, ofSnapshotLine?_testLine t.isIdentifier_contract.isName hword.isName, hname, hkey]
  simp only [fits, decide_eq_true_eq]

theorem feed_not_mem_line (t : PrintedTest) : '\n' ∉ t.line.toList := by
  have hcontract : '\n' ∉ t.contract.toList := t.isIdentifier_contract.isName.not_mem (by decide)
  have hfunction : '\n' ∉ t.function.toList := t.isIdentifier_function.isName.not_mem (by decide)
  have hgas : '\n' ∉ Decimal.digits t.gas := not_mem_digits (by decide)
  have hcolons : '\n' ∉ separator t.doubled := by cases t.doubled <;> decide
  have hbefore : '\n' ∉ beforeGas := by decide
  simp [toList_line, testLine, hcontract, hfunction, hgas, hcolons, hbefore]

theorem dropReturn_line (t : PrintedTest) : dropReturn t.line.toList = t.line.toList := by
  have hparen : ")".toList = [')'] := by decide
  rw [line, String.toList_append, hparen, dropReturn_concat _ (by decide)]

/-- **What a snapshot states** are the costs of 64 bits that are printed in it, in their order. -/
theorem ofSnapshot_snapshot (tests : List PrintedTest) (ended : Bool) :
    ofSnapshot (snapshot tests ended) =
      .ofList ((tests.filter fits).map fun t => (t.key, t.gas)) := by
  have hlines : (lines (snapshot tests ended).toList).filterMap ofSnapshotLine? =
      (tests.map line).filterMap fun x => ofSnapshotLine? x.toList :=
    filterMap_lines_ofLines (by decide) (List.forall_mem_map.2 fun t _ => feed_not_mem_line t)
      (List.forall_mem_map.2 fun t _ => congrArg ofSnapshotLine? (dropReturn_line t)) ended
  have hstated : tests.filterMap (fun t => ofSnapshotLine? t.line.toList) =
      (tests.filter fits).map fun t => (t.key, t.gas) := by
    simp only [ofSnapshotLine?_toList]
    rw [← List.filterMap_filter]
    exact congrFun List.filterMap_eq_map _
  rw [ofSnapshot, hlines, List.filterMap_map]
  exact congrArg Costs.ofList hstated

/-- **Lines with larger costs have no effect on the others.** -/
theorem ofSnapshot_snapshot_filter (tests : List PrintedTest) (ended : Bool) :
    ofSnapshot (snapshot (tests.filter fits) ended) = ofSnapshot (snapshot tests ended) := by
  rw [ofSnapshot_snapshot, ofSnapshot_snapshot, List.filter_filter]
  simp only [Bool.and_self]

/-- **A name has the last cost that is printed for it.** -/
theorem get?_ofSnapshot (tests : List PrintedTest) (ended : Bool) (name : String) :
    (ofSnapshot (snapshot tests ended)).get? name = lastGas? tests name := by
  have hlast : (tests.filter fits).reverse.find? (name == ·.key) =
      (tests.filter fun t => t.fits && t.key = name).getLast? := by
    rw [← List.head?_filter, List.filter_reverse, List.head?_reverse, List.filter_filter]
    congr 2
    funext t
    rw [Bool.and_comm, Bool.beq_comm, Bool.beq_eq_decide_eq]
  rw [ofSnapshot_snapshot, Costs.get?_ofList, ← List.map_reverse, lookup_map_pair, hlast, lastGas?]

/-- **A snapshot reaches the functions that it was printed for.** Of any printed tests: each name has one
cost, the last one of 64 bits that is printed for it, and lines with larger ones might as well be left
out. A function whose name is that of a tested one, up to the case of its letters, has this cost in the
analysis of whatever contract it stands in, or none if there is none of 64 bits. -/
theorem snapshot_reaches_functions (tests : List PrintedTest) (ended : Bool) :
    ((ofSnapshot (snapshot tests ended)).entries.map Prod.fst).Nodup ∧
      (∀ name, (ofSnapshot (snapshot tests ended)).get? name = lastGas? tests name) ∧
      ofSnapshot (snapshot (tests.filter fits) ended) = ofSnapshot (snapshot tests ended) ∧
      ∀ (c : Contract) (file : String) (ranked : List (List Suggestion)) (i : Nat) (f : Function),
        c.functions[i]? = some f → ∀ t ∈ tests, f.name.toLower = t.function.toLower →
          (ContractAnalysis.of c file ranked
              (ofSnapshot (snapshot tests ended))).functions[i]?.map (·.gasUsage) =
            some ((lastGas? tests t.key).getD 0) := by
  refine ⟨Costs.nodup_names_ofList _, get?_ofSnapshot tests ended,
    ofSnapshot_snapshot_filter tests ended, fun c file ranked i f hf t _ hname => ?_⟩
  have hlower : lowerName f.name = t.key :=
    lowerName_of_toLower_eq t.isIdentifier_function.isAscii hname
  show (attach _ c.functions ranked)[i]?.map (·.gasUsage) = _
  rw [getElem?_attach, hf, Option.map_some, Option.map_some]
  show some ((ofSnapshot (snapshot tests ended)).ofFunction f.name) = _
  rw [Costs.ofFunction, hlower, get?_ofSnapshot]

/-- A test of a transfer. -/
def transferTest : PrintedTest :=
  ⟨"TokenTest", "transfer", 51234, false, by decide +kernel, by decide +kernel⟩

/-- A test of a function whose name starts with an underscore, as older versions print it. -/
def mintTest : PrintedTest :=
  ⟨"TokenTest", "_mint", 70011, true, by decide +kernel, by decide +kernel⟩

/-- Tests of two functions; the transfer is tested again, once under another case of its name and once
at a cost that is too large. -/
def tokenTests : List PrintedTest :=
  [transferTest, mintTest, { transferTest with gas := 2 ^ 64 },
   ⟨"TokenTest", "TRANSFER", 46120, false, by decide +kernel, by decide +kernel⟩,
   { transferTest with gas := 2 ^ 64 }]

/-- A function without parameters. -/
def plainFunction (name : String) : Function :=
  ⟨name, .public, .nonpayable, [], none, [], [], "function f() public \x7b\x7d", 1, 1⟩

/-- A contract with the two functions. -/
def token : Contract where
  name := "Token"
  functions := [plainFunction "_Mint", plainFunction "transfer"]
  stateVariables := []
  totalLines := 1

/-- The cost of the one function is found behind its underscore; that of the other one is the last one
of 64 bits, whatever the case of the name it was printed for. -/
theorem snapshot_reaches_functions_of_token :
    snapshot tokenTests true =
      "TokenTest:test_transfer() (gas: 51234)\nTokenTest::test__mint() (gas: 70011)\n" ++
      "TokenTest:test_transfer() (gas: 18446744073709551616)\n" ++
      "TokenTest:test_TRANSFER() (gas: 46120)\n" ++
      "TokenTest:test_transfer() (gas: 18446744073709551616)\n" ∧
    (ContractAnalysis.of token "Token.sol" []
        (ofSnapshot (snapshot tokenTests true))).functions[0]?.map (·.gasUsage) = some 70011 ∧
    (ContractAnalysis.of token "Token.sol" []
        (ofSnapshot (snapshot tokenTests true))).functions[1]?.map (·.gasUsage) = some 46120 := by
  obtain ⟨-, -, -, hreaches⟩ := snapshot_reaches_functions tokenTests true
  have hkey : key = fun t => String.ofList (t.function.toList.map Char.toLower) :=
    funext fun t => String.map_eq_internal
  have hmint : (lastGas? tokenTests mintTest.key).getD 0 = 70011 := by
    simp only [lastGas?, hkey]
    decide +kernel
  have htransfer : (lastGas? tokenTests transferTest.key).getD 0 = 46120 := by
    simp only [lastGas?, hkey]
    decide +kernel
  have hmintMem : mintTest ∈ tokenTests := by simp [tokenTests]
  have htransferMem : transferTest ∈ tokenTests := by simp [tokenTests]
  have hmintName : (plainFunction "_Mint").name.toLower = mintTest.function.toLower := by
    rw [String.toLower, String.toLower, String.map_eq_internal, String.map_eq_internal]
    decide +kernel
  have hmints := hreaches token "Token.sol" [] 0 (plainFunction "_Mint") rfl mintTest hmintMem
    hmintName
  have htransfers := hreaches token "Token.sol" [] 1 (plainFunction "transfer") rfl transferTest
    htransferMem rfl
  rw [hmint] at hmints
  rw [htransfer] at htransfers
  exact ⟨by decide +kernel, hmints, htransfers⟩

end PrintedTest

end GasAdvisor
