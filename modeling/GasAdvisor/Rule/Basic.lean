import GasAdvisor.Contract.Basic
import GasAdvisor.Rule.Evidence
import GasAdvisor.Suggestion.Basic

/-!
# Rules

Each rule is a question about one function and a suggestion to make if the answer is yes. A rule has
a fixed subject, confidence and impact; its message and its estimated saving may depend on the
function. Rules do not see each other's answers: where two rules exclude each other, their questions
do.
-/

namespace GasAdvisor

open Text

/-- The rules, in the order in which they are asked. -/
inductive Rule where
  | batchWrites
  | singleWrite
  | cacheReads
  | structPacking
  | defaultInit
  | generalLoop
  | cacheLength
  | uncheckedIncrement
  | nestedLoop
  | external
  | calldata
  | viewOrPure
  | division
  | modulo
  | concat
  | dynamicArray
  | smallUint
  | unchangingConstant
  | loopCounterInit
  | requireCount
  | shortCircuit
  | ifChain
  | reentrancy
  | stringPayload
  | getter
  | hashing
  deriving DecidableEq, Repr

namespace Rule

/-- All rules, in order. -/
def all : List Rule :=
  [.batchWrites, .singleWrite, .cacheReads, .structPacking, .defaultInit, .generalLoop,
   .cacheLength, .uncheckedIncrement, .nestedLoop, .external, .calldata, .viewOrPure, .division,
   .modulo, .concat, .dynamicArray, .smallUint, .unchangingConstant, .loopCounterInit,
   .requireCount, .shortCircuit, .ifChain, .reentrancy, .stringPayload, .getter, .hashing]

/-- The identifier of a rule. -/
def id : Rule → String
  | .batchWrites => "storage.batch_writes"
  | .singleWrite => "storage.single_write"
  | .cacheReads => "storage.cache_reads"
  | .structPacking => "storage.struct_packing"
  | .defaultInit => "storage.default_init"
  | .generalLoop => "loop.general"
  | .cacheLength => "loop.cache_length"
  | .uncheckedIncrement => "loop.unchecked_increment"
  | .nestedLoop => "loop.nested"
  | .external => "visibility.external"
  | .calldata => "visibility.calldata"
  | .viewOrPure => "mutability.view_or_pure"
  | .division => "arithmetic.division"
  | .modulo => "arithmetic.modulo"
  | .concat => "string.concat"
  | .dynamicArray => "array.dynamic"
  | .smallUint => "types.small_uint"
  | .unchangingConstant => "constants.unchanging"
  | .loopCounterInit => "variables.loop_counter_init"
  | .requireCount => "control_flow.require_count"
  | .shortCircuit => "control_flow.short_circuit"
  | .ifChain => "control_flow.if_chain"
  | .reentrancy => "security.reentrancy"
  | .stringPayload => "events.string_payload"
  | .getter => "patterns.getter"
  | .hashing => "assembly.hashing"

/-- The rule with an identifier. -/
def ofId? (id : String) : Option Rule :=
  all.find? (·.id = id)

/-- What the suggestions of a rule are about. -/
def kind : Rule → SuggestionKind
  | .batchWrites | .singleWrite | .cacheReads | .structPacking | .defaultInit => .storage
  | .generalLoop | .cacheLength | .uncheckedIncrement | .nestedLoop => .loop
  | .external | .calldata => .visibility
  | .viewOrPure => .mutability
  | .division | .modulo => .arithmetic
  | .concat => .string
  | .dynamicArray => .array
  | .smallUint => .types
  | .unchangingConstant => .constants
  | .loopCounterInit => .variables
  | .requireCount | .shortCircuit | .ifChain => .controlFlow
  | .reentrancy => .security
  | .stringPayload => .events
  | .getter => .patterns
  | .hashing => .assembly

/-- The confidence of a rule where no other is configured. -/
def confidence : Rule → Float
  | .batchWrites => 0.8
  | .singleWrite => 0.5
  | .cacheReads => 0.7
  | .structPacking => 0.6
  | .defaultInit => 0.9
  | .generalLoop => 0.9
  | .cacheLength => 0.85
  | .uncheckedIncrement => 0.9
  | .nestedLoop => 0.7
  | .external => 0.6
  | .calldata => 0.8
  | .viewOrPure => 0.5
  | .division => 0.6
  | .modulo => 0.6
  | .concat => 0.7
  | .dynamicArray => 0.5
  | .smallUint => 0.4
  | .unchangingConstant => 0.6
  | .loopCounterInit => 0.8
  | .requireCount => 0.7
  | .shortCircuit => 0.5
  | .ifChain => 0.6
  | .reentrancy => 0.8
  | .stringPayload => 0.7
  | .getter => 0.6
  | .hashing => 0.4

/-- How much the suggestions of a rule matter. -/
def impact : Rule → Impact
  | .batchWrites | .structPacking | .nestedLoop | .concat | .reentrancy => .high
  | .singleWrite | .cacheReads | .generalLoop | .cacheLength | .uncheckedIncrement | .calldata
  | .division | .modulo | .dynamicArray | .unchangingConstant | .requireCount | .ifChain
  | .stringPayload | .hashing => .medium
  | .defaultInit | .external | .viewOrPure | .smallUint | .loopCounterInit | .shortCircuit
  | .getter => .low

end Rule

/-- A function under examination, with its text at hand. -/
structure Subject where
  function : Function
  code : List Char

namespace Subject

/-- A function under examination. -/
def of (f : Function) : Subject :=
  ⟨f, f.sourceCode.toList⟩

/-- Whether the text of a function contains a fixed text. -/
def has (s : Subject) (part : String) : Bool :=
  mentions part.toList s.code

/-- The number of assignments. -/
def writes (s : Subject) : Nat :=
  Evidence.assignment.countByWord s.code

/-- The number of accesses by an index. -/
def reads (s : Subject) : Nat :=
  Evidence.indexedAccess.countByWord s.code

/-- The number of calls of `require`. -/
def requires (s : Subject) : Nat :=
  Evidence.requireCall.count s.code

/-- The number of further branches of conditionals. -/
def elseIfs (s : Subject) : Nat :=
  Evidence.elseIf.count s.code

end Subject

namespace Rule

/-- The most that an unsigned number of 64 bits can hold, plus one. -/
def wordSize : Nat := 1 <<< 64

/-- The number of writes from which on batching them is worthwhile. -/
def fewWrites : Nat := 3

/-- The question that a rule asks of a function. -/
def applies (s : Subject) : Rule → Bool
  | .batchWrites => s.function.hasPattern .storageWrite && fewWrites < s.writes
  | .singleWrite => s.function.hasPattern .storageWrite && s.writes ≤ fewWrites
  | .cacheReads => 2 < s.reads
  | .structPacking => s.has "struct" && s.has "uint256"
  | .defaultInit => Evidence.defaultInit.occurs s.code
  | .generalLoop => s.function.hasPattern .loop
  | .cacheLength =>
    s.function.hasPattern .loop && s.has ".length" && (s.has "for" || s.has "while")
  | .uncheckedIncrement => s.function.hasPattern .loop && (s.has "++" || s.has "i + 1")
  | .nestedLoop => s.function.hasPattern .loop && Evidence.nestedLoop.occurs s.code
  | .external =>
    s.function.visibility = .public &&
      !Evidence.isCalledInternally s.code s.function.name.toList
  | .calldata => s.function.visibility = .external && s.has "memory" && !s.has "calldata"
  | .viewOrPure =>
    s.function.mutability = .nonpayable && !Evidence.changesState s.code &&
      !s.function.hasPattern .storageWrite
  | .division => s.has "/" && !s.has "//"
  | .modulo => s.has "%"
  | .concat => s.has "string" && (s.has "concat" || s.has "+")
  | .dynamicArray => s.has ".push(" || s.has ".pop()"
  | .smallUint => s.has "uint256" && s.has "< 256"
  | .unchangingConstant => Evidence.hasReusedLiteral s.code && !s.has "constant"
  | .loopCounterInit => s.has "uint256 i = 0"
  | .requireCount => 2 < s.requires
  | .shortCircuit => s.has "&&" || s.has "||"
  | .ifChain => 3 < s.elseIfs
  | .reentrancy => (s.has ".call(" || s.has ".call\x7b") && !s.has "nonReentrant"
  | .stringPayload => s.has "emit" && s.has "string"
  | .getter => mentions "get".toList s.function.name.toList && s.has "return"
  | .hashing => s.has "keccak256" || s.has "sha256"

/-- What a rule says about a function that it applies to. -/
def message (s : Subject) : Rule → String
  | .batchWrites =>
    "Multiple storage writes detected. Consider batching operations or using memory for intermediate calculations."
  | .singleWrite =>
    "Storage write detected. Skip writes that leave the stored value unchanged and keep intermediate results in memory."
  | .cacheReads =>
    "Multiple storage reads detected. Cache storage values in memory variables."
  | .structPacking =>
    "Consider packing struct variables to use fewer storage slots (uint128 instead of uint256 when possible)."
  | .defaultInit =>
    "Avoid explicit initialization to default values (0, false, \"\") to save gas."
  | .generalLoop =>
    "Loop detected. Consider using unchecked arithmetic for counters and caching array length."
  | .cacheLength =>
    "Cache array length before loop: uint256 len = array.length; for(uint256 i = 0; i < len;)"
  | .uncheckedIncrement =>
    "Use unchecked\x7b++i\x7d for loop increments when overflow is impossible."
  | .nestedLoop =>
    "Nested loops detected. Consider alternative algorithms or breaking into separate functions."
  | .external =>
    "Consider using \"external\" instead of \"public\" if function is only called externally."
  | .calldata =>
    "Use \"calldata\" instead of \"memory\" for external function parameters."
  | .viewOrPure =>
    if Evidence.isReferentiallyPure s.code then
      "Function appears to be pure (no state reading). Consider marking as \"pure\"."
    else "Function appears to be read-only. Consider marking as \"view\"."
  | .division =>
    "Division operations are expensive. Consider using bit shifting for powers of 2."
  | .modulo =>
    "Modulo operations are expensive. Consider using bitwise AND for powers of 2."
  | .concat =>
    "String concatenation is gas-expensive. Consider using bytes or assembly."
  | .dynamicArray =>
    "Dynamic array operations are expensive. Consider using fixed-size arrays when possible."
  | .smallUint =>
    "Consider using uint8 or uint16 for small values to save gas in structs."
  | .unchangingConstant =>
    "Consider marking unchanging values as \"constant\" or \"immutable\"."
  | .loopCounterInit =>
    "Avoid explicit initialization of loop counters to 0 (default value)."
  | .requireCount =>
    "Multiple require statements detected. Consider custom errors and early returns."
  | .shortCircuit =>
    "Optimize boolean operations by placing cheaper conditions first."
  | .ifChain =>
    "Consider using mapping-based lookup instead of long if-else chains."
  | .reentrancy =>
    "External call detected. Consider reentrancy protection and checks-effects-interactions pattern."
  | .stringPayload =>
    "Avoid emitting strings in events. Use indexed parameters and bytes32 when possible."
  | .getter =>
    "Getter functions should be marked as \"view\" and consider using public variables instead."
  | .hashing =>
    "Consider using inline assembly for hash operations to save gas."

/-- The gas that following a rule saves, in 64-bit arithmetic. -/
def saving (s : Subject) : Rule → Nat
  | .batchWrites => s.writes * 5000 % wordSize
  | .singleWrite =>
    ((s.function.pattern? .storageWrite).map (·.occurrences)).getD 0 * 2900 % wordSize
  | .cacheReads => (s.reads - 1) * 2100 % wordSize
  | .structPacking => 20000
  | .defaultInit => 2000
  | .generalLoop => 5000
  | .cacheLength => 3000
  | .uncheckedIncrement => 2500
  | .nestedLoop => 10000
  | .external => 1000
  | .calldata => 3000
  | .viewOrPure => 500
  | .division => 1500
  | .modulo => 1200
  | .concat => 8000
  | .dynamicArray => 4000
  | .smallUint => 1000
  | .unchangingConstant => 2000
  | .loopCounterInit => 500
  | .requireCount => s.requires * 1000 % wordSize
  | .shortCircuit => 500
  | .ifChain => 3000
  | .reentrancy => 0
  | .stringPayload => 5000
  | .getter => 1000
  | .hashing => 2000

end Rule

end GasAdvisor
