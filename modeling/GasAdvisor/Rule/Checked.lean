import GasAdvisor.Checked
import GasAdvisor.Contract.Pattern
import GasAdvisor.Rule.Inquiry
import GasAdvisor.Text.Slice

/-!
# Checked estimates

Counts, offsets and estimates are words of 64 bits, and complexities are words of 32 bits. This module
computes them with checked arithmetic: where one of them does not fit, all that depends on it is none.

* `Pattern.detect?` are the patterns of a text, and `Function.complexityOf?` is what they amount to.
* `Rule.inquire?` are the suggestions of an inquiry. Only some groups of rules count anything
  (`Inquiry.askStorage?` and what follows); the others are asked as they are.
-/

namespace GasAdvisor

open Text Checked

/-! ## Patterns -/

namespace Pattern

/-- The evidence of things that were found, each of which costs the same gas, if there are any. -/
def ofFound? {α : Type} (evidence : Nat → Pattern) (gas : Nat) (found : List α) :
    Option (List Pattern) := do
  let count ← count? found
  if 0 < count then
    let estimate ← mul? count gas
    return [{ evidence count with estimatedGas := estimate }]
  else return []

/-- The patterns of a text. -/
def detect? (text : List Char) : Option (List Pattern) := do
  let writes ← ofFound? ofStorageWrites storageWriteGas
    ((hitsByWord assignment.find text).filter fun hit => hit.value.2.head? ≠ some '=')
  let checks ← ofFound? ofValidations validationGas (hits validationCall.find text)
  return (if hasLoop text then [ofLoop] else []) ++ writes ++
    (if hasExternalCall text then [ofExternalCall] else []) ++ checks

end Pattern

/-- The complexity that patterns amount to. -/
def Function.complexityOf? (patterns : List Pattern) : Option Nat := do
  let number ← fit? 32 patterns.length
  let double ← fit? 32 (2 * number)
  fit? 32 (1 + double)

/-! ## Evidence -/

namespace Evidence

/-- Whether a text has the name followed by a parenthesis more than once. -/
def isCalledInternally? (code name : List Char) : Option Bool :=
  if name.isEmpty then some false
  else (count? (hits (callOf name).find code)).map (1 < ·)

/-- Whether the word at an offset stands alone. -/
def isAloneAt? (text word : List Char) (offset : Nat) : Option Bool := do
  let stop ← add? offset (byteSize word)
  let before ← slice? text ⟨0, offset⟩
  let after ← slice? text ⟨stop, byteSize text⟩
  return !before.getLast?.any isSearchWord && !after.head?.any isSearchWord

/-- Whether a word stands alone somewhere in a text. -/
def containsWord? (text word : List Char) : Option Bool :=
  (hits (Shape.literal word).find text).anyM fun hit => isAloneAt? text word (byteOffset text hit.index)

/-- Whether a name is assigned a literal and mentioned again on the rest of the line. -/
def hasReusedLiteral? (code : List Char) : Option Bool :=
  (hits literalAssignmentAt code).anyM fun hit =>
    containsWord? (hit.value.rest.takeWhile (· != '\n')) hit.value.name

end Evidence

/-! ## Inquiries -/

namespace Inquiry

/-- An inquiry that makes the suggestion of a rule with a saving that was computed, unless the rule is
switched off. -/
def make (rule : Rule) (saving : Nat) (q : Inquiry) : Inquiry :=
  if q.settings.isDisabled rule.id then q
  else { q with made :=
    q.made ++ [{ rule.suggestion q.settings q.subject with estimatedSaving := saving }] }

/-- On writes to storage. -/
def askWrites? (q : Inquiry) : Option Inquiry :=
  match q.subject.function.pattern? .storageWrite with
  | none => some q
  | some pattern => do
    let writes ← count? (hitsByWord Evidence.assignment.find q.subject.code)
    if Rule.fewWrites < writes then
      let saving ← mul? writes 5000
      return q.make .batchWrites saving
    else
      let saving ← mul? pattern.occurrences 2900
      return q.make .singleWrite saving

/-- On accesses by an index. -/
def askReads? (q : Inquiry) : Option Inquiry := do
  let reads ← count? (hitsByWord Evidence.indexedAccess.find q.subject.code)
  if 2 < reads then
    let others ← sub? reads 1
    let saving ← mul? others 2100
    return q.make .cacheReads saving
  else return q

/-- On the use of storage. -/
def askStorage? (q : Inquiry) : Option Inquiry := do
  let s := q.subject
  let q ← q.askWrites?
  let q ← q.askReads?
  return q |>.pushIf (s.has "struct" && s.has "uint256") .structPacking
    |>.pushIf (Evidence.defaultInit.occurs s.code) .defaultInit

/-- On the visibility. -/
def askVisibility? (q : Inquiry) : Option Inquiry := do
  let s := q.subject
  let called ← Evidence.isCalledInternally? s.code s.function.name.toList
  return q |>.pushIf (s.function.visibility = .public && !called) .external
    |>.pushIf (s.function.visibility = .external && s.has "memory" && !s.has "calldata") .calldata

/-- On variables. -/
def askVariables? (q : Inquiry) : Option Inquiry := do
  let s := q.subject
  let reused ← Evidence.hasReusedLiteral? s.code
  return q |>.pushIf (s.has "uint256" && s.has "< 256") .smallUint
    |>.pushIf (reused && !s.has "constant") .unchangingConstant
    |>.pushIf (s.has "uint256 i = 0") .loopCounterInit

/-- On calls of `require`. -/
def askRequires? (q : Inquiry) : Option Inquiry := do
  let requires ← count? (hits Evidence.requireCall.find q.subject.code)
  if 2 < requires then
    let saving ← mul? requires 1000
    return q.make .requireCount saving
  else return q

/-- On the flow of control. -/
def askControlFlow? (q : Inquiry) : Option Inquiry := do
  let s := q.subject
  let q ← q.askRequires?
  let elseIfs ← count? (hits Evidence.elseIf.find s.code)
  return q |>.pushIf (s.has "&&" || s.has "||") .shortCircuit
    |>.pushIf (3 < elseIfs) .ifChain

end Inquiry

/-- The suggestions that an inquiry about a function makes. -/
def Rule.inquire? (settings : RuleSettings) (f : Function) : Option (List Suggestion) := do
  let q ← (Inquiry.start settings f).askStorage?
  let q ← q.askLoops.askVisibility?
  let q ← q.askMutability.askOperations.askVariables?
  let q ← q.askControlFlow?
  return q.askAdvanced.made

end GasAdvisor
