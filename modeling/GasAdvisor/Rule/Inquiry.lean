import GasAdvisor.Rule.Findings

/-!
# Inquiries

An inquiry asks the rules about one function, group by group, and puts each suggestion at the end of
those made so far. The settings are consulted when a suggestion is made (`Inquiry.push`), not when a
question is asked. Within a group one answer may decide which suggestion is made, or end the group:

* of the two rules on writes, their number chooses one;
* without a loop none of the rules on loops is asked;
* a function that declares its mutability, or changes the state, is not asked about it.
-/

namespace GasAdvisor

open Text

/-- An inquiry about a function, with the suggestions made so far. -/
structure Inquiry where
  settings : RuleSettings
  subject : Subject
  made : List Suggestion

namespace Inquiry

/-- An inquiry that has made no suggestion yet. -/
def start (settings : RuleSettings) (f : Function) : Inquiry :=
  ⟨settings, Subject.of f, []⟩

/-- An inquiry that makes the suggestion of a rule, unless the rule is switched off. -/
def push (rule : Rule) (q : Inquiry) : Inquiry :=
  if q.settings.isDisabled rule.id then q
  else { q with made := q.made ++ [rule.suggestion q.settings q.subject] }

/-- An inquiry that makes the suggestion of a rule if the answer to its question is yes. -/
def pushIf (answer : Bool) (rule : Rule) (q : Inquiry) : Inquiry :=
  if answer then q.push rule else q

/-- On writes to storage. -/
def askWrites (q : Inquiry) : Inquiry :=
  let s := q.subject
  match s.function.pattern? .storageWrite with
  | none => q
  | some _ => if Rule.fewWrites < s.writes then q.push .batchWrites else q.push .singleWrite

/-- On the use of storage. -/
def askStorage (q : Inquiry) : Inquiry :=
  let s := q.subject
  q |>.askWrites
    |>.pushIf (2 < s.reads) .cacheReads
    |>.pushIf (s.has "struct" && s.has "uint256") .structPacking
    |>.pushIf (Evidence.defaultInit.occurs s.code) .defaultInit

/-- On loops. -/
def askLoops (q : Inquiry) : Inquiry :=
  let s := q.subject
  if !s.function.hasPattern .loop then q
  else
    q |>.push .generalLoop
      |>.pushIf (s.has ".length" && (s.has "for" || s.has "while")) .cacheLength
      |>.pushIf (s.has "++" || s.has "i + 1") .uncheckedIncrement
      |>.pushIf (Evidence.nestedLoop.occurs s.code) .nestedLoop

/-- On the visibility. -/
def askVisibility (q : Inquiry) : Inquiry :=
  let s := q.subject
  let called := Evidence.isCalledInternally s.code s.function.name.toList
  q |>.pushIf (s.function.visibility = .public && !called) .external
    |>.pushIf (s.function.visibility = .external && s.has "memory" && !s.has "calldata") .calldata

/-- On the mutability. -/
def askMutability (q : Inquiry) : Inquiry :=
  let s := q.subject
  if s.function.mutability ≠ .nonpayable || Evidence.changesState s.code ||
      s.function.hasPattern .storageWrite then q
  else q.push .viewOrPure

/-- On expensive operations. -/
def askOperations (q : Inquiry) : Inquiry :=
  let s := q.subject
  q |>.pushIf (s.has "/" && !s.has "//") .division
    |>.pushIf (s.has "%") .modulo
    |>.pushIf (s.has "string" && (s.has "concat" || s.has "+")) .concat
    |>.pushIf (s.has ".push(" || s.has ".pop()") .dynamicArray

/-- On variables. -/
def askVariables (q : Inquiry) : Inquiry :=
  let s := q.subject
  q |>.pushIf (s.has "uint256" && s.has "< 256") .smallUint
    |>.pushIf (Evidence.hasReusedLiteral s.code && !s.has "constant") .unchangingConstant
    |>.pushIf (s.has "uint256 i = 0") .loopCounterInit

/-- On the flow of control. -/
def askControlFlow (q : Inquiry) : Inquiry :=
  let s := q.subject
  q |>.pushIf (2 < s.requires) .requireCount
    |>.pushIf (s.has "&&" || s.has "||") .shortCircuit
    |>.pushIf (3 < s.elseIfs) .ifChain

/-- On calls, events and what else the text of a function may show. -/
def askAdvanced (q : Inquiry) : Inquiry :=
  let s := q.subject
  q |>.pushIf ((s.has ".call(" || s.has ".call\x7b") && !s.has "nonReentrant") .reentrancy
    |>.pushIf (s.has "emit" && s.has "string") .stringPayload
    |>.pushIf (mentions "get".toList s.function.name.toList && s.has "return") .getter
    |>.pushIf (s.has "keccak256" || s.has "sha256") .hashing

/-- All groups, in order. -/
def askAll (q : Inquiry) : Inquiry :=
  q |>.askStorage |>.askLoops |>.askVisibility |>.askMutability |>.askOperations |>.askVariables
    |>.askControlFlow |>.askAdvanced

end Inquiry

/-- The suggestions that an inquiry about a function makes. -/
def Rule.inquire (settings : RuleSettings) (f : Function) : List Suggestion :=
  (Inquiry.start settings f).askAll.made

end GasAdvisor
