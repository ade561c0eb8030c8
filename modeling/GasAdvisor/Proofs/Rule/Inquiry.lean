import GasAdvisor.Rule.Inquiry

/-!
# What an inquiry comes to

Every rule is asked once, in order, whatever the answers to other rules and whatever the settings: where
a group passes a rule over, the rule would not have applied (`Inquiry.asks_askStorage` and what
follows). So an inquiry makes the suggestions of the rules that are switched on and apply
(`Rule.inquire_eq_findings`).
-/

namespace GasAdvisor

theorem Function.hasPattern_eq_isSome (f : Function) (kind : PatternKind) :
    f.hasPattern kind = (f.pattern? kind).isSome := by
  rw [hasPattern, pattern?, Bool.eq_iff_iff, List.find?_isSome, List.any_eq_true]

namespace Inquiry

variable {q q' q'' : Inquiry} {rule : Rule} {rules rules' : List Rule} {answer : Bool}

/-- An inquiry goes on with `rules`: it stays with the same function and settings, and makes the
suggestions of those of the rules that are switched on and apply. -/
structure Asks (q q' : Inquiry) (rules : List Rule) : Prop where
  settings : q'.settings = q.settings
  subject : q'.subject = q.subject
  made : q'.made = q.made ++
    (rules.filter fun rule => !q.settings.isDisabled rule.id && rule.applies q.subject).map
      (Rule.suggestion q.settings q.subject)

/-! ## Steps -/

/-- Rules that do not apply need not be asked. -/
theorem asks_of_not_applies (h : ∀ rule ∈ rules, rule.applies q.subject = false) :
    Asks q q rules := by
  refine ⟨rfl, rfl, ?_⟩
  have hnone : (rules.filter fun rule =>
      !q.settings.isDisabled rule.id && rule.applies q.subject) = [] := by
    refine List.filter_eq_nil_iff.2 fun rule hrule => ?_
    rw [h rule hrule, Bool.and_false]
    exact Bool.false_ne_true
  rw [hnone, List.map_nil, List.append_nil]

/-- A rule that applies makes its suggestion, unless it is switched off. -/
theorem asks_push (h : rule.applies q.subject = true) : Asks q (q.push rule) [rule] := by
  unfold push
  split
  · next hoff => exact ⟨rfl, rfl, by simp [hoff]⟩
  · next hon => exact ⟨rfl, rfl, by simp [hon, h]⟩

theorem asks_pushIf (rule : Rule) (h : rule.applies q.subject = answer) :
    Asks q (q.pushIf answer rule) [rule] := by
  cases answer with
  | false => exact asks_of_not_applies fun other hother => by rw [List.mem_singleton.1 hother, h]
  | true => exact asks_push h

theorem Asks.trans (h : Asks q q' rules) (h' : Asks q' q'' rules') :
    Asks q q'' (rules ++ rules') := by
  refine ⟨h'.settings.trans h.settings, h'.subject.trans h.subject, ?_⟩
  rw [h'.made, h.made, h.settings, h.subject, List.filter_append, List.map_append,
    List.append_assoc]

/-- One more rule is asked. -/
theorem Asks.pushIf (h : Asks q q' rules) (rule : Rule)
    (hanswer : rule.applies q.subject = answer) :
    Asks q (q'.pushIf answer rule) (rules ++ [rule]) :=
  h.trans (asks_pushIf rule (h.subject ▸ hanswer))

/-! ## Groups -/

/-- The number of writes chooses one of the two rules on them, and the other does not apply. -/
theorem asks_askWrites (q : Inquiry) : Asks q q.askWrites [.batchWrites, .singleWrite] := by
  have hask := (asks_pushIf (q := q) .batchWrites rfl).pushIf .singleWrite rfl
  simp only [Rule.applies, Function.hasPattern_eq_isSome] at hask
  cases hpattern : q.subject.function.pattern? .storageWrite with
  | none =>
    have hskip : q.askWrites = q := by rw [askWrites, hpattern]
    rw [hpattern] at hask
    rwa [hskip]
  | some pattern =>
    have hchoose : q.askWrites =
        if Rule.fewWrites < q.subject.writes then q.push .batchWrites else q.push .singleWrite := by
      rw [askWrites, hpattern]
    rw [hpattern] at hask
    rw [hchoose]
    by_cases hmany : Rule.fewWrites < q.subject.writes
    · simpa [pushIf, hmany, Nat.not_le.2 hmany] using hask
    · simpa [pushIf, hmany, Nat.not_lt.1 hmany] using hask

theorem asks_askStorage (q : Inquiry) :
    Asks q q.askStorage
      [.batchWrites, .singleWrite, .cacheReads, .structPacking, .defaultInit] :=
  (((asks_askWrites q).pushIf .cacheReads rfl).pushIf .structPacking rfl).pushIf .defaultInit rfl

/-- Without a loop no rule on loops applies. -/
theorem asks_askLoops (q : Inquiry) :
    Asks q q.askLoops [.generalLoop, .cacheLength, .uncheckedIncrement, .nestedLoop] := by
  cases hloop : q.subject.function.hasPattern .loop with
  | false =>
    have hskip : q.askLoops = q := by rw [askLoops, hloop]; rfl
    rw [hskip]
    refine asks_of_not_applies fun rule hrule => ?_
    simp only [List.mem_cons, List.not_mem_nil, or_false] at hrule
    rcases hrule with rfl | rfl | rfl | rfl <;> simp [Rule.applies, hloop]
  | true =>
    have hgeneral : Asks q (q.push .generalLoop) [.generalLoop] := asks_push hloop
    have hask := ((hgeneral.pushIf .cacheLength rfl).pushIf .uncheckedIncrement rfl).pushIf
      .nestedLoop rfl
    simp only [Rule.applies, hloop, Bool.true_and] at hask
    rw [askLoops, hloop]
    exact hask

theorem asks_askVisibility (q : Inquiry) :
    Asks q q.askVisibility [.external, .calldata] :=
  (asks_pushIf .external rfl).pushIf .calldata rfl

/-- To a function that is not asked about its mutability the rule does not apply. -/
theorem asks_askMutability (q : Inquiry) : Asks q q.askMutability [.viewOrPure] := by
  have hanswer : Rule.applies q.subject .viewOrPure =
      !(q.subject.function.mutability ≠ .nonpayable || Evidence.changesState q.subject.code ||
        q.subject.function.hasPattern .storageWrite) := by
    rw [Rule.applies, Bool.not_or, Bool.not_or, decide_not, Bool.not_not]
  have hask := asks_pushIf .viewOrPure hanswer
  cases hguard : (decide (q.subject.function.mutability ≠ .nonpayable) ||
      Evidence.changesState q.subject.code || q.subject.function.hasPattern .storageWrite) with
  | true =>
    have hskip : q.askMutability = q := if_pos hguard
    rw [hguard] at hask
    rwa [hskip]
  | false =>
    have hpush : q.askMutability = q.push .viewOrPure := if_neg (Bool.eq_false_iff.1 hguard)
    rw [hguard] at hask
    rwa [hpush]

theorem asks_askOperations (q : Inquiry) :
    Asks q q.askOperations [.division, .modulo, .concat, .dynamicArray] :=
  (((asks_pushIf .division rfl).pushIf .modulo rfl).pushIf .concat rfl).pushIf .dynamicArray rfl

theorem asks_askVariables (q : Inquiry) :
    Asks q q.askVariables [.smallUint, .unchangingConstant, .loopCounterInit] :=
  ((asks_pushIf .smallUint rfl).pushIf .unchangingConstant rfl).pushIf .loopCounterInit rfl

theorem asks_askControlFlow (q : Inquiry) :
    Asks q q.askControlFlow [.requireCount, .shortCircuit, .ifChain] :=
  ((asks_pushIf .requireCount rfl).pushIf .shortCircuit rfl).pushIf .ifChain rfl

theorem asks_askAdvanced (q : Inquiry) :
    Asks q q.askAdvanced [.reentrancy, .stringPayload, .getter, .hashing] :=
  (((asks_pushIf .reentrancy rfl).pushIf .stringPayload rfl).pushIf .getter rfl).pushIf .hashing rfl

/-- **All rules are asked, in order.** -/
theorem asks_askAll (q : Inquiry) : Asks q q.askAll Rule.all :=
  (asks_askStorage q).trans <| (asks_askLoops _).trans <| (asks_askVisibility _).trans <|
    (asks_askMutability _).trans <| (asks_askOperations _).trans <|
      (asks_askVariables _).trans <| (asks_askControlFlow _).trans <| asks_askAdvanced _

end Inquiry

/-- **An inquiry makes the suggestions of the rules that are switched on and apply.** -/
theorem Rule.inquire_eq_findings (settings : RuleSettings) (f : Function) :
    inquire settings f = findings settings f :=
  (Inquiry.asks_askAll (Inquiry.start settings f)).made

end GasAdvisor
