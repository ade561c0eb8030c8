import Mathlib.Data.List.Nodup

/-!
# Tables

A table is a list of pairs in which each name stands at most once; what it holds under a name is found
by `List.lookup`. To put something into a table is to take out what stands under the name and to add the
pair, so the names stay distinct and only the one name is looked up differently
(`lookup_filter_ne`).
-/

namespace GasAdvisor

variable {α β : Type} {entries : List (α × β)} {a : α} {b : β}

theorem lookup_filter_ne [BEq α] [LawfulBEq α] [DecidableEq α] (entries : List (α × β))
    (a other : α) :
    (entries.filter (·.1 ≠ a)).lookup other = if other = a then none else entries.lookup other := by
  induction entries with
  | nil => simp
  | cons entry entries ih =>
    obtain ⟨here, b⟩ := entry
    rw [List.filter_cons]
    by_cases hhere : here = a
    · rw [if_neg (by simpa using hhere), ih, List.lookup_cons, hhere]
      by_cases hother : other = a
      · rw [if_pos hother, if_pos hother]
      · rw [if_neg hother, if_neg hother, beq_false_of_ne hother]
    · rw [if_pos (by simpa using hhere), List.lookup_cons, List.lookup_cons, ih]
      by_cases hother : other = a
      · rw [if_pos hother, if_pos hother, hother, beq_false_of_ne (Ne.symm hhere)]
      · rw [if_neg hother, if_neg hother]

/-- What is looked up in pairs made of items is told from the first item with the name. -/
theorem lookup_map_pair {γ : Type} [BEq α] [LawfulBEq α] (items : List γ) (name : γ → α)
    (value : γ → β) (a : α) :
    (items.map fun x => (name x, value x)).lookup a = (items.find? (a == name ·)).map value := by
  induction items with
  | nil => rfl
  | cons x items ih =>
    rw [List.map_cons, List.lookup_cons, List.find?_cons, ih]
    cases a == name x <;> rfl

/-- What is looked up in pairs made of some of the items is told from the first item that has the name
and a value. -/
theorem lookup_filterMap_pair {γ : Type} [DecidableEq α] (items : List γ) (name : γ → α)
    (value? : γ → Option β) (a : α) :
    (items.filterMap fun x => (value? x).map (name x, ·)).lookup a =
      items.findSome? fun x => if name x = a then value? x else none := by
  induction items with
  | nil => rfl
  | cons x items ih =>
    rw [List.filterMap_cons, List.findSome?_cons]
    cases value? x with
    | none => rw [ite_self]; exact ih
    | some b =>
      show ((name x, b) :: _).lookup a = _
      rw [List.lookup_cons, ih]
      by_cases hname : name x = a
      · rw [if_pos hname, hname, beq_self_eq_true]
      · rw [if_neg hname, beq_false_of_ne (Ne.symm hname)]

theorem mem_of_lookup_eq_some [BEq α] [LawfulBEq α] (h : entries.lookup a = some b) :
    (a, b) ∈ entries := by
  obtain ⟨before, after, rfl, -⟩ := List.lookup_eq_some_iff.1 h
  simp

/-- **In a table every pair is found under its name.** -/
theorem mem_iff_lookup_eq_some [BEq α] [LawfulBEq α] (h : (entries.map Prod.fst).Nodup) :
    (a, b) ∈ entries ↔ entries.lookup a = some b := by
  refine ⟨fun hmem => ?_, mem_of_lookup_eq_some⟩
  induction entries with
  | nil => cases hmem
  | cons entry entries ih =>
    obtain ⟨here, held⟩ := entry
    rw [List.map_cons, List.nodup_cons] at h
    rcases List.mem_cons.1 hmem with heq | hmem
    · cases heq
      exact List.lookup_cons_self
    · have hne : a ≠ here := fun heq => h.1 (List.mem_map.2 ⟨_, hmem, heq⟩)
      rw [List.lookup_cons, beq_false_of_ne hne]
      exact ih h.2 hmem

theorem nodup_names_filter (h : (entries.map Prod.fst).Nodup) (p : α × β → Bool) :
    ((entries.filter p).map Prod.fst).Nodup :=
  h.sublist (List.filter_sublist.map _)

theorem not_mem_names_filter_ne [DecidableEq α] (entries : List (α × β)) (a : α) :
    a ∉ (entries.filter (·.1 ≠ a)).map Prod.fst := by
  simp

end GasAdvisor
