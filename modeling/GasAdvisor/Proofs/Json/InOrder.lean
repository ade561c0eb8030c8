import GasAdvisor.Json.Basic
import GasAdvisor.Proofs.Lookup

/-!
# Members in order

The members of an object in ascending order of their names, of several with one name the last one
(`Json.inOrder`). They are the members that the object is known by (`Json.mem_inOrder_iff`), and members
that stand in order already are left as they are (`Json.inOrder_object`). A normalized value has its
members in this order (`Json.normalize_object`), and what it holds under a name is what the value holds,
normalized (`Json.get?_normalize`).
-/

namespace GasAdvisor.Json

/-- The members of an object in ascending order of their names, of several with one name the last one;
none for any other value. -/
def inOrder : Json → List (String × Json)
  | .object ms => ms.foldr (fun m sorted => insertMember m.1 m.2 sorted) []
  | _ => []

/-- Members whose names ascend. -/
def Ascending (ms : List (String × Json)) : Prop :=
  ms.Pairwise fun m m' => m.1 < m'.1

variable {name : String} {value : Json} {ms : List (String × Json)}

/-! ## Putting a member in its place -/

/-- **A member is put in its place unless its name is there.** -/
theorem mem_insertMember_iff (h : Ascending ms) {m : String × Json} :
    m ∈ insertMember name value ms ↔ m ∈ ms ∨ m = (name, value) ∧ ∀ held, (name, held) ∉ ms := by
  induction ms with
  | nil => simp [insertMember]
  | cons first ms ih =>
    obtain ⟨other, held⟩ := first
    obtain ⟨hfirst, hrest⟩ := List.pairwise_cons.1 h
    rw [insertMember]
    split
    · next hlt =>
      have hnew (held' : Json) : (name, held') ∉ (other, held) :: ms := by
        intro hmem
        rcases List.mem_cons.1 hmem with heq | hmem
        · exact String.lt_irrefl other ((Prod.mk.inj heq).1 ▸ hlt)
        · exact String.lt_irrefl name (String.lt_trans hlt (hfirst _ hmem))
      rw [List.mem_cons, or_comm, and_iff_left hnew]
    · split
      · next heq =>
        refine (or_iff_left fun hnew => hnew.2 held ?_).symm
        rw [heq]
        exact List.mem_cons_self
      · next hne =>
        have hother (held' : Json) : (name, held') ∉ (other, held) :: ms ↔ (name, held') ∉ ms := by
          rw [List.mem_cons, not_or, and_iff_right fun heq => hne (Prod.mk.inj heq).1]
        rw [List.mem_cons, ih hrest, List.mem_cons, or_assoc]
        simp only [hother]

theorem ascending_insertMember (h : Ascending ms) (name : String) (value : Json) :
    Ascending (insertMember name value ms) := by
  induction ms with
  | nil => exact List.pairwise_singleton _ _
  | cons first ms ih =>
    obtain ⟨other, held⟩ := first
    obtain ⟨hfirst, hrest⟩ := List.pairwise_cons.1 h
    rw [insertMember]
    split
    · next hlt =>
      refine List.pairwise_cons.2 ⟨fun m hm => ?_, h⟩
      rcases List.mem_cons.1 hm with rfl | hm
      · exact hlt
      · exact String.lt_trans hlt (hfirst m hm)
    · next hle =>
      split
      · exact h
      · next hne =>
        refine List.pairwise_cons.2 ⟨fun m hm => ?_, ih hrest⟩
        rcases (mem_insertMember_iff hrest).1 hm with hm | ⟨rfl, -⟩
        · exact hfirst m hm
        · exact Std.lt_of_le_of_ne (String.not_lt.1 hle) (Ne.symm hne)

/-- A member before all others is put at the front. -/
theorem insertMember_of_ascending (h : Ascending ((name, value) :: ms)) :
    insertMember name value ms = (name, value) :: ms := by
  cases ms with
  | nil => rfl
  | cons first ms => exact if_pos ((List.pairwise_cons.1 h).1 first List.mem_cons_self)

/-- Members are put in their places whatever their values. -/
theorem insertMember_map (f : Json → Json) (name : String) (value : Json)
    (ms : List (String × Json)) :
    insertMember name (f value) (ms.map fun m => (m.1, f m.2)) =
      (insertMember name value ms).map fun m => (m.1, f m.2) := by
  induction ms with
  | nil => rfl
  | cons first ms ih =>
    rw [List.map_cons, insertMember, insertMember]
    split
    · rfl
    · split
      · rfl
      · rw [ih, List.map_cons]

/-! ## The members of an object -/

theorem ascending_inOrder (value : Json) : Ascending value.inOrder := by
  cases value with
  | object ms =>
    induction ms with
    | nil => exact List.Pairwise.nil
    | cons m ms ih => exact ascending_insertMember ih m.1 m.2
  | null | bool _ | integer _ | double _ | string _ | array _ => exact List.Pairwise.nil

theorem lookup_cons (name : String) (m : String × Json) (ms : List (String × Json)) :
    lookup name (m :: ms) = (lookup name ms).or (if m.1 = name then some m.2 else none) := by
  rw [lookup, lookup, List.reverse_cons, List.find?_append, List.find?_singleton]
  cases ms.reverse.find? (·.1 = name) with
  | some found => rfl
  | none => by_cases hm : m.1 = name <;> simp [hm]

/-- **The members in order are those that an object is known by.** -/
theorem mem_inOrder_iff {value held : Json} :
    (name, held) ∈ value.inOrder ↔ value.get? name = some held := by
  cases value with
  | object ms =>
    show (name, held) ∈ inOrder (.object ms) ↔ lookup name ms = some held
    induction ms generalizing name held with
    | nil => simp [inOrder, lookup]
    | cons m ms ih =>
      have hplace : (name, held) ∈ inOrder (.object (m :: ms)) ↔
          (name, held) ∈ inOrder (.object ms) ∨
            (name, held) = m ∧ ∀ held', (m.1, held') ∉ inOrder (.object ms) :=
        mem_insertMember_iff (ascending_inOrder (.object ms))
      have hnew (other : String) :
          (∀ held', (other, held') ∉ inOrder (.object ms)) ↔ lookup other ms = none := by
        rw [Option.eq_none_iff_forall_ne_some]
        exact forall_congr' fun held' => not_congr ih
      rw [hplace, ih, lookup_cons, Option.or_eq_some_iff, hnew]
      refine or_congr_right ⟨?_, fun ⟨hnone, hm⟩ => ?_⟩
      · rintro ⟨rfl, hnone⟩
        exact ⟨hnone, if_pos rfl⟩
      · split at hm
        · next hname =>
          obtain rfl := hname
          obtain rfl := Option.some.inj hm
          exact ⟨rfl, hnone⟩
        · cases hm
  | null | bool _ | integer _ | double _ | string _ | array _ =>
    simp [inOrder, get?]

/-- **Members that stand in order are left as they are.** -/
theorem inOrder_object (h : Ascending ms) : inOrder (.object ms) = ms := by
  induction ms with
  | nil => rfl
  | cons m ms ih =>
    show insertMember m.1 m.2 (inOrder (.object ms)) = m :: ms
    rw [ih (List.pairwise_cons.1 h).2]
    exact insertMember_of_ascending h

theorem Ascending.map (h : Ascending ms) (f : String × Json → Json) :
    Ascending (ms.map fun m => (m.1, f m)) :=
  List.pairwise_map.2 h

theorem Ascending.filter (h : Ascending ms) (p : String × Json → Bool) : Ascending (ms.filter p) :=
  List.Pairwise.filter p h

/-! ## Normalized values -/

/-- **A normalized object has its members in order**, each normalized. -/
theorem normalize_object (ms : List (String × Json)) :
    normalize (.object ms) = .object ((inOrder (.object ms)).map fun m => (m.1, m.2.normalize)) := by
  rw [normalize]
  congr 1
  induction ms with
  | nil => rfl
  | cons m ms ih =>
    rw [normalizeMembers, ih]
    exact insertMember_map normalize m.1 m.2 _

/-- **What a normalized value holds under a name** is what the value holds, normalized. -/
theorem get?_normalize (name : String) (value : Json) :
    value.normalize.get? name = (value.get? name).map normalize := by
  cases value with
  | object ms =>
    have hsorted : Ascending ((inOrder (.object ms)).map fun m => (m.1, m.2.normalize)) :=
      (ascending_inOrder (.object ms)).map fun m => m.2.normalize
    ext held
    rw [normalize_object, ← mem_inOrder_iff, inOrder_object hsorted, List.mem_map,
      Option.map_eq_some_iff]
    constructor
    · rintro ⟨⟨name', value⟩, hmem, heq⟩
      obtain ⟨rfl, rfl⟩ := Prod.mk.inj heq
      exact ⟨value, mem_inOrder_iff.1 hmem, rfl⟩
    · rintro ⟨value, hvalue, rfl⟩
      exact ⟨(name, value), mem_inOrder_iff.2 hvalue, rfl⟩
  | null | bool _ | integer _ | double _ | string _ | array _ => rfl

end GasAdvisor.Json
