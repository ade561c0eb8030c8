import GasAdvisor.Json.Record
import GasAdvisor.Proofs.Json.Text
import Mathlib.Data.List.Nodup

/-!
# Records read back

A value `Survives` being written if the text of its view is legible and its decoder gives it back. That
is shown from the parts of a value up:

* numbers, strings and the like survive by themselves, numbers if they fit their type;
* lists and values that may be absent survive if what they hold does (`Survives.list`,
  `Survives.option`);
* keywords survive if no two values have one name (`survives_keyword`);
* of an object whose members have distinct names, any of the members are found as the fields of their
  names (`objectFields_of_mem`).
-/

namespace GasAdvisor.Json

variable {α : Type} {levels depth : Nat} {encode : α → Json} {decode : Json → Option α}
  {value : α} {members wanted : List (String × Json)}

/-- A value is given back by its decoder, and its view, which nests at most so deep, can be read back
from a text. -/
structure Survives (levels : Nat) (encode : α → Json) (decode : Json → Option α) (value : α) :
    Prop where
  legible : Legible levels (encode value)
  decode_encode : decode (encode value) = some value

/-! ## Fields of an object -/

theorem named_of_mem {name : String} {json : Json} (h : (members.map Prod.fst).Nodup)
    (hmem : (name, json) ∈ members) : Field.named name members = [json] := by
  induction members with
  | nil => cases hmem
  | cons member members ih =>
    rw [List.map_cons, List.nodup_cons] at h
    obtain ⟨hnew, h⟩ := h
    rcases List.mem_cons.1 hmem with rfl | hmem
    · have hnone : members.filter (·.1 = name) = [] := by
        rw [List.filter_eq_nil_iff]
        intro other hother heq
        rw [decide_eq_true_eq] at heq
        exact hnew (List.mem_map.2 ⟨other, hother, heq⟩)
      simp [Field.named, hnone]
    · have hne : member.1 ≠ name := by
        rintro rfl
        exact hnew (List.mem_map.2 ⟨_, hmem, rfl⟩)
      rw [← ih h hmem, Field.named, Field.named, List.filter_cons_of_neg (by simpa using hne)]

theorem ofMembers_of_mem {name : String} {json : Json} (h : (members.map Prod.fst).Nodup)
    (hmem : (name, json) ∈ members) : Field.ofMembers members name = some (.given json) := by
  rw [Field.ofMembers, named_of_mem h hmem]

theorem ofMembers_of_not_mem {name : String} (h : name ∉ members.map Prod.fst) :
    Field.ofMembers members name = some .missing := by
  have hnone : Field.named name members = [] := by
    rw [Field.named, List.map_eq_nil_iff, List.filter_eq_nil_iff]
    intro other hother heq
    rw [decide_eq_true_eq] at heq
    exact h (List.mem_map.2 ⟨other, hother, heq⟩)
  rw [Field.ofMembers, hnone]

/-- A field that is there once is the first member of its name. -/
theorem eq_given_of_ofMembers_cons {name : String} {value : Json}
    {members : List (String × Json)} {field : Field}
    (h : Field.ofMembers ((name, value) :: members) name = some field) : field = .given value := by
  have hnamed : Field.named name ((name, value) :: members) =
      value :: Field.named name members := by
    simp [Field.named]
  rw [Field.ofMembers, hnamed] at h
  cases hrest : Field.named name members with
  | nil =>
    rw [hrest] at h
    exact (Option.some.inj h).symm
  | cons other more =>
    rw [hrest] at h
    cases h

/-- **Members of an object are its fields of their names**, if no name stands there twice. -/
theorem objectFields_of_mem (h : (members.map Prod.fst).Nodup)
    (hwanted : ∀ member ∈ wanted, member ∈ members) :
    objectFields (wanted.map Prod.fst) (.object members) =
      some (wanted.map fun member => .given member.2) := by
  rw [objectFields]
  induction wanted with
  | nil => rfl
  | cons member wanted ih =>
    rw [List.forall_mem_cons] at hwanted
    rw [List.map_cons, List.mapM_cons, ofMembers_of_mem h hwanted.1, ih hwanted.2]
    rfl

/-- A field whose name is not there is missing after the others. -/
theorem objectFields_concat_missing (name : String) (h : (members.map Prod.fst).Nodup)
    (hwanted : ∀ member ∈ wanted, member ∈ members) (hname : name ∉ members.map Prod.fst) :
    objectFields (wanted.map Prod.fst ++ [name]) (.object members) =
      some ((wanted.map fun member => .given member.2) ++ [.missing]) := by
  have hfound := objectFields_of_mem h hwanted
  rw [objectFields] at hfound ⊢
  rw [List.mapM_append, hfound]
  simp [ofMembers_of_not_mem hname]

/-- **The fields of a record are its members**, if its names are distinct. -/
theorem fields_object {names : List String} (hnames : members.map Prod.fst = names)
    (h : names.Nodup) :
    fields names (.object members) = some (members.map fun member => .given member.2) := by
  subst hnames
  exact objectFields_of_mem h fun _ hmember => hmember

@[simp] theorem required_given (json : Json) :
    (Field.given json).required decode = decode json := rfl

@[simp] theorem orDefault_given (standard : α) (json : Json) :
    (Field.given json).orDefault standard decode = decode json := rfl

/-! ## Values of fields -/

@[simp] theorem legible_string (s : String) : Legible depth (.string s) := by
  cases depth <;> trivial

@[simp] theorem legible_bool (b : Bool) : Legible depth (.bool b) := by
  cases depth <;> trivial

@[simp] theorem string?_string (s : String) : string? (.string s) = some s := rfl

@[simp] theorem bool?_bool (b : Bool) : bool? (.bool b) = some b := rfl

@[simp] theorem float?_double (x : Float) : float? (.double x) = some x := rfl

theorem survives_string (s : String) : Survives 0 .string string? s :=
  ⟨legible_string s, rfl⟩

theorem legible_ofNat {n : Nat} (h : n < 2 ^ 64) : Legible depth (.ofNat n) := by
  have hn : IsInteger64 n := ⟨by omega, by omega⟩
  cases depth <;> exact hn

theorem natBelow?_ofNat {limit n : Nat} (h : n < limit) : natBelow? limit (.ofNat n) = some n :=
  if_pos h

theorem nat64?_ofNat {n : Nat} (h : n < 2 ^ 64) : nat64? (.ofNat n) = some n :=
  natBelow?_ofNat h

theorem nat32?_ofNat {n : Nat} (h : n < 2 ^ 32) : nat32? (.ofNat n) = some n :=
  natBelow?_ofNat h

/-- A list survives if its items do. -/
theorem Survives.list {items : List α} (h : ∀ item ∈ items, Survives levels encode decode item) :
    Survives (levels + 1) (ofList encode) (list? decode) items where
  legible := by
    intro json hjson
    obtain ⟨item, hitem, rfl⟩ := List.mem_map.1 hjson
    exact (h item hitem).legible
  decode_encode := by
    rw [ofList, list?]
    induction items with
    | nil => rfl
    | cons item items ih =>
      rw [List.forall_mem_cons] at h
      rw [List.map_cons, List.mapM_cons, h.1.decode_encode, ih h.2]
      rfl

/-- A value that may be absent survives if what is there does, and is not written as null. -/
theorem Survives.option {held : Option α} (h : ∀ value, Survives levels encode decode value)
    (hnull : ∀ value, encode value ≠ .null) :
    Survives levels (ofOption encode) (fun json => (Field.given json).optional decode) held where
  legible := by
    cases held with
    | none => cases levels <;> trivial
    | some value => exact (h value).legible
  decode_encode := by
    cases held with
    | none => rfl
    | some value =>
      rw [ofOption, Field.optional]
      · rw [(h value).decode_encode, Option.map_some]
      · exact hnull value

/-- A keyword survives if the names of all keywords are distinct. -/
theorem survives_keyword {isBlank : Json → Bool} {all : List α} {name : α → String}
    (hname : (all.map name).Nodup) (hvalue : value ∈ all) :
    Survives 0 (fun value => .string (name value)) (oneOf? isBlank all name) value where
  legible := trivial
  decode_encode := by
    change all.find? (name · = name value) = some value
    induction all with
    | nil => cases hvalue
    | cons other all ih =>
      rw [List.map_cons, List.nodup_cons] at hname
      rcases List.mem_cons.1 hvalue with rfl | hvalue
      · simp
      · have hne : name other ≠ name value := fun heq =>
          hname.1 (heq ▸ List.mem_map_of_mem hvalue)
        rw [List.find?_cons_of_neg (by simpa using hne)]
        exact ih hname.2 hvalue

end GasAdvisor.Json
