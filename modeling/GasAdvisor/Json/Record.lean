import GasAdvisor.Json.Basic

/-!
# Records in JSON

A record is an object with named fields, of which those that are not known are ignored and those
that are known may stand only once, or an array of the fields in their order. A field of a record is
required, or optional with null for nothing, or has a default that stands in for a missing field.

A record of an array may leave out at its end only fields that have a default.
-/

namespace GasAdvisor.Json

/-- A field of a record: given, missing from an object, or beyond the end of an array. -/
inductive Field where
  | given (value : Json)
  | missing
  | beyond

namespace Field

/-- The values of the members with one name. -/
def named (name : String) (members : List (String × Json)) : List Json :=
  (members.filter (·.1 = name)).map (·.2)

/-- The field of an object with a name, unless it stands there repeatedly. -/
def ofMembers (members : List (String × Json)) (name : String) : Option Field :=
  match named name members with
  | [] => some .missing
  | [value] => some (.given value)
  | _ => none

/-- As many fields of an array as there are names. -/
def ofItems : List Json → (names : List String) → List Field
  | _, [] => []
  | [], _ :: names => .beyond :: ofItems [] names
  | item :: items, _ :: names => .given item :: ofItems items names

/-- A field that has to be there. -/
def required {α : Type} (decode : Json → Option α) : Field → Option α
  | .given value => decode value
  | _ => none

/-- A field that may be null or missing. -/
def optional {α : Type} (decode : Json → Option α) : Field → Option (Option α)
  | .given .null => some none
  | .given value => (decode value).map some
  | .missing => some none
  | .beyond => none

/-- A field that may be left out. -/
def orDefault {α : Type} (standard : α) (decode : Json → Option α) : Field → Option α
  | .given value => decode value
  | _ => some standard

/-- A field that may be null or left out. -/
def optionalOrDefault {α : Type} (decode : Json → Option α) : Field → Option (Option α)
  | .given .null => some none
  | .given value => (decode value).map some
  | _ => some none

end Field

/-- The fields of an object. -/
def objectFields (names : List String) : Json → Option (List Field)
  | .object members => names.mapM (Field.ofMembers members)
  | _ => none

/-- The fields of a record, from an object or an array. -/
def fields (names : List String) : Json → Option (List Field)
  | .array items => if items.length ≤ names.length then some (Field.ofItems items names) else none
  | value => objectFields names value

/-! ## Values of fields -/

/-- A natural number below a limit. -/
def natBelow? (limit : Nat) : Json → Option Nat
  | .integer (.ofNat n) => if n < limit then some n else none
  | _ => none

/-- A natural number of 64 bits. -/
def nat64? : Json → Option Nat := natBelow? (1 <<< 64)

/-- A natural number of 32 bits. -/
def nat32? : Json → Option Nat := natBelow? (1 <<< 32)

/-- A truth value. -/
def bool? : Json → Option Bool
  | .bool b => some b
  | _ => none

/-- An integer as a double. -/
def floatOfInt : Int → Float
  | .ofNat n => Float.ofNat n
  | .negSucc n => -Float.ofNat (n + 1)

/-- A number. -/
def float? : Json → Option Float
  | .integer n => some (floatOfInt n)
  | .double x => some x
  | _ => none

/-- A string. -/
def string? : Json → Option String
  | .string s => some s
  | _ => none

/-- A list. -/
def list? {α : Type} (decode : Json → Option α) : Json → Option (List α)
  | .array items => items.mapM decode
  | _ => none

/-- Whether a value is null. -/
def isNull : Json → Bool
  | .null => true
  | _ => false

/-- Whether a value holds nothing: null, or an object without members. -/
def isVoid : Json → Bool
  | .null => true
  | .object [] => true
  | _ => false

/-- One of the values with the given names: the name, or an object of the name and a blank. -/
def oneOf? {α : Type} (isBlank : Json → Bool) (all : List α) (name : α → String) :
    Json → Option α
  | .string s => all.find? (name · = s)
  | .object [(s, blank)] => if isBlank blank then all.find? (name · = s) else none
  | _ => none

end GasAdvisor.Json
