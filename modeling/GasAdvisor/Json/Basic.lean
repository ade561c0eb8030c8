/-!
# JSON values

An object keeps its members in the order of the text, repeated names included, so that a reader of
records can refuse a repeated field. `Json.normalize` is the view in which the last of several
members with one name counts and the names are in ascending order.
-/

namespace GasAdvisor

/-- A JSON value. -/
inductive Json where
  | null
  | bool (value : Bool)
  | integer (value : Int)
  | double (value : Float)
  | string (value : String)
  | array (items : List Json)
  | object (members : List (String × Json))

namespace Json

/-- The last of several members with one name. -/
def lookup (name : String) (members : List (String × Json)) : Option Json :=
  (members.reverse.find? (·.1 = name)).map (·.2)

/-- A member put where its name belongs in a list of ascending names, unless the name is there. -/
def insertMember (name : String) (value : Json) : List (String × Json) → List (String × Json)
  | [] => [(name, value)]
  | (other, held) :: rest =>
    if name < other then (name, value) :: (other, held) :: rest
    else if name = other then (other, held) :: rest
    else (other, held) :: insertMember name value rest

mutual

/-- A value whose objects have each name once, in ascending order; the last member of a name
counts. -/
def normalize : Json → Json
  | .array items => .array (normalizeItems items)
  | .object members => .object (normalizeMembers members)
  | value => value

/-- The items of an array, normalized. -/
def normalizeItems : List Json → List Json
  | [] => []
  | item :: rest => normalize item :: normalizeItems rest

/-- The members of an object, normalized. A later member is placed first and so wins. -/
def normalizeMembers : List (String × Json) → List (String × Json)
  | [] => []
  | (name, value) :: rest => insertMember name (normalize value) (normalizeMembers rest)

end

/-- The value of a member of an object. -/
def get? (name : String) : Json → Option Json
  | .object members => lookup name members
  | _ => none

/-- A natural number as a value. -/
def ofNat (n : Nat) : Json := .integer n

/-- A value that may be absent. -/
def ofOption {α : Type} (encode : α → Json) : Option α → Json
  | none => .null
  | some value => encode value

/-- A list of values. -/
def ofList {α : Type} (encode : α → Json) (items : List α) : Json :=
  .array (items.map encode)

end Json

end GasAdvisor
