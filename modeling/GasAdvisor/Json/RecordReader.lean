import GasAdvisor.Json.Extent

/-!
# Reading records in JSON

A record has fields with names. Of an object, only the members with these names are read as values;
all others are held to the grammar alone and stand as null. Of an array, the items are the fields in
their order.
-/

namespace GasAdvisor.Json

/-- A value that is of no interest. -/
def readIgnored : ValueReader := fun s =>
  (afterValue? s).map (.null, ·)

/-- The items of an array from one item on, each read in a way of its own, up to the closing
bracket. -/
def readPlaces : List ValueReader → List Char → Option (List Json × List Char)
  | [], _ => none
  | item :: items, s => do
    let (value, s) ← item s
    match skipSpace s with
    | ']' :: rest => return ([value], rest)
    | ',' :: rest =>
      let (more, rest) ← readPlaces items rest
      return (value :: more, rest)
    | _ => none

/-- A record with these fields, at most `limit` members counted. -/
def readRecord (limit : Nat) (fields : List (String × ValueReader)) : ValueReader := fun s =>
  match skipSpace s with
  | '[' :: rest =>
    match skipSpace rest with
    | ']' :: rest => some (.array [], rest)
    | rest => (readPlaces (fields.map (·.2)) rest).map fun (items, rest) => (.array items, rest)
  | '{' :: rest => readObject limit (fun name => (fields.lookup name).getD readIgnored) rest
  | _ => none

/-- A list of at most `limit` values that are read in one way. -/
def readList (limit : Nat) (item : ValueReader) : ValueReader := fun s =>
  match skipSpace s with
  | '[' :: rest => readArray limit item rest
  | _ => none

end GasAdvisor.Json
