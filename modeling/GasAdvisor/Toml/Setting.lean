import GasAdvisor.Decimal.Text
import GasAdvisor.Toml.Basic

/-!
# Settings in TOML

What is made of values: truth values, texts, numbers, lists, choices and sections of settings. A
value that does not fit is reported where it stands, with what was found and what was wanted.

A section is a table, an array of its settings in order, or a date, which sets nothing. The entries
of a table are looked at in order, the unknown ones too, since no number may be out of range.
-/

namespace GasAdvisor.Toml

open Text

/-! ## Values that do not fit -/

/-- Whether an integer fits in 64 bits, signed or not. -/
def fits64 (n : Int) : Bool :=
  -(1 <<< 63) ≤ n && n < 1 <<< 64

/-- The description of an integer. -/
def integerText (n : Int) : String :=
  let digits := String.ofList (Decimal.sign (n < 0) ++ Decimal.digits n.natAbs)
  "integer `" ++ digits ++ "`" ++
    if fits64 n then "" else if n < 1 <<< 127 then " as i128" else " as u128"

/-- The description of a float, which is finite with a point. -/
def floatText (x : Float) : String :=
  let digits := Decimal.plain x
  let point := if x.isFinite && !digits.contains '.' then ['.', '0'] else []
  "floating point `" ++ String.ofList (digits ++ point) ++ "`"

/-- The error of a value that is none of what is wanted. -/
def misfit (wanted : String) (value : Toml) : Error :=
  let wrong (found : String) : Error := (Fault.wrongType found wanted).inStretch value.stretch
  match value with
  | .string _ s => wrong ("string " ++ String.ofList (quoted s.toList))
  | .integer stretch none => Fault.integerRange.inStretch stretch
  | .integer _ (some n) => wrong (integerText n)
  | .float stretch none => Fault.floatRange.inStretch stretch
  | .float _ (some x) => wrong (floatText x)
  | .boolean _ b => wrong (if b then "boolean `true`" else "boolean `false`")
  | .array .. | .tables .. => wrong "sequence"
  | .dateTime .. | .table .. => wrong "map"

mutual

/-- Refuses a number that is out of range. -/
def checkRange : Toml → Except Error Unit
  | .integer stretch none => .error (Fault.integerRange.inStretch stretch)
  | .float stretch none => .error (Fault.floatRange.inStretch stretch)
  | .array _ items => checkRangeOfItems items
  | .tables _ items => checkRangeOfTables items
  | .table _ _ entries => checkRangeOfEntries entries
  | _ => .ok ()

/-- Refuses items with a number that is out of range. -/
def checkRangeOfItems : List Toml → Except Error Unit
  | [] => .ok ()
  | item :: rest => do
    item.checkRange
    checkRangeOfItems rest

/-- Refuses tables with a number that is out of range. -/
def checkRangeOfTables : List (Stretch × Entries) → Except Error Unit
  | [] => .ok ()
  | (_, entries) :: rest => do
    checkRangeOfEntries entries
    checkRangeOfTables rest

/-- Refuses entries with a number that is out of range. -/
def checkRangeOfEntries : Entries → Except Error Unit
  | [] => .ok ()
  | (_, value) :: rest => do
    value.checkRange
    checkRangeOfEntries rest

end

/-! ## Values that fit -/

/-- A truth value. -/
def toBool : Toml → Except Error Bool
  | .boolean _ b => .ok b
  | value => .error (value.misfit "a boolean")

/-- A text, which is reported as `wanted` where there is none. -/
def toText (wanted : String) : Toml → Except Error String
  | .string _ s => .ok s
  | value => .error (value.misfit wanted)

/-- A natural number of some bits. -/
def toNat (bits : Nat) (value : Toml) : Except Error Nat :=
  let wanted := "u" ++ String.ofList (Decimal.digits bits)
  match value with
  | .integer stretch (some n) =>
    if 0 ≤ n ∧ n < 1 <<< bits then .ok n.toNat
    else if fits64 n then .error ((Fault.wrongValue (integerText n) wanted).inStretch stretch)
    else .error (value.misfit wanted)
  | value => .error (value.misfit wanted)

/-- A number, of which an integer has 64 bits. -/
def toNumber {α : Type} (wanted : String) (ofFloat : Float → α) (ofInt : Int → α) (value : Toml) :
    Except Error α :=
  match value with
  | .float _ (some x) => .ok (ofFloat x)
  | .integer _ (some n) =>
    if fits64 n then .ok (ofInt n) else .error (value.misfit wanted)
  | value => .error (value.misfit wanted)

/-- A number in double precision. -/
def toFloat : Toml → Except Error Float :=
  toNumber "f64" id fun
    | .ofNat n => Float.ofNat n
    | .negSucc n => -Float.ofNat (n + 1)

/-- A number in single precision. -/
def toSingle : Toml → Except Error Float32 :=
  toNumber "f32" Float.toFloat32 fun
    | .ofNat n => Float32.ofNat n
    | .negSucc n => -Float32.ofNat (n + 1)

/-- The items of an array; those of an array of tables are tables. -/
def toItems : Toml → Except Error (List Toml)
  | .array _ items => .ok items
  | .tables _ items => .ok (items.map fun (stretch, entries) => .table stretch .header entries)
  | value => .error (value.misfit "a sequence")

/-- A list of texts. -/
def toTexts (value : Toml) : Except Error (List String) := do
  (← value.toItems).mapM (toText "a string")

/-- Numbers by their names. A date is a text under a name of its own. -/
def toFloats : Toml → Except Error (List (String × Float))
  | .table _ _ entries => entries.mapM fun (key, value) => do return (key.name, ← value.toFloat)
  | .dateTime stretch value =>
    .error ((Toml.string stretch (String.ofList value.text)).misfit "f64")
  | value => .error (value.misfit "a map")

/-! ## Choices -/

/-- One of the values with the given names, by a name and where that stands. -/
def choose {α : Type} (all : List α) (name : α → String) (found : String) (stretch : Stretch) :
    Except Error α :=
  match all.find? (name · = found) with
  | some choice => .ok choice
  | none => .error ((Fault.unknownChoice found (all.map name)).inStretch stretch)

/-- Refuses a value that holds something. -/
def checkVoid : Toml → Except Error Unit
  | .table _ _ [] | .array _ [] | .tables _ [] => .ok ()
  | .table stretch _ _ => .error (Fault.choiceEntries.inStretch stretch)
  | .array stretch _ | .tables stretch _ => .error (Fault.choiceItems.inStretch stretch)
  | value => .error ((Fault.choiceHolds value.kind).inStretch value.stretch)

/-- One of the values with the given names: a string, or a table with the name as its only key and
nothing under it. -/
def toChoice {α : Type} (all : List α) (name : α → String) : Toml → Except Error α
  | .string stretch s => choose all name s stretch
  | .table _ _ [(key, held)] => do
    let choice ← choose all name key.name key.stretch
    held.checkVoid
    return choice
  | .table stretch _ [] => .error (Fault.noChoice.inStretch stretch)
  | .table stretch _ _ => .error (Fault.manyChoices.inStretch stretch)
  | value => .error (Fault.noChoiceForm.inStretch value.stretch)

/-! ## Sections -/

/-- Settings with those of a table in their places, each set by `set`. -/
def setEntries {α : Type} (set : α → String → Toml → Except Error α) (settings : α)
    (entries : Entries) : Except Error α :=
  entries.foldlM (fun settings (key, value) => set settings key.name value) settings

/-- Settings with those of a section in their places. In an array, they have the given names. -/
def setSection {α : Type} (wanted : String) (names : List String)
    (set : α → String → Toml → Except Error α) (settings : α) (value : Toml) : Except Error α :=
  match value with
  | .table _ _ entries => setEntries set settings entries
  | .dateTime .. => .ok settings
  | .array .. | .tables .. => do
    (names.zip (← value.toItems)).foldlM (fun settings (name, item) => set settings name item)
      settings
  | value => .error (value.misfit wanted)

end GasAdvisor.Toml
